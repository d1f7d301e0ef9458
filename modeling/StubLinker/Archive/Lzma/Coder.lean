import StubLinker.Bytes
import StubLinker.Power

namespace StubLinker.Lzma

/-- Data that is read bit by bit: the position of the next byte, the range, the code as its distance
from the start of the range, and the chances of each kind of bits to be zero, out of 2048. -/
structure Coder where
  data : Array UInt8
  position : Nat
  range : UInt32 := 0xFFFFFFFF
  code : UInt32
  chances : Array Nat

abbrev Scan := StateM Coder

namespace Coder

/-- Takes in the next byte if the range has become narrow. Behind the data there are zeros. -/
def widen (c : Coder) : Coder :=
  if c.range < 0x1000000 then
    { c with
      position := c.position + 1
      range := c.range <<< 8
      code := (c.code <<< 8) ||| (c.data.getD c.position 0).toUInt32 }
  else c

/-- Reads a bit of a kind, and moves its chances by a part of 32 towards it. -/
def bit (kind : Nat) : Scan Nat := fun c =>
  let ⟨data, position, range, code, chances⟩ := c.widen
  let chance := chances.getD kind 1024
  let bound := (range >>> 11) * chance.toUInt32
  if code < bound then
    let chances := chances.setIfInBounds kind (chance + (2048 - chance) / 32)
    (0, ⟨data, position, bound, code, chances⟩)
  else
    let chances := chances.setIfInBounds kind (chance - chance / 32)
    (1, ⟨data, position, range - bound, code - bound, chances⟩)

def evenBit : Scan Nat := fun c =>
  let ⟨data, position, range, code, chances⟩ := c.widen
  let half := range >>> 1
  if code < half then (0, ⟨data, position, half, code, chances⟩)
  else (1, ⟨data, position, half, code - half, chances⟩)

/-- Reads bits of even chances behind those of a number, the highest one first. -/
def evenBits : (bits number : Nat) → Scan Nat
  | 0, number => pure number
  | n + 1, number => do evenBits n (2 * number + (← evenBit))

/-- Reads bits behind those of a node of a tree, the highest one first. Each node has chances of its
own, from a kind on; the root is the node 1. -/
def branch (first : Nat) : (bits node : Nat) → Scan Nat
  | 0, node => pure node
  | n + 1, node => do branch first n (2 * node + (← bit (first + node)))

def tree (first bits : Nat) : Scan Nat :=
  return (← branch first bits 1) - 2 ^ bits

/-- Reads a number by a tree from a node on, the lowest bit first. -/
def reversedTree (first : Nat) : (bits node : Nat) → Scan Nat
  | 0, _ => pure 0
  | n + 1, node => do
    let b ← bit (first + node)
    return b + 2 * (← reversedTree first n (2 * node + b))

/-- Reads a byte beside another one, of which `left` bits are left. As long as their bits agree,
those have chances of their own. -/
def beside (first other : Nat) : (left node : Nat) → Scan Nat
  | 0, node => pure node
  | n + 1, node => do
    let expected := (other.testBit n).toNat
    let b ← bit (first + 256 * (1 + expected) + node)
    let node := 2 * node + b
    if b = expected then beside first other n node else branch first n node

end Coder

end StubLinker.Lzma
