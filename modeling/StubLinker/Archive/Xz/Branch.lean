import StubLinker.Archive.BitField

namespace StubLinker.Xz

/-- A kind of machine code. -/
inductive Machine where
  | x86
  | powerPc
  | ia64
  | arm
  | armThumb
  | sparc
  | arm64
  deriving DecidableEq, Repr

namespace Machine

/-- The number of bytes that the start of the code must be a multiple of. -/
def alignment : Machine → Nat
  | x86 => 1
  | armThumb => 2
  | ia64 => 16
  | _ => 4

end Machine

namespace Branch

/-- The code with the bytes of a number from a position on, the lowest one first. -/
def putAt (code : Array UInt8) (position n : Nat) : (count : Nat) → Array UInt8
  | 0 => code
  | count + 1 =>
    putAt (code.setIfInBounds position n.toUInt8) (position + 1) (n / 256) count

def swapped (w : UInt32) : UInt32 :=
  w * 0x1000000 + (w &&& 0xFF00) * 0x100 + (w / 0x100 &&& 0xFF00) + w / 0x1000000

/-- Turns each word of the code, given its address. A word takes four bytes, so `fuel` need not
exceed the number of words. -/
def turnWords (turn : (address word : UInt32) → UInt32) (address : UInt32) :
    (fuel position : Nat) → Array UInt8 → Array UInt8
  | 0, _, code => code
  | fuel + 1, position, code =>
    if code.size < position + 4 then code
    else
      let word := turn (address + position.toUInt32) (bytesAt code position 4).toUInt32
      turnWords turn address fuel (position + 4) (putAt code position word.toNat 4)

def swapping (turn : (address word : UInt32) → UInt32) (address word : UInt32) : UInt32 :=
  swapped (turn address (swapped word))

def turnArm (address w : UInt32) : UInt32 :=
  if w / 0x1000000 = 0xEB then 0xEB000000 ||| ((4 * w - (address + 8)) / 4 &&& 0xFFFFFF) else w

def turnPowerPc (address w : UInt32) : UInt32 :=
  if w &&& 0xFC000003 = 0x48000001 then
    0x48000001 ||| (((w &&& 0x3FFFFFC) - address) &&& 0x3FFFFFC)
  else w

def turnSparc (address w : UInt32) : UInt32 :=
  if w / 0x400000 = 0x100 || w / 0x400000 = 0x1FF then
    let distance := (4 * w - address) / 4
    let sign : UInt32 := if distance &&& 0x400000 = 0 then 0 else 0x3FC00000
    sign ||| (distance &&& 0x3FFFFF) ||| 0x40000000
  else w

/-- Turns a word of ARM64 code. A page is turned only if it is not far. -/
def turnArm64 (address w : UInt32) : UInt32 :=
  if w / 0x4000000 = 0x25 then 0x94000000 ||| ((w - address / 4) &&& 0x3FFFFFF)
  else if w &&& 0x9F000000 = 0x90000000 then
    let page := (w / 0x20000000 &&& 3) ||| (w / 8 &&& 0x1FFFFC)
    if (page + 0x20000) &&& 0x1C0000 ≠ 0 then w
    else
      let distance := page - address / 0x1000
      let sign : UInt32 := if distance &&& 0x20000 = 0 then 0 else 0xE00000
      (w &&& 0x9000001F) ||| (distance &&& 3) * 0x20000000 ||| (distance &&& 0x3FFFC) * 8 ||| sign
  else w

/-- Turns Thumb code, of which the branches are pairs of half words. A step takes a half word at
least, so `fuel` need not exceed their number. -/
def turnThumb (address : UInt32) : (fuel position : Nat) → Array UInt8 → Array UInt8
  | 0, _, code => code
  | fuel + 1, position, code =>
    if code.size < position + 4 then code
    else
      let high := (bytesAt code position 2).toUInt32
      let low := (bytesAt code (position + 2) 2).toUInt32
      if high &&& 0xF800 = 0xF000 && low &&& 0xF800 = 0xF800 then
        let target := 2 * ((high &&& 0x7FF) * 0x800 + (low &&& 0x7FF))
        let distance := (target - (address + position.toUInt32 + 4)) / 2
        let high := 0xF000 ||| (distance / 0x800 &&& 0x7FF)
        let low := 0xF800 ||| (distance &&& 0x7FF)
        let code := putAt (putAt code position high.toNat 2) (position + 2) low.toNat 2
        turnThumb address fuel (position + 4) code
      else turnThumb address fuel (position + 2) code

/-- The slots of an IA-64 bundle that may hold branches, for its last sixteen templates. -/
def branchSlots : List (List Nat) :=
  [[2], [2], [1, 2], [1, 2], [], [], [0, 1, 2], [0, 1, 2], [2], [2], [], [], [2], [2], [], []]

/-- Turns the instruction in a slot of an IA-64 bundle, of 41 bits each behind five for the
template. -/
def turnSlot (address : UInt32) (position : Nat) (code : Array UInt8) (slot : Nat) : Array UInt8 :=
  let start := 5 + 41 * slot
  let first := position + start / 8
  let all := bytesAt code first 6
  let below := 2 ^ (start % 8)
  let n := all / below
  if n / 2 ^ 37 % 16 = 5 && n / 2 ^ 9 % 8 = 0 then
    let target := 16 * (n / 2 ^ 13 % 2 ^ 20 + n / 2 ^ 36 % 2 * 2 ^ 20).toUInt32
    let distance := (target - (address + position.toUInt32)).toNat / 16
    let rest := n - n / 2 ^ 13 % 2 ^ 20 * 2 ^ 13 - n / 2 ^ 36 % 2 * 2 ^ 36
    let n := rest + distance % 2 ^ 20 * 2 ^ 13 + distance / 2 ^ 20 % 2 * 2 ^ 36
    putAt code first (n * below + all % below) 6
  else code

/-- Turns IA-64 code. A bundle takes sixteen bytes, so `fuel` need not exceed the number of
bundles. -/
def turnBundles (address : UInt32) : (fuel position : Nat) → Array UInt8 → Array UInt8
  | 0, _, code => code
  | fuel + 1, position, code =>
    if code.size < position + 16 then code
    else
      let template := bytesAt code position 1 % 32
      let slots := if template < 16 then [] else branchSlots.getD (template - 16) []
      turnBundles address fuel (position + 16) (slots.foldl (turnSlot address position) code)

def isHigh (b : UInt32) : Bool :=
  b = 0 || b = 0xFF

/-- The marks of the bytes before one, some bytes on: for each of them whether it may start a
branch, and above whether it may end one. -/
def marksAfter : (bytes : Nat) → UInt32 → UInt32
  | 0, marks => marks
  | n + 1, marks => marksAfter n (2 * (marks &&& 0x77))

/-- The distance of a branch to a target, which may have been turned more than once. -/
def distanceOf (marks next : UInt32) : (fuel : Nat) → (target : UInt32) → UInt32
  | 0, target => target - next
  | fuel + 1, target =>
    let distance := target - next
    if marks = 0 then distance
    else
      let shift : UInt32 := [0, 8, 16, 16, 24].getD (marks / 2).toNat 0
      if isHigh ((distance >>> (24 - shift)) &&& 0xFF) then
        distanceOf marks next fuel (distance ^^^ ((1 <<< (32 - shift)) - 1))
      else distance

/-- Turns x86 code. A branch has a byte that starts it and four of a target. `since` is the number
of bytes since the last byte that may start one. A step takes a byte at least, so `fuel` need not
exceed their number. -/
def turnAnywhere (address : UInt32) :
    (fuel position since : Nat) → (marks : UInt32) → Array UInt8 → Array UInt8
  | 0, _, _, _, code => code
  | fuel + 1, position, since, marks, code =>
    if code.size < position + 5 then code
    else if bytesAt code position 1 / 2 ≠ 0x74 then
      turnAnywhere address fuel (position + 1) (since + 1) marks code
    else
      let marks := if 5 < since then 0 else marksAfter since marks
      let target := (bytesAt code (position + 1) 4).toUInt32
      let isEnd := isHigh (target / 0x1000000)
      let kind := marks / 2
      if isEnd && kind ≤ 4 && kind ≠ 3 then
        let distance := distanceOf marks (address + position.toUInt32 + 5) 4 target
        let sign := if distance &&& 0x1000000 = 0 then 0 else 0xFF000000
        let code := putAt code (position + 1) (sign ||| (distance &&& 0xFFFFFF)).toNat 4
        turnAnywhere address fuel (position + 5) 5 0 code
      else
        let marks := marks ||| 1 ||| if isEnd then 0x10 else 0
        turnAnywhere address fuel (position + 1) 1 marks code

end Branch

/-- The code with distances for the targets of branches, given its first address. -/
def Machine.turn (m : Machine) (address : UInt32) (code : Array UInt8) : Array UInt8 :=
  match m with
  | x86 => Branch.turnAnywhere address code.size 0 5 0 code
  | powerPc => Branch.turnWords (Branch.swapping Branch.turnPowerPc) address code.size 0 code
  | ia64 => Branch.turnBundles address code.size 0 code
  | arm => Branch.turnWords Branch.turnArm address code.size 0 code
  | armThumb => Branch.turnThumb address code.size 0 code
  | sparc => Branch.turnWords (Branch.swapping Branch.turnSparc) address code.size 0 code
  | arm64 => Branch.turnWords Branch.turnArm64 address code.size 0 code

end StubLinker.Xz
