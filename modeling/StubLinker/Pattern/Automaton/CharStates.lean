import Std.Data.HashMap
import StubLinker.Pattern.Automaton.Basic
import StubLinker.Pattern.ByteRow

namespace StubLinker.Automaton

/-- A link to a state for the bytes of a range. -/
structure Link where
  first : Nat
  last : Nat
  target : Nat
  deriving DecidableEq

def mix (h : UInt64) (n : Nat) : UInt64 :=
  (h ^^^ n.toUInt64) * 1099511628211

def slot (places : Nat) (ns : List Nat) : Nat :=
  (ns.foldl mix 14695981039346656037).toNat % places

/-- An automaton with states that can be used again, each in its place of a table. -/
structure Shared (κ : Type) where
  size : Size
  table : Std.HashMap Nat (κ × Nat) := {}

/-- The state that is known by a key: one in the table, or else a new one that takes some links. -/
def Shared.state {κ : Type} [DecidableEq κ] (s : Shared κ) (place : Nat) (key : κ) (links : Nat) :
    Option (Shared κ × Nat) :=
  match s.table[place]? with
  | some (known, number) => if known = key then some (s, number) else new
  | none => new
where
  new : Option (Shared κ × Nat) := do
    let size ← s.size.grow 1 links
    return (⟨size, s.table.insert place (key, s.size.states)⟩, s.size.states)

/-- A state for which not all links are known: those that are, from the last one back, and the range
of the next one. -/
structure OpenState where
  links : List Link := []
  next : Nat × Nat

namespace OpenState

/-- Closes states of which each is the next one of the state before; the last one leads to the end
of the set. -/
def close (stop : Nat) (s : Shared (List Link)) : List OpenState → Option (Shared (List Link) × Nat)
  | [] => some (s, stop)
  | o :: deeper => do
    let (s, target) ← close stop s deeper
    let links := (⟨o.next.1, o.next.2, target⟩ :: o.links).reverse
    let place := slot 10000 (links.flatMap fun l => [l.first, l.last, l.target])
    s.state place links (2 * links.length)

/-- Adds a row to open states. It shares those that it starts like and closes the others. -/
def addRow (stop : Nat) (s : Shared (List Link)) :
    List OpenState → ByteRow → Option (Shared (List Link) × List OpenState)
  | o :: deeper, r :: row =>
    if o.next = r then do
      let (s, deeper) ← addRow stop s deeper row
      return (s, o :: deeper)
    else do
      let (s, target) ← close stop s deeper
      let changed : OpenState := ⟨⟨o.next.1, o.next.2, target⟩ :: o.links, r⟩
      return (s, changed :: row.map fun r => { next := r })
  | _, row => some (s, row.map fun r => { next := r })

def addRows (stop : Nat) (s : Shared (List Link)) (opened : List OpenState) :
    List ByteRow → Option Size
  | [] => (close stop s opened).map (·.1.size)
  | row :: rows =>
    match addRow stop s opened row with
    | none => none
    | some (s, opened) => addRows stop s opened rows

end OpenState

/-- Adds the states of a row, of which the first one leads to a state. -/
def Shared.addChain (s : Shared Link) (target : Nat) : ByteRow → Option (Shared Link)
  | [] => some s
  | r :: row => do
    let (s, number) ← s.state (slot 1000 [target, r.1, r.2]) ⟨r.1, r.2, target⟩ 0
    s.addChain number row

def Shared.addChains (s : Shared Link) (target : Nat) : List ByteRow → Option Size
  | [] => some s.size
  | row :: rows =>
    match s.addChain target row with
    | none => none
    | some s =>
      match s.size.grow 0 1 with
      | none => none
      | some size => addChains { s with size } target rows

def Size.charStates (d : Direction) (s : Size) (chars : CharSet) : Option Built := do
  if chars.isAscii then
    let size ← s.grow 2 (2 * chars.ranges.length)
    return { size }
  else
    let size ←
      match d with
      | .forward => (s.grow 1 0).bind fun size =>
        OpenState.addRows s.states { size } [] (ByteRow.ofSet chars)
      | .backward => (s.grow 2 0).bind fun size =>
        Shared.addChains { size } (s.states + 1) (ByteRow.ofSet chars)
    return { size }

end StubLinker.Automaton
