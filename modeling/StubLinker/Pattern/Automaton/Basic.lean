import StubLinker.Power

namespace StubLinker.Automaton

/-- What has been built of an automaton: the number of its states, which are numbered in order, and
the room of the links that they hold beyond one, in units of a link. -/
structure Size where
  states : Nat := 0
  links : Nat := 0
  deriving DecidableEq, Repr

def limit : Nat :=
  10 * 2 ^ 20

namespace Size

def room (s : Size) : Nat :=
  32 * s.states + 4 * s.links

def grow (s : Size) (states links : Nat) : Option Size :=
  let t : Size := ⟨s.states + states, s.links + links⟩
  if t.room ≤ limit then some t else none

/-- The automaton with one more link from where a part ends. Only a state that branches takes more
room for it. -/
def link (s : Size) (branches : Bool) : Option Size :=
  if branches then s.grow 0 1 else some s

end Size

/-- A part that has been built: the automaton with it, and whether the state at its end branches. -/
structure Built where
  size : Size
  branches : Bool := false

namespace Built

def andThen (b : Built) (next : Size → Option Built) : Option Built := do
  let c ← next b.size
  let size ← c.size.link b.branches
  return ⟨size, c.branches⟩

def andCopies (one : Size → Option Built) : Nat → Built → Option Built
  | 0, b => some b
  | n + 1, b =>
    match b.andThen one with
    | none => none
    | some b => andCopies one n b

/-- The part with a number of others behind it, of which any at the end may be left out. Each has a
state in front of it that branches to it and to the end. -/
def andUpTo (one : Size → Option Built) : Nat → Built → Option Built
  | 0, b => (b.size.link b.branches).map ({ size := · })
  | n + 1, b =>
    match (b.size.grow 1 2).bind (·.link b.branches) with
    | none => none
    | some size =>
      match one size with
      | none => none
      | some b => andUpTo one n b

end Built

def Size.oneState (s : Size) : Option Built :=
  (s.grow 1 0).map ({ size := · })

def Size.copies (one : Size → Option Built) (s : Size) : Nat → Option Built
  | 0 => s.oneState
  | n + 1 => (one s).bind (Built.andCopies one n)

/-- A part a number of times or more: the last one starts over. To leave out a part that may match
the empty text takes a branch of its own. -/
def Size.copiesOrMore (one : Size → Option Built) (takesText : Bool) (s : Size) :
    Nat → Option Built
  | 0 =>
    if takesText then do
      let b ← one (← s.grow 1 1)
      return ⟨← b.size.link b.branches, true⟩
    else do
      let b ← one s
      return ⟨← (← b.size.grow 3 4).link b.branches, false⟩
  | n + 1 => do
    let b ← s.copies one (n + 1)
    return ⟨← (← b.size.grow 1 1).link b.branches, true⟩

def Size.copiesUpTo (one : Size → Option Built) (least most : Nat) (s : Size) : Option Built := do
  if least = 0 && most = 1 then
    let b ← one (← s.grow 1 2)
    return ⟨← (← b.size.grow 1 0).link b.branches, false⟩
  let b ← s.copies one least
  if least = most then return b
  Built.andUpTo one (most - least) ⟨← b.size.grow 1 0, b.branches⟩

/-- Which way an automaton reads a text. -/
inductive Direction where
  | forward
  | backward
  deriving DecidableEq, Repr

end StubLinker.Automaton
