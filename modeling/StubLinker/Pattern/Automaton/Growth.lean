import StubLinker.Pattern.Automaton.CharStates
import StubLinker.Pattern.Automaton.WordTree
import StubLinker.Pattern.Basic

namespace StubLinker.Automaton

def bytesOf (chars : List Char) : List Nat :=
  chars.flatMap fun c => ByteRow.bytes c.toNat

def text? : Pattern → Option (List Char)
  | .text chars => some chars
  | _ => none

mutual

def build (d : Direction) : Pattern → Size → Option Built
  | .empty, s => s.oneState
  | .text chars, s => (s.grow (bytesOf chars).length 0).map ({ size := · })
  | .set chars _, s => s.charStates d chars
  | .look _, s => s.oneState
  | .times item least none _, s => s.copiesOrMore (build d item) (item.shortest.any (0 < ·)) least
  | .times item least (some most) _, s => s.copiesUpTo (build d item) least most
  | .group item, s =>
    match d with
    | .forward => (s.oneState.bind (·.andThen (build d item))).bind (·.andThen Size.oneState)
    | .backward => build d item s
  | .sequence items, s =>
    match d with
    | .forward => buildInOrder items s
    | .backward => buildBack items s
  | .choice items, s =>
    match items.mapM text? with
    | some texts =>
      let words := texts.map bytesOf
      s.wordTree (if d = .backward then words.map List.reverse else words)
    | none => buildChoice d items s

def buildInOrder : List Pattern → Size → Option Built
  | [], s => s.oneState
  | [p], s => build .forward p s
  | p :: ps, s => (build .forward p s).bind (·.andThen (buildInOrder ps))

def buildBack : List Pattern → Size → Option Built
  | [], s => s.oneState
  | [p], s => build .backward p s
  | p :: ps, s => (buildBack ps s).bind (·.andThen (build .backward p))

/-- Builds patterns of which one has to match: the first two, a state in front of all that branches,
one behind all, and the others. -/
def buildChoice (d : Direction) : List Pattern → Size → Option Built
  | p :: q :: ps, s => do
    let a ← build d p s
    let b ← build d q a.size
    let size ← (← (← b.size.grow 2 2).link a.branches).link b.branches
    return { size := ← buildOthers d ps size }
  | [p], s => build d p s
  | [], s => s.oneState

/-- Builds more patterns between the states in front of and behind all. -/
def buildOthers (d : Direction) : List Pattern → Size → Option Size
  | [], s => some s
  | p :: ps, s => do
    let b ← build d p s
    buildOthers d ps (← (← b.size.grow 0 1).link b.branches)

end

/-- Builds the automaton of a pattern. Unless its matches stand at the end where reading begins, it
starts with states that pass over any bytes; it ends with one that tells of a match. -/
def automaton (d : Direction) (p : Pattern) : Option Size := do
  let isFixed := if d = .forward then p.isAtStart else p.isAtEnd
  let start ← if isFixed then ({} : Size).grow 1 0 else ({} : Size).grow 3 4
  let b ← build d (.group p) start
  (← b.size.grow 1 0).link b.branches

def fits (p : Pattern) : Bool :=
  (automaton .forward p).isSome && (automaton .backward p).isSome

end StubLinker.Automaton
