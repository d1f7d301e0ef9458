import StubLinker.Pattern.Sign

namespace StubLinker.Pattern

/-- A set in brackets or a part of one, and how deep it nests. -/
structure Bracket where
  chars : CharSet
  depth : Nat := 0

/-- How what stands left and right of a doubled sign is joined. -/
inductive SetJoin where
  | both
  | without
  | oneOnly

def SetJoin.apply (s t : CharSet) : SetJoin → CharSet
  | both => s.inter t
  | without => s.diff t
  | oneOnly => s.oneOnly t

def setJoin? (c : Char) : Option SetJoin :=
  if c = '&' then some .both
  else if c = '-' then some .without
  else if c = '~' then some .oneOnly
  else none

/-- A set that is being read: whether nothing but dashes has been read of it, what stands left of
the last sign that joins, and what has been listed since. -/
structure OpenSet where
  negated : Bool := false
  isFresh : Bool := true
  left : Option (Bracket × SetJoin) := none
  items : List Bracket := []

namespace OpenSet

def add (s : OpenSet) (item : Bracket) : OpenSet :=
  { s with items := item :: s.items }

def listed (s : OpenSet) : Bracket :=
  ⟨CharSet.ofRanges (s.items.flatMap fun i => i.chars.ranges),
    match s.items with
    | [item] => item.depth
    | [] => 0
    | items => (items.map (·.depth)).foldl max 0 + 1⟩

/-- All that has been read of the set. Case counts for nothing on both sides of a sign that
joins. -/
def joined (s : OpenSet) (m : Manner) : Bracket :=
  match s.left with
  | none => s.listed
  | some (left, sign) =>
    let all := sign.apply (m.widen left.chars) (m.widen s.listed.chars)
    ⟨CharSet.ofRanges all.ranges, max left.depth s.listed.depth + 1⟩

def join (s : OpenSet) (m : Manner) (sign : SetJoin) : OpenSet :=
  { s with left := some (s.joined m, sign), items := [] }

def close (s : OpenSet) (m : Manner) : Option Bracket :=
  let all := s.joined m
  (m.turned s.negated (m.widen all.chars)).map fun chars => ⟨chars, all.depth + 1⟩

end OpenSet

def posixSet? (name : String) : Option CharSet :=
  if name = "alnum" then some (.listed "30-39 41-5A 61-7A")
  else if name = "alpha" then some (.listed "41-5A 61-7A")
  else if name = "ascii" then some (.listed "0-7F")
  else if name = "blank" then some (.listed "9 20")
  else if name = "cntrl" then some (.listed "0-1F 7F")
  else if name = "digit" then some (.listed "30-39")
  else if name = "graph" then some (.listed "21-7E")
  else if name = "lower" then some (.listed "61-7A")
  else if name = "print" then some (.listed "20-7E")
  else if name = "punct" then some (.listed "21-2F 3A-40 5B-60 7B-7E")
  else if name = "space" then some (.listed "9-D 20")
  else if name = "upper" then some (.listed "41-5A")
  else if name = "word" then some (.listed "30-39 41-5A 5F 61-7A")
  else if name = "xdigit" then some (.listed "30-39 41-46 61-66")
  else none

/-- A set with a name: the set itself, and whether it is turned round. -/
structure NamedBracket where
  chars : CharSet
  negated : Bool

def readNamedSet : List Char → Option (NamedBracket × List Char)
  | ':' :: cs =>
    let negated := cs.head? = some '^'
    let cs := if negated then cs.tail else cs
    let name := cs.takeWhile (· != ':')
    match cs.drop name.length with
    | ':' :: ']' :: rest => (posixSet? (String.ofList name)).map fun s => (⟨s, negated⟩, rest)
    | _ => none
  | _ => none

def readSetSign (m : Manner) : List Char → Option (Sign × List Char)
  | [] => none
  | '\\' :: cs => readEscape m cs
  | c :: cs => some (.char c, cs)

/-- The set of the characters between two, where they may stand in a set. -/
def Manner.range? (m : Manner) (first last : Char) : Option Bracket :=
  if last < first || m.inAscii && 0x80 ≤ last.toNat then none else some ⟨.ofRange first last, 0⟩

def Manner.bracket? (m : Manner) : Sign → Option Bracket
  | .char c => m.range? c c
  | .set chars => some ⟨chars, 0⟩
  | .look _ => none

def readRange (m : Manner) (cs : List Char) : Option (Bracket × List Char) := do
  let (first, rest) ← readSetSign m cs
  match m.skip rest with
  | '-' :: more =>
    let more := m.skip more
    if more.head? = some ']' || more.head? = some '-' then
      (m.bracket? first).map fun s => (s, rest)
    else
      let (last, rest) ← readSetSign m more
      match first, last with
      | .char a, .char b => (m.range? a b).map fun s => (s, rest)
      | _, _ => none
  | _ => (m.bracket? first).map fun s => (s, rest)

def openSet (m : Manner) (cs : List Char) : OpenSet × List Char :=
  match m.skip cs with
  | '^' :: rest => ({ negated := true }, rest)
  | rest => ({}, rest)

/-- Reads what is left of a set, inside the sets that are open around it. Each thing takes a
character at least, so `fuel` need not exceed the length of the text. -/
def readItems (m : Manner) :
    (fuel : Nat) → (outer : List OpenSet) → OpenSet → List Char → Option (Bracket × List Char)
  | 0, _, _, _ => none
  | fuel + 1, outer, s, cs =>
    match m.skip cs with
    | [] => none
    | c :: cs =>
      if s.isFresh && c = '-' then
        readItems m fuel outer (s.add ⟨.ofChar '-', 0⟩) cs
      else
        let atOnce := s.isFresh && s.items.isEmpty
        let s := { s with isFresh := false }
        if atOnce && c = ']' then readItems m fuel outer (s.add ⟨.ofChar ']', 0⟩) cs
        else if c = '[' then
          match readNamedSet cs with
          | some (item, rest) => do
            let chars ← m.turned item.negated (m.widen item.chars)
            readItems m fuel outer (s.add ⟨chars, 0⟩) rest
          | none =>
            let (inner, rest) := openSet m cs
            readItems m fuel (s :: outer) inner rest
        else if c = ']' then do
          let closed ← s.close m
          match outer with
          | [] => some (closed, cs)
          | above :: outer => readItems m fuel outer (above.add closed) cs
        else
          match setJoin? c, cs.head? == some c with
          | some sign, true => readItems m fuel outer (s.join m sign) cs.tail
          | _, _ => do
            let (item, rest) ← readRange m (c :: cs)
            readItems m fuel outer (s.add item) rest

def readSet (m : Manner) (cs : List Char) : Option (Bracket × List Char) :=
  let (s, rest) := openSet m cs
  readItems m (cs.length + 1) [] s rest

end StubLinker.Pattern
