import StubLinker.Pattern.Automaton.Growth
import StubLinker.Pattern.Bracket

namespace StubLinker.Pattern

def readNumber (cs : List Char) : Option (Nat × List Char) :=
  let cs := cs.dropWhile Text.isBlank
  let n := (cs.takeWhile Char.isDigit).foldl (fun n d => 10 * n + (d.toNat - 48)) 0
  if (cs.takeWhile Char.isDigit).isEmpty || 2 ^ 32 ≤ n then none
  else some (n, (cs.dropWhile Char.isDigit).dropWhile Text.isBlank)

def readCount (cs : List Char) : Option ((Nat × Option Nat) × List Char) := do
  let (least, rest) ← readNumber cs
  match rest with
  | '}' :: rest => some ((least, some least), rest)
  | ',' :: rest =>
    match rest.dropWhile Text.isBlank with
    | '}' :: rest => some ((least, none), rest)
    | rest =>
      let (most, rest) ← readNumber rest
      match rest with
      | '}' :: rest => if least ≤ most then some ((least, some most), rest) else none
      | _ => none
  | _ => none

/-- A part of a pattern: how deep groups, sets, repetitions, sequences and choices nest in it, and
whether it can be repeated. -/
structure Part where
  pattern : Pattern
  depth : Nat := 0
  repeats : Bool := true

namespace Part

def sequence : List Part → Part
  | [] => { pattern := .empty }
  | [p] => p
  | ps =>
    ⟨.inOrder (ps.map (·.pattern)), (ps.map (·.depth)).foldl max 0 + 1, true⟩

def choice : List Part → Part
  | [] => { pattern := .empty }
  | [p] => p
  | ps => ⟨.anyOf (ps.map (·.pattern)), (ps.map (·.depth)).foldl max 0 + 1, true⟩

def ofSign (m : Manner) : Sign → Part
  | .char c =>
    { pattern :=
        if m.inAscii && 0x80 ≤ c.toNat then .text [c] else .ofSet (m.widen (.ofChar c)) m.inAscii }
  | .set chars => { pattern := .ofSet chars m.inAscii }
  | .look l => { pattern := .look l }

def start (m : Manner) : Part :=
  { pattern := .look (if m.byLine then .lineStart m.returns else .textStart) }

def stop (m : Manner) : Part :=
  { pattern := .look (if m.byLine then .lineEnd m.returns else .textEnd) }

/-- Any character, or any but those at the end of a line. It is not one of ASCII only. -/
def point (m : Manner) : Option Part :=
  if m.inAscii then none
  else
    let lineEnd := if m.returns then "A D" else "A"
    some { pattern :=
      .ofSet (if m.acrossLines then .all else (CharSet.listed lineEnd).complement) false }

end Part

/-- What has been read of a group: how it is read from here on, whether what it matches is kept, its
finished alternatives and the parts of the last one, from the last one back. -/
structure Level where
  manner : Manner := {}
  isGroup : Bool := false
  done : List Part := []
  items : List Part := []

namespace Level

def add (l : Level) (p : Part) : Level :=
  { l with items := p :: l.items }

def next (l : Level) : Level :=
  { l with done := Part.sequence l.items.reverse :: l.done, items := [] }

def whole (l : Level) : Part :=
  Part.choice l.next.done.reverse

def closed (l : Level) : Part :=
  let part := l.whole
  ⟨if l.isGroup then .group part.pattern else part.pattern, part.depth + 1, true⟩

def repeatLast (l : Level) (least : Nat) (most : Option Nat) (isLazy : Bool) : Option Level :=
  match l.items with
  | p :: ps =>
    let repeated := p.pattern.repeated least most (isLazy != l.manner.short)
    if p.repeats then some { l with items := ⟨repeated, p.depth + 1, true⟩ :: ps } else none
  | [] => none

end Level

def readLazy (cs : List Char) : Bool × List Char :=
  if cs.head? = some '?' then (true, cs.tail) else (false, cs)

/-- What an opening parenthesis starts: a group with or without a name, parts that only belong
together, or another manner from there on. -/
inductive Opening where
  | group (name : Option String) (m : Manner)
  | cluster (m : Manner)
  | manner (m : Manner)

/-- Reads letters that turn a manner on, and behind a dash off. Each stands there once, with those
read before from the last one back. -/
def readManner (m : Manner) (seen : List Char) : List Char → Option (Opening × List Char)
  | [] => none
  | c :: cs =>
    if c = ':' then if seen.head? = some '-' then none else some (.cluster m, cs)
    else if c = ')' then
      if seen.isEmpty || seen.head? = some '-' then none else some (.manner m, cs)
    else if seen.contains c || !"imsUuRx-".toList.contains c then none
    else readManner (m.turn c !seen.contains '-') (c :: seen) cs

def newNameChars : CharSet :=
  CharSet.listed
    "88F C5C CDC A7CE-A7CF A7D2 A7D4 A7F1 10940-10959 10EC5-10EC7 10EFA-10EFB 11B60-11B67
    11DB0-11DDB 11DE0-11DE9 16EA0-16EB8 16EBB-16ED3 16FF2-16FF6 187F8-187FF 18D09-18D1E
    18D80-18DF2 1E6C0-1E6DE 1E6E0-1E6F5 1E6FE-1E6FF 2B73A-2B73F 2CEA2-2CEAD 323B0-33479"

def startsName (c : Char) : Bool :=
  c == '_' || Property.alphabetic.contains c || newNameChars.contains c

def continuesName (c : Char) : Bool :=
  startsName c || Category.number.contains c || c == '.' || c == '[' || c == ']'

def readName (m : Manner) (cs : List Char) : Option (Opening × List Char) :=
  let name := cs.takeWhile (· != '>')
  match name, cs.drop name.length with
  | first :: others, _ :: rest =>
    if startsName first && others.all continuesName then
      some (.group (some (String.ofList name)) m, rest)
    else none
  | _, _ => none

def readOpening (m : Manner) (cs : List Char) : Option (Opening × List Char) :=
  match m.skip cs with
  | '?' :: 'P' :: '<' :: named => readName m named
  | '?' :: '<' :: named => readName m named
  | '?' :: letters => readManner m [] letters
  | cs => some (.group none m, cs)

/-- Reads what is left of a pattern, inside the groups that are open; no two groups have one name.
Each thing takes a character at least, so `fuel` need not exceed the length of the text. -/
def readFrom : (fuel : Nat) → (names : List String) → (outer : List Level) → Level → List Char →
    Option Part
  | 0, _, _, _, _ => none
  | fuel + 1, names, outer, level, cs =>
    match level.manner.skip cs with
    | [] => if outer.isEmpty then some level.whole else none
    | c :: cs =>
      if c = '(' then do
        match ← readOpening level.manner cs with
        | (.manner m, rest) =>
          let mark : Part := { pattern := .empty, repeats := false }
          readFrom fuel names outer { level.add mark with manner := m } rest
        | (.cluster m, rest) => readFrom fuel names (level :: outer) { manner := m } rest
        | (.group name m, rest) =>
          if name.any names.contains then none
          else
            let inner : Level := { manner := m, isGroup := true }
            readFrom fuel (name.toList ++ names) (level :: outer) inner rest
      else if c = ')' then
        match outer with
        | [] => none
        | above :: outer => readFrom fuel names outer (above.add level.closed) cs
      else if c = '|' then readFrom fuel names outer level.next cs
      else if c = '*' then do
        let (isLazy, rest) := readLazy cs
        readFrom fuel names outer (← level.repeatLast 0 none isLazy) rest
      else if c = '+' then do
        let (isLazy, rest) := readLazy cs
        readFrom fuel names outer (← level.repeatLast 1 none isLazy) rest
      else if c = '?' then do
        let (isLazy, rest) := readLazy cs
        readFrom fuel names outer (← level.repeatLast 0 (some 1) isLazy) rest
      else if c = '{' then do
        let ((least, most), rest) ← readCount cs
        let (isLazy, rest) := readLazy (level.manner.skip rest)
        readFrom fuel names outer (← level.repeatLast least most isLazy) rest
      else if c = '[' then do
        let (bracket, rest) ← readSet level.manner cs
        let pattern := Pattern.ofSet bracket.chars level.manner.inAscii
        readFrom fuel names outer (level.add { pattern, depth := bracket.depth }) rest
      else if c = '.' then do
        readFrom fuel names outer (level.add (← Part.point level.manner)) cs
      else if c = '^' then readFrom fuel names outer (level.add (.start level.manner)) cs
      else if c = '$' then readFrom fuel names outer (level.add (.stop level.manner)) cs
      else if c = '\\' then do
        let (sign, rest) ← readEscape level.manner cs
        readFrom fuel names outer (level.add (.ofSign level.manner sign)) rest
      else readFrom fuel names outer (level.add (.ofSign level.manner (.char c))) cs

def depthLimit : Nat :=
  250

/-- Why a text is no pattern. -/
inductive Fault where
  | malformed
  | tooLarge
  deriving DecidableEq, Repr

def Fault.message : Fault → String
  | malformed => "regex parse error:"
  | tooLarge => "Compiled regex exceeds size limit of 10485760 bytes."

def ofText (s : String) : Except Fault Pattern :=
  match readFrom (s.length + 1) [] [] {} s.toList with
  | none => .error .malformed
  | some part =>
    if depthLimit < part.depth then .error .malformed
    else if !Automaton.fits part.pattern then .error .tooLarge
    else .ok part.pattern

end StubLinker.Pattern
