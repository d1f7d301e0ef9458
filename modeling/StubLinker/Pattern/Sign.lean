import StubLinker.Pattern.Basic
import StubLinker.Text.Blank
import StubLinker.Unicode.Named

namespace StubLinker.Pattern

/-- How a part of a pattern is read: whether the case of letters counts for nothing, whether a line
ends like the text, whether a point stands for the end of a line too, whether repetitions prefer to
be short, whether lines end with returns too, whether characters are those of ASCII, and whether
white space and remarks are left out. -/
structure Manner where
  anyCase : Bool := false
  byLine : Bool := false
  acrossLines : Bool := false
  short : Bool := false
  returns : Bool := false
  inAscii : Bool := false
  spaced : Bool := false

namespace Manner

def turn (m : Manner) (letter : Char) (on : Bool) : Manner :=
  if letter = 'i' then { m with anyCase := on }
  else if letter = 'm' then { m with byLine := on }
  else if letter = 's' then { m with acrossLines := on }
  else if letter = 'U' then { m with short := on }
  else if letter = 'R' then { m with returns := on }
  else if letter = 'u' then { m with inAscii := !on }
  else if letter = 'x' then { m with spaced := on }
  else m

end Manner

def asciiClosure (s : CharSet) : CharSet :=
  let moved (first last : Char) (move : Nat → Nat) :=
    (s.inter (.ofRange first last)).ranges.map fun r => (move r.1, move r.2)
  CharSet.ofRanges (s.ranges ++ (moved 'A' 'Z' (· + 32) ++ moved 'a' 'z' (· - 32)))

/-- A set, with the other case of its letters if case counts for nothing. -/
def Manner.widen (m : Manner) (s : CharSet) : CharSet :=
  if m.anyCase then if m.inAscii then asciiClosure s else Folding.closure s else s

/-- A set, or the characters outside of it, which are not all of ASCII. -/
def Manner.turned (m : Manner) (negated : Bool) (s : CharSet) : Option CharSet :=
  if !negated then some s else if m.inAscii then none else some s.complement

/-- The text behind white space and behind remarks, which end with their line. -/
def skipRemarks : (inRemark : Bool) → List Char → List Char
  | _, [] => []
  | true, c :: cs => skipRemarks (c != '\n') cs
  | false, c :: cs =>
    if c = '#' then skipRemarks true cs
    else if Text.isBlank c then skipRemarks false cs
    else c :: cs

def Manner.skip (m : Manner) (cs : List Char) : List Char :=
  if m.spaced then skipRemarks false cs else cs

/-- What a sign stands for. -/
inductive Sign where
  | char (c : Char)
  | set (chars : CharSet)
  | look (l : Look)

def asciiSet? (c : Char) : Option CharSet :=
  if c = 'd' then some (.listed "30-39")
  else if c = 's' then some (.listed "9-D 20")
  else if c = 'w' then some (.listed "30-39 41-5A 5F 61-7A")
  else none

def wordChars : CharSet :=
  Category.unite [Property.alphabetic, Category.mark, Category.decimalNumber,
    Category.connectorPunctuation, Property.joinControl]

/-- The sets that are written with a small letter behind a backslash. -/
def letterSet? (c : Char) : Option CharSet :=
  if c = 'd' then some Category.decimalNumber
  else if c = 's' then some Property.whiteSpace
  else if c = 'w' then some wordChars
  else none

/-- The set that is written with a letter behind a backslash; a capital letter stands for the
characters outside. -/
def Manner.letterSet? (m : Manner) (c : Char) : Option CharSet :=
  (if m.inAscii then asciiSet? c.toLower else Pattern.letterSet? c.toLower).bind
    (m.turned c.isUpper)

/-- The control character that is written with a letter behind a backslash. -/
def controlChar? (c : Char) : Option Char :=
  if c = 'a' then some (Char.ofNat 7)
  else if c = 'f' then some (Char.ofNat 12)
  else if c = 't' then some '\t'
  else if c = 'n' then some '\n'
  else if c = 'r' then some '\r'
  else if c = 'v' then some (Char.ofNat 11)
  else none

/-- The looks that are written with a character behind a backslash. -/
def Manner.letterLook? (m : Manner) (c : Char) : Option Look :=
  if c = 'A' then some .textStart
  else if c = 'z' then some .textEnd
  else if c = 'b' then some (.word .edge m.inAscii)
  else if c = 'B' then some (.word .noEdge m.inAscii)
  else if c = '<' then some (.word .start m.inAscii)
  else if c = '>' then some (.word .stop m.inAscii)
  else none

/-- The places at a word that are written with a name in braces. -/
def namedPlace? (name : String) : Option WordPlace :=
  if name = "start" then some .start
  else if name = "end" then some .stop
  else if name = "start-half" then some .halfStart
  else if name = "end-half" then some .halfStop
  else none

/-- Whether a backslash may stand before the character to make it stand for itself. -/
def isSign (c : Char) : Bool :=
  c.toNat < 128 && !c.isAlphanum && c != '<' && c != '>'

/-- The character with a code in hexadecimal digits; there has to be one. -/
def hexChar? (digits : List Char) : Option Char := do
  if digits.isEmpty then none
  let n ← digits.foldlM (fun n d => (CharSet.hexDigit? d).map (16 * n + ·)) 0
  if n.isValidChar then some (Char.ofNat n) else none

def codeLength? (c : Char) : Option Nat :=
  if c = 'x' then some 2 else if c = 'u' then some 4 else if c = 'U' then some 8 else none

def readSome (m : Manner) : Nat → List Char → Option (List Char × List Char)
  | 0, cs => some ([], cs)
  | n + 1, cs =>
    match m.skip cs with
    | [] => none
    | c :: rest => (readSome m n rest).map fun r => (c :: r.1, r.2)

/-- Reads a code, in braces or of a number of digits. A code of two digits is that of a byte, and
where characters are those of ASCII so is the byte. -/
def readCode (m : Manner) (length : Nat) (cs : List Char) : Option (Char × List Char) :=
  match m.skip cs with
  | '{' :: inside =>
    let digits := inside.takeWhile (· != '}')
    let digits := if m.spaced then digits.filter fun c => !Text.isBlank c else digits
    match inside.dropWhile (· != '}') with
    | [] => none
    | _ :: rest => (hexChar? digits).map fun c => (c, rest)
  | cs => do
    let (digits, rest) ← readSome m length cs
    let c ← hexChar? digits
    if m.inAscii && length = 2 && 0x80 ≤ c.toNat then none else some (c, rest)

/-- Reads the name of a place at a word in braces. Braces with something else in them tell how
often. -/
def readPlace (m : Manner) (cs : List Char) : Option (Look × List Char) :=
  match cs with
  | '{' :: inside => do
    let first ← (m.skip inside).head?
    if first.isAlpha || first = '-' then
      let name := inside.takeWhile fun c => c.isAlpha || c == '-' || m.spaced && Text.isBlank c
      match inside.drop name.length with
      | '}' :: rest =>
        (namedPlace? (String.ofList (name.filter fun c => !Text.isBlank c))).map fun place =>
          (.word place m.inAscii, rest)
      | _ => none
    else some (.word .edge m.inAscii, cs)
  | _ => some (.word .edge m.inAscii, cs)

/-- The set with a name, or with a sign in it the set of the characters that have a value. -/
def setNamed? (name : List Char) : Option CharSet :=
  let split (sign : List Char) : Option (List Char × List Char) :=
    ((List.range name.length).find? fun i => sign.isPrefixOf (name.drop i)).map fun i =>
      (name.take i, name.drop (i + sign.length))
  match (split ['!', '=']).or ((split [':']).or (split ['='])) with
  | some (kind, value) => CharSet.valued? kind value
  | none => CharSet.named? name

/-- Reads characters that count, up to a closing brace. Each is one at least of the text, so `fuel`
need not exceed its length. -/
def readBraced (m : Manner) : (fuel : Nat) → List Char → Option (List Char × List Char)
  | 0, _ => none
  | fuel + 1, cs =>
    match m.skip cs with
    | [] => none
    | '}' :: rest => some ([], rest)
    | c :: rest => (readBraced m fuel rest).map fun r => (c :: r.1, r.2)

/-- Reads the name of a set: one letter, or more in braces. Sets with names are not of ASCII. -/
def readSetName (m : Manner) (negated : Bool) (cs : List Char) :
    Option (CharSet × List Char) := do
  let (name, rest) ←
    match m.skip cs with
    | [] => none
    | '{' :: inside => readBraced m (inside.length + 1) inside
    | c :: rest => if c = '\\' then none else some ([c], rest)
  if m.inAscii then none
  let named ← setNamed? name
  let chars ← m.turned negated (m.widen named)
  return (chars, rest)

def readEscape (m : Manner) : List Char → Option (Sign × List Char)
  | [] => none
  | 'b' :: cs => (readPlace m cs).map fun r => (.look r.1, r.2)
  | 'p' :: cs => (readSetName m false cs).map fun r => (.set r.1, r.2)
  | 'P' :: cs => (readSetName m true cs).map fun r => (.set r.1, r.2)
  | c :: cs =>
    match codeLength? c, m.letterSet? c, controlChar? c, m.letterLook? c with
    | some length, _, _, _ => (readCode m length cs).map fun r => (.char r.1, r.2)
    | _, some chars, _, _ => some (.set chars, cs)
    | _, _, some x, _ => some (.char x, cs)
    | _, _, _, some l => some (.look l, cs)
    | _, _, _, _ => if isSign c then some (.char c, cs) else none

end StubLinker.Pattern
