import StubLinker.Json.Numeral

namespace StubLinker.Json

def isSpace (c : Char) : Bool :=
  c = ' ' || c = '\n' || c = '\t' || c = '\r'

def skipSpace (cs : List Char) : List Char :=
  cs.dropWhile isSpace

def readWord : (word : List Char) → List Char → Except JsonFault (List Char)
  | [], cs => .ok cs
  | _ :: _, [] => .error .endOfText
  | w :: ws, c :: cs => if c = w then readWord ws cs else .error .malformed

/-- The word that a literal starting with this character has to be. -/
def literal? (c : Char) : Option (List Char) :=
  if c = 'n' then some "null".toList
  else if c = 't' then some "true".toList
  else if c = 'f' then some "false".toList
  else none

def startsNumeral (c : Char) : Bool :=
  c = '-' || c.isDigit

/-- The fault of a value, without space before it, that is not of the kind asked for. -/
def mismatchFault (cs : List Char) : JsonFault :=
  match cs with
  | [] => .endOfText
  | c :: rest =>
    match literal? c with
    | some word =>
      match readWord word cs with
      | .error fault => fault
      | .ok _ => .mismatch
    | none =>
      if startsNumeral c then
        match readNumeral .endOfText cs with
        | .error fault => fault
        | .ok (n, _) => if n.isFinite then .mismatch else .malformed
      else if c = '"' then
        match readQuoted rest with
        | .error fault => fault
        | .ok _ => .mismatch
      else if c = '[' || c = '{' then .mismatch
      else .malformed

def readText (cs : List Char) : Except JsonFault (String × List Char) :=
  match skipSpace cs with
  | '"' :: rest => (readQuoted rest).map fun p => (String.ofList p.1, p.2)
  | other => .error (mismatchFault other)

def readColon (cs : List Char) : Except JsonFault (List Char) :=
  match skipSpace cs with
  | [] => .error .endOfText
  | ':' :: rest => .ok rest
  | _ => .error .malformed

/-- A container that is open. -/
inductive Bracket where
  | list
  | object
  deriving DecidableEq, Repr

def Bracket.closing : Bracket → Char
  | list => ']'
  | object => '}'

/-- Skips what stands before a value in a container: in an object, a key and its colon. -/
def skipKey (b : Bracket) (cs : List Char) : Except JsonFault (List Char) :=
  match b with
  | .list => .ok cs
  | .object =>
    match skipSpace cs with
    | [] => .error .endOfText
    | '"' :: rest => do readColon (← skipQuoted rest)
    | _ => .error .malformed

/-- Closes containers behind a value, as many as are closed there. With the containers still open
and the text at the next value, or with the text behind the outermost container. -/
def closeBrackets : List Bracket → List Char → Except JsonFault (List Bracket × List Char)
  | [], cs => .ok ([], cs)
  | b :: outer, cs =>
    match skipSpace cs with
    | [] => .error .endOfText
    | c :: rest =>
      if c = ',' then (skipKey b rest).map fun next => (b :: outer, next)
      else if c = b.closing then closeBrackets outer rest
      else .error .malformed

def openBracket (b : Bracket) (outer : List Bracket) (cs : List Char) :
    Except JsonFault (List Bracket × List Char) :=
  match skipSpace cs with
  | [] => .error .endOfText
  | c :: rest =>
    if c = b.closing then closeBrackets outer rest
    else (skipKey b (c :: rest)).map fun next => (b :: outer, next)

def skipStep (outer : List Bracket) (cs : List Char) :
    Except JsonFault (List Bracket × List Char) :=
  match skipSpace cs with
  | [] => .error .endOfText
  | c :: rest =>
    match literal? c with
    | some word => do closeBrackets outer (← readWord word (c :: rest))
    | none =>
      if startsNumeral c then do
        let (_, rest) ← readNumeral .malformed (c :: rest)
        closeBrackets outer rest
      else if c = '"' then do closeBrackets outer (← skipQuoted rest)
      else if c = '[' then openBracket .list outer rest
      else if c = '{' then openBracket .object outer rest
      else .error .malformed

/-- Skips values until no container is open. A step takes a character at least, so `fuel` need not
exceed the length of the text. -/
def skipFrom : (fuel : Nat) → List Bracket → List Char → Except JsonFault (List Char)
  | 0, _, _ => .error .endOfText
  | fuel + 1, outer, cs => do
    match ← skipStep outer cs with
    | ([], rest) => .ok rest
    | (stillOpen, rest) => skipFrom fuel stillOpen rest

def skipValue (cs : List Char) : Except JsonFault (List Char) :=
  skipFrom (cs.length + 1) [] cs

/-- Finds the next key of an object, past its quote; none where the object ends. -/
def nextKey (first : Bool) (cs : List Char) : Except JsonFault (Option (List Char)) :=
  match skipSpace cs with
  | [] => .error .endOfText
  | '}' :: _ => .ok none
  | '"' :: rest => if first then .ok (some rest) else .error .malformed
  | ',' :: rest =>
    if first then .error .malformed
    else
      match skipSpace rest with
      | [] => .error .endOfText
      | '"' :: rest => .ok (some rest)
      | _ => .error .malformed
  | _ => .error .malformed

/-- Reads the fields of an object, up to its closing brace. `field` reads what follows a key. A
field takes a character at least, so `fuel` need not exceed the length of the text. -/
def readFields {σ : Type} (field : σ → String → List Char → Except JsonFault (σ × List Char)) :
    (fuel : Nat) → (first : Bool) → σ → List Char → Except JsonFault (σ × List Char)
  | 0, _, _, _ => .error .endOfText
  | fuel + 1, first, state, cs => do
    match ← nextKey first cs with
    | none => .ok (state, cs)
    | some rest =>
      let (key, rest) ← readQuoted rest
      let (state, rest) ← field state (String.ofList key) rest
      readFields field fuel false state rest

/-- Reads an object after its opening brace, up to its closing brace. -/
def readObject {σ : Type} (field : σ → String → List Char → Except JsonFault (σ × List Char))
    (start : σ) (cs : List Char) : Except JsonFault (σ × List Char) :=
  readFields field (cs.length + 1) true start cs

def nextElement (first : Bool) (cs : List Char) : Except JsonFault (Option (List Char)) :=
  match skipSpace cs with
  | [] => .error .endOfText
  | ']' :: _ => .ok none
  | ',' :: rest =>
    if first then .ok (some (',' :: rest))
    else
      match skipSpace rest with
      | [] => .error .endOfText
      | ']' :: _ => .error .malformed
      | rest => .ok (some rest)
  | rest => if first then .ok (some rest) else .error .malformed

def close (b : Bracket) (cs : List Char) : Except JsonFault (List Char) :=
  match skipSpace cs with
  | [] => .error .endOfText
  | c :: rest => if c = b.closing then .ok rest else .error .malformed

/-- Reads a record, which is an object or the list of its fields in order. Each reader starts behind
the opening character and stops before the closing one. -/
def readRecord {α : Type} (object list : List Char → Except JsonFault (α × List Char))
    (cs : List Char) : Except JsonFault (α × List Char) :=
  match skipSpace cs with
  | '{' :: rest => do
    let (a, rest) ← object rest
    return (a, ← close .object rest)
  | '[' :: rest => do
    let (a, rest) ← list rest
    return (a, ← close .list rest)
  | other => .error (mismatchFault other)

def readAll {α : Type} (value : List Char → Except JsonFault (α × List Char)) (s : String) :
    Except JsonFault α := do
  let (a, rest) ← value s.toList
  if (skipSpace rest).isEmpty then return a else throw .malformed

end StubLinker.Json
