import StubLinker.Pattern.Sign

namespace StubLinker

def Pattern.inWord (inAscii : Bool) (c : Option Char) : Bool :=
  c.any fun c => if inAscii then c.isAlphanum || c == '_' else Pattern.wordChars.contains c

def WordPlace.holds (before behind : Bool) : WordPlace → Bool
  | edge => before != behind
  | noEdge => before == behind
  | start => !before && behind
  | stop => before && !behind
  | halfStart => !before
  | halfStop => !behind

/-- Whether a look holds between two characters; a text has none at its ends. With returns, a feed
right behind a return ends the same line. -/
def Look.holds (before behind : Option Char) : Look → Bool
  | textStart => before.isNone
  | textEnd => behind.isNone
  | lineStart false => before.isNone || before == some '\n'
  | lineEnd false => behind.isNone || behind == some '\n'
  | lineStart true =>
    before.isNone || before == some '\n' || before == some '\r' && behind != some '\n'
  | lineEnd true =>
    behind.isNone || behind == some '\r' || behind == some '\n' && before != some '\r'
  | word place inAscii =>
    place.holds (Pattern.inWord inAscii before) (Pattern.inWord inAscii behind)

namespace Pattern

def merge (ps qs : List Nat) : List Nat :=
  qs ++ ps.filter fun p => !qs.contains p

def stepTimes (step : List Nat → List Nat) : Nat → List Nat → List Nat
  | 0, ps => ps
  | n + 1, ps => stepTimes step n (step ps)

/-- The positions that a step leads to when it is applied up to a number of times. -/
def stepUpTo (step : List Nat → List Nat) : Nat → List Nat → List Nat
  | 0, ps => ps
  | n + 1, ps =>
    let more := merge (step ps) ps
    if more.length = ps.length then ps else stepUpTo step n more

def charBefore (text : Array Char) : Nat → Option Char
  | 0 => none
  | p + 1 => text[p]?

/-- The positions behind those that have a character of some kind. -/
def stepOver (text : Array Char) (isKind : Char → Bool) (ps : List Nat) : List Nat :=
  ps.filterMap fun p => (text[p]?.filter isKind).map fun _ => p + 1

mutual

/-- The positions that a pattern leads to from some positions of a text. A step that moves does so
at most once for each character, so no more than `text.size + 1` repetitions have to be told
apart. -/
def ends (text : Array Char) : Pattern → List Nat → List Nat
  | empty, ps => ps
  | .text chars, ps => chars.foldl (fun ps c => stepOver text (· == c) ps) ps
  | set chars _, ps => stepOver text chars.contains ps
  | look l, ps => ps.filter fun p => l.holds (charBefore text p) text[p]?
  | times item least most _, ps =>
    let bound := text.size + 1
    let after := stepTimes (item.ends text) (min least bound) ps
    match most with
    | none => stepUpTo (item.ends text) bound after
    | some m => stepUpTo (item.ends text) (min (m - least) bound) after
  | group item, ps => item.ends text ps
  | sequence items, ps => endsInOrder text items ps
  | choice items, ps => endsOfAny text items ps

def endsInOrder (text : Array Char) : List Pattern → List Nat → List Nat
  | [], ps => ps
  | item :: items, ps => endsInOrder text items (item.ends text ps)

def endsOfAny (text : Array Char) : List Pattern → List Nat → List Nat
  | [], _ => []
  | item :: items, ps => merge (item.ends text ps) (endsOfAny text items ps)

end

def occursIn (p : Pattern) (s : String) : Bool :=
  let text := s.toList.toArray
  !(p.ends text (List.range (text.size + 1))).isEmpty

end Pattern

end StubLinker
