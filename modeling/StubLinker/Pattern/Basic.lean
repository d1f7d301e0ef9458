import StubLinker.Unicode.Property

namespace StubLinker

/-- Where a place stands to the words of a text; the halves ask for one side of it only. -/
inductive WordPlace where
  | edge
  | noEdge
  | start
  | stop
  | halfStart
  | halfStop
  deriving DecidableEq, Repr

/-- What a place in a text is asked for. Lines end with a feed or also with a return in front of it
or alone; the characters of words are those of ASCII or all. -/
inductive Look where
  | textStart
  | textEnd
  | lineStart (returns : Bool)
  | lineEnd (returns : Bool)
  | word (place : WordPlace) (inAscii : Bool)
  deriving DecidableEq, Repr

/-- A pattern of text. A set may have been read where characters are those of ASCII, and a
repetition may prefer to be short; neither changes what the pattern matches. -/
inductive Pattern where
  | empty
  | text (chars : List Char)
  | set (chars : CharSet) (inAscii : Bool)
  | look (l : Look)
  | times (item : Pattern) (least : Nat) (most : Option Nat) (isLazy : Bool)
  | group (item : Pattern)
  | sequence (items : List Pattern)
  | choice (items : List Pattern)

namespace Pattern

def never : Pattern :=
  set {} true

def ofSet (chars : CharSet) (inAscii : Bool) : Pattern :=
  if chars.ranges.isEmpty then never
  else
    match chars.single? with
    | some c => text [c]
    | none => set chars inAscii

def byteCount (n : Nat) : Nat :=
  if n < 0x80 then 1 else if n < 0x800 then 2 else if n < 0x10000 then 3 else 4

mutual

/-- The number of bytes in the shortest text that the pattern may match; none where it may match
nothing. -/
def shortest : Pattern → Option Nat
  | empty => some 0
  | text chars => some (chars.foldl (fun n c => n + byteCount c.toNat) 0)
  | set chars _ => chars.ranges.head?.map fun r => byteCount r.1
  | look _ => some 0
  | times item least _ _ => item.shortest.map (· * least)
  | group item => item.shortest
  | sequence items => shortestInOrder items
  | choice items => shortestOfAny items

/-- The number of bytes in the shortest text that patterns match one after the other. -/
def shortestInOrder : List Pattern → Option Nat
  | [] => some 0
  | p :: ps =>
    match p.shortest, shortestInOrder ps with
    | some m, some n => some (m + n)
    | _, _ => none

/-- The number of bytes in the shortest text that one of some patterns matches. -/
def shortestOfAny : List Pattern → Option Nat
  | [] => none
  | [p] => p.shortest
  | p :: ps =>
    match p.shortest, shortestOfAny ps with
    | some m, some n => some (min m n)
    | _, _ => none

end

mutual

/-- The number of bytes in the longest text that the pattern may match, if there is one. -/
def longest : Pattern → Option Nat
  | empty => some 0
  | text chars => some (chars.foldl (fun n c => n + byteCount c.toNat) 0)
  | set chars _ => chars.ranges.getLast?.map fun r => byteCount r.2
  | look _ => some 0
  | times item _ most _ =>
    match item.longest, most with
    | some m, some n => some (m * n)
    | _, _ => none
  | group item => item.longest
  | sequence items => longestInOrder items
  | choice items => longestOfAny items

/-- The number of bytes in the longest text that patterns match one after the other. -/
def longestInOrder : List Pattern → Option Nat
  | [] => some 0
  | p :: ps =>
    match p.longest, longestInOrder ps with
    | some m, some n => some (m + n)
    | _, _ => none

/-- The number of bytes in the longest text that one of some patterns matches. -/
def longestOfAny : List Pattern → Option Nat
  | [] => none
  | [p] => p.longest
  | p :: ps =>
    match p.longest, longestOfAny ps with
    | some m, some n => some (max m n)
    | _, _ => none

end

def isPlace (p : Pattern) : Bool :=
  p.longest = some 0

mutual

/-- Whether each match of the pattern is known to begin at the start of the text. -/
def isAtStart : Pattern → Bool
  | look l => l = .textStart
  | times item least _ _ => 0 < least && item.isAtStart
  | group item => item.isAtStart
  | sequence items => isAtStartInOrder items
  | choice items => isAtStartOfAll items
  | _ => false

/-- Whether patterns one after the other are known to begin at the start of the text. -/
def isAtStartInOrder : List Pattern → Bool
  | [] => false
  | p :: ps => p.isAtStart || p.isPlace && isAtStartInOrder ps

/-- Whether all of some patterns are known to begin at the start of the text. -/
def isAtStartOfAll : List Pattern → Bool
  | [] => true
  | p :: ps => p.isAtStart && isAtStartOfAll ps

end

mutual

/-- Whether each match of the pattern is known to end at the end of the text. -/
def isAtEnd : Pattern → Bool
  | look l => l = .textEnd
  | times item least _ _ => 0 < least && item.isAtEnd
  | group item => item.isAtEnd
  | sequence items => isAtEndInOrder items
  | choice items => isAtEndOfAll items
  | _ => false

/-- Whether patterns one after the other are known to end at the end of the text. -/
def isAtEndInOrder : List Pattern → Bool
  | [] => false
  | p :: ps => isAtEndInOrder ps || ps.all isPlace && p.isAtEnd

/-- Whether all of some patterns are known to end at the end of the text. -/
def isAtEndOfAll : List Pattern → Bool
  | [] => true
  | p :: ps => p.isAtEnd && isAtEndOfAll ps

end

mutual

/-- Whether two patterns are the same; a group is the same as none, for it is counted. -/
def isSame : Pattern → Pattern → Bool
  | empty, empty => true
  | text s, text t => s == t
  | set s inAscii, set t inAscii' => s == t && inAscii == inAscii'
  | look l, look m => l == m
  | times item least most isLazy, times item' least' most' isLazy' =>
    item.isSame item' && least == least' && most == most' && isLazy == isLazy'
  | sequence items, sequence items' => areSame items items'
  | choice items, choice items' => areSame items items'
  | _, _ => false

def areSame : List Pattern → List Pattern → Bool
  | [], [] => true
  | p :: ps, q :: qs => p.isSame q && areSame ps qs
  | _, _ => false

end

mutual

def parts : Pattern → Nat
  | times item _ _ _ => item.parts + 1
  | group item => item.parts + 1
  | sequence items => partsOfAll items + 1
  | choice items => partsOfAll items + 1
  | _ => 1

def partsOfAll : List Pattern → Nat
  | [] => 0
  | p :: ps => p.parts + partsOfAll ps

end

/-- A pattern in front of a flat sequence; texts that meet are one. -/
def onto : Pattern → List Pattern → List Pattern
  | empty, ps => ps
  | text s, text t :: ps => text (s ++ t) :: ps
  | p, ps => p :: ps

def steps : Pattern → List Pattern
  | sequence items => items
  | p => [p]

def inOrder (ps : List Pattern) : Pattern :=
  match (ps.flatMap steps).foldr onto [] with
  | [] => empty
  | [p] => p
  | ps => sequence ps

/-- A pattern a number of times. What matches the empty text only is not repeated. -/
def repeated (item : Pattern) (least : Nat) (most : Option Nat) (isLazy : Bool) : Pattern :=
  let least := if item.isPlace then min least 1 else least
  let most := if item.isPlace then some (min (most.getD 1) 1) else most
  if least = 0 && most = some 0 then empty
  else if least = 1 && most = some 1 then item
  else times item least most isLazy

def options : Pattern → List Pattern
  | choice items => items
  | p => [p]

def char? : Pattern → Option Char
  | text [c] => some c
  | _ => none

def set? : Pattern → Option CharSet
  | set chars _ => some chars
  | _ => none

def steps? : Pattern → Option (List Pattern)
  | sequence items => some items
  | _ => none

/-- How many patterns two sequences have in common at their start. -/
def commonCount (ps qs : List Pattern) : Nat :=
  ((ps.zip qs).takeWhile fun r => r.1.isSame r.2).length

/-- How many patterns all sequences have in common with the first. -/
def sharedCount : List (List Pattern) → Nat
  | [] => 0
  | first :: others => others.foldl (fun n qs => min n (commonCount first qs)) first.length

/-- One of some patterns. A choice of characters or of sets is a set, and what all sequences of a
choice start with stands in front of it. Each time that is taken off the first pattern has fewer
parts, so `fuel` need not exceed them. -/
def anyOfWithin : (fuel : Nat) → List Pattern → Pattern
  | 0, ps => choice ps
  | fuel + 1, ps =>
    match ps.flatMap options with
    | [] => never
    | [p] => p
    | ps =>
      match ps.mapM char?, ps.mapM set?, ps.mapM steps? with
      | some cs, _, _ => ofSet (CharSet.ofRanges (cs.map fun c => (c.toNat, c.toNat))) false
      | _, some sets, _ => ofSet (CharSet.ofRanges (sets.flatMap (·.ranges))) false
      | _, _, some sequences =>
        let count := sharedCount sequences
        if count = 0 then choice ps
        else
          inOrder ((sequences.headD []).take count ++
            [anyOfWithin fuel (sequences.map fun s => inOrder (s.drop count))])
      | _, _, _ => choice ps

def anyOf (ps : List Pattern) : Pattern :=
  anyOfWithin (partsOfAll ps + 1) ps

end Pattern

end StubLinker
