namespace StubLinker

/-- A set of characters: ranges of numbers with their first and last one, in order. -/
structure CharSet where
  ranges : List (Nat × Nat) := []
  deriving DecidableEq, Repr

namespace CharSet

def lastNumber : Nat :=
  0x10FFFF

def after (n : Nat) : Nat :=
  if n = 0xD7FF then 0xE000 else n + 1

def before (n : Nat) : Nat :=
  if n = 0xE000 then 0xD7FF else n - 1

def contains (s : CharSet) (c : Char) : Bool :=
  s.ranges.any fun r => r.1 ≤ c.toNat && c.toNat ≤ r.2

def all : CharSet :=
  ⟨[(0, lastNumber)]⟩

/-- Ranges of which the starts are in order, with those that touch joined to the one in front. -/
def joined (r : Nat × Nat) : List (Nat × Nat) → List (Nat × Nat)
  | [] => [r]
  | s :: rest =>
    if s.1 ≤ r.2 + 1 then joined (r.1, max r.2 s.2) rest else r :: joined s rest

def ofRanges (rs : List (Nat × Nat)) : CharSet :=
  match rs.mergeSort fun r s => r.1 ≤ s.1 with
  | [] => {}
  | r :: rest => ⟨joined r rest⟩

def ofRange (first last : Char) : CharSet :=
  ⟨[(first.toNat, last.toNat)]⟩

def ofChar (c : Char) : CharSet :=
  ofRange c c

def union (s t : CharSet) : CharSet :=
  if t.ranges.isEmpty || s == t then s else ofRanges (s.ranges ++ t.ranges)

def shared : List (Nat × Nat) → List (Nat × Nat) → List (Nat × Nat)
  | [], _ => []
  | _ :: _, [] => []
  | r :: rs, s :: ss =>
    let rest := if r.2 < s.2 then shared rs (s :: ss) else shared (r :: rs) ss
    if max r.1 s.1 ≤ min r.2 s.2 then (max r.1 s.1, min r.2 s.2) :: rest else rest
termination_by rs ss => rs.length + ss.length

def inter (s t : CharSet) : CharSet :=
  ⟨shared s.ranges t.ranges⟩

def outside : List (Nat × Nat) → List (Nat × Nat) → List (Nat × Nat)
  | [], _ => []
  | r :: rs, [] => r :: rs
  | r :: rs, s :: ss =>
    if s.2 < r.1 then outside (r :: rs) ss
    else if r.2 < s.1 then r :: outside rs (s :: ss)
    else
      let rest :=
        if s.2 < r.2 then outside ((after s.2, r.2) :: rs) ss else outside rs (s :: ss)
      if r.1 < s.1 then (r.1, before s.1) :: rest else rest
termination_by rs ss => rs.length + ss.length

def diff (s t : CharSet) : CharSet :=
  ⟨outside s.ranges t.ranges⟩

def oneOnly (s t : CharSet) : CharSet :=
  (s.union t).diff (s.inter t)

/-- The gaps behind a range, up to the last character. A gap reaches from the character behind one
range to the character before the next; of two ranges that only surrogates keep apart, these are the
outer characters of the ranges. -/
def gaps (r : Nat × Nat) : List (Nat × Nat) → List (Nat × Nat)
  | [] => if r.2 < lastNumber then [(after r.2, lastNumber)] else []
  | s :: rest =>
    (min (after r.2) (before s.1), max (after r.2) (before s.1)) :: gaps s rest

def complement (s : CharSet) : CharSet :=
  match s.ranges with
  | [] => all
  | r :: rest => ⟨if 0 < r.1 then (0, before r.1) :: gaps r rest else gaps r rest⟩

def isAscii (s : CharSet) : Bool :=
  s.ranges.getLast?.all fun r => r.2 < 0x80

def single? (s : CharSet) : Option Char :=
  match s.ranges with
  | [(first, last)] => if first = last then some (Char.ofNat first) else none
  | _ => none

def hexDigit? (c : Char) : Option Nat :=
  if c.isDigit then some (c.toNat - 48)
  else if 'a' ≤ c && c ≤ 'f' then some (c.toNat - 87)
  else if 'A' ≤ c && c ≤ 'F' then some (c.toNat - 55)
  else none

/-- What has been read of a list of ranges: the ranges from the last one back, the start of one that
is not complete and the number that is being read. -/
structure Listing where
  ranges : List (Nat × Nat) := []
  start : Option Nat := none
  number : Option Nat := none

namespace Listing

def close (l : Listing) : Listing :=
  match l.number with
  | none => l
  | some n => { ranges := (l.start.getD n, n) :: l.ranges }

def read (l : Listing) (c : Char) : Listing :=
  match hexDigit? c with
  | some d => { l with number := some (16 * l.number.getD 0 + d) }
  | none => if c = '-' then { l with start := l.number, number := none } else l.close

end Listing

/-- The set that a text lists: numbers in hexadecimal digits and ranges of them with a dash, in
order and with white space between them. -/
def listed (text : String) : CharSet :=
  ⟨(text.toList.foldl Listing.read {}).close.ranges.reverse⟩

end CharSet

end StubLinker
