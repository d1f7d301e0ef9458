import StubLinker.Power

namespace StubLinker

/-- A table of codes: how many codes there are of each length from one bit on, and what they stand
for, in the order of the codes. -/
structure Codes where
  counts : List Nat
  symbols : Array Nat

namespace Codes

/-- The codes of up to a number of bits whose lengths are given by what they stand for; a length of
zero stands for no code. -/
def ofLengths (longest : Nat) (lengths : List Nat) : Codes :=
  let numbered := lengths.zip (List.range lengths.length)
  let ofLength (n : Nat) : List Nat := (numbered.filter fun p => p.1 == n).map (·.2)
  let byLength := (List.range longest).map fun n => ofLength (n + 1)
  ⟨byLength.map List.length, byLength.flatten.toArray⟩

/-- Whether the codes fill the table: each sequence of bits starts with a code. -/
def isComplete (c : Codes) : Bool :=
  let longest := c.counts.length
  (c.counts.zip (List.range longest)).foldl (fun n p => n + p.1 * 2 ^ (longest - 1 - p.2)) 0
    = 2 ^ longest

/-- Reads one code, given the counts of the codes that are not shorter than what was read; `code` is
what was read, `first` the first code of that length and `index` its place among the symbols. -/
def readFrom {m : Type → Type} [Monad m] (bit : m Bool) (symbols : Array Nat) :
    List Nat → (code first index : Nat) → m (Option Nat)
  | [], _, _, _ => pure none
  | count :: counts, code, first, index => do
    let code := 2 * code + (← bit).toNat
    if code < first + count then pure symbols[index + (code - first)]?
    else readFrom bit symbols counts code (2 * (first + count)) (index + count)

/-- Reads what one code stands for, given how a bit is read; none if the bits start with no code. -/
def read {m : Type → Type} [Monad m] (bit : m Bool) (c : Codes) : m (Option Nat) :=
  readFrom bit c.symbols c.counts 0 0 0

end Codes

end StubLinker
