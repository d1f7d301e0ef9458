import StubLinker.Unicode.CharSet

namespace StubLinker

abbrev ByteRow := List (Nat × Nat)

namespace ByteRow

def bytes (n : Nat) : List Nat :=
  if n < 0x80 then [n]
  else if n < 0x800 then [0xC0 + n / 64, 0x80 + n % 64]
  else if n < 0x10000 then [0xE0 + n / 4096, 0x80 + n / 64 % 64, 0x80 + n % 64]
  else [0xF0 + n / 262144, 0x80 + n / 4096 % 64, 0x80 + n / 64 % 64, 0x80 + n % 64]

/-- Where a range of numbers has to be cut first so that it becomes rows: at the surrogates, where
the number of bytes changes, and where a byte changes while those behind it do not take all their
values. The cut is told by the last number in front of it and the first one behind it. -/
def cut? (first last : Nat) : Option (Nat × Nat) :=
  if first < 0xE000 && 0xD7FF < last then some (0xD7FF, 0xE000)
  else
    let widths := [0x7F, 0x7FF, 0xFFFF].filter fun n => first ≤ n && n < last
    match widths.head? with
    | some n => some (n, n + 1)
    | none =>
      if last < 0x80 then none
      else
        [0x40, 0x1000, 0x40000].findSome? fun block =>
          if first / block = last / block then none
          else if first % block ≠ 0 then
            some (first / block * block + block - 1, first / block * block + block)
          else if last % block ≠ block - 1 then some (last / block * block - 1, last / block * block)
          else none

/-- The rows of a range of numbers. Each cut leaves less on both of its sides, so that `fuel` need
not exceed the size of the range; few are needed. -/
def ofRange : (fuel : Nat) → (first last : Nat) → List ByteRow
  | 0, _, _ => []
  | fuel + 1, first, last =>
    if last < first then []
    else
      match cut? first last with
      | some (low, high) => ofRange fuel first low ++ ofRange fuel high last
      | none => [(bytes first).zip (bytes last)]

def ofSet (s : CharSet) : List ByteRow :=
  s.ranges.flatMap fun r => ofRange (r.2 + 1 - r.1) r.1 r.2

end ByteRow

end StubLinker
