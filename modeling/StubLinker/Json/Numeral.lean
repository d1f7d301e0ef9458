import StubLinker.Json.Quoted
import StubLinker.Power

namespace StubLinker.Json

/-- The parts of a numeral. -/
structure Numeral where
  whole : List Char
  fraction : List Char
  exponent : Int
  deriving DecidableEq, Repr

def digitsValue (ds : List Char) : Nat :=
  ds.foldl (fun n d => 10 * n + (d.toNat - 48)) 0

/-- Reads one digit at least. `short` is the fault of a text that ends before it. -/
def readDigits (short : JsonFault) (cs : List Char) : Except JsonFault (List Char × List Char) :=
  match cs with
  | [] => .error short
  | c :: _ =>
    if c.isDigit then .ok (cs.takeWhile Char.isDigit, cs.dropWhile Char.isDigit)
    else .error .malformed

/-- Reads the digits before the point; only a single zero starts with zero. -/
def readWhole (short : JsonFault) (cs : List Char) : Except JsonFault (List Char × List Char) := do
  let (ds, rest) ← readDigits short cs
  match ds with
  | '0' :: _ :: _ => .error .malformed
  | _ => .ok (ds, rest)

/-- Reads a point and the digits behind it, if there is a point. -/
def readFraction (short : JsonFault) : List Char → Except JsonFault (List Char × List Char)
  | '.' :: cs => readDigits short cs
  | cs => .ok ([], cs)

def readExponent (short : JsonFault) : List Char → Except JsonFault (Int × List Char)
  | c :: cs =>
    if c = 'e' || c = 'E' then do
      let unsigned := if cs.head? = some '+' || cs.head? = some '-' then cs.tail else cs
      let (ds, rest) ← readDigits short unsigned
      let n : Int := digitsValue ds
      .ok (if cs.head? = some '-' then -n else n, rest)
    else .ok (0, c :: cs)
  | [] => .ok (0, [])

/-- Reads a numeral with its sign. `short` is the fault of a numeral that is cut short. -/
def readNumeral (short : JsonFault) (cs : List Char) : Except JsonFault (Numeral × List Char) := do
  let (whole, rest) ← readWhole short (if cs.head? = some '-' then cs.tail else cs)
  let (fraction, rest) ← readFraction short rest
  let (exponent, rest) ← readExponent short rest
  .ok (⟨whole, fraction, exponent⟩, rest)

/-- Takes digits into a number as long as it stays below 2^64; with the digits that are left. -/
def takeDigits (n : Nat) : List Char → Nat × List Char
  | [] => (n, [])
  | d :: ds =>
    let more := 10 * n + (d.toNat - 48)
    if more < 2 ^ 64 then takeDigits more ds else (n, d :: ds)

/-- A number rounded to 53 significant bits, a tie to the even neighbour. -/
def roundToDouble (n : Nat) : Nat :=
  let unit := 2 ^ (n.log2 - 52)
  let down := n / unit
  let rest := 2 * (n % unit)
  if rest < unit || (rest = unit && down % 2 = 0) then down * unit else (down + 1) * unit

/-- Whether a numeral does not exceed the doubles: the product of its leading digits and its power
of ten, both rounded to doubles, stays below the middle between the greatest double and the next
power of two. -/
def Numeral.isFinite (n : Numeral) : Bool :=
  let (whole, dropped) := takeDigits 0 n.whole
  let (significand, ignored) := takeDigits whole n.fraction
  let power := n.exponent + dropped.length - (n.fraction.length - ignored.length : Nat)
  if significand = 0 || power < 0 then true
  else if 308 < power then false
  else roundToDouble significand * roundToDouble (10 ^ power.toNat) < 2 ^ 1024 - 2 ^ 970

end StubLinker.Json
