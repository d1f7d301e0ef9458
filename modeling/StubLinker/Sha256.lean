import StubLinker.Bytes

namespace StubLinker.Sha256

/-- The constants of the rounds: the first 32 bits of the fractional parts of the cube roots of the
first 64 primes. -/
def roundConstants : List UInt32 :=
  [0x428a2f98, 0x71374491, 0xb5c0fbcf, 0xe9b5dba5, 0x3956c25b, 0x59f111f1, 0x923f82a4, 0xab1c5ed5,
    0xd807aa98, 0x12835b01, 0x243185be, 0x550c7dc3, 0x72be5d74, 0x80deb1fe, 0x9bdc06a7, 0xc19bf174,
    0xe49b69c1, 0xefbe4786, 0x0fc19dc6, 0x240ca1cc, 0x2de92c6f, 0x4a7484aa, 0x5cb0a9dc, 0x76f988da,
    0x983e5152, 0xa831c66d, 0xb00327c8, 0xbf597fc7, 0xc6e00bf3, 0xd5a79147, 0x06ca6351, 0x14292967,
    0x27b70a85, 0x2e1b2138, 0x4d2c6dfc, 0x53380d13, 0x650a7354, 0x766a0abb, 0x81c2c92e, 0x92722c85,
    0xa2bfe8a1, 0xa81a664b, 0xc24b8b70, 0xc76c51a3, 0xd192e819, 0xd6990624, 0xf40e3585, 0x106aa070,
    0x19a4c116, 0x1e376c08, 0x2748774c, 0x34b0bcb5, 0x391c0cb3, 0x4ed8aa4a, 0x5b9cca4f, 0x682e6ff3,
    0x748f82ee, 0x78a5636f, 0x84c87814, 0x8cc70208, 0x90befffa, 0xa4506ceb, 0xbef9a3f7, 0xc67178f2]

/-- The eight words that a digest is built in. -/
structure Words where
  a : UInt32
  b : UInt32
  c : UInt32
  d : UInt32
  e : UInt32
  f : UInt32
  g : UInt32
  h : UInt32
  deriving DecidableEq, Repr

namespace Words

/-- The words at the start: the first 32 bits of the fractional parts of the square roots of the
first eight primes. -/
def initial : Words :=
  ⟨0x6a09e667, 0xbb67ae85, 0x3c6ef372, 0xa54ff53a, 0x510e527f, 0x9b05688c, 0x1f83d9ab, 0x5be0cd19⟩

def add (x y : Words) : Words :=
  ⟨x.a + y.a, x.b + y.b, x.c + y.c, x.d + y.d, x.e + y.e, x.f + y.f, x.g + y.g, x.h + y.h⟩

def bytes (w : Words) : Bytes :=
  [w.a, w.b, w.c, w.d, w.e, w.f, w.g, w.h].flatMap Bytes.ofUInt32

end Words

def rotate (x n : UInt32) : UInt32 :=
  (x >>> n) ||| (x <<< (32 - n))

/-- One round with the sum of its constant and its word of the schedule. -/
def round (w : Words) (k : UInt32) : Words :=
  let mixE := rotate w.e 6 ^^^ rotate w.e 11 ^^^ rotate w.e 25
  let choice := (w.e &&& w.f) ^^^ ((~~~ w.e) &&& w.g)
  let first := w.h + mixE + choice + k
  let mixA := rotate w.a 2 ^^^ rotate w.a 13 ^^^ rotate w.a 22
  let majority := (w.a &&& w.b) ^^^ (w.a &&& w.c) ^^^ (w.b &&& w.c)
  ⟨first + (mixA + majority), w.a, w.b, w.c, w.d + first, w.e, w.f, w.g⟩

/-- The next word of a schedule whose words are given from the last one back. -/
def nextWord (back : List UInt32) : UInt32 :=
  let near := back.getD 1 0
  let far := back.getD 14 0
  let mixNear := rotate near 17 ^^^ rotate near 19 ^^^ (near >>> 10)
  let mixFar := rotate far 7 ^^^ rotate far 18 ^^^ (far >>> 3)
  mixNear + back.getD 6 0 + mixFar + back.getD 15 0

def schedule (block : List UInt32) : List UInt32 :=
  ((List.range 48).foldl (fun back _ => nextWord back :: back) block.reverse).reverse

def absorb (w : Words) (block : List UInt32) : Words :=
  w.add ((List.zipWith (· + ·) roundConstants (schedule block)).foldl round w)

def absorbAll : (blocks : Nat) → Words → List UInt32 → Words
  | 0, w, _ => w
  | n + 1, w, words => absorbAll n (absorb w (words.take 16)) (words.drop 16)

def words : Bytes → List UInt32
  | a :: b :: c :: d :: rest => Bytes.toUInt32 a b c d :: words rest
  | _ => []

/-- A message with a one bit, zero bits and its length in bits behind it, which fill its last
block. -/
def pad (message : Bytes) : Bytes :=
  let zeros := List.replicate ((119 - message.length % 64) % 64) 0
  message ++ 0x80 :: zeros ++ Bytes.ofUInt64 (8 * message.length).toUInt64

end Sha256

def sha256 (message : Bytes) : String :=
  let padded := Sha256.pad message
  (Sha256.absorbAll (padded.length / 64) .initial (Sha256.words padded)).bytes |> Bytes.hex

end StubLinker
