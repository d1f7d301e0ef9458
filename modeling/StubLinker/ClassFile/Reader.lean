import StubLinker.Bytes
import StubLinker.ClassFile.Error

namespace StubLinker

abbrev Reader := StateT Bytes (Except ClassFileError)

namespace Reader

def byte : Reader UInt8
  | [] => .error .endOfFile
  | b :: rest => .ok (b, rest)

def u16 : Reader UInt16
  | a :: b :: rest => .ok (Bytes.toUInt16 a b, rest)
  | _ => .error .endOfFile

def u32 : Reader UInt32
  | a :: b :: c :: d :: rest => .ok (Bytes.toUInt32 a b c d, rest)
  | _ => .error .endOfFile

def bytes (n : Nat) : Reader Bytes := fun bs =>
  let taken := bs.take n
  if taken.length = n then .ok (taken, bs.drop n) else .error .endOfFile

def ensure (n : Nat) : Reader Unit := fun bs =>
  (bytes n bs).map fun _ => ((), bs)

def times {α : Type} (n : Nat) (r : Reader α) : Reader (List α) :=
  match n with
  | 0 => pure []
  | n + 1 => do
    let x ← r
    let xs ← times n r
    pure (x :: xs)

def table {α : Type} (r : Reader α) : Reader (List α) := do
  let count ← u16
  times count.toNat r

def tableBytes (row : Reader Bytes) : Reader Bytes := do
  let count ← u16
  let rows ← times count.toNat row
  pure (Bytes.ofUInt16 count ++ rows.flatten)

def shortTableBytes (row : Reader Bytes) : Reader Bytes := do
  let count ← byte
  let rows ← times count.toNat row
  pure (count :: rows.flatten)

def both (first second : Reader Bytes) : Reader Bytes := do
  let a ← first
  let b ← second
  pure (a ++ b)

end Reader

end StubLinker
