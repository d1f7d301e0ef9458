import StubLinker.ClassFile.Branch

namespace StubLinker

/-- A frame but for its place: its type, less the distance if that is part of it, and the bytes of
the verification types that it gives. -/
structure Frame where
  type : UInt8
  types : Bytes
  deriving DecidableEq, Repr

namespace Frame

def readType : Reader Bytes := do
  let tag ← Reader.byte
  if tag ≤ 6 then pure [tag]
  else if tag ≤ 8 then (tag :: ·) <$> Reader.bytes 2
  else throw (.invalidVerificationTag tag)

/-- Reads the distance and the verification types of a frame that gives them in this order. -/
def readExplicit (type : UInt8) (types : Reader Bytes) : Reader (Nat × Frame) := do
  let distance ← Reader.u16
  let types ← types
  pure (distance.toNat, ⟨type, types⟩)

def read : Reader (Nat × Frame) := do
  let type ← Reader.byte
  if type < 64 then pure (type.toNat, ⟨0, []⟩)
  else if type < 128 then (fun t => (type.toNat - 64, ⟨64, t⟩)) <$> readType
  else if type < 247 then throw (.invalidFrameType type)
  else if type = 247 then readExplicit type readType
  else if type < 252 then readExplicit type (pure [])
  else if type < 255 then
    readExplicit type (List.flatten <$> Reader.times (type.toNat - 251) readType)
  else
    readExplicit type (Reader.both (Reader.tableBytes readType) (Reader.tableBytes readType))

def isCompact (f : Frame) : Bool :=
  f.type < 247

def bytes (distance : Nat) (f : Frame) : Bytes :=
  if f.isCompact then (f.type.toNat + distance).toUInt8 :: f.types
  else f.type :: Bytes.ofUInt16 distance.toUInt16 ++ f.types

/-- The positions of frames, of which the first lies at its distance from `next`. A position has two
bytes and does not grow beyond them. -/
def positions (next : Nat) : List (Nat × Frame) → List (Nat × Frame)
  | [] => []
  | (distance, f) :: rest =>
    let position := min 0xFFFF (next + distance)
    (position, f) :: positions (position + 1) rest

/-- The distances of frames behind a frame at a position. Behind the position 0, where a map starts,
the distance of a frame is its position. -/
def distances (previous : Nat) : List (Nat × Frame) → List (Nat × Frame)
  | [] => []
  | (position, f) :: rest =>
    (if previous = 0 then position else position - previous - 1, f) :: distances position rest

def mapBytes (frames : List (Nat × Frame)) : Bytes :=
  Bytes.tableOf (frames.map fun f => f.2.bytes f.1)

/-- Frames by the numbers of the instructions that they lie at. -/
def resolve (starts : Starts) (frames : List (Nat × Frame)) :
    Except ClassFileError (List (Nat × Frame)) :=
  (positions 0 frames).mapM fun f => (·, f.2) <$> starts.number f.1

/-- Frames by their distances, given the instructions that they lie at. -/
def place (starts : Starts) (frames : List (Nat × Frame)) : List (Nat × Frame) :=
  distances 0 (frames.map fun f => (starts.position f.1, f.2))

end Frame

end StubLinker
