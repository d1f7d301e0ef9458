import StubLinker.Archive.Error
import StubLinker.Archive.Field

namespace StubLinker.Archive

/-- What the end of an archive says: how many bytes lie before the archive, the offset of the
directory, the number of its records, and whether the numbers agree with each other. -/
structure DirectoryEnd where
  base : Nat
  offset : Nat
  count : Nat
  isConsistent : Bool
  deriving DecidableEq, Repr

namespace DirectoryEnd

def start (e : DirectoryEnd) : Nat :=
  e.base + e.offset

/-- What a plain record at a position says. The first record of an entry behind the offset is taken
for the first of the directory. -/
def ofPlain (archive record : Bytes) (position : Nat) : Except ArchiveError DirectoryEnd := do
  let offset := field record 16 4
  let count := field record 8 2
  let isConsistent := field record 4 2 = field record 6 2
  if field record 10 2 = 0 then return ⟨position - offset, offset, count, isConsistent⟩
  if position ≤ offset then throw .badOffset
  match marksBetween directoryMark offset position archive with
  | found :: _ => return ⟨found - offset, offset, count, isConsistent⟩
  | [] => throw .noRecord

/-- What a wide record at a position says, given the locator behind it and the position of that. -/
def ofWide (archive locator : Bytes) (position locatorPosition : Nat) :
    Except ArchiveError DirectoryEnd := do
  let some (record, _) := split? 56 (archive.drop position) | throw .cutWideEnd
  let length := field record 4 8
  if length < 44 then throw .shortWideEnd
  if locatorPosition - position < length + 12 then throw .longWideEnd
  if field record 20 4 ≠ field locator 4 4 then throw .otherDisk
  if length + 12 ≠ locatorPosition - position then throw .wrongLength
  let count := field record 32 8
  let offset := field record 48 8
  if position < count * 46 + offset then throw .wrongCount
  let isConsistent := field record 24 8 ≤ count && field record 14 2 ≤ field record 12 2 &&
    field record 16 4 = field record 20 4
  return ⟨position - field locator 8 8, offset, count, isConsistent⟩

/-- What the first wide record at one of the positions says that makes sense; `fault` is what was
wrong before. -/
def firstWide (archive locator : Bytes) (locatorPosition : Nat) (fault : ArchiveError) :
    List Nat → Except ArchiveError DirectoryEnd
  | [] => .error fault
  | position :: rest =>
    match ofWide archive locator position locatorPosition with
    | .ok found => .ok found
    | .error fault => firstWide archive locator locatorPosition fault rest

/-- What the wide record says that a locator at a position points to. -/
def ofLocator (archive locator : Bytes) (position : Nat) : Except ArchiveError DirectoryEnd := do
  let offset := field locator 8 8
  if position ≤ offset then throw .badLocator
  if 1 < field locator 16 4 then throw .manyDisks
  firstWide archive locator position .noWideEnd (marksBetween wideEndMark offset position archive)

def locator? (archive : Bytes) (position : Nat) : Option Bytes :=
  let locator := (archive.drop (position - 20)).take 20
  if 20 ≤ position && locatorMark.isPrefixOf locator then some locator else none

/-- What the end record at a position says. A locator counts only if the plain record has a number
at its limit. -/
def read (archive : Bytes) (position : Nat) : Except ArchiveError DirectoryEnd := do
  let some (record, rest) := split? 22 (archive.drop position) | throw .cutEnd
  if (split? (field record 20 2) rest).isNone then throw .cutComment
  let isLimited := field record 10 2 = 0xFFFF || field record 16 4 = 0xFFFFFFFF
  match if isLimited then locator? archive position else none with
  | some locator => ofLocator archive locator (position - 20)
  | none => ofPlain archive record position

end DirectoryEnd

end StubLinker.Archive
