import StubLinker.Archive.BlockSort
import StubLinker.Archive.DirectoryEnd
import StubLinker.Archive.InflateFar
import StubLinker.Archive.Lzma.Basic
import StubLinker.Archive.Record
import StubLinker.Archive.Xz.Stream
import StubLinker.Archive.Zstandard.Frame
import StubLinker.Keyed

namespace StubLinker

/-- An entry of an archive. -/
structure ArchiveEntry where
  name : String
  contents : Except ArchiveError Bytes

namespace ArchiveEntry

def isFolder (e : ArchiveEntry) : Bool :=
  e.name.toList.getLast? = some '/' || e.name.toList.getLast? = some '\\'

end ArchiveEntry

namespace Archive

/-- How the data of an entry is packed: as it is, deflated in the common or the far variant, sorted
in blocks, as symbols in the LZMA format, as frames in the Zstandard format, as blocks in the XZ
format, or in a way that only its password tells. -/
inductive Method where
  | stored
  | deflated
  | deflatedFar
  | sorted
  | chained
  | framed
  | streamed
  | enciphered
  deriving DecidableEq, Repr

def Method.ofNumber? : (number : Nat) → Option Method
  | 0 => some .stored
  | 8 => some .deflated
  | 9 => some .deflatedFar
  | 12 => some .sorted
  | 14 => some .chained
  | 93 => some .framed
  | 95 => some .streamed
  | 99 => some .enciphered
  | _ => none

/-- The contents of packed data. What is enciphered is not to be had without a password. -/
def Method.unpack (packed : Bytes) : Method → Except ArchiveError Bytes
  | stored => .ok packed
  | deflated => inflate packed
  | deflatedFar => inflateFar packed
  | sorted => unsortAll packed
  | chained => (Lzma.unpack packed).mapError .badSymbols
  | framed => (Zstandard.unpack packed).mapError .badFrames
  | streamed => (Xz.unpack packed).mapError .badBlocks
  | enciphered => .error .unknownMethod

/-- The contents of an entry, from its record in the directory and the bytes that it starts with. -/
def contentsOf (r : Record) (start : Bytes) : Except ArchiveError Bytes := do
  if r.isEncrypted then throw .locked
  if !entryMark.isPrefixOf start then throw .badEntry
  let some method := Method.ofNumber? r.method | throw .unknownMethod
  if r.hasCipher then throw .wrongPassword
  let data := start.drop (30 + field start 26 2 + field start 28 2)
  let contents ← method.unpack (data.take r.packedSize)
  if (crc32 contents).toNat ≠ r.checksum then throw .badChecksum
  return contents

/-- The entries of the directory that an end tells of; none if there is no such directory. Of
entries with one name the last one counts, in the place of the first. -/
def entriesOf (archive : Bytes) (e : DirectoryEnd) : Option (List ArchiveEntry) := do
  if !e.isConsistent then none
  let records ← Record.readAll e.base e.start e.count (archive.drop e.start)
  let distinct := Keyed.ofPairs (records.map fun r => (r.name, r))
  return distinct.map fun (name, r) => ⟨name, contentsOf r (archive.drop (e.base + r.offset))⟩

/-- The entries that the first of the ends at some positions leads to; `fault` is what was wrong
before. A cut end is the fault only if there was none. -/
def search (archive : Bytes) (fault : Option ArchiveError) :
    List Nat → Except ArchiveError (List ArchiveEntry)
  | [] => .error (fault.getD .noEnd)
  | position :: rest =>
    match DirectoryEnd.read archive position with
    | .error .cutEnd => search archive (some (fault.getD .cutEnd)) rest
    | .error .cutComment => search archive (some (fault.getD .cutComment)) rest
    | .error other => search archive (some other) rest
    | .ok found =>
      match entriesOf archive found with
      | some entries => .ok entries
      | none => search archive none rest

def read (bs : Bytes) : Except ArchiveError (List ArchiveEntry) :=
  search bs none (marksFrom endMark 0 [] bs)

end Archive

end StubLinker
