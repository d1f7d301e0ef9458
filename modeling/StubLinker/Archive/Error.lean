import StubLinker.Archive.Lzma.Fault
import StubLinker.Archive.Xz.Fault
import StubLinker.Archive.Zstandard.Fault

namespace StubLinker

/-- What is wrong with an archive or with one of its entries. A wide record is one for archives with
more or larger entries than the plain records can tell. -/
inductive ArchiveError where
  | noEnd
  | cutEnd
  | cutComment
  | badOffset
  | noRecord
  | badLocator
  | manyDisks
  | noWideEnd
  | cutWideEnd
  | shortWideEnd
  | longWideEnd
  | otherDisk
  | wrongLength
  | wrongCount
  | locked
  | wrongPassword
  | badEntry
  | unknownMethod
  | badData
  | cutData
  | badFarData
  | notSorted
  | badSorted
  | cutSorted
  | badSymbols (fault : Lzma.Fault)
  | badFrames (fault : Zstandard.Fault)
  | badBlocks (fault : Xz.Fault)
  | badChecksum
  deriving DecidableEq, Repr

namespace ArchiveError

/-- What is wrong, for a fault of the archive as a whole or of the place of an entry. -/
def invalid (what : String) : String :=
  "invalid Zip archive: " ++ what

def message : ArchiveError → String
  | noEnd => invalid "Could not find EOCD"
  | cutEnd => invalid "Unexpected end of zip::spec::Zip32CDEBlock"
  | cutComment => invalid "EOCD comment exceeds file boundary"
  | badOffset => invalid "Invalid CDFH offset in EOCD"
  | noRecord => invalid "No CDFH found"
  | badLocator => invalid "Invalid EOCD64 Locator CD offset"
  | manyDisks => invalid "Multi-disk ZIP files are not supported"
  | noWideEnd => invalid "Could not find EOCD64"
  | cutWideEnd => invalid "Unexpected end of zip::spec::Zip64CDEBlock"
  | shortWideEnd => invalid "Low EOCD64 record size"
  | longWideEnd => invalid "EOCD64 extends beyond EOCD64 locator"
  | otherDisk => invalid "Invalid EOCD64: inconsistency with Locator data"
  | wrongLength => invalid "Invalid EOCD64: inconsistent length"
  | wrongCount => invalid "Invalid EOCD64: inconsistent number of files"
  | locked => "unsupported Zip archive: Password required to decrypt file"
  | wrongPassword => "provided password is incorrect"
  | badEntry => invalid "Invalid local file header"
  | unknownMethod => "unsupported Zip archive: Compression method not supported"
  | badData => "corrupt deflate stream"
  | cutData => "incomplete deflate stream"
  | badFarData => "invalid deflate64"
  | notSorted => "bzip2: bz2 header missing"
  | badSorted => "bzip2: invalid data"
  | cutSorted => "decompression not finished but EOF reached"
  | badSymbols fault => fault.message
  | badFrames fault => fault.message
  | badBlocks fault => fault.message
  | badChecksum => "Invalid checksum"

/-- Whether the fault shows in the contents of an entry only, and not when the entry is opened. -/
def isInContents : ArchiveError → Bool
  | badData => true
  | cutData => true
  | badFarData => true
  | notSorted => true
  | badSorted => true
  | cutSorted => true
  | badSymbols _ => true
  | badFrames _ => true
  | badBlocks _ => true
  | badChecksum => true
  | _ => false

end ArchiveError

end StubLinker
