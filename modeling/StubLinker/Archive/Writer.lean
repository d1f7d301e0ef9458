import StubLinker.Archive.Checksum
import StubLinker.Archive.Field

namespace StubLinker.Archive

/-- The part of a record that an entry and the directory share. -/
def header (name contents : Bytes) : Bytes :=
  toLittleEndian 20 2 ++ toLittleEndian (if name.all (· < 128) then 0 else 2048) 2 ++
    toLittleEndian 0 2 ++ toLittleEndian 0 2 ++ toLittleEndian 33 2 ++
    toLittleEndian (crc32 contents).toNat 4 ++ toLittleEndian contents.length 4 ++
    toLittleEndian contents.length 4 ++ toLittleEndian name.length 2 ++ toLittleEndian 0 2

def writeEntry (name contents : Bytes) : Bytes :=
  entryMark ++ header name contents ++ name ++ contents

def writeRecord (offset : Nat) (name contents : Bytes) : Bytes :=
  directoryMark ++ toLittleEndian 20 2 ++ header name contents ++ toLittleEndian 0 2 ++
    toLittleEndian 0 2 ++ toLittleEndian 0 2 ++ toLittleEndian 0 4 ++ toLittleEndian offset 4 ++ name

/-- The records of entries of which the first starts at an offset. -/
def writeDirectory (offset : Nat) : List (String × Bytes) → List Bytes
  | [] => []
  | (name, contents) :: rest =>
    let bytes := Bytes.ofText name
    writeRecord offset bytes contents ::
      writeDirectory (offset + (writeEntry bytes contents).length) rest

def write (entries : List (String × Bytes)) : Bytes :=
  let body := entries.flatMap fun e => writeEntry (Bytes.ofText e.1) e.2
  let directory := (writeDirectory 0 entries).flatten
  body ++ directory ++ endMark ++ toLittleEndian 0 2 ++ toLittleEndian 0 2 ++
    toLittleEndian entries.length 2 ++ toLittleEndian entries.length 2 ++
    toLittleEndian directory.length 4 ++ toLittleEndian body.length 4 ++ toLittleEndian 0 2

end StubLinker.Archive
