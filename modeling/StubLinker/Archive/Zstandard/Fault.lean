namespace StubLinker.Zstandard

/-- What is wrong with a frame. -/
inductive Fault where
  | cut
  | unknownMark
  | unknownHeader
  | tooMuchMemory
  | otherDictionary
  | noTree
  | fewLiterals
  | noRoom
  | wrongSize
  | damaged
  | wrongChecksum
  deriving DecidableEq, Repr

def Fault.message : Fault → String
  | cut => "incomplete frame"
  | unknownMark => "Unknown frame descriptor"
  | unknownHeader => "Unsupported frame parameter"
  | tooMuchMemory => "Frame requires too much memory for decoding"
  | otherDictionary => "Dictionary mismatch"
  | noTree => "Dictionary is corrupted"
  | fewLiterals => "Header of Literals' block doesn't respect format specification"
  | noRoom => "Destination buffer is too small"
  | wrongSize => "Src size is incorrect"
  | damaged => "Data corruption detected"
  | wrongChecksum => "Restored data doesn't match checksum"

end StubLinker.Zstandard
