namespace StubLinker.Xz

/-- What is wrong with the data. -/
inductive Fault where
  | cut
  | otherFormat
  | unknownOption
  | damaged
  | tooLong
  deriving DecidableEq, Repr

def Fault.message : Fault → String
  | cut => "premature eof"
  | otherFormat => "stream/file format not recognized"
  | unknownOption => "invalid options"
  | damaged => "lzma data error"
  | tooLong => "corrupt xz stream"

end StubLinker.Xz
