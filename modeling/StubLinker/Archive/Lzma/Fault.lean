namespace StubLinker.Lzma

/-- What is wrong with the data. -/
inductive Fault where
  | noShape (number : Nat)
  | beyondWindow (distance window : Nat)
  | beyondStart (distance size : Nat)
  | earlyStop
  | tooLong
  deriving DecidableEq, Repr

def Fault.ofSymbol (what : String) : String :=
  "LzmaError(\"" ++ what ++ "\")"

def Fault.message : Fault → String
  | noShape number => s!"LZMA header invalid properties: {number} must be < 225"
  | beyondWindow distance window =>
    ofSymbol s!"LZ distance {distance} is beyond dictionary size {window}"
  | beyondStart distance size => ofSymbol s!"LZ distance {distance} is beyond output size {size}"
  | earlyStop => ofSymbol "Found end-of-stream marker but more bytes are available"
  | tooLong => "failed to write whole buffer"

end StubLinker.Lzma
