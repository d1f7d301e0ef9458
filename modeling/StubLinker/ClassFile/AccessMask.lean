namespace StubLinker.AccessMask

def ofClass : UInt16 :=
  0xF631

def ofField : UInt16 :=
  0x50DF

/-- The flags of methods, which are also those of their parameters. -/
def ofMethod : UInt16 :=
  0x1DFF

def ofInnerClass : UInt16 :=
  0x761F

def ofModule : UInt16 :=
  0x9020

def ofRequirement : UInt16 :=
  0x9060

def ofExport : UInt16 :=
  0x9000

end StubLinker.AccessMask
