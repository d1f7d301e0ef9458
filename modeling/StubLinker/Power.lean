namespace StubLinker

@[default_instance high]
instance (priority := high) powNat : Pow Nat Nat :=
  instPowNat

end StubLinker
