namespace StubLinker.Text

/-- The code points with the Unicode property `White_Space`, as inclusive ranges. -/
def blankRanges : List (Nat × Nat) :=
  [(0x9, 0xD), (0x20, 0x20), (0x85, 0x85), (0xA0, 0xA0), (0x1680, 0x1680), (0x2000, 0x200A),
    (0x2028, 0x2029), (0x202F, 0x202F), (0x205F, 0x205F), (0x3000, 0x3000)]

def isBlank (c : Char) : Bool :=
  blankRanges.any fun r => r.1 ≤ c.toNat && c.toNat ≤ r.2

def trimBlank (s : String) : String :=
  String.ofList ((s.toList.dropWhile isBlank).reverse.dropWhile isBlank).reverse

/-- Every character of the text that satisfies `p` replaced by `c`. -/
def replaceIf (p : Char → Bool) (c : Char) (s : String) : String :=
  String.ofList (s.toList.map fun x => if p x then c else x)

theorem toList_replaceIf (p : Char → Bool) (c : Char) (s : String) :
    (replaceIf p c s).toList = s.toList.map fun x => if p x then c else x := by
  simp [replaceIf]

def utf8Length (cs : List Char) : Nat :=
  (cs.map Char.utf8Size).foldr (· + ·) 0

end StubLinker.Text
