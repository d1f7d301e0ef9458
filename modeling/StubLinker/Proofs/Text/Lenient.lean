import StubLinker.Power
import StubLinker.Proofs.JavaType.Cursor
import StubLinker.Text.Lenient

namespace StubLinker.Text

variable {a b b' b'' m : UInt8} {n k : Nat} {rest : Bytes}

theorem toNat_ofNat (h : n < 256) : (UInt8.ofNat n).toNat = n := by
  rw [UInt8.toNat_ofNat']
  omega

theorem ofNat_lt (h : n < 256) : UInt8.ofNat n < m ↔ n < m.toNat := by
  rw [UInt8.lt_iff_toNat_lt, toNat_ofNat h]

theorem le_ofNat (h : n < 256) : m ≤ UInt8.ofNat n ↔ m.toNat ≤ n := by
  rw [UInt8.le_iff_toNat_le, toNat_ofNat h]

theorem toNat_and_mask (h : n < 256) (hm : m.toNat = 2 ^ k - 1) :
    (UInt8.ofNat n &&& m).toNat = n % 2 ^ k := by
  rw [UInt8.toNat_and, toNat_ofNat h, hm, Nat.and_two_pow_sub_one_eq_mod]

/-- A byte that continues a character, with six bits of its number. -/
def continuation (n : Nat) : UInt8 :=
  UInt8.ofNat (n % 64 + 128)

theorem toNat_continuation (n : Nat) : (continuation n).toNat = n % 64 + 128 :=
  toNat_ofNat (by omega)

theorem continues_continuation (n : Nat) : continues (continuation n) = true := by
  rw [continues, Bool.and_eq_true, decide_eq_true_eq, decide_eq_true_eq, UInt8.le_iff_toNat_le,
    UInt8.lt_iff_toNat_lt, toNat_continuation]
  simp
  omega

theorem toNat_continuation_and (n : Nat) : (continuation n &&& 0x3F).toNat = n % 64 := by
  rw [continuation, toNat_and_mask (k := 6) (by omega) rfl]
  omega

theorem lenientChars_one (h : a < 0x80) :
    lenientChars (a :: rest) = Char.ofNat a.toNat :: lenientChars rest := by
  rw [lenientChars.eq_def]
  dsimp only
  rw [if_pos h]

theorem lenientChars_two (hlow : 0xC2 ≤ a) (hhigh : a < 0xE0) (hb : continues b = true) :
    lenientChars (a :: b :: rest) = joined (a &&& 0x1F) [b] :: lenientChars rest := by
  have hone : ¬a < 0x80 := UInt8.not_lt.2 (UInt8.le_trans (by decide) hlow)
  rw [lenientChars.eq_def]
  dsimp only
  rw [if_neg hone, if_pos (by simp [hlow, hhigh]), if_pos hb]

theorem lenientChars_three (hlow : 0xE0 ≤ a) (hhigh : a < 0xF0) (hb : continuesThree a b = true)
    (hb' : continues b' = true) :
    lenientChars (a :: b :: b' :: rest) = joined (a &&& 0x0F) [b, b'] :: lenientChars rest := by
  have hone : ¬a < 0x80 := UInt8.not_lt.2 (UInt8.le_trans (by decide) hlow)
  have htwo : ¬a < 0xE0 := UInt8.not_lt.2 (UInt8.le_trans (by decide) hlow)
  rw [lenientChars.eq_def]
  dsimp only
  rw [if_neg hone, if_neg (by simp [htwo]), if_pos (by simp [hlow, hhigh]), if_neg (by simp [hb]),
    if_neg (by simp [hb'])]

theorem lenientChars_four (hlow : 0xF0 ≤ a) (hhigh : a < 0xF5) (hb : continuesFour a b = true)
    (hb' : continues b' = true) (hb'' : continues b'' = true) :
    lenientChars (a :: b :: b' :: b'' :: rest) =
      joined (a &&& 0x07) [b, b', b''] :: lenientChars rest := by
  have hone : ¬a < 0x80 := UInt8.not_lt.2 (UInt8.le_trans (by decide) hlow)
  have htwo : ¬a < 0xE0 := UInt8.not_lt.2 (UInt8.le_trans (by decide) hlow)
  have hthree : ¬a < 0xF0 := UInt8.not_lt.2 hlow
  rw [lenientChars.eq_def]
  dsimp only
  rw [if_neg hone, if_neg (by simp [htwo]), if_neg (by simp [hthree]), if_pos (by simp [hlow, hhigh]),
    if_neg (by simp [hb]), if_neg (by simp [hb']), if_neg (by simp [hb''])]

theorem ofNat_eq (h : n < 256) : UInt8.ofNat n = m ↔ n = m.toNat := by
  rw [← UInt8.toNat_inj, toNat_ofNat h]

theorem le_continuation : m ≤ continuation n ↔ m.toNat ≤ n % 64 + 128 := by
  rw [UInt8.le_iff_toNat_le, toNat_continuation]

theorem continuation_lt : continuation n < m ↔ n % 64 + 128 < m.toNat := by
  rw [UInt8.lt_iff_toNat_lt, toNat_continuation]

theorem continuesThree_of (hb : continues b = true) (hlow : a ≠ 0xE0 ∨ 0xA0 ≤ b)
    (hhigh : a ≠ 0xED ∨ b < 0xA0) : continuesThree a b = true := by
  simp [continuesThree, hb, hlow, hhigh]

theorem continuesFour_of (hb : continues b = true) (hlow : a ≠ 0xF0 ∨ 0x90 ≤ b)
    (hhigh : a ≠ 0xF4 ∨ b < 0x90) : continuesFour a b = true := by
  simp [continuesFour, hb, hlow, hhigh]

/-- The second byte of three is in its range: the number is not one that two bytes hold, and not one
of a surrogate. -/
theorem continuesThree_continuation (hlow : 2047 < n)
    (hvalid : n < 0xD800 ∨ 0xDFFF < n ∧ n ≤ 65535) :
    continuesThree (UInt8.ofNat (n / 4096 % 16 + 224)) (continuation (n / 64)) = true := by
  apply continuesThree_of (continues_continuation _)
  · rw [Ne, ofNat_eq (by omega), le_continuation]
    simp
    omega
  · rw [Ne, ofNat_eq (by omega), continuation_lt]
    simp
    omega

/-- The second byte of four is in its range: the number is not one that three bytes hold, and not
beyond the last character. -/
theorem continuesFour_continuation (hlow : 65535 < n) (hhigh : n < 0x110000) :
    continuesFour (UInt8.ofNat (n / 262144 % 8 + 240)) (continuation (n / 4096)) = true := by
  apply continuesFour_of (continues_continuation _)
  · rw [Ne, ofNat_eq (by omega), le_continuation]
    simp
    omega
  · rw [Ne, ofNat_eq (by omega), continuation_lt]
    simp
    omega

theorem lenientChars_encode (c : Char) (rest : Bytes) :
    lenientChars (String.utf8EncodeChar c ++ rest) = c :: lenientChars rest := by
  have hvalid : c.toNat < 0xD800 ∨ 0xDFFF < c.toNat ∧ c.toNat < 0x110000 := c.valid
  have hv : c.val.toNat = c.toNat := rfl
  rw [String.utf8EncodeChar.eq_1, hv]
  generalize hn : c.toNat = n at *
  have hc : Char.ofNat n = c := hn ▸ Char.ofNat_toNat c
  -- one case for each number of bytes
  by_cases hone : n ≤ 127
  · have hbyte : n < 256 := by omega
    rw [if_pos hone, List.singleton_append, lenientChars_one ((ofNat_lt hbyte).2 (by simp; omega)),
      toNat_ofNat hbyte, hc]
  rw [if_neg hone]
  by_cases htwo : n ≤ 2047
  · have hbyte : n / 64 % 32 + 192 < 256 := by omega
    have hfirst := toNat_and_mask (k := 5) hbyte (m := 0x1F) rfl
    rw [if_pos htwo, ← continuation, List.cons_append, List.singleton_append,
      lenientChars_two ((le_ofNat hbyte).2 (by simp; omega)) ((ofNat_lt hbyte).2 (by simp; omega))
        (continues_continuation n), ← hc]
    simp only [joined, List.foldl_cons, List.foldl_nil, toNat_continuation_and, hfirst]
    congr 2
    omega
  rw [if_neg htwo]
  by_cases hthree : n ≤ 65535
  · have hbyte : n / 4096 % 16 + 224 < 256 := by omega
    have hfirst := toNat_and_mask (k := 4) hbyte (m := 0x0F) rfl
    rw [if_pos hthree, ← continuation, ← continuation, List.cons_append, List.cons_append,
      List.singleton_append, lenientChars_three ((le_ofNat hbyte).2 (by simp))
        ((ofNat_lt hbyte).2 (by simp; omega)) (continuesThree_continuation (by omega) (by omega))
        (continues_continuation n), ← hc]
    simp only [joined, List.foldl_cons, List.foldl_nil, toNat_continuation_and, hfirst]
    congr 2
    omega
  · have hbyte : n / 262144 % 8 + 240 < 256 := by omega
    have hfirst := toNat_and_mask (k := 3) hbyte (m := 0x07) rfl
    rw [if_neg hthree, ← continuation, ← continuation, ← continuation, List.cons_append,
      List.cons_append, List.cons_append, List.singleton_append,
      lenientChars_four ((le_ofNat hbyte).2 (by simp)) ((ofNat_lt hbyte).2 (by simp; omega))
        (continuesFour_continuation (by omega) (by omega)) (continues_continuation _)
        (continues_continuation n), ← hc]
    simp only [joined, List.foldl_cons, List.foldl_nil, toNat_continuation_and, hfirst]
    congr 2
    omega

theorem lenient_ofText (s : String) : lenient (Bytes.ofText s) = s := by
  have hchars (cs : List Char) : lenientChars (cs.flatMap String.utf8EncodeChar) = cs := by
    induction cs with
    | nil => rfl
    | cons c cs ih => rw [List.flatMap_cons, lenientChars_encode, ih]
  rw [lenient, Bytes.ofText_eq, hchars, String.ofList_toList]

end StubLinker.Text
