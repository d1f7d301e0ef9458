import StubLinker.Proofs.JavaType.Cursor

namespace StubLinker

namespace Bytes

variable {c c' : Char}

/-- Two rows of bytes part before either ends, with the smaller byte in the first. -/
def PartsBelow (xs ys : Bytes) : Prop :=
  ∃ front x y rest rest', xs = front ++ x :: rest ∧ ys = front ++ y :: rest' ∧ x < y

theorem PartsBelow.append_lt {xs ys : Bytes} (h : PartsBelow xs ys) (more more' : Bytes) :
    xs ++ more < ys ++ more' := by
  obtain ⟨front, x, y, rest, rest', rfl, rfl, hlt⟩ := h
  rw [List.append_assoc, List.append_assoc]
  exact List.append_left_lt (List.cons_lt_cons_iff.2 (.inl hlt))

theorem partsBelow_head {x y : UInt8} {rest rest' : Bytes} (h : x < y) :
    PartsBelow (x :: rest) (y :: rest') :=
  ⟨[], x, y, rest, rest', rfl, rfl, h⟩

theorem PartsBelow.cons {xs ys : Bytes} (h : PartsBelow xs ys) (x : UInt8) :
    PartsBelow (x :: xs) (x :: ys) := by
  obtain ⟨front, y, z, rest, rest', rfl, rfl, hlt⟩ := h
  exact ⟨x :: front, y, z, rest, rest', rfl, rfl, hlt⟩

theorem ofNat_lt {m n : Nat} (h : m < n) (hn : n < 256) : UInt8.ofNat m < UInt8.ofNat n := by
  rw [UInt8.lt_iff_toNat_lt, UInt8.toNat_ofNat_of_lt' hn, UInt8.toNat_ofNat_of_lt' (by omega : m < 2 ^ 8)]
  exact h

theorem partsBelow_of_le {m n : Nat} {xs ys : Bytes} (hle : m ≤ n) (hn : n < 256)
    (h : m = n → PartsBelow xs ys) : PartsBelow (UInt8.ofNat m :: xs) (UInt8.ofNat n :: ys) := by
  rcases hle.lt_or_eq with hlt | rfl
  · exact partsBelow_head (ofNat_lt hlt hn)
  · exact (h rfl).cons _

theorem partsBelow_utf8EncodeChar (h : c < c') :
    PartsBelow (String.utf8EncodeChar c) (String.utf8EncodeChar c') := by
  have hlt : c.val.toNat < c'.val.toNat := UInt32.lt_iff_toNat_lt.1 (Char.lt_def.1 h)
  have hmax : c'.val.toNat < 1114112 := by
    rcases c'.valid with h | h <;> omega
  rw [String.utf8EncodeChar, String.utf8EncodeChar]
  generalize c.val.toNat = m at *
  generalize c'.val.toNat = n at *
  -- Fewer bytes have a smaller first byte, and as many bytes part at the first digit that differs.
  by_cases hm₁ : m ≤ 127
  · rw [if_pos hm₁]
    by_cases hn₁ : n ≤ 127
    · rw [if_pos hn₁]
      exact partsBelow_head (ofNat_lt hlt (by omega))
    rw [if_neg hn₁]
    repeat' split
    all_goals exact partsBelow_head (ofNat_lt (by omega) (by omega))
  rw [if_neg hm₁, if_neg (by omega : ¬n ≤ 127)]
  by_cases hm₂ : m ≤ 2047
  · rw [if_pos hm₂]
    by_cases hn₂ : n ≤ 2047
    · rw [if_pos hn₂]
      apply partsBelow_of_le (by omega) (by omega)
      intro hfirst
      exact partsBelow_head (ofNat_lt (by omega) (by omega))
    rw [if_neg hn₂]
    split
    all_goals exact partsBelow_head (ofNat_lt (by omega) (by omega))
  rw [if_neg hm₂, if_neg (by omega : ¬n ≤ 2047)]
  by_cases hm₃ : m ≤ 65535
  · rw [if_pos hm₃]
    by_cases hn₃ : n ≤ 65535
    · rw [if_pos hn₃]
      apply partsBelow_of_le (by omega) (by omega)
      intro hfirst
      apply partsBelow_of_le (by omega) (by omega)
      intro hsecond
      exact partsBelow_head (ofNat_lt (by omega) (by omega))
    rw [if_neg hn₃]
    exact partsBelow_head (ofNat_lt (by omega) (by omega))
  rw [if_neg hm₃, if_neg (by omega : ¬n ≤ 65535)]
  apply partsBelow_of_le (by omega) (by omega)
  intro hfirst
  apply partsBelow_of_le (by omega) (by omega)
  intro hsecond
  apply partsBelow_of_le (by omega) (by omega)
  intro hthird
  exact partsBelow_head (ofNat_lt (by omega) (by omega))

theorem flatMap_utf8EncodeChar_lt {cs cs' : List Char} (h : cs < cs') :
    cs.flatMap String.utf8EncodeChar < cs'.flatMap String.utf8EncodeChar := by
  induction cs generalizing cs' with
  | nil =>
    cases cs' with
    | nil => exact absurd h (List.lt_irrefl [])
    | cons c' cs' =>
      obtain ⟨b, bs, hb⟩ := List.exists_cons_of_ne_nil (String.utf8EncodeChar_ne_nil (c := c'))
      rw [List.flatMap_cons, hb]
      exact List.nil_lt_cons b _
  | cons c cs ih =>
    cases cs' with
    | nil => exact absurd h (List.not_lt_nil _)
    | cons c' cs' =>
      rw [List.flatMap_cons, List.flatMap_cons]
      rcases List.cons_lt_cons_iff.1 h with hlt | ⟨rfl, hlt⟩
      · exact (partsBelow_utf8EncodeChar hlt).append_lt _ _
      · exact List.append_left_lt (ih hlt)

theorem ofText_lt_of_lt {s t : String} (h : s < t) : ofText s < ofText t := by
  rw [ofText_eq, ofText_eq]
  exact flatMap_utf8EncodeChar_lt (String.lt_iff.1 h)

theorem ofText_lt_iff {s t : String} : ofText s < ofText t ↔ s < t := by
  constructor
  · intro h
    by_contra hnot
    by_cases heq : t = s
    · exact List.lt_irrefl _ (heq ▸ h)
    · have hlt : t < s := Std.lt_of_le_of_ne (String.not_lt.1 hnot) heq
      exact List.lt_asymm h (ofText_lt_of_lt hlt)
  · exact ofText_lt_of_lt

end Bytes

end StubLinker
