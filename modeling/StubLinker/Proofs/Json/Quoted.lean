import StubLinker.Json.Quoted

namespace StubLinker.Json

variable {c : Char} {cs rest s : List Char}

theorem readQuoted_close (rest : List Char) : readQuoted ('"' :: rest) = .ok ([], rest) := by
  rw [readQuoted, if_pos rfl]

theorem readQuoted_plain (hq : c ≠ '"') (hb : c ≠ '\\') (hc : ¬c.toNat < 32) :
    readQuoted (c :: cs) = (readQuoted cs).map fun p => (c :: p.1, p.2) := by
  rw [readQuoted, if_neg hq, if_neg hb, if_neg hc]

theorem readQuoted_escape (h : readEscape cs = .ok (c, rest)) :
    readQuoted ('\\' :: cs) = (readQuoted rest).map fun p => (c :: p.1, p.2) := by
  rw [readQuoted, if_neg (by decide), if_pos rfl]
  split
  · rename_i fault hf
    rw [h] at hf
    cases hf
  · rename_i plain rest' hr
    rw [h] at hr
    cases hr
    rfl

theorem hexValue?_hexDigit {n : Nat} (h : n < 16) : hexValue? (hexDigit n) = some n := by
  revert n
  decide

theorem utf8Size_hexDigit {n : Nat} (h : n < 16) : (hexDigit n).utf8Size = 1 := by
  revert n
  decide

theorem readUnit_control {n : Nat} (h : n < 32) (rest : List Char) :
    readUnit ('0' :: '0' :: hexDigit (n / 16) :: hexDigit (n % 16) :: rest) = .ok (n, rest) := by
  have hhigh : n / 16 < 16 := by omega
  have hlow : n % 16 < 16 := by omega
  have hzero : hexValue? '0' = some 0 := by decide
  have hsize : ('0' : Char).utf8Size = 1 := by decide
  have hlength : Text.utf8Length ['0', '0', hexDigit (n / 16), hexDigit (n % 16)] = 4 := by
    simp [Text.utf8Length, hsize, utf8Size_hexDigit hhigh, utf8Size_hexDigit hlow]
  have hvalues : ['0', '0', hexDigit (n / 16), hexDigit (n % 16)].mapM hexValue? =
      some [0, 0, n / 16, n % 16] := by
    simp [hzero, hexValue?_hexDigit hhigh, hexValue?_hexDigit hlow]
  have htake : ('0' :: '0' :: hexDigit (n / 16) :: hexDigit (n % 16) :: rest).take 4 =
      ['0', '0', hexDigit (n / 16), hexDigit (n % 16)] := rfl
  have hdrop : ('0' :: '0' :: hexDigit (n / 16) :: hexDigit (n % 16) :: rest).drop 4 = rest := rfl
  have hn : 4096 * 0 + 256 * 0 + 16 * (n / 16) + n % 16 = n := by omega
  rw [readUnit, htake, hdrop, hlength, if_neg (by decide), hvalues]
  dsimp only
  rw [hn]

theorem readEscape_control (hc : c.toNat < 32) (rest : List Char) :
    readEscape ('u' :: '0' :: '0' :: hexDigit (c.toNat / 16) :: hexDigit (c.toNat % 16) :: rest) =
      .ok (c, rest) := by
  have hlow : isLowSurrogate c.toNat = false := by
    simp [isLowSurrogate]
    omega
  have hhigh : isHighSurrogate c.toNat = false := by
    simp [isHighSurrogate]
    omega
  rw [readEscape, readUnit_control hc]
  simp only [bind, Except.bind, hlow, hhigh]
  rw [if_neg Bool.false_ne_true, if_neg Bool.false_ne_true, Char.ofNat_toNat]

theorem eq_ofNat {n : Nat} (h : c.toNat = n) : c = Char.ofNat n := by
  rw [← h, Char.ofNat_toNat]

theorem readQuoted_escape_append (c : Char) (rest : List Char) :
    readQuoted (escape c ++ rest) = (readQuoted rest).map fun p => (c :: p.1, p.2) := by
  unfold escape
  -- one case for each escape, and last the characters that stand as they are
  split
  · rename_i h
    subst h
    exact readQuoted_escape rfl
  rename_i hq
  split
  · rename_i h
    subst h
    exact readQuoted_escape rfl
  rename_i hb
  split
  · rename_i h
    rw [eq_ofNat h]
    exact readQuoted_escape rfl
  split
  · rename_i h
    rw [eq_ofNat h]
    exact readQuoted_escape rfl
  split
  · rename_i h
    rw [eq_ofNat h]
    exact readQuoted_escape rfl
  split
  · rename_i h
    rw [eq_ofNat h]
    exact readQuoted_escape rfl
  split
  · rename_i h
    rw [eq_ofNat h]
    exact readQuoted_escape rfl
  split
  · rename_i hc
    exact readQuoted_escape (readEscape_control hc rest)
  · rename_i hc
    exact readQuoted_plain hq hb hc

theorem readQuoted_flatMap_escape (s rest : List Char) :
    readQuoted (s.flatMap escape ++ '"' :: rest) = .ok (s, rest) := by
  induction s with
  | nil => exact readQuoted_close rest
  | cons c s ih =>
    rw [List.flatMap_cons, List.append_assoc, readQuoted_escape_append, ih]
    rfl

end StubLinker.Json
