import StubLinker.Text.Blank

namespace StubLinker

/-- Why a text is not the JSON of a value. -/
inductive JsonFault where
  | endOfText
  | malformed
  | mismatch
  deriving DecidableEq, Repr

namespace Json

def hexDigit (n : Nat) : Char :=
  if n < 10 then Char.ofNat (48 + n) else Char.ofNat (87 + n)

def hexValue? (c : Char) : Option Nat :=
  if '0' ≤ c && c ≤ '9' then some (c.toNat - 48)
  else if 'a' ≤ c && c ≤ 'f' then some (c.toNat - 87)
  else if 'A' ≤ c && c ≤ 'F' then some (c.toNat - 55)
  else none

def escape (c : Char) : List Char :=
  if c = '"' then ['\\', '"']
  else if c = '\\' then ['\\', '\\']
  else if c.toNat = 8 then ['\\', 'b']
  else if c.toNat = 9 then ['\\', 't']
  else if c.toNat = 10 then ['\\', 'n']
  else if c.toNat = 12 then ['\\', 'f']
  else if c.toNat = 13 then ['\\', 'r']
  else if c.toNat < 32 then
    ['\\', 'u', '0', '0', hexDigit (c.toNat / 16), hexDigit (c.toNat % 16)]
  else [c]

def quote (s : String) : String :=
  String.ofList ('"' :: (s.toList.flatMap escape ++ ['"']))

def escaped? (c : Char) : Option Char :=
  if c = '"' || c = '\\' || c = '/' then some c
  else if c = 'b' then some (Char.ofNat 8)
  else if c = 'f' then some (Char.ofNat 12)
  else if c = 'n' then some '\n'
  else if c = 'r' then some '\r'
  else if c = 't' then some '\t'
  else none

/-- Reads the four digits of a numeric escape. Fewer than four bytes are too few; four bytes that
are not four digits are malformed. -/
def readUnit (cs : List Char) : Except JsonFault (Nat × List Char) :=
  if Text.utf8Length (cs.take 4) < 4 then .error .endOfText
  else
    match (cs.take 4).mapM hexValue? with
    | some [a, b, c, d] => .ok (4096 * a + 256 * b + 16 * c + d, cs.drop 4)
    | _ => .error .malformed

def isHighSurrogate (n : Nat) : Bool :=
  0xD800 ≤ n && n < 0xDC00

def isLowSurrogate (n : Nat) : Bool :=
  0xDC00 ≤ n && n < 0xE000

def pairedChar (high low : Nat) : Char :=
  Char.ofNat (0x10000 + 0x400 * (high - 0xD800) + (low - 0xDC00))

def readLow (high : Nat) : List Char → Except JsonFault (Char × List Char)
  | [] => .error .endOfText
  | ['\\'] => .error .endOfText
  | '\\' :: 'u' :: cs => do
    let (low, rest) ← readUnit cs
    if isLowSurrogate low then .ok (pairedChar high low, rest) else .error .malformed
  | _ => .error .malformed

def readEscape : List Char → Except JsonFault (Char × List Char)
  | [] => .error .endOfText
  | 'u' :: cs => do
    let (unit, rest) ← readUnit cs
    if isLowSurrogate unit then .error .malformed
    else if isHighSurrogate unit then readLow unit rest
    else .ok (Char.ofNat unit, rest)
  | c :: cs =>
    match escaped? c with
    | some plain => .ok (plain, cs)
    | none => .error .malformed

def skipEscape : List Char → Except JsonFault (List Char)
  | [] => .error .endOfText
  | 'u' :: cs => (readUnit cs).map (·.2)
  | c :: cs => if (escaped? c).isSome then .ok cs else .error .malformed

theorem readUnit_length {cs rest : List Char} {n : Nat} (h : readUnit cs = .ok (n, rest)) :
    rest.length ≤ cs.length := by
  revert h
  fun_cases readUnit cs with
  | case1 => simp
  | case2 _ a b c d _ =>
    intro h
    simp at h
    simp [← h.2]
  | case3 => simp

theorem readLow_length {high : Nat} {cs rest : List Char} {c : Char}
    (h : readLow high cs = .ok (c, rest)) : rest.length ≤ cs.length := by
  unfold readLow at h
  split at h
  · cases h
  · cases h
  · rename_i tail
    cases hu : readUnit tail with
    | error e => simp [hu, bind, Except.bind] at h
    | ok p =>
      simp only [hu, bind, Except.bind] at h
      have hle : p.2.length ≤ tail.length := readUnit_length (n := p.1) hu
      split at h
      · simp only [Except.ok.injEq, Prod.mk.injEq] at h
        rw [← h.2, List.length_cons, List.length_cons]
        omega
      · cases h
  · cases h

theorem readEscape_length {cs rest : List Char} {c : Char} (h : readEscape cs = .ok (c, rest)) :
    rest.length ≤ cs.length := by
  unfold readEscape at h
  split at h
  · cases h
  · rename_i tail
    cases hu : readUnit tail with
    | error e => simp [hu, bind, Except.bind] at h
    | ok p =>
      simp only [hu, bind, Except.bind] at h
      have hle : p.2.length ≤ tail.length := readUnit_length (n := p.1) hu
      split at h
      · cases h
      · split at h
        · have := readLow_length h
          simp only [List.length_cons]
          omega
        · simp only [Except.ok.injEq, Prod.mk.injEq] at h
          rw [← h.2, List.length_cons]
          omega
  · split at h
    · cases h
      simp
    · cases h

theorem skipEscape_length {cs rest : List Char} (h : skipEscape cs = .ok rest) :
    rest.length ≤ cs.length := by
  unfold skipEscape at h
  split at h
  · cases h
  · rename_i tail
    cases hu : readUnit tail with
    | error e => simp [hu, Except.map] at h
    | ok p =>
      have hle : p.2.length ≤ tail.length := readUnit_length (n := p.1) hu
      simp only [hu, Except.map] at h
      cases h
      simp only [List.length_cons]
      omega
  · split at h
    · cases h
      simp
    · cases h

def readQuoted : List Char → Except JsonFault (List Char × List Char)
  | [] => .error .endOfText
  | c :: cs =>
    if c = '"' then .ok ([], cs)
    else if c = '\\' then
      match h : readEscape cs with
      | .error fault => .error fault
      | .ok (plain, rest) =>
        have : rest.length ≤ cs.length := readEscape_length h
        (readQuoted rest).map fun p => (plain :: p.1, p.2)
    else if c.toNat < 32 then .error .malformed
    else (readQuoted cs).map fun p => (c :: p.1, p.2)
termination_by cs => cs.length

def skipQuoted : List Char → Except JsonFault (List Char)
  | [] => .error .endOfText
  | c :: cs =>
    if c = '"' then .ok cs
    else if c = '\\' then
      match h : skipEscape cs with
      | .error fault => .error fault
      | .ok rest =>
        have : rest.length ≤ cs.length := skipEscape_length h
        skipQuoted rest
    else if c.toNat < 32 then .error .malformed
    else skipQuoted cs
termination_by cs => cs.length

end Json

end StubLinker
