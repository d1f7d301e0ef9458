import StubLinker.JavaType.Basic

namespace StubLinker

/-- Why a text is not the name or the descriptor of a type. -/
inductive DescriptorError where
  | empty
  | invalidClassName (name : String)
  | unexpectedCharacter (descriptor : String) (offset : Nat) (found : Char)
  | unterminated (descriptor : String)
  | trailing (descriptor : String)
  | misplacedVoid (descriptor : String)
  deriving DecidableEq, Repr

def DescriptorError.message : DescriptorError → String
  | empty => "empty type name"
  | invalidClassName name => s!"`{name}` is not a valid class name"
  | unexpectedCharacter descriptor offset found =>
    s!"unexpected character `{found}` at offset {offset} in `{descriptor}`"
  | unterminated descriptor => s!"unterminated descriptor `{descriptor}`"
  | trailing descriptor => s!"trailing characters in descriptor `{descriptor}`"
  | misplacedVoid descriptor => s!"void is not allowed in `{descriptor}`"

namespace JavaType

def readClass (whole : String) (cs : List Char) : Except DescriptorError (JavaType × List Char) :=
  let name := String.ofList (cs.takeWhile (· != ';'))
  match cs.dropWhile (· != ';') with
  | [] => .error (.unterminated whole)
  | _ :: rest =>
    if ClassName.isValid name then .ok (.object name, rest) else .error (.invalidClassName name)

/-- Reads one type from the front of the characters that are left of the descriptor `whole`. -/
def read (whole : String) : List Char → Except DescriptorError (JavaType × List Char)
  | [] => .error (.unterminated whole)
  | c :: cs =>
    if c = 'V' then .ok (.void, cs)
    else if c = 'L' then readClass whole cs
    else if c = '[' then
      match read whole cs with
      | .error e => .error e
      | .ok (component, rest) =>
        if component = .void then .error (.misplacedVoid whole) else .ok (.array component, rest)
    else
      match Primitive.ofLetter? c with
      | some p => .ok (.primitive p, cs)
      | none =>
        .error (.unexpectedCharacter whole (whole.utf8ByteSize - Text.utf8Length (c :: cs)) c)

theorem readClass_length {whole : String} {cs rest : List Char} {t : JavaType}
    (h : readClass whole cs = .ok (t, rest)) : rest.length < cs.length := by
  have hle : (cs.dropWhile (· != ';')).length ≤ cs.length := List.dropWhile_sublist _ |>.length_le
  revert h hle
  unfold readClass
  cases hd : cs.dropWhile (· != ';') with
  | nil => simp
  | cons c tail =>
    simp only [List.length_cons]
    split
    · rintro h hle
      cases h
      omega
    · simp

theorem read_length {whole : String} {cs rest : List Char} {t : JavaType}
    (h : read whole cs = .ok (t, rest)) : rest.length < cs.length := by
  induction cs generalizing t rest with
  | nil => simp [read] at h
  | cons c cs ih =>
    unfold read at h
    split at h
    · cases h
      simp
    split at h
    · have := readClass_length h
      simp only [List.length_cons]
      omega
    split at h
    · split at h
      · cases h
      · rename_i hr
        split at h
        · cases h
        · cases h
          have := ih hr
          simp only [List.length_cons]
          omega
    · split at h
      · cases h
        simp
      · cases h

def ofDescriptor (descriptor : String) : Except DescriptorError JavaType :=
  if descriptor.isEmpty then .error .empty
  else
    match read descriptor descriptor.toList with
    | .error e => .error e
    | .ok (t, []) => .ok t
    | .ok (_, _ :: _) => .error (.trailing descriptor)

/-- The type that source text names: a keyword, an array in descriptor form with `.` or `/` in its
class name, or a class name. White space around the name does not count. -/
def ofSource (name : String) : Except DescriptorError JavaType :=
  let name := Text.trimBlank name
  if name.isEmpty then .error .empty
  else if name = "void" then .ok .void
  else
    match Primitive.ofKeyword? name with
    | some p => .ok (.primitive p)
    | none =>
      if name.toList.head? = some '[' then ofDescriptor (ClassName.internal name)
      else if ClassName.isValid name then .ok (.object (ClassName.internal name))
      else .error (.invalidClassName name)

end JavaType

/-- The parameter types and the return type of a method. -/
structure MethodDescriptor where
  parameters : List JavaType
  returns : JavaType
  deriving DecidableEq, Repr

namespace MethodDescriptor

/-- The descriptor's text: the parameters in parentheses, then the return type. -/
def display (d : MethodDescriptor) : String :=
  String.ofList ('(' :: (d.parameters.flatMap JavaType.descriptorChars ++ ')' ::
    d.returns.descriptorChars))

def parameterSlots (d : MethodDescriptor) : UInt16 :=
  (d.parameters.map JavaType.slots).foldl (· + ·) 0

def readParameters (whole : String) (cs : List Char) :
    Except DescriptorError (List JavaType × List Char) :=
  match cs with
  | [] => .error (.unterminated whole)
  | c :: tail =>
    if c = ')' then .ok ([], tail)
    else
      match _h : JavaType.read whole (c :: tail) with
      | .error e => .error e
      | .ok (t, rest) =>
        if t = .void then .error (.misplacedVoid whole)
        else
          match readParameters whole rest with
          | .error e => .error e
          | .ok (ts, rest') => .ok (t :: ts, rest')
termination_by cs.length
decreasing_by exact JavaType.read_length ‹_›

def ofText (text : String) : Except DescriptorError MethodDescriptor :=
  match text.toList with
  | '(' :: cs =>
    match readParameters text cs with
    | .error e => .error e
    | .ok (parameters, rest) =>
      match JavaType.read text rest with
      | .error e => .error e
      | .ok (returns, []) => .ok ⟨parameters, returns⟩
      | .ok (_, _ :: _) => .error (.trailing text)
  | cs => .error (.unexpectedCharacter text 0 (cs.head?.getD '?'))

end MethodDescriptor

end StubLinker
