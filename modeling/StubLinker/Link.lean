import StubLinker.ClassFile.Lowering
import StubLinker.Log

namespace StubLinker

/-- Why a class cannot be linked. -/
inductive LinkError where
  | stub (method : String) (fault : StubFault)
  | classFile (cause : ClassFileError)
  deriving DecidableEq, Repr

def LinkError.message : LinkError → String
  | stub method fault => fault.message method
  | classFile cause => "class file error: " ++ cause.message

namespace RawAnnotationUse

def resolveValue (pool : Pool) : RawValue → Except ClassFileError AnnotationValue
  | .text index => (pool.text index).map .text
  | .classLiteral index => (pool.text index).map .classLiteral
  | .other _ => .ok .other

def resolveElement (pool : Pool) (e : UInt16 × RawValue) :
    Except ClassFileError (String × AnnotationValue) := do
  let name ← pool.text e.1
  let value ← resolveValue pool e.2
  return (name, value)

def resolve (pool : Pool) (a : RawAnnotationUse) : Except ClassFileError AnnotationUse := do
  let type ← pool.text a.type
  let elements ← a.elements.mapM (resolveElement pool)
  return ⟨type, elements⟩

end RawAnnotationUse

/-- Two tables of annotations by position, joined; the shorter one lacks annotations. -/
def joinParameters : List (List AnnotationUse) → List (List AnnotationUse) → List (List AnnotationUse)
  | [], right => right
  | left, [] => left
  | l :: ls, r :: rs => (l ++ r) :: joinParameters ls rs

namespace Member

def readAnnotations (pool : Pool) (found : MethodAnnotations) :
    Attribute → Except ClassFileError MethodAnnotations
  | .annotations _ entries => do
    let entries ← entries.mapM (RawAnnotationUse.resolve pool)
    return { found with method := found.method ++ entries }
  | .parameterAnnotations _ parameters => do
    let parameters ← parameters.mapM fun entries => entries.mapM (RawAnnotationUse.resolve pool)
    return { found with parameters := joinParameters found.parameters parameters }
  | _ => .ok found

/-- The annotations on a method and on its parameters, in the order in which they are stored. -/
def annotations (pool : Pool) (m : Member) : Except ClassFileError MethodAnnotations :=
  m.attributes.foldlM (readAnnotations pool) {}

def exceptionsOf : Attribute → List UInt16
  | .exceptions _ classes => classes
  | _ => []

def failures (pool : Pool) (m : Member) : Except ClassFileError (List String) :=
  (m.attributes.flatMap exceptionsOf).mapM pool.className

end Member

/-- A method whose annotations make it a stub. -/
structure Stub where
  className : String
  name : String
  descriptor : String
  directive : Directive
  deriving DecidableEq, Repr

namespace Stub

def qualified (s : Stub) : String :=
  s!"{s.className}.{s.name}{s.descriptor}"

def ofMember (settings : Settings) (pool : Pool) (className : String) (m : Member) :
    Except LinkError (Option Stub) := do
  let name ← (pool.text m.name).mapError .classFile
  let descriptor ← (pool.text m.descriptor).mapError .classFile
  let annotations ← (m.annotations pool).mapError .classFile
  let method := s!"{className}.{name}{descriptor}"
  let directive ← (Directive.collect settings annotations).mapError (.stub method)
  return directive.map (⟨className, name, descriptor, ·⟩)

def body (settings : Settings) (pool : Pool) (m : Member) (s : Stub) : Except LinkError Body := do
  let descriptor ← (MethodDescriptor.ofText s.descriptor).mapError fun cause =>
    .stub s.qualified (.malformedDescriptor cause)
  let failures ← (m.failures pool).mapError .classFile
  let shape : Shape := ⟨m.access, descriptor, failures⟩
  let plan ← (shape.plan s.directive settings.linkFailure).mapError (.stub s.qualified)
  return plan.body

end Stub

/-- What linking a class has reached: its constants, and the log. -/
structure Linking where
  constants : SharedPool
  log : List LogLine := []

/-- A step of linking a class. One that fails leaves what was reached before. -/
abbrev Linker := ExceptT LinkError (StateM Linking)

namespace Linker

def report (message : String) : Linker Unit :=
  modify fun l => { l with log := l.log ++ [⟨.rewriter, .info, message⟩] }

def lowering {α : Type} (step : Lowering α) : Linker α := do
  let l ← get
  let (result, constants) := step.run.run l.constants
  set { l with constants }
  match result with
  | .ok a => pure a
  | .error e => throw (.classFile e)

end Linker

def Body.display (b : Body) : String :=
  let ops := "; ".intercalate (b.ops.map Op.display)
  s!"{ops} (max_stack {b.maxStack}, max_locals {b.maxLocals})"

namespace Member

def codeName? : List Attribute → Option UInt16
  | [] => none
  | .code name _ :: _ => some name
  | _ :: rest => codeName? rest

/-- The attributes with the first `Code` attribute replaced, or with one at the end. -/
def replaceCode (new : Attribute) : List Attribute → List Attribute
  | [] => [new]
  | .code _ _ :: rest => new :: rest
  | other :: rest => other :: replaceCode new rest

/-- The method with new code, which has neither handlers nor attributes. -/
def withBody (m : Member) (b : Body) (instructions : List Instruction) : Lowering Member := do
  let name ←
    match codeName? m.attributes with
    | some name => pure name
    | none => Lowering.add (.utf8 "Code")
  let code : Code := ⟨b.maxStack, b.maxLocals, instructions, [], []⟩
  return { m with attributes := replaceCode (.code name code) m.attributes }

def link (settings : Settings) (className : String) (m : Member) : Linker (Member × Bool) := do
  let pool := (← get).constants.pool
  match ← liftM (Stub.ofMember settings pool className m) with
  | none => return (m, false)
  | some stub =>
    let body ← liftM (stub.body settings pool m)
    Linker.report s!"{stub.qualified} -> {body.display}"
    let linked ← Linker.lowering do
      let instructions ← Lowering.lowerAll body.ops
      m.withBody body instructions
    return (linked, true)

def linkAll (settings : Settings) (className : String) : List Member → Linker (List (Member × Bool))
  | [] => pure []
  | m :: ms => do
    let linked ← m.link settings className
    let rest ← linkAll settings className ms
    pure (linked :: rest)

end Member

/-- A stub as reports show it. -/
structure StubSummary where
  className : String
  method : String
  descriptor : String
  operation : Operation
  target : Option String
  member : Option String
  parameterOverrides : List (Nat × String)
  returnOverride : Option String
  deriving DecidableEq, Repr

def Stub.summary (s : Stub) : StubSummary where
  className := s.className
  method := s.name
  descriptor := s.descriptor
  operation := s.directive.operation
  target := s.directive.target.map JavaType.display
  member := s.directive.member
  parameterOverrides := s.directive.parameterOverrides.map fun o => (o.1, o.2.display)
  returnOverride := s.directive.returnOverride.map JavaType.display

namespace ClassFile

def linker (settings : Settings) (c : ClassFile) : Linker ClassFile := do
  let className ← liftM (c.className.mapError LinkError.classFile)
  let methods ← Member.linkAll settings className c.methods
  let count := methods.countP (·.2)
  if 0 < count then Linker.report s!"Rewrote {count} stub method(s) in {className}"
  return { c with pool := (← get).constants.pool, methods := methods.map (·.1) }

/-- The class with its stubs linked, and what was logged even if linking failed. -/
def link (settings : Settings) (c : ClassFile) : Except LinkError ClassFile × List LogLine :=
  let (result, reached) := (c.linker settings).run.run ⟨{ pool := c.pool }, []⟩
  (result, reached.log)

/-- The bytes of a class with its stubs linked, and what was logged even if linking failed. -/
def linkBytes (settings : Settings) (bs : Bytes) : Except LinkError Bytes × List LogLine :=
  match read bs with
  | .error e => (.error (.classFile e), [])
  | .ok c =>
    let (result, log) := c.link settings
    (result.bind fun linked => linked.write.mapError .classFile, log)

def stubs (settings : Settings) (c : ClassFile) : Except LinkError (List Stub) := do
  let className ← c.className.mapError .classFile
  let found ← c.methods.mapM (Stub.ofMember settings c.pool className)
  return found.filterMap id

def summaries (settings : Settings) (bs : Bytes) : Except LinkError (List StubSummary) := do
  let c ← (read bs).mapError .classFile
  let stubs ← c.stubs settings
  return stubs.map Stub.summary

end ClassFile

end StubLinker
