import StubLinker.Pattern.Filter

namespace StubLinker

/-- What the linking tool is asked to do. -/
structure Options where
  input : String
  output : String
  jar : Bool
  incremental : Bool
  filter : Option PathFilter
  config : Option String
  verbose : Bool

/-- Why arguments make no sense. -/
inductive OptionsError where
  | missingPattern
  | badPattern (cause : Pattern.Fault)
  | missingConfig
  | unknownFlag (flag : String)
  | incrementalJar
  | wrongPaths
  deriving DecidableEq, Repr

def OptionsError.message : OptionsError → String
  | missingPattern => "--include flag requires a regular expression"
  | badPattern cause => s!"invalid --include pattern: {cause.message}"
  | missingConfig => "--config flag requires a path"
  | unknownFlag flag => s!"unknown flag: {flag}"
  | incrementalJar => "--incremental only applies to directory builds"
  | wrongPaths => "expected exactly one input and one output path"

namespace Options

/-- What the arguments have said so far; the paths from the last one back. -/
structure Given where
  paths : List String := []
  jar : Bool := false
  incremental : Bool := false
  filter : Option PathFilter := none
  config : Option String := none
  verbose : Bool := false

/-- Takes in arguments. Of a flag with a value that is given twice the last value counts. -/
def take : List String → Given → Except OptionsError Given
  | [], g => .ok g
  | "--jar" :: rest, g => take rest { g with jar := true }
  | "--incremental" :: rest, g => take rest { g with incremental := true }
  | "--verbose" :: rest, g => take rest { g with verbose := true }
  | "-v" :: rest, g => take rest { g with verbose := true }
  | ["--include"], _ => .error .missingPattern
  | "--include" :: pattern :: rest, g =>
    match PathFilter.ofText pattern with
    | .error cause => .error (.badPattern cause)
    | .ok filter => take rest { g with filter := some filter }
  | ["--config"], _ => .error .missingConfig
  | "--config" :: path :: rest, g => take rest { g with config := some path }
  | arg :: rest, g =>
    if arg.toList.head? = some '-' then .error (.unknownFlag arg)
    else take rest { g with paths := arg :: g.paths }

def ofArguments (args : List String) : Except OptionsError Options := do
  let g ← take args {}
  if g.jar && g.incremental then throw .incrementalJar
  match g.paths with
  | [output, input] => return ⟨input, output, g.jar, g.incremental, g.filter, g.config, g.verbose⟩
  | _ => throw .wrongPaths

end Options

end StubLinker
