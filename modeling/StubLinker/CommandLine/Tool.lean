import StubLinker.Build.Directory
import StubLinker.Build.Jar
import StubLinker.CommandLine.Options
import StubLinker.Report.Scan

namespace StubLinker

-- what runs a tool counts slots in natural numbers; one that is too large for a word wraps
instance wordToNat : Coe UInt16 Nat :=
  ⟨UInt16.toNat⟩

instance natToWord : Coe Nat UInt16 :=
  ⟨Nat.toUInt16⟩

/-- What a tool leaves: its exit code, what it prints, its lines on the error stream, and the
disk. -/
structure Outcome where
  code : Nat
  printed : String := ""
  complaints : List String := []
  disk : Disk

namespace Outcome

/-- The outcome of a tool that fails, with its lines on the error stream. -/
def failed (disk : Disk) (complaints : List String) : Outcome :=
  { code := 1, complaints, disk }

end Outcome

namespace Linking

def usage : List String :=
  ["Usage: bytecoder [--incremental] [--include <regex>] [--config <file.json>] [--verbose] " ++
      "<input_dir> <output_dir>",
    "       bytecoder --jar [--include <regex>] [--config <file.json>] [--verbose] " ++
      "<input.jar> <output.jar>"]

/-- The settings in a file, or the defaults if there is no file. -/
def settings (disk : Disk) : Option String → Except String Settings
  | none => .ok {}
  | some path =>
    match disk.read path with
    | .error e => .error s!"cannot read config {path}: {e.message}"
    | .ok bytes =>
      match Bytes.toText? bytes with
      | none => .error s!"cannot read config {path}: {BuildError.stateNotText.message}"
      | some text =>
        match Settings.ofJson text with
        | .ok s => .ok s
        | .error _ => .error s!"invalid config {path}"

def summaryLine (s : Summary) (output : String) : String :=
  s!"{s.rewritten} rewritten, {s.copied} copied, {s.unchanged} unchanged, {s.removed} removed -> " ++
    s!"{output}\n"

def shownLines (verbose : Bool) (log : List LogLine) : List String :=
  (log.filter fun l => verbose || l.level = .warn).map LogLine.display

def build (o : Options) (b : Build) (disk : Disk) : Outcome :=
  let action := if o.jar then b.jar o.input o.output else b.directory o.input o.output o.incremental
  let (result, world) := action.run.run { disk }
  let lines := shownLines o.verbose world.log
  match result with
  | .ok s => { code := 0, printed := summaryLine s o.output, complaints := lines, disk := world.disk }
  | .error e => .failed world.disk (lines ++ [s!"Error: {e.message}", "Error: 1"])

def run (args : List String) (disk : Disk) : Outcome :=
  match Options.ofArguments args with
  | .error e => .failed disk (s!"Error: {e.message}" :: usage ++ ["Error: 1"])
  | .ok o =>
    match settings disk o.config with
    | .error message => .failed disk [s!"Error: {message}", "Error: 1"]
    | .ok s =>
      if !o.jar && !disk.hasFolder o.input then
        .failed disk [s!"Error: input directory does not exist: {o.input}", "Error: 1"]
      else build o ⟨s, o.filter⟩ disk

end Linking

namespace Reporting

/-- The inputs and the output file that arguments name; none if an output file is missing. -/
def arguments : List String → List String × Option String → Option (List String × Option String)
  | [], found => some found
  | ["-o"], _ => none
  | "-o" :: path :: rest, (inputs, _) => arguments rest (inputs, some path)
  | input :: rest, (inputs, output) => arguments rest (inputs ++ [input], output)

def usage (program : String) : String :=
  s!"Usage: {program} <classes-dir | file.class | file.jar>... [-o report.json]"

def run (program : String) (args : List String) (disk : Disk) : Outcome :=
  match arguments args ([], none) with
  | none => .failed disk ["Error: -o flag requires an output file path"]
  | some ([], _) => .failed disk [usage program]
  | some (inputs, output) =>
    match Report.ofInputs disk inputs with
    | .error e => .failed disk [s!"Error: {e.message}"]
    | .ok report =>
      let found := [s!"Found {report.count} stub methods."]
      match output with
      | none => { code := 0, printed := report.toJson ++ "\n", complaints := found, disk }
      | some path =>
        match disk.write path (Bytes.ofText report.toJson) with
        | .ok disk => { code := 0, complaints := found, disk }
        | .error e => .failed disk [s!"Error: {(ReportError.uncreated path e).message}"]

end Reporting

end StubLinker
