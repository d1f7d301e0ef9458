namespace StubLinker

/-- The part of a run that a line comes from. -/
inductive Channel where
  | rewriter
  | build
  deriving DecidableEq, Repr

def Channel.name : Channel → String
  | rewriter => "rewriter"
  | build => "build"

/-- How much attention a line asks for. -/
inductive Level where
  | info
  | warn
  deriving DecidableEq, Repr

def Level.name : Level → String
  | info => "Info"
  | warn => "Warn"

structure LogLine where
  channel : Channel
  level : Level
  message : String
  deriving DecidableEq, Repr

def LogLine.display (l : LogLine) : String :=
  s!"[{l.channel.name}/{l.level.name}] {l.message}"

end StubLinker
