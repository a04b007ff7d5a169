import TypeProbe.Region
import TypeProbe.Text.Inspect

/-! # What a pass logs

A pass over a program logs events, each with a level, a message and named fields.  The pass over
a file logs them between entering and leaving a span that names the file. -/

namespace TypeProbe

/-- How much detail an event belongs to. -/
inductive Level where
  | debug
  | trace
deriving DecidableEq, Repr

/-- The level as it is logged. -/
def Level.name : Level → String
  | debug => "DEBUG"
  | trace => "TRACE"

/-- What happened. -/
inductive Event where
  /-- The file filter rejects the file. -/
  | skippedFile
  /-- A diagnostic has no usable position. -/
  | skippedDiagnostic (start length : Option UInt32)
  /-- A probe was given a body that reports this many findings. -/
  | resolvedProbe (region : Region) (findings : Nat)
  /-- All probes of a program were given their bodies, and this many of them fail. -/
  | resolvedProgram (probes failing : Nat)
deriving DecidableEq, Repr

namespace Event

def level : Event → Level
  | skippedDiagnostic .. => .trace
  | skippedFile | resolvedProbe .. | resolvedProgram .. => .debug

def message : Event → String
  | skippedFile => "skipped by file filter"
  | skippedDiagnostic .. => "skipping diagnostic without a usable position"
  | resolvedProbe .. => "rewrote probe"
  | resolvedProgram .. => "rewrote file"

/-- The fields of the event beside its message, with their values as text. -/
def fields : Event → List (String × String)
  | skippedFile => []
  | skippedDiagnostic start length =>
      [("start", Inspect.option Inspect.offset start),
        ("length", Inspect.option Inspect.offset length)]
  | resolvedProbe region findings =>
      [("start", Inspect.offset region.start), ("end", Inspect.offset region.stop),
        ("diagnostics", toString findings)]
  | resolvedProgram probes failing =>
      [("probes", toString probes), ("failing", toString failing)]

end Event

/-- The span that the events of a file lie in. -/
structure Span where
  file : String
  id : FileId
deriving DecidableEq, Repr

namespace Span

/-- What spans around a file are called. -/
def name : String := "probe_rewrite"

def level : Level := .debug

/-- The fields of the span, with their values as text. -/
def fields (s : Span) : List (String × String) :=
  [("file", s.file), ("id", Inspect.offset s.id.number)]

end Span

/-- A line of the log. -/
inductive LogEntry where
  | enter (span : Span)
  | event (event : Event)
  | exit
deriving DecidableEq, Repr

end TypeProbe
