import TypeProbe.Attribution
import TypeProbe.Diagnostic.Source
import TypeProbe.Finding
import TypeProbe.Options
import TypeProbe.Probe

/-! # Resolving probes

Resolving a probe replaces the body of the probed function by one that reports the findings in
its region.  A pass resolves every probe of a program, inner probes before outer ones, and
changes nothing else.

* **Requests.** The pass asks the source once for each probe, always for the file at hand.
* **Log.** For each probe, the pass logs the diagnostics without a usable position and then the
  probe itself; after the last probe it logs how many there were, and how many of them fail. -/

namespace TypeProbe

/-- What a pass has done so far. -/
structure Progress where
  requests : List FileId
  probes : Nat
  failing : Nat
  events : List Event

/-- Nothing has been done. -/
def Progress.start : Progress := ⟨[], 0, 0, []⟩

/-- The steps of a pass. -/
abbrev Pass := StateM Progress

namespace Pass

/-- Requests the diagnostics of a file. -/
def ask (source : Source) (file : FileId) : Pass (List Diagnostic) := fun p =>
  (source.answer p.requests.length file, { p with requests := p.requests ++ [file] })

/-- Logs events. -/
def log (events : List Event) : Pass Unit :=
  modify fun p => { p with events := p.events ++ events }

/-- Counts a probe. -/
def count (fails : Bool) : Pass Unit :=
  modify fun p =>
    { p with probes := p.probes + 1, failing := if fails then p.failing + 1 else p.failing }

/-- Gives a probed function the body that reports what its region holds. -/
def resolve (source : Source) (file : FileId) (f : Func) : Pass Func := do
  let region := Region.ofBody f.body
  let answer ← ask source file
  let attribution := region.gather answer
  log attribution.events
  let findings := Finding.ofDiagnostics attribution.selected
  log [.resolvedProbe region findings.length]
  count (!findings.isEmpty)
  return { f with body := Finding.body f.body.loc findings }

/-- Resolves a call that is a probe, and leaves any other as it is. -/
def resolveCall (marker : String) (source : Source) (file : FileId) (c : Call) : Pass Call :=
  match c.probe? marker with
  | none => return c
  | some f => return c.withProbe (← resolve source file f)

end Pass

/-- What comes of a pass over a program. -/
structure Resolution where
  program : Program
  requests : List FileId
  events : List Event

/-- Resolves every probe of a program. -/
def Program.resolve (marker : String) (source : Source) (file : FileId) (p : Program) :
    Resolution :=
  let (program, done) := (p.mapCallsM (Pass.resolveCall marker source file)).run .start
  ⟨program, done.requests, done.events ++ [.resolvedProgram done.probes done.failing]⟩

/-- A checked file. -/
structure SourceFile where
  id : FileId
  name : String
  program : Program

namespace SourceFile

/-- What comes of a pass over a file. -/
structure Resolution where
  file : SourceFile
  requests : List FileId
  log : List LogEntry

/-- Resolves every probe of a file, if the options accept the file; if not, the file comes back
as it is and nothing is requested. -/
def resolve (options : Options) (source : Source) (file : SourceFile) : Resolution :=
  let inSpan (events : List Event) : List LogEntry :=
    .enter ⟨file.name, file.id⟩ :: (events.map .event ++ [.exit])
  if options.accepts file.name then
    let done := file.program.resolve options.marker source file.id
    ⟨{ file with program := done.program }, done.requests, inSpan done.events⟩
  else
    ⟨file, [], inSpan [.skippedFile]⟩

end SourceFile

end TypeProbe
