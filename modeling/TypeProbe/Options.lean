import TypeProbe.Text.Inspect

/-! # Options of a pass -/

namespace TypeProbe

/-- What decides which calls are probes, and which files are looked at. -/
structure Options where
  /-- The name whose calls are probes, compared exactly. -/
  marker : String
  /-- Which files take part, by their name; without a filter, all of them. -/
  fileFilter : Option (String → Bool)

namespace Options

/-- Probes are calls of `tsst`, in every file. -/
def standard : Options := ⟨"tsst", none⟩

/-- Whether a file takes part. -/
def accepts (o : Options) (file : String) : Bool := o.fileFilter.all (· file)

/-- The options as logs show them; a filter has no content to show. -/
def inspect (o : Options) : String :=
  Inspect.record "ProbeOptions"
    [("marker", Inspect.text o.marker),
      ("file_filter", Inspect.option (fun _ => Inspect.text "..") o.fileFilter)]

end Options

end TypeProbe
