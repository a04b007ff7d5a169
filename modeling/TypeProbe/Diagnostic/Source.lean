import TypeProbe.Diagnostic

/-! # Where diagnostics come from

* A **`DiagnosticStore`** holds diagnostics that were computed ahead of time, by file.  A file
  that was never stored has none.  `get_insert` says that storing replaces the list of one file
  and leaves all others alone.
* A **`Source`** answers requests.  Requests are counted, so that a source may change its mind
  from one request to the next; `Source.after` is what is left of it when some requests have
  been answered.  A source that does not look at the count is steady. -/

namespace TypeProbe

/-- The diagnostics of files, the latest stored first. -/
structure DiagnosticStore where
  entries : List (FileId × List Diagnostic)

namespace DiagnosticStore

/-- No file has diagnostics. -/
def empty : DiagnosticStore := ⟨[]⟩

/-- The diagnostics of a file; none if the file was never stored. -/
def get (store : DiagnosticStore) (file : FileId) : List Diagnostic :=
  (store.entries.lookup file).getD []

/-- Replaces the diagnostics of a file. -/
def insert (store : DiagnosticStore) (file : FileId) (diagnostics : List Diagnostic) :
    DiagnosticStore :=
  ⟨(file, diagnostics) :: store.entries.filter (·.1 != file)⟩

theorem get_empty (file : FileId) : empty.get file = [] := rfl

theorem lookup_filter_ne (entries : List (FileId × List Diagnostic)) {file other : FileId}
    (h : other ≠ file) :
    (entries.filter (·.1 != file)).lookup other = entries.lookup other := by
  induction entries with
  | nil => rfl
  | cons e rest ih =>
    obtain ⟨key, value⟩ := e
    by_cases hk : key = file
    · subst hk
      simp [List.lookup_cons, ih, beq_false_of_ne h]
    · by_cases ho : other = key
      · subst ho; simp [hk]
      · simp [List.lookup_cons, hk, beq_false_of_ne ho, ih]

theorem get_insert (store : DiagnosticStore) (file other : FileId) (ds : List Diagnostic) :
    (store.insert file ds).get other = if other = file then ds else store.get other := by
  unfold get insert
  split
  · next h => subst h; simp
  · next h => simp [List.lookup_cons, beq_false_of_ne h, lookup_filter_ne _ h]

end DiagnosticStore

/-- The answers to requests for diagnostics, by the number of the request and the file. -/
structure Source where
  answer : Nat → FileId → List Diagnostic

namespace Source

/-- The source whose answers depend on the file alone. -/
def steady (diagnostics : FileId → List Diagnostic) : Source := ⟨fun _ file => diagnostics file⟩

/-- The source that answers from a store. -/
def ofStore (store : DiagnosticStore) : Source := steady store.get

/-- The source that answers with prepared lists in turn, and with nothing after the last. -/
def scripted (answers : List (List Diagnostic)) : Source := ⟨fun n _ => answers.getD n []⟩

/-- The source after `count` requests. -/
def after (source : Source) (count : Nat) : Source := ⟨fun n => source.answer (count + n)⟩

theorem after_zero (source : Source) : source.after 0 = source := by simp [after]

theorem after_after (source : Source) (m n : Nat) :
    (source.after m).after n = source.after (m + n) := by simp [after, Nat.add_assoc]

theorem steady_after (diagnostics : FileId → List Diagnostic) (n : Nat) :
    (steady diagnostics).after n = steady diagnostics := rfl

end Source

end TypeProbe
