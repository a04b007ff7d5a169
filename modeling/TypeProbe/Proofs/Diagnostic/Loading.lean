import TypeProbe.Diagnostic.Host
import TypeProbe.Proofs.Json.Records

/-! # Loading what the host writes

The host has some freedom in how it writes a list of diagnostics (`WritesDiagnostics`): the fields
of a record stand in any order, what is not known is null or left out, and so are the category of
an error and the links of a message that has none.

**Whatever the host writes is loaded as it was** (`DiagnosticStore.load_written`), as long as its
JSON nests no more than 127 arrays and objects. -/

namespace TypeProbe

namespace Diagnostic.Host

open Json

/-! ### What the host writes -/

/-- A number that may be unknown, and what its field holds. -/
inductive WritesNumber : Option UInt32 → Option Json → Prop
  | leftOut : WritesNumber none none
  | null : WritesNumber none (some .null)
  | known (n : UInt32) : WritesNumber (some n) (some (.number (.ofNat n.toNat)))

/-- A category, and what its field holds. -/
inductive WritesCategory : Category → Option Json → Prop
  | leftOut : WritesCategory .error none
  | named (c : Category) : WritesCategory c (some (.string (some c.name)))

mutual

/-- A chained message, and the record it is written as. -/
inductive WritesChain : MessageChain → Json → Prop
  | record {text : String} {code : Option UInt32} {category : Category} {next : List MessageChain}
      {codeField categoryField nextField : Option Json} {fields : List (Option String × Json)} :
      WritesNumber code codeField → WritesCategory category categoryField →
      WritesLinks next nextField →
      fields.Perm (slots [("messageText", some (.string (some text))), ("code", codeField),
        ("category", categoryField), ("next", nextField)]) →
      WritesChain ⟨text, code, category, next⟩ (.object fields)

/-- The links of a message, and what their field holds. -/
inductive WritesLinks : List MessageChain → Option Json → Prop
  | leftOut : WritesLinks [] none
  | listed {next : List MessageChain} {items : List Json} :
      WritesChains next items → WritesLinks next (some (.array items))

/-- Chained messages, and the records they are written as. -/
inductive WritesChains : List MessageChain → List Json → Prop
  | nil : WritesChains [] []
  | cons {c : MessageChain} {next : List MessageChain} {j : Json} {items : List Json} :
      WritesChain c j → WritesChains next items → WritesChains (c :: next) (j :: items)

end

/-- A message, and how it is written. -/
inductive WritesMessage : Message → Json → Prop
  | text (s : String) : WritesMessage (.text s) (.string (some s))
  | chain {c : MessageChain} {j : Json} : WritesChain c j → WritesMessage (.chain c) j

/-- A diagnostic, and the record it is written as. -/
inductive WritesDiagnostic : Diagnostic → Json → Prop
  | record {start length code : Option UInt32} {message : Message} {category : Category}
      {startField lengthField codeField categoryField : Option Json} {messageField : Json}
      {fields : List (Option String × Json)} :
      WritesNumber start startField → WritesNumber length lengthField →
      WritesMessage message messageField → WritesNumber code codeField →
      WritesCategory category categoryField →
      fields.Perm (slots [("start", startField), ("length", lengthField),
        ("messageText", some messageField), ("code", codeField), ("category", categoryField)]) →
      WritesDiagnostic ⟨start, length, message, code, category⟩ (.object fields)

/-- A list of diagnostics, and the array it is written as. -/
inductive WritesDiagnostics : List Diagnostic → Json → Prop
  | array {ds : List Diagnostic} {items : List Json} :
      List.Forall₂ WritesDiagnostic ds items → WritesDiagnostics ds (.array items)

/-! ### Fields -/

theorem number?_of_writes {n : Option UInt32} {field : Option Json} (h : WritesNumber n field) :
    number? field = some n := by
  cases h with
  | leftOut | null => rfl
  | known n =>
      have hlt : n.toNat < 0x100000000 := n.toNat_lt
      have hback : n.toNat.toUInt32 = n := UInt32.ofNat_toNat
      have hread : number? (some (.number (.ofNat n.toNat))) =
          (Json.Number.ofNat n.toNat).toNat?.bind fun m =>
            if m < 0x100000000 then some (some m.toUInt32) else none := rfl
      rw [hread, toNat?_ofNat, Option.bind_some, if_pos hlt, hback]

theorem category?_of_writes {c : Category} {field : Option Json} (h : WritesCategory c field) :
    category? field = some c := by
  cases h with
  | leftOut => rfl
  | named c => exact Category.ofName?_name c

theorem isKept_of_writesNumber {n : Option UInt32} {j : Json} (h : WritesNumber n (some j))
    (levels : Nat) : j.isKept levels = true := by
  cases h with
  | null => rfl
  | known n =>
      have hsmall : (Json.Number.ofNat n.toNat).isTooLarge = false := not_isTooLarge n.toNat_lt
      show (!(Json.Number.ofNat n.toNat).isTooLarge) = true
      rw [hsmall]
      rfl

theorem isKept_of_writesCategory {c : Category} {j : Json} (h : WritesCategory c (some j))
    (levels : Nat) : j.isKept levels = true := by
  cases h with
  | named c => rfl

/-! ### Chains -/

mutual

/-- A chain that nests no deeper than allowed is kept. -/
theorem isKept_of_writesChain {c : MessageChain} {j : Json} : WritesChain c j →
    ∀ {levels : Nat}, j.depth ≤ levels → j.isKept levels = true
  | .record hcode hcategory hlinks hfields, levels, hdepth => by
      obtain ⟨below, rfl⟩ := Nat.exists_eq_succ_of_ne_zero (Nat.ne_zero_of_lt hdepth)
      refine isKept_of_perm hfields fun name j hmem => ?_
      have hj : j.depth ≤ below := depth_of_perm hfields hdepth name hmem
      simp only [List.mem_cons, List.not_mem_nil, or_false, Prod.mk.injEq] at hmem
      rcases hmem with ⟨_, hj⟩ | ⟨_, rfl⟩ | ⟨_, rfl⟩ | ⟨_, rfl⟩
      · obtain rfl := Option.some.inj hj
        rfl
      · exact isKept_of_writesNumber hcode below
      · exact isKept_of_writesCategory hcategory below
      · exact isKept_of_writesLinks hlinks hj

theorem isKept_of_writesLinks {next : List MessageChain} {j : Json} :
    WritesLinks next (some j) → ∀ {levels : Nat}, j.depth ≤ levels → j.isKept levels = true
  | .listed hchains, levels, hdepth => by
      obtain ⟨below, rfl⟩ := Nat.exists_eq_succ_of_ne_zero (Nat.ne_zero_of_lt hdepth)
      exact isKept_of_mem (isKept_of_writesChains hchains (depth_of_mem hdepth))

theorem isKept_of_writesChains {next : List MessageChain} {items : List Json} :
    WritesChains next items → ∀ {levels : Nat}, (∀ j ∈ items, j.depth ≤ levels) →
      ∀ j ∈ items, j.isKept levels = true
  | .nil, _, _ => nofun
  | .cons hfirst hrest, levels, hdepth => by
      obtain ⟨hj, hitems⟩ := List.forall_mem_cons.mp hdepth
      exact List.forall_mem_cons.mpr
        ⟨isKept_of_writesChain hfirst hj, isKept_of_writesChains hrest hitems⟩

end

mutual

/-- **A chain is read as it was.** -/
theorem chain?_of_writes {c : MessageChain} {j : Json} : WritesChain c j →
    ∀ {levels : Nat}, j.depth ≤ levels → chain? levels j = some c
  | @WritesChain.record text code category next codeField categoryField nextField fields hcode
      hcategory hlinks hfields, levels, hdepth => by
      obtain ⟨below, rfl⟩ := Nat.exists_eq_succ_of_ne_zero (Nat.ne_zero_of_lt hdepth)
      have hnames : ["messageText", "code", "category", "next"].Nodup := by decide
      have hrecord : (Json.object fields).record? ["messageText", "code", "category", "next"] =
          some [some (.string (some text)), codeField, categoryField, nextField] :=
        @record?_of_perm [(_, _), (_, _), (_, _), (_, _)] _ hnames hfields
      have hnext : links? (chain? below) nextField = some next := by
        apply links?_of_writes hlinks
        rintro j rfl
        exact depth_of_perm hfields hdepth "next" (by simp)
      rw [chain?, hrecord]
      show (do return ⟨text, ← number? codeField, ← category? categoryField,
        ← links? (chain? below) nextField⟩ : Option MessageChain) = _
      rw [number?_of_writes hcode, category?_of_writes hcategory, hnext]
      rfl

theorem links?_of_writes {next : List MessageChain} {field : Option Json} :
    WritesLinks next field → ∀ {levels : Nat}, (∀ j ∈ field, j.depth ≤ levels) →
      links? (chain? levels) field = some next
  | .leftOut, _, _ => rfl
  | @WritesLinks.listed next items hchains, levels, hdepth => by
      have hitems : ∀ j ∈ items, j.depth ≤ levels :=
        depth_of_mem (Nat.le_succ_of_le (hdepth _ rfl))
      have hread : links? (chain? levels) (some (.array items)) = items.mapM (chain? levels) := rfl
      rw [hread, mapM_chain?_of_writes hchains hitems]

theorem mapM_chain?_of_writes {next : List MessageChain} {items : List Json} :
    WritesChains next items → ∀ {levels : Nat}, (∀ j ∈ items, j.depth ≤ levels) →
      items.mapM (chain? levels) = some next
  | .nil, _, _ => rfl
  | .cons hfirst hrest, levels, hdepth => by
      obtain ⟨hj, hitems⟩ := List.forall_mem_cons.mp hdepth
      rw [List.mapM_cons, chain?_of_writes hfirst hj, mapM_chain?_of_writes hrest hitems]
      rfl

end

theorem message?_of_writes {m : Message} {j : Json} (h : WritesMessage m j)
    (hdepth : j.depth ≤ chainLevels) : message? (some j) = some m := by
  cases h with
  | text s => rfl
  | chain hchain =>
      have hkept := isKept_of_writesChain hchain hdepth
      have hread := chain?_of_writes hchain hdepth
      have hmessage : message? (some j) =
          if j.isKept chainLevels then .chain <$> chain? chainLevels j else none := by
        cases hchain with
        | record => rfl
      rw [hmessage, if_pos hkept, hread]
      rfl

/-! ### Diagnostics -/

/-- **A diagnostic is read as it was.** -/
theorem diagnostic?_of_writes {d : Diagnostic} {j : Json} (h : WritesDiagnostic d j)
    (hdepth : j.depth ≤ chainLevels + 1) : diagnostic? j = some d := by
  cases h with
  | @record start length code message category startField lengthField codeField categoryField
      messageField fields hstart hlength hmessage hcode hcategory hfields =>
      have hnames : ["start", "length", "messageText", "code", "category"].Nodup := by decide
      have hrecord : (Json.object fields).record?
            ["start", "length", "messageText", "code", "category"] =
          some [startField, lengthField, some messageField, codeField, categoryField] :=
        @record?_of_perm [(_, _), (_, _), (_, _), (_, _), (_, _)] _ hnames hfields
      have hread : message? (some messageField) = some message :=
        message?_of_writes hmessage (depth_of_perm hfields hdepth "messageText" (by simp))
      unfold diagnostic?
      rw [hrecord]
      show (do return ⟨← number? startField, ← number? lengthField, ← message? messageField,
        ← number? codeField, ← category? categoryField⟩ : Option Diagnostic) = _
      rw [number?_of_writes hstart, number?_of_writes hlength, hread, number?_of_writes hcode,
        category?_of_writes hcategory]
      rfl

theorem mapM_diagnostic?_of_writes {ds : List Diagnostic} {items : List Json}
    (h : List.Forall₂ WritesDiagnostic ds items) (hdepth : ∀ j ∈ items, j.depth ≤ chainLevels + 1) :
    items.mapM diagnostic? = some ds := by
  induction h with
  | nil => rfl
  | cons hfirst _ ih =>
      obtain ⟨hj, hitems⟩ := List.forall_mem_cons.mp hdepth
      rw [List.mapM_cons, diagnostic?_of_writes hfirst hj, ih hitems]
      rfl

/-- **A list of diagnostics is read as it was.** -/
theorem read?_of_writes {ds : List Diagnostic} {j : Json} {text : String}
    (hwrites : WritesDiagnostics ds j) (hdepth : j.depth ≤ 127) (htext : j.Renders text) :
    read? text = some ds := by
  have hvalue : ofText? text = some j := ofText?_of_renders htext
  cases hwrites with
  | @array items hitems =>
      have hread := mapM_diagnostic?_of_writes hitems (depth_of_mem hdepth)
      unfold read?
      rw [hvalue]
      exact hread

end Diagnostic.Host

open Diagnostic.Host

/-- **Loading what the host writes** succeeds, and gives the list that was written; no other file
changes. -/
theorem DiagnosticStore.load_written (store : DiagnosticStore) (file : FileId)
    (ds : List Diagnostic) (j : Json) (text : String) (hwrites : WritesDiagnostics ds j)
    (hdepth : j.depth ≤ 127) (htext : j.Renders text) :
    ∃ loaded, store.load? file text = some loaded ∧ loaded.get file = ds ∧
      ∀ other, other ≠ file → loaded.get other = store.get other := by
  refine ⟨store.insert file ds, ?_, ?_, ?_⟩
  · unfold load?
    rw [read?_of_writes hwrites hdepth htext]
    rfl
  · rw [get_insert, if_pos rfl]
  · intro other hother
    rw [get_insert, if_neg hother]

namespace Diagnostic.Host

/-- An error without position, whose message is the head of a chain. -/
def chained : Diagnostic := ⟨none, none, .chain ⟨"A😀", none, .error, []⟩, none, .error⟩

/-- The error as JSON, where no field stands in its usual place. -/
def chainedJson : Json :=
  .array [.object [(some "code", .null),
    (some "messageText", .object
      [(some "next", .array []), (some "messageText", .string (some "A😀"))])]]

/-- The error as text, where the characters of the message are escaped. -/
def chainedText : String :=
  "[ \x7b\"code\":null,\"messageText\":\x7b\"next\":[],\"messageText\":" ++
    "\"\\u0041\\ud83D\\uDE00\"\x7d\x7d]"

theorem writes_chained : WritesDiagnostics [chained] chainedJson := by
  have hchain : WritesChain ⟨"A😀", none, .error, []⟩ _ :=
    .record .leftOut .leftOut (.listed .nil) (.swap _ _ _)
  have hdiagnostic : WritesDiagnostic chained _ :=
    .record .leftOut .leftOut (.chain hchain) .null .leftOut (.swap _ _ _)
  exact .array (.cons hdiagnostic .nil)

theorem renders_chained : chainedJson.Renders chainedText := by
  have hplain (s : String) (h : s.toList.all Json.isPlain = true) := Json.Token.writes_plain h
  have hletter : Json.WritesChar 'A' ['\\', 'u', '0', '0', '4', '1'] :=
    .unit (.intro (.inl rfl) (.inl rfl) (.inl rfl) (.inl rfl))
  have hface : Json.WritesChar '😀'
      ['\\', 'u', 'd', '8', '3', 'D', '\\', 'u', 'D', 'E', '0', '0'] :=
    .pair (by decide) (.intro (.inl rfl) (.inl rfl) (.inl rfl) (.inr rfl))
      (.intro (.inr rfl) (.inr rfl) (.inl rfl) (.inl rfl))
  have htext : Json.Token.Writes (.string (some "A😀")) _ :=
    .string (.cons hletter (.cons hface .nil))
  have hname := hplain "messageText" rfl
  have hnone : Json.Blanks [] := nofun
  have hspace : Json.Blanks [' '] := List.forall_mem_singleton.mpr (by decide)
  have hend : Json.Layout [.closeObject, .closeObject, .closeArray] _ :=
    .cons hnone .closeObject (.cons hnone .closeObject (.cons hnone .closeArray (.nil hnone)))
  have hchain := Json.Layout.cons hnone .openObject (.cons hnone (hplain "next" rfl)
    (.cons hnone .colon (.cons hnone .openArray (.cons hnone .closeArray (.cons hnone .comma
      (.cons hnone hname (.cons hnone .colon (.cons hnone htext hend))))))))
  have hall := Json.Layout.cons hnone .openArray (.cons hspace .openObject
    (.cons hnone (hplain "code" rfl) (.cons hnone .colon (.cons hnone .null
      (.cons hnone .comma (.cons hnone hname (.cons hnone .colon hchain)))))))
  exact hall

end Diagnostic.Host

theorem DiagnosticStore.load_written_chained :
    ∃ loaded, DiagnosticStore.empty.load? ⟨3⟩ chainedText = some loaded ∧
      loaded.get ⟨3⟩ = [chained] ∧
      ∀ other, other ≠ ⟨3⟩ → loaded.get other = DiagnosticStore.empty.get other :=
  DiagnosticStore.load_written .empty ⟨3⟩ [chained] chainedJson chainedText writes_chained
    (by decide) renders_chained

end TypeProbe
