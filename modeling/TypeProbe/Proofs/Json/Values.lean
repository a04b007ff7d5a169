import TypeProbe.Json.Reader
import TypeProbe.Proofs.Json.Texts

/-! # JSON values and their tokens

`Json.spelling` gives the tokens that a value is written with.  The machine that reads tokens
comes back to where it was with the value, whatever containers are open (`foldlM_spelling`), so
that **a text that a value is written as is read as the value** (`ofText?_of_renders`). -/

namespace TypeProbe.Json

/-! ### The tokens of a value -/

mutual

/-- The tokens of a value. -/
def spelling : Json → List Token
  | null => [.null]
  | boolean value => [.boolean value]
  | number value => [.number value]
  | string value => [.string value]
  | array items => [.openArray] ++ itemsSpelling items ++ [.closeArray]
  | object fields => [.openObject] ++ fieldsSpelling fields ++ [.closeObject]

/-- The tokens of the items of an array, with commas between them. -/
def itemsSpelling : List Json → List Token
  | [] => []
  | [j] => j.spelling
  | j :: k :: rest => j.spelling ++ [.comma] ++ itemsSpelling (k :: rest)

/-- The tokens of the fields of an object, with commas between them. -/
def fieldsSpelling : List (Option String × Json) → List Token
  | [] => []
  | [(key, j)] => [.string key, .colon] ++ j.spelling
  | (key, j) :: next :: rest =>
      [.string key, .colon] ++ j.spelling ++ [.comma] ++ fieldsSpelling (next :: rest)

end

/-- A value is written as a text: its tokens in order, with any blanks around them. -/
def Renders (j : Json) (text : String) : Prop := Layout j.spelling text.toList

/-! ### Runs are kept apart -/

/-- Tokens in which marks keep runs apart. -/
def Apart (ts : List Token) : Prop := ts.IsChain fun s t => s.precedes t = true

theorem apart_singleton (t : Token) : Apart [t] := .singleton t

/-- Tokens with a mark between them. -/
theorem Apart.mark {ts us : List Token} {t : Token} (hts : Apart ts) (ht : t.isMark = true)
    (hus : Apart us) : Apart (ts ++ [t] ++ us) := by
  have hrun : t.isRun = false := by
    cases t <;> first | rfl | cases ht
  unfold Apart
  rw [List.append_assoc, List.isChain_append]
  refine ⟨hts, List.isChain_append.mpr ⟨.singleton t, hus, ?_⟩, ?_⟩
  · intro s hs u _
    obtain rfl : t = s := Option.some.inj hs
    rw [Token.precedes, hrun]
    rfl
  · intro s _ u hu
    obtain rfl : t = u := Option.some.inj hu
    rw [Token.precedes, ht]
    exact Bool.or_true _

/-- Tokens between two marks. -/
theorem Apart.enclosed {ts : List Token} {s t : Token} (hs : s.isMark = true) (hts : Apart ts)
    (ht : t.isMark = true) : Apart ([s] ++ ts ++ [t]) := by
  have hopened : Apart ([] ++ [s] ++ ts) := Apart.mark .nil hs hts
  have hclosed := Apart.mark hopened ht .nil
  rwa [List.nil_append, List.append_nil] at hclosed

/-- A field with its name in front. -/
theorem Apart.field {ts : List Token} (key : Option String) (hts : Apart ts) :
    Apart ([Token.string key, Token.colon] ++ ts) :=
  Apart.mark (apart_singleton (.string key)) rfl hts

mutual

theorem apart_spelling : (j : Json) → Apart j.spelling
  | null => apart_singleton _
  | boolean _ => apart_singleton _
  | number _ => apart_singleton _
  | string _ => apart_singleton _
  | array items => (apart_itemsSpelling items).enclosed rfl rfl
  | object fields => (apart_fieldsSpelling fields).enclosed rfl rfl

theorem apart_itemsSpelling : (items : List Json) → Apart (itemsSpelling items)
  | [] => .nil
  | [j] => apart_spelling j
  | j :: k :: rest => (apart_spelling j).mark rfl (apart_itemsSpelling (k :: rest))

theorem apart_fieldsSpelling : (fields : List (Option String × Json)) →
    Apart (fieldsSpelling fields)
  | [] => .nil
  | [(key, j)] => (apart_spelling j).field key
  | (key, j) :: next :: rest =>
      ((apart_spelling j).field key).mark rfl (apart_fieldsSpelling (next :: rest))

end

/-! ### Reading tokens -/

namespace Reading

/-- What a value does to the machine, whatever containers are open. -/
def Completes (ts : List Token) (j : Json) : Prop :=
  ∀ frames, ts.foldlM step ⟨.value, frames⟩ = some ⟨.after j, frames⟩

theorem foldlM_append {ts us : List Token} {s t : Reading}
    (h : ts.foldlM step s = some t) : (ts ++ us).foldlM step s = us.foldlM step t := by
  rw [List.foldlM_append, h]
  rfl

/-- The first item of an array is read as any value is. -/
theorem foldlM_firstItem {ts : List Token} {frames : List Frame} {done : Reading} (hts : ts ≠ [])
    (h : ts.foldlM step ⟨.value, frames⟩ = some done) :
    ts.foldlM step ⟨.firstItem, frames⟩ = some done := by
  obtain ⟨t, ts, rfl⟩ := List.exists_cons_of_ne_nil hts
  rw [List.foldlM_cons] at h ⊢
  obtain ⟨next, hnext, hrest⟩ := Option.bind_eq_some_iff.mp h
  have hvalue : value frames t = some next := hnext
  have hstep : step ⟨.firstItem, frames⟩ t = some next := by
    cases t with
    | closeArray => cases hvalue
    | _ => simpa only [step] using hvalue
  rw [hstep]
  exact hrest

/-- The first field of an object is read as any field is. -/
theorem foldlM_firstField (key : Option String) (ts : List Token) (frames : List Frame) :
    (Token.string key :: ts).foldlM step ⟨.firstField, .object [] :: frames⟩ =
      (Token.string key :: ts).foldlM step ⟨.field, .object [] :: frames⟩ := rfl

/-- A field, up to its value. -/
theorem foldlM_field {ts : List Token} {j : Json} (h : Completes ts j) (key : Option String)
    (fields : List (Option String × Json)) (frames : List Frame) :
    ([Token.string key, .colon] ++ ts).foldlM step ⟨.field, .object fields :: frames⟩ =
      some ⟨.after j, .member fields key :: frames⟩ := by
  have hkey : [Token.string key, .colon].foldlM step ⟨.field, .object fields :: frames⟩ =
      some ⟨.value, .member fields key :: frames⟩ := rfl
  rw [foldlM_append hkey]
  exact h _

end Reading

open Reading

theorem fieldsSpelling_cons (key : Option String) (j : Json)
    (rest : List (Option String × Json)) :
    ∃ ts, fieldsSpelling ((key, j) :: rest) = .string key :: ts := by
  cases rest with
  | nil => exact ⟨_, rfl⟩
  | cons next rest => exact ⟨_, rfl⟩

mutual

/-- **The machine reads a value**, whatever containers are open. -/
theorem completes_spelling : (j : Json) → Completes j.spelling j
  | null, _ | boolean _, _ | number _, _ | string _, _ => rfl
  | array [], _ | object [], _ => rfl
  | array (j :: items), frames => by
      have hitems := foldlM_itemsSpelling (j :: items) (List.cons_ne_nil _ _) [] frames
      have hopen : [Token.openArray].foldlM step ⟨.value, frames⟩ =
          some ⟨.firstItem, .array [] :: frames⟩ := rfl
      rw [spelling, List.append_assoc, foldlM_append hopen]
      exact foldlM_firstItem (List.append_ne_nil_of_right_ne_nil _ (List.cons_ne_nil _ _)) hitems
  | object ((key, j) :: fields), frames => by
      have hfields := foldlM_fieldsSpelling ((key, j) :: fields) (List.cons_ne_nil _ _) [] frames
      have hopen : [Token.openObject].foldlM step ⟨.value, frames⟩ =
          some ⟨.firstField, .object [] :: frames⟩ := rfl
      obtain ⟨ts, hts⟩ := fieldsSpelling_cons key j fields
      rw [hts] at hfields
      rw [spelling, List.append_assoc, foldlM_append hopen, hts, List.cons_append,
        foldlM_firstField]
      exact hfields

/-- The rest of an array. -/
theorem foldlM_itemsSpelling : (items : List Json) → items ≠ [] → ∀ done frames,
    (itemsSpelling items ++ [Token.closeArray]).foldlM step ⟨.value, .array done :: frames⟩ =
      some ⟨.after (.array (done.reverse ++ items)), frames⟩
  | [], h, _, _ => absurd rfl h
  | [j], _, done, frames => by
      rw [itemsSpelling, foldlM_append (completes_spelling j _)]
      show some (Reading.mk (.after (.array (j :: done).reverse)) frames) = _
      rw [List.reverse_cons]
  | j :: k :: rest, _, done, frames => by
      have hrest := foldlM_itemsSpelling (k :: rest) (List.cons_ne_nil _ _) (j :: done) frames
      have hcomma : [Token.comma].foldlM step ⟨.after j, .array done :: frames⟩ =
          some ⟨.value, .array (j :: done) :: frames⟩ := rfl
      rw [itemsSpelling, List.append_assoc, List.append_assoc,
        foldlM_append (completes_spelling j _), foldlM_append hcomma, hrest, List.reverse_cons,
        List.append_assoc]
      rfl

/-- The rest of an object. -/
theorem foldlM_fieldsSpelling : (fields : List (Option String × Json)) → fields ≠ [] →
    ∀ done frames,
    (fieldsSpelling fields ++ [Token.closeObject]).foldlM step ⟨.field, .object done :: frames⟩ =
      some ⟨.after (.object (done.reverse ++ fields)), frames⟩
  | [], h, _, _ => absurd rfl h
  | [(key, j)], _, done, frames => by
      rw [fieldsSpelling, foldlM_append (foldlM_field (completes_spelling j) key done frames)]
      show some (Reading.mk (.after (.object ((key, j) :: done).reverse)) frames) = _
      rw [List.reverse_cons]
  | (key, j) :: next :: rest, _, done, frames => by
      have hrest := foldlM_fieldsSpelling (next :: rest) (List.cons_ne_nil _ _)
        ((key, j) :: done) frames
      have hcomma : [Token.comma].foldlM step ⟨.after j, .member done key :: frames⟩ =
          some ⟨.field, .object ((key, j) :: done) :: frames⟩ := rfl
      rw [fieldsSpelling, List.append_assoc, List.append_assoc,
        foldlM_append (foldlM_field (completes_spelling j) key done frames),
        foldlM_append hcomma, hrest, List.reverse_cons, List.append_assoc]
      rfl

end

/-- **Reading a text that a value is written as** gives the value. -/
theorem ofText?_of_renders {j : Json} {text : String} (h : j.Renders text) :
    ofText? text = some j := by
  have htokens : tokens text.toList = some j.spelling := tokens_layout h (apart_spelling j)
  have hread : j.spelling.foldlM step start = some ⟨.after j, []⟩ := completes_spelling j []
  unfold ofText? ofTokens?
  rw [htokens]
  show (j.spelling.foldlM step start).bind result = some j
  rw [hread]
  rfl

end TypeProbe.Json
