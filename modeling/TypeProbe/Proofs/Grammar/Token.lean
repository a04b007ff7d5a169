import Mathlib.Data.List.Forall2
import TypeProbe.Print.Fragment

/-! # Tokens

The terminal symbols of the grammar (`Token`).  Fragments become tokens one by one; a reader of
the text cannot tell keywords from names, so both are words.  The two brackets of an array type
are one fragment, and so one token.

`Output.Spells` says that an output is complete and which tokens it writes.  How outputs are put
together determines the tokens, and the lemmas here take every combinator apart. -/

namespace TypeProbe

/-- A terminal symbol. -/
inductive Token where
  | word (text : String)
  | numeral (text : String)
  | mark (text : String)
  | quoted (value : String)
deriving DecidableEq, Repr

/-- The terminal symbol that a fragment is. -/
def Fragment.token : Fragment → Token
  | keyword t | identifier t => .word t
  | number t => .numeral t
  | punct t => .mark t
  | quoted value => .quoted value

/-- A token that is there only under a condition. -/
def Token.onlyIf (condition : Bool) (t : Token) : List Token := if condition then [t] else []

/-- Token sequences with commas between them. -/
def Token.commas (tss : List (List Token)) : List Token := [mark ","].intercalate tss

namespace Output

/-- Whether an output is complete and writes the tokens. -/
def Spells (o : Output) (ts : List Token) : Prop :=
  o.error = none ∧ o.fragments.map Fragment.token = ts

variable {ts : List Token}

/-! ### Single fragments -/

theorem spells_empty : empty.Spells ts ↔ ts = [] := by
  unfold Spells empty
  rw [eq_comm (a := ts)]
  exact and_iff_right rfl

theorem spells_ofFragment {f : Fragment} : (ofFragment f).Spells ts ↔ ts = [f.token] := by
  unfold Spells ofFragment
  rw [eq_comm (a := ts)]
  exact and_iff_right rfl

theorem spells_keyword {w : String} : (keyword w).Spells ts ↔ ts = [.word w] :=
  spells_ofFragment

theorem spells_identifier {w : String} : (identifier w).Spells ts ↔ ts = [.word w] :=
  spells_ofFragment

theorem spells_number {w : String} : (number w).Spells ts ↔ ts = [.numeral w] :=
  spells_ofFragment

theorem spells_punct {m : String} : (punct m).Spells ts ↔ ts = [.mark m] :=
  spells_ofFragment

theorem spells_quoted {value : String} : (quoted value).Spells ts ↔ ts = [.quoted value] :=
  spells_ofFragment

theorem not_spells_fail {cause : Unprintable} {loc : Loc} : ¬ (fail cause loc).Spells ts := by
  rintro ⟨h, _⟩
  cases h

/-! ### Combinators -/

theorem spells_append {a b : Output} :
    (a ++ b).Spells ts ↔ ∃ us, a.Spells us ∧ ∃ vs, b.Spells vs ∧ ts = us ++ vs := by
  obtain ⟨fs, ea⟩ := a
  obtain ⟨gs, eb⟩ := b
  cases ea with
  | none =>
      constructor
      · rintro ⟨he, rfl⟩
        exact ⟨_, ⟨rfl, rfl⟩, _, ⟨he, rfl⟩, List.map_append⟩
      · rintro ⟨us, ⟨_, rfl⟩, vs, ⟨he, rfl⟩, rfl⟩
        exact ⟨he, List.map_append⟩
  | some e =>
      constructor
      · rintro ⟨he, _⟩
        cases he
      · rintro ⟨us, ⟨he, _⟩, _⟩
        cases he

theorem spells_onlyIf {condition : Bool} {o : Output} :
    (onlyIf condition o).Spells ts ↔
      (condition = true ∧ o.Spells ts) ∨ (condition = false ∧ ts = []) := by
  cases condition with
  | true => simp [onlyIf]
  | false => simp [onlyIf, spells_empty]

theorem spells_onlyIf_keyword {condition : Bool} {w : String} :
    (onlyIf condition (keyword w)).Spells ts ↔ ts = Token.onlyIf condition (.word w) := by
  cases condition with
  | true => exact spells_keyword
  | false => exact spells_empty

theorem spells_onlyIf_punct {condition : Bool} {m : String} :
    (onlyIf condition (punct m)).Spells ts ↔ ts = Token.onlyIf condition (.mark m) := by
  cases condition with
  | true => exact spells_punct
  | false => exact spells_empty

theorem spells_parenthesized {o : Output} :
    (parenthesized o).Spells ts ↔
      ∃ us, o.Spells us ∧ ts = [Token.mark "("] ++ us ++ [Token.mark ")"] := by
  simp only [parenthesized, spells_append, spells_punct]
  constructor
  · rintro ⟨_, ⟨_, rfl, us, hu, rfl⟩, _, rfl, rfl⟩
    exact ⟨us, hu, rfl⟩
  · rintro ⟨us, hu, rfl⟩
    exact ⟨_, ⟨_, rfl, us, hu, rfl⟩, _, rfl, rfl⟩

theorem spells_braced {o : Output} :
    (braced o).Spells ts ↔
      ∃ us, o.Spells us ∧ ts = [Token.mark "\x7b"] ++ us ++ [Token.mark "\x7d"] := by
  simp only [braced, spells_append, spells_punct]
  constructor
  · rintro ⟨_, ⟨_, rfl, us, hu, rfl⟩, _, rfl, rfl⟩
    exact ⟨us, hu, rfl⟩
  · rintro ⟨us, hu, rfl⟩
    exact ⟨_, ⟨_, rfl, us, hu, rfl⟩, _, rfl, rfl⟩

/-- Outputs with commas between them write their tokens with commas between them. -/
theorem spells_commaSeparated {os : List Output} :
    (commaSeparated os).Spells ts ↔ ∃ tss, List.Forall₂ Spells os tss ∧ ts = Token.commas tss := by
  induction os generalizing ts with
  | nil => simp [commaSeparated, spells_empty, Token.commas]
  | cons o os ih =>
      cases os with
      | nil => simp [commaSeparated, List.forall₂_cons_left_iff, Token.commas]
      | cons o' os =>
          simp only [commaSeparated, spells_append, spells_punct, ih]
          constructor
          · rintro ⟨_, ⟨us, ho, _, rfl, rfl⟩, _, ⟨tss, hs, rfl⟩, rfl⟩
            refine ⟨us :: tss, List.Forall₂.cons ho hs, ?_⟩
            cases hs with
            | cons _ _ => exact List.intercalate_cons_cons.symm
          · rintro ⟨_, ho | @⟨_, us, _, tss, ho, hs⟩, rfl⟩
            refine ⟨_, ⟨us, ho, _, rfl, rfl⟩, _, ⟨tss, hs, rfl⟩, ?_⟩
            cases hs with
            | cons _ _ => exact List.intercalate_cons_cons

/-- The first of several outputs is followed by a comma, unless it is the only one. -/
theorem spells_commaSeparated_cons {o : Output} {os : List Output} :
    (commaSeparated (o :: os)).Spells ts ↔ ∃ us, o.Spells us ∧
      ((os = [] ∧ ts = us) ∨
        (os ≠ [] ∧ ∃ vs, (commaSeparated os).Spells vs ∧ ts = us ++ [Token.mark ","] ++ vs)) := by
  cases os with
  | nil => simp [commaSeparated]
  | cons o' os =>
      simp only [commaSeparated, spells_append, spells_punct]
      constructor
      · rintro ⟨_, ⟨us, ho, _, rfl, rfl⟩, vs, hs, rfl⟩
        exact ⟨us, ho, .inr ⟨nofun, vs, hs, rfl⟩⟩
      · rintro ⟨us, ho, ⟨h, _⟩ | ⟨_, vs, hs, rfl⟩⟩
        · cases h
        · exact ⟨_, ⟨us, ho, _, rfl, rfl⟩, vs, hs, rfl⟩

end Output

end TypeProbe
