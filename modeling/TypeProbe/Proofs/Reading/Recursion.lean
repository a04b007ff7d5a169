import Mathlib.Data.Option.Basic

/-! # Readers that call one another

To read an expression is to read the expressions inside of it, and nothing that can be seen in
advance says that this ends.  So what a reader does is written as a computation that asks
questions (`Asking`): it ends, or it asks for something else to be read and goes on with the
answer.  Given the computation that finds the answer to each question, the questions are answered
to any depth (`answerUpTo`).  An answer that is found once stays (`answerUpTo_le`), and
`answer` is the one that is found at some depth, if there is one.

So the readers are the least solution of their equations: the answer to a question is the outcome
of the computation for it (`answer_eq`). -/

namespace TypeProbe

/-- A computation that may ask questions.  A question of type `Q α` is answered in `α`. -/
inductive Asking (Q : Type → Type 1) (α : Type) : Type 1 where
  | done (outcome : Option α)
  | ask {β : Type} (q : Q β) (next : β → Asking Q α)

/-- Answers to questions.  A question may be left without one. -/
def Answers (Q : Type → Type 1) : Type 1 := (α : Type) → Q α → Option α

/-- Whether the answers that are given are given by others as well. -/
def Answers.Extends {Q : Type → Type 1} (g f : Answers Q) : Prop :=
  ∀ {α : Type} {q : Q α} {a : α}, f α q = some a → g α q = some a

/-- The computation that asks a question and ends with the answer. -/
def answerTo {Q : Type → Type 1} {α : Type} (q : Q α) : Asking Q α := .ask q fun a => .done (some a)

namespace Asking

variable {Q : Type → Type 1} {α β : Type}

/-- One computation after another, whose outcome it goes on with. -/
protected def bind : Asking Q α → (α → Asking Q β) → Asking Q β
  | done none, _ => done none
  | done (some a), next => next a
  | ask q more, next => ask q fun b => (more b).bind next

instance : Monad (Asking Q) where
  pure a := done (some a)
  bind := Asking.bind

instance : MonadLift Option (Asking Q) := ⟨done⟩

/-- The outcome of a computation where questions are answered as given. -/
def outcome (f : Answers Q) : Asking Q α → Option α
  | done a => a
  | ask q next => (f _ q).bind fun b => (next b).outcome f

variable {f g : Answers Q}

@[simp] theorem outcome_pure (a : α) : (pure a : Asking Q α).outcome f = some a := rfl

@[simp] theorem outcome_liftM (a : Option α) : (liftM a : Asking Q α).outcome f = a := rfl

@[simp] theorem outcome_answerTo (q : Q α) : (answerTo q).outcome f = f α q :=
  Option.bind_fun_some (f α q)

@[simp] theorem outcome_bind (m : Asking Q α) (next : α → Asking Q β) :
    (m >>= next).outcome f = (m.outcome f).bind fun a => (next a).outcome f := by
  show (m.bind next).outcome f = _
  induction m with
  | done a => cases a <;> rfl
  | ask q more ih =>
      simp only [Asking.bind, outcome, ih, Option.bind_assoc]

/-- What has an outcome keeps it where more questions are answered. -/
theorem outcome_extends (h : g.Extends f) {m : Asking Q α} {a : α} (hm : m.outcome f = some a) :
    m.outcome g = some a := by
  induction m with
  | done o => exact hm
  | ask q next ih =>
      obtain ⟨b, hb, hn⟩ := Option.bind_eq_some_iff.mp hm
      exact Option.bind_eq_some_iff.mpr ⟨b, h hb, ih b hn⟩

end Asking

/-! ### Answers -/

section

variable {Q : Type → Type 1} (computation : (α : Type) → Q α → Asking Q α)

/-- The answers that are found with so many questions inside one another. -/
def answerUpTo : Nat → Answers Q
  | 0 => fun _ _ => none
  | depth + 1 => fun α q => (computation α q).outcome (answerUpTo depth)

/-- The answers that are found at some depth. -/
noncomputable def answer : Answers Q := fun _ q =>
  open Classical in
  if h : ∃ a depth, answerUpTo computation depth _ q = some a then some h.choose else none

variable {computation} {α : Type}

theorem answerUpTo_succ (depth : Nat) :
    (answerUpTo computation (depth + 1)).Extends (answerUpTo computation depth) := by
  induction depth with
  | zero => exact fun h => nomatch h
  | succ depth ih => exact fun h => Asking.outcome_extends ih h

/-- An answer that is found stays the answer at every greater depth. -/
theorem answerUpTo_le {m n : Nat} (h : m ≤ n) :
    (answerUpTo computation n).Extends (answerUpTo computation m) := by
  induction h with
  | refl => exact id
  | step _ ih => exact fun ha => answerUpTo_succ _ (ih ha)

theorem answer_eq_some_iff {q : Q α} {a : α} :
    answer computation α q = some a ↔ ∃ depth, answerUpTo computation depth α q = some a := by
  unfold answer
  constructor
  · intro h
    split at h
    · next hex =>
        cases h
        exact hex.choose_spec
    · cases h
  · rintro ⟨m, hm⟩
    have hex : ∃ a depth, answerUpTo computation depth α q = some a := ⟨a, m, hm⟩
    obtain ⟨n, hn⟩ := hex.choose_spec
    rw [dif_pos hex]
    -- two depths give one answer, that of the greater depth
    exact (answerUpTo_le (Nat.le_max_right m n) hn).symm.trans
      (answerUpTo_le (Nat.le_max_left m n) hm)

/-- A computation asks finitely many questions, so some depth suffices for all of them. -/
theorem outcome_answer_iff {m : Asking Q α} {a : α} :
    m.outcome (answer computation) = some a ↔
      ∃ depth, m.outcome (answerUpTo computation depth) = some a := by
  constructor
  · induction m with
    | done o => exact fun h => ⟨0, h⟩
    | ask q next ih =>
        intro h
        obtain ⟨b, hb, hn⟩ := Option.bind_eq_some_iff.mp h
        obtain ⟨k, hk⟩ := answer_eq_some_iff.mp hb
        obtain ⟨l, hl⟩ := ih b hn
        exact ⟨max k l, Option.bind_eq_some_iff.mpr
          ⟨b, answerUpTo_le (Nat.le_max_left k l) hk,
            Asking.outcome_extends (answerUpTo_le (Nat.le_max_right k l)) hl⟩⟩
  · rintro ⟨depth, h⟩
    exact Asking.outcome_extends (fun ha => answer_eq_some_iff.mpr ⟨depth, ha⟩) h

/-- **The answer to a question is the outcome of the computation for it**, where its questions are
answered in the same way. -/
theorem answer_eq (q : Q α) :
    answer computation α q = (computation α q).outcome (answer computation) := by
  apply Option.ext
  intro a
  rw [answer_eq_some_iff, outcome_answer_iff]
  constructor
  · rintro ⟨_ | depth, h⟩
    · cases h
    · exact ⟨depth, h⟩
  · rintro ⟨depth, h⟩
    exact ⟨depth + 1, h⟩

end

end TypeProbe
