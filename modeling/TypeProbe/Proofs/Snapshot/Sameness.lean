import TypeProbe.Tree.Snapshot
import Mathlib.Data.List.Forall2

/-! # Sameness of snapshots

Two snapshots are the same JSON value (`Snapshot.Same`) if they are equal but for the order of the
fields of objects.  Numbers are the same if they are written alike; a zero is written with its sign.

* **Objects.** What two of them hold at a key is the same (`Same.field`); if both have a single
  field, it has the same key (`Same.only`).
* **Kinds.** Two tagged objects have the same tag (`Same.kind?_eq`).
* **Options.** What is absent in one of two values is absent in the other (`Same.of_ofOption`).

A snapshot may leave out some of what it shows.  It tells the rest (`Tells`) if nothing that differs
in the rest has the same snapshot. -/

namespace TypeProbe.Snapshot

/-- Two snapshots are the same JSON value: the items of an array stand in order, and an object is
what it holds at every key. -/
inductive Same : Snapshot → Snapshot → Prop
  | null : Same null null
  | boolean (value : Bool) : Same (boolean value) (boolean value)
  | number (value : Binary64) : Same (number value) (number value)
  | string (value : String) : Same (string value) (string value)
  | array {items items' : List Snapshot} :
      List.Forall₂ Same items items' → Same (array items) (array items')
  | object {fields fields' : List (String × Snapshot)} :
      (∀ key, Option.Rel Same (fields.lookup key) (fields'.lookup key)) →
        Same (object fields) (object fields')

/-! ### Equal snapshots -/

mutual

/-- A snapshot is the same as itself. -/
theorem Same.refl (s : Snapshot) : s.Same s := by
  match s with
  | .null => exact .null
  | .boolean value => exact .boolean value
  | .number value => exact .number value
  | .string value => exact .string value
  | .array items => exact .array (same_items items)
  | .object fields => exact .object (same_fields fields)

theorem same_items (items : List Snapshot) : List.Forall₂ Same items items := by
  match items with
  | [] => exact .nil
  | s :: rest => exact .cons (Same.refl s) (same_items rest)

theorem same_fields (fields : List (String × Snapshot)) (key : String) :
    Option.Rel Same (fields.lookup key) (fields.lookup key) := by
  match fields with
  | [] => exact .none
  | (name, s) :: rest =>
      rw [List.lookup_cons]
      cases key == name with
      | true => exact .some (Same.refl s)
      | false => exact same_fields rest key

end

/-! ### What the same values have in common -/

namespace Same

variable {s t : Snapshot}

theorem boolean_eq {a b : Bool} (h : Same (.boolean a) (.boolean b)) : a = b := by
  cases h
  rfl

theorem number_eq {x y : Binary64} (h : Same (.number x) (.number y)) : x = y := by
  cases h
  rfl

theorem string_eq {a b : String} (h : Same (.string a) (.string b)) : a = b := by
  cases h
  rfl

theorem items {as bs : List Snapshot} (h : Same (.array as) (.array bs)) :
    List.Forall₂ Same as bs := by
  cases h
  assumption

section object

variable {fields fields' : List (String × Snapshot)} (h : Same (.object fields) (.object fields'))
include h

theorem lookup (key : String) : Option.Rel Same (fields.lookup key) (fields'.lookup key) := by
  cases h with
  | object h => exact h key

/-- What the same objects hold at a key is the same. -/
theorem field (key : String) (hs : fields.lookup key = some s) (ht : fields'.lookup key = some t) :
    s.Same t := by
  have hkey := h.lookup key
  rw [hs, ht] at hkey
  cases hkey
  assumption

end object

/-- Two objects with a single field name the same case. -/
theorem only {name name' : String} (h : Same (.object [(name, s)]) (.object [(name', t)])) :
    name = name' ∧ s.Same t := by
  have hkey := h.lookup name
  rw [List.lookup_cons_self, List.lookup_cons] at hkey
  cases hname : name == name' with
  | true =>
      rw [hname] at hkey
      cases hkey
      exact ⟨eq_of_beq hname, by assumption⟩
  | false =>
      rw [hname] at hkey
      cases hkey

end Same

/-! ### Kinds -/

/-- The text that a snapshot shows. -/
def text? : Snapshot → Option String
  | string text => some text
  | _ => none

/-- The kind of node that an object is tagged with. -/
def kind? : Snapshot → Option String
  | object fields => (fields.lookup "$t").bind text?
  | _ => none

theorem Same.text?_eq {s t : Snapshot} (h : s.Same t) : s.text? = t.text? := by
  cases h <;> rfl

theorem bind_text?_eq {o o' : Option Snapshot} (h : Option.Rel Same o o') :
    o.bind text? = o'.bind text? := by
  cases h with
  | none => rfl
  | some h => exact h.text?_eq

theorem Same.kind?_eq {s t : Snapshot} (h : s.Same t) : s.kind? = t.kind? := by
  cases h with
  | object h => exact bind_text?_eq (h "$t")
  | _ => rfl

/-! ### What may be absent -/

/-- Whether a snapshot shows something absent. -/
def isNull : Snapshot → Bool
  | null => true
  | _ => false

theorem Same.isNull_eq {s t : Snapshot} (h : s.Same t) : s.isNull = t.isNull := by
  cases h <;> rfl

section ofOption

variable {α β : Type}

/-- The snapshot of something that may be absent. -/
def ofOption (snapshot : α → Snapshot) : Option α → Snapshot
  | none => null
  | some a => snapshot a

variable {snapshot : α → Snapshot} (hs : ∀ a, (snapshot a).isNull = false)
include hs

/-- What is absent in one of two same values is absent in the other. -/
theorem Same.of_ofOption {o o' : Option α} (h : Same (ofOption snapshot o) (ofOption snapshot o')) :
    Option.Rel (fun a a' => Same (snapshot a) (snapshot a')) o o' := by
  have hnull := h.isNull_eq
  cases o with
  | none =>
      cases o' with
      | none => exact .none
      | some a' => exact absurd ((hs a').symm.trans hnull.symm) Bool.false_ne_true
  | some a =>
      cases o' with
      | none => exact absurd ((hs a).symm.trans hnull) Bool.false_ne_true
      | some a' => exact .some h

/-- What may be absent is mapped alike if it is the same. -/
theorem Same.map_eq {f : α → β} (hf : ∀ {a a' : α}, Same (snapshot a) (snapshot a') → f a = f a')
    {o o' : Option α} (h : Same (ofOption snapshot o) (ofOption snapshot o')) :
    o.map f = o'.map f := by
  cases Same.of_ofOption hs h with
  | none => rfl
  | some h => exact congrArg some (hf h)

end ofOption

/-! ### What a snapshot tells -/

section Tells

variable {α β : Type} {snapshot : α → Snapshot} {f : α → β}

/-- Whether the snapshot of `a` tells `f a`: whatever has the same snapshot is mapped alike. -/
def Tells (snapshot : α → Snapshot) (f : α → β) (a : α) : Prop :=
  ∀ a', Same (snapshot a) (snapshot a') → f a = f a'

theorem Tells.none (hs : ∀ a, (snapshot a).isNull = false) :
    Tells (ofOption snapshot) (Option.map f) .none := by
  intro o' h
  cases Same.of_ofOption hs h
  rfl

theorem Tells.some (hs : ∀ a, (snapshot a).isNull = false) {a : α} (ha : Tells snapshot f a) :
    Tells (ofOption snapshot) (Option.map f) (.some a) := by
  intro o' h
  cases Same.of_ofOption hs h with
  | some h => exact congrArg Option.some (ha _ h)

end Tells

end TypeProbe.Snapshot
