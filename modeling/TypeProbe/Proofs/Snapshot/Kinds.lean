import TypeProbe.Proofs.Snapshot.Sameness
import TypeProbe.Proofs.Tree.Bare
import Mathlib.Data.List.Nodup

/-! # What snapshots tell apart

* **Words.** Operators, type keywords and kinds of bindings are given by their names.
* **Kinds.** The tag of a snapshot is the kind of node that it shows; nodes with the same snapshot
  are of one kind (`Expr.ctorIdx_of_same`, `Stmt.ctorIdx_of_same`, `TypeExpr.ctorIdx_of_same`).
* **Absence.** An optional part is shown as `null` only if it is absent (`Same.of_ofOption` with
  `Expr.isNull_snapshot` and so on).
* **Leaves.** Labels and finite numbers are given by their snapshots; names and types are, but for
  positions (`Name.bare_eq_of_same`, `TypeExpr.bare_eq_of_same`). -/

namespace TypeProbe

open Snapshot

/-! ### Words -/

theorem Operator.name_injective {a b : Operator} (h : a.name = b.name) : a = b := by
  have hnodup : (all.map name).Nodup := by decide +kernel
  exact List.inj_on_of_nodup_map hnodup a.mem_all b.mem_all h

def TypeKeyword.all : List TypeKeyword :=
  [any, boolean, never, null, number, string, undefined, unknown, void]

theorem TypeKeyword.mem_all (word : TypeKeyword) : word ∈ all := by cases word <;> decide

theorem TypeKeyword.name_injective {a b : TypeKeyword} (h : a.name = b.name) : a = b := by
  have hnodup : (all.map name).Nodup := by decide +kernel
  exact List.inj_on_of_nodup_map hnodup a.mem_all b.mem_all h

def BindingKind.all : List BindingKind := [constant, lexical, hoisted]

theorem BindingKind.mem_all (kind : BindingKind) : kind ∈ all := by cases kind <;> decide

theorem BindingKind.name_injective {a b : BindingKind} (h : a.name = b.name) : a = b := by
  have hnodup : (all.map name).Nodup := by decide +kernel
  exact List.inj_on_of_nodup_map hnodup a.mem_all b.mem_all h

/-! ### Kinds -/

/-- The kinds of expressions, in the order in which they are declared. -/
def Expr.kinds : List String :=
  ["ArrowFunc", "Binary", "Call", "ComputedMember", "Cond", "Func", "Id", "Member", "This", "Unary",
    "UnaryPostfix", "LitArr", "LitBool", "LitNull", "LitNum", "LitStr"]

/-- The kinds of statements, in the order in which they are declared. -/
def Stmt.kinds : List String :=
  ["Block", "Break", "Continue", "DoWhile", "Empty", "Expr", "If", "Return", "Throw", "Try",
    "While", "FunctionDecl", "VarDecl"]

/-- The kinds of types, in the order in which they are declared. -/
def TypeExpr.kinds : List String := ["Array", "Keyword", "Reference"]

/-- Snapshots that are tagged with kinds of a list are the same only if it is the same kind. -/
theorem index_eq_of_same {kinds : List String} (hnodup : kinds.Nodup) {s t : Snapshot} {i j : Nat}
    (hs : s.kind? = kinds[i]?) (ht : t.kind? = kinds[j]?) (hi : i < kinds.length)
    (h : s.Same t) : i = j := by
  have hkind := h.kind?_eq
  rw [hs, ht] at hkind
  exact (List.getElem?_inj hi hnodup).mp hkind

theorem Expr.kind?_snapshot (e : Expr) : e.snapshot.kind? = kinds[e.ctorIdx]? := by
  cases e with
  | call a c =>
      obtain ⟨optional, callee, arguments⟩ := c
      rfl
  | _ => rfl

theorem Expr.ctorIdx_lt (e : Expr) : e.ctorIdx < kinds.length := by
  cases e <;> exact of_decide_eq_true rfl

theorem Expr.ctorIdx_of_same {e e' : Expr} (h : e.snapshot.Same e'.snapshot) :
    e.ctorIdx = e'.ctorIdx :=
  index_eq_of_same (by decide +kernel) e.kind?_snapshot e'.kind?_snapshot e.ctorIdx_lt h

theorem Stmt.kind?_snapshot (s : Stmt) : s.snapshot.kind? = kinds[s.ctorIdx]? := by
  cases s with
  | ifElse a test consequent alternate => cases alternate <;> rfl
  | _ => rfl

theorem Stmt.ctorIdx_lt (s : Stmt) : s.ctorIdx < kinds.length := by
  cases s <;> exact of_decide_eq_true rfl

theorem Stmt.ctorIdx_of_same {s s' : Stmt} (h : s.snapshot.Same s'.snapshot) :
    s.ctorIdx = s'.ctorIdx :=
  index_eq_of_same (by decide +kernel) s.kind?_snapshot s'.kind?_snapshot s.ctorIdx_lt h

theorem TypeExpr.kind?_snapshot (t : TypeExpr) : t.snapshot.kind? = kinds[t.ctorIdx]? := by
  cases t <;> rfl

theorem TypeExpr.ctorIdx_lt (t : TypeExpr) : t.ctorIdx < kinds.length := by
  cases t <;> exact of_decide_eq_true rfl

theorem TypeExpr.ctorIdx_of_same {t t' : TypeExpr} (h : t.snapshot.Same t'.snapshot) :
    t.ctorIdx = t'.ctorIdx :=
  index_eq_of_same (by decide +kernel) t.kind?_snapshot t'.kind?_snapshot t.ctorIdx_lt h

/-! ### Parts that may be absent

What is absent is shown as `null`, and nothing else is. -/

theorem ofText?_eq (o : Option String) : ofText? o = ofOption string o := by
  cases o <;> rfl

theorem snapshotName?_eq (o : Option Name) : snapshotName? o = ofOption Name.snapshot o := by
  cases o <;> rfl

theorem snapshotType?_eq (o : Option TypeExpr) :
    snapshotType? o = ofOption TypeExpr.snapshot o := by
  cases o <;> rfl

theorem Params.snapshots_cons (spot : Spot) (isRest : Bool) (pattern : Name)
    (type : Option TypeExpr) (value : Option Expr) (rest : List Param) :
    Params.snapshots (⟨spot, isRest, pattern, type, value⟩ :: rest) =
      object
        [("rest", boolean isRest), ("pattern", pattern.snapshot),
          ("type_annotation", snapshotType? type),
          ("default_value", ofOption Expr.snapshot value)] :: Params.snapshots rest := by
  cases value <;> rfl

theorem Stmt.snapshot_ifElse (a : Anchor) (test : Expr) (consequent : Stmt)
    (alternate : Option Stmt) :
    (Stmt.ifElse a test consequent alternate).snapshot =
      tagged "If"
        [("test", test.snapshot), ("consequent", consequent.snapshot),
          ("alternate", ofOption Stmt.snapshot alternate)] := by
  cases alternate <;> rfl

theorem Stmt.snapshot_ret (a : Anchor) (value : Option Expr) :
    (Stmt.ret a value).snapshot = tagged "Return" [("value", ofOption Expr.snapshot value)] := by
  cases value <;> rfl

theorem Stmt.snapshot_tryBlock (a : Anchor) (wrapped : Block) (handler : Option Catch)
    (finalizer : Option Block) :
    (Stmt.tryBlock a wrapped handler finalizer).snapshot =
      tagged "Try"
        [("wrapped", wrapped.snapshot), ("catch", ofOption Catch.snapshot handler),
          ("finally", ofOption Block.snapshot finalizer)] := by
  cases handler <;> cases finalizer <;> rfl

theorem Declarators.snapshots_cons (pattern : Name) (type : Option TypeExpr)
    (value : Option Expr) (rest : List Declarator) :
    Declarators.snapshots (⟨pattern, type, value⟩ :: rest) =
      object
        [("pattern", pattern.snapshot), ("type_annotation", snapshotType? type),
          ("initializer", ofOption Expr.snapshot value)] :: Declarators.snapshots rest := by
  cases value <;> rfl

theorem Name.isNull_snapshot (n : Name) : n.snapshot.isNull = false := rfl

theorem TypeExpr.isNull_snapshot (t : TypeExpr) : t.snapshot.isNull = false := by
  cases t <;> rfl

theorem Expr.isNull_snapshot (e : Expr) : e.snapshot.isNull = false := by
  cases e with
  | call a c =>
      obtain ⟨optional, callee, arguments⟩ := c
      rfl
  | _ => rfl

theorem Stmt.isNull_snapshot (s : Stmt) : s.snapshot.isNull = false := by
  cases s with
  | ifElse a test consequent alternate => cases alternate <;> rfl
  | _ => rfl

theorem Block.isNull_snapshot (b : Block) : b.snapshot.isNull = false := by
  cases b
  rfl

theorem Catch.isNull_snapshot (c : Catch) : c.snapshot.isNull = false := by
  cases c
  rfl

/-! ### Leaves -/

/-- A finite number is given by its snapshot. -/
theorem Binary64.eq_of_same {x y : Binary64} (hx : x.isFinite = true)
    (h : x.snapshot.Same y.snapshot) : x = y := by
  unfold Binary64.snapshot at h
  rw [if_pos hx] at h
  cases hy : y.isFinite with
  | true =>
      rw [if_pos hy] at h
      exact h.number_eq
  | false =>
      rw [if_neg (by rw [hy]; exact Bool.false_ne_true)] at h
      cases h

/-- An optional text is given by its snapshot. -/
theorem eq_of_same_text {o o' : Option String} (h : (ofText? o).Same (ofText? o')) : o = o' := by
  rw [ofText?_eq, ofText?_eq] at h
  cases Same.of_ofOption (fun _ => rfl) h with
  | none => rfl
  | some h => exact congrArg some h.string_eq

theorem Name.bare_eq_of_same {n n' : Name} (h : n.snapshot.Same n'.snapshot) :
    n.bare = n'.bare :=
  congrArg (Name.mk .blank) (h.field "name" rfl rfl).string_eq

theorem Name.map_bare_eq_of_same {o o' : Option Name}
    (h : (snapshotName? o).Same (snapshotName? o')) : o.map Name.bare = o'.map Name.bare := by
  rw [snapshotName?_eq, snapshotName?_eq] at h
  exact Same.map_eq Name.isNull_snapshot Name.bare_eq_of_same h

mutual

theorem TypeExpr.bare_eq_of_same (t t' : TypeExpr) (h : t.snapshot.Same t'.snapshot) :
    t.bare = t'.bare := by
  match t with
  | .array place element =>
      cases t' with
      | array place' element' =>
          have helement := element.bare_eq_of_same element' (h.field "element" rfl rfl)
          simp only [TypeExpr.bare, helement]
      | _ => cases TypeExpr.ctorIdx_of_same h
  | .keyword place word =>
      cases t' with
      | keyword place' word' =>
          have hword := TypeKeyword.name_injective (h.field "keyword" rfl rfl).string_eq
          simp only [TypeExpr.bare, hword]
      | _ => cases TypeExpr.ctorIdx_of_same h
  | .reference place name arguments =>
      cases t' with
      | reference place' name' arguments' =>
          have hname := (h.field "name" rfl rfl).string_eq
          have harguments := TypeExprs.bare_eq_of_same arguments arguments'
            (h.field "type_arguments" rfl rfl).items
          simp only [TypeExpr.bare, hname, harguments]
      | _ => cases TypeExpr.ctorIdx_of_same h

theorem TypeExprs.bare_eq_of_same (ts ts' : List TypeExpr)
    (h : List.Forall₂ Same (TypeExprs.snapshots ts) (TypeExprs.snapshots ts')) :
    TypeExprs.bare ts = TypeExprs.bare ts' := by
  match ts with
  | [] =>
      cases ts' with
      | nil => rfl
      | cons t' rest' => cases h
  | t :: rest =>
      cases ts' with
      | nil => cases h
      | cons t' rest' =>
          obtain ⟨ht, hrest⟩ := List.forall₂_cons.mp h
          simp only [TypeExprs.bare, t.bare_eq_of_same t' ht,
            TypeExprs.bare_eq_of_same rest rest' hrest]

end

theorem TypeExpr.map_bare_eq_of_same {o o' : Option TypeExpr}
    (h : (snapshotType? o).Same (snapshotType? o')) :
    o.map TypeExpr.bare = o'.map TypeExpr.bare := by
  rw [snapshotType?_eq, snapshotType?_eq] at h
  exact Same.map_eq TypeExpr.isNull_snapshot (fun h => TypeExpr.bare_eq_of_same _ _ h) h

end TypeProbe
