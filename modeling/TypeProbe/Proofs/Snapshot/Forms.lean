import TypeProbe.Proofs.Snapshot.Kinds
import TypeProbe.Proofs.Snapshot.Syntax

/-! # What the snapshot of a form tells

One lemma for every form of syntax: the snapshot tells the syntax of a node (`Expr.Told`,
`Stmt.Told` and so on) if the snapshots of its parts tell theirs.

The tag of a snapshot leaves only nodes of the same kind; two of them are compared field by field,
at the keys under which their snapshots show them. -/

namespace TypeProbe

open Snapshot

/-! ### Snapshots that tell the syntax -/

def Expr.Told : Expr → Prop := Tells Expr.snapshot Expr.unplaced
def Func.Told : Func → Prop := Tells Func.snapshot Func.unplaced
def Body.Told : Body → Prop := Tells Body.snapshot Body.unplaced
def Stmt.Told : Stmt → Prop := Tells Stmt.snapshot Stmt.unplaced
def Block.Told : Block → Prop := Tells Block.snapshot Block.unplaced
def Catch.Told : Catch → Prop := Tells Catch.snapshot Catch.unplaced

/-- The items of a list are told together, by the array that shows them. -/
def Arguments.Told : List Argument → Prop :=
  Tells (fun as => .array (Arguments.snapshots as)) Arguments.unplaced

def Elements.Told : List Element → Prop :=
  Tells (fun es => .array (Elements.snapshots es)) Elements.unplaced

def Params.Told : List Param → Prop :=
  Tells (fun ps => .array (Params.snapshots ps)) Params.unplaced

def Stmts.Told : List Stmt → Prop :=
  Tells (fun ss => .array (Stmts.snapshots ss)) Stmts.unplaced

def Declarators.Told : List Declarator → Prop :=
  Tells (fun ds => .array (Declarators.snapshots ds)) Declarators.unplaced

/-- An expression that may be absent. -/
def Expr.OptionTold : Option Expr → Prop :=
  Tells (ofOption Expr.snapshot) (Option.map Expr.unplaced)

/-! ### Expressions -/

section forms

variable {a : Anchor}

namespace Expr

theorem told_arrow {f : Func} (hf : f.Told) : (arrow a f).Told := by
  intro e' h
  cases e' with
  | arrow a' f' =>
      have hfunc := hf f' (h.field "func" rfl rfl)
      rw [unplaced, unplaced, hfunc]
  | _ => cases ctorIdx_of_same h

theorem told_binary {op : Operator} {left right : Expr} (hl : left.Told) (hr : right.Told) :
    (binary a op left right).Told := by
  intro e' h
  cases e' with
  | binary a' op' left' right' =>
      have hop := Operator.name_injective (h.field "operator" rfl rfl).string_eq
      have hleft := hl left' (h.field "left" rfl rfl)
      have hright := hr right' (h.field "right" rfl rfl)
      rw [unplaced, unplaced, hop, hleft, hright]
  | _ => cases ctorIdx_of_same h

theorem told_call {optional : Bool} {callee : Expr} {arguments : List Argument}
    (hc : callee.Told) (ha : Arguments.Told arguments) :
    (call a ⟨optional, callee, arguments⟩).Told := by
  intro e' h
  cases e' with
  | call a' c' =>
      obtain ⟨optional', callee', arguments'⟩ := c'
      have hoptional := (h.field "optional_chaining" rfl rfl).boolean_eq
      have hcallee := hc callee' (h.field "callee" rfl rfl)
      have harguments := ha arguments' (h.field "arguments" rfl rfl)
      rw [unplaced, unplaced, Call.unplaced, Call.unplaced, hoptional, hcallee, harguments]
  | _ => cases ctorIdx_of_same h

theorem told_index {optional : Bool} {base key : Expr} (hb : base.Told) (hk : key.Told) :
    (index a optional base key).Told := by
  intro e' h
  cases e' with
  | index a' optional' base' key' =>
      have hoptional := (h.field "optional_chaining" rfl rfl).boolean_eq
      have hbase := hb base' (h.field "object" rfl rfl)
      have hkey := hk key' (h.field "member" rfl rfl)
      rw [unplaced, unplaced, hoptional, hbase, hkey]
  | _ => cases ctorIdx_of_same h

theorem told_conditional {test consequent alternate : Expr} (ht : test.Told)
    (hc : consequent.Told) (ha : alternate.Told) :
    (conditional a test consequent alternate).Told := by
  intro e' h
  cases e' with
  | conditional a' test' consequent' alternate' =>
      have htest := ht test' (h.field "test" rfl rfl)
      have hconsequent := hc consequent' (h.field "consequent" rfl rfl)
      have halternate := ha alternate' (h.field "alternate" rfl rfl)
      rw [unplaced, unplaced, htest, hconsequent, halternate]
  | _ => cases ctorIdx_of_same h

theorem told_function {name : Option Name} {f : Func} (hf : f.Told) :
    (function a name f).Told := by
  intro e' h
  cases e' with
  | function a' name' f' =>
      have hname := Name.map_bare_eq_of_same (h.field "name" rfl rfl)
      have hfunc := hf f' (h.field "func" rfl rfl)
      rw [unplaced, unplaced, hname, hfunc]
  | _ => cases ctorIdx_of_same h

theorem told_ident {name : String} : (ident a name).Told := by
  intro e' h
  cases e' with
  | ident a' name' =>
      have hname := (h.field "name" rfl rfl).string_eq
      rw [unplaced, unplaced, hname]
  | _ => cases ctorIdx_of_same h

theorem told_member {optional : Bool} {base : Expr} {property : String} (hb : base.Told) :
    (member a optional base property).Told := by
  intro e' h
  cases e' with
  | member a' optional' base' property' =>
      have hoptional := (h.field "optional_chaining" rfl rfl).boolean_eq
      have hbase := hb base' (h.field "left" rfl rfl)
      have hproperty := (h.field "right" rfl rfl).string_eq
      rw [unplaced, unplaced, hoptional, hbase, hproperty]
  | _ => cases ctorIdx_of_same h

theorem told_this : (this a).Told := by
  intro e' h
  cases e' with
  | this a' => rfl
  | _ => cases ctorIdx_of_same h

theorem told_unary {op : Operator} {argument : Expr} (ha : argument.Told) :
    (unary a op argument).Told := by
  intro e' h
  cases e' with
  | unary a' op' argument' =>
      have hop := Operator.name_injective (h.field "operator" rfl rfl).string_eq
      have hargument := ha argument' (h.field "argument" rfl rfl)
      rw [unplaced, unplaced, hop, hargument]
  | _ => cases ctorIdx_of_same h

theorem told_trailing {op : Operator} {argument : Expr} (ha : argument.Told) :
    (trailing a op argument).Told := by
  intro e' h
  cases e' with
  | trailing a' op' argument' =>
      have hop := Operator.name_injective (h.field "operator" rfl rfl).string_eq
      have hargument := ha argument' (h.field "argument" rfl rfl)
      rw [unplaced, unplaced, hop, hargument]
  | _ => cases ctorIdx_of_same h

theorem told_array {elements : List Element} (he : Elements.Told elements) :
    (array a elements).Told := by
  intro e' h
  cases e' with
  | array a' elements' =>
      have helements := he elements' (h.field "elements" rfl rfl)
      rw [unplaced, unplaced, helements]
  | _ => cases ctorIdx_of_same h

theorem told_boolean {value : Bool} : (boolean a value).Told := by
  intro e' h
  cases e' with
  | boolean a' value' =>
      have hvalue := (h.field "value" rfl rfl).boolean_eq
      rw [unplaced, unplaced, hvalue]
  | _ => cases ctorIdx_of_same h

theorem told_null : (null a).Told := by
  intro e' h
  cases e' with
  | null a' => rfl
  | _ => cases ctorIdx_of_same h

theorem told_number {value : Binary64} (hv : value.isFinite = true) : (number a value).Told := by
  intro e' h
  cases e' with
  | number a' value' =>
      have hvalue := Binary64.eq_of_same hv (h.field "value" rfl rfl)
      rw [unplaced, unplaced, hvalue]
  | _ => cases ctorIdx_of_same h

theorem told_string {value : String} : (string a value).Told := by
  intro e' h
  cases e' with
  | string a' value' =>
      have hvalue := (h.field "value" rfl rfl).string_eq
      rw [unplaced, unplaced, hvalue]
  | _ => cases ctorIdx_of_same h

end Expr

/-! ### Arguments and elements -/

theorem Arguments.told_nil : Arguments.Told [] := by
  intro as' h
  cases as' with
  | nil => rfl
  | cons first' rest' =>
      obtain ⟨spot', spread', value'⟩ := first'
      cases h.items

theorem Arguments.told_cons {spot : Spot} {spread : Bool} {value : Expr} {rest : List Argument}
    (hv : value.Told) (hr : Arguments.Told rest) :
    Arguments.Told (⟨spot, spread, value⟩ :: rest) := by
  intro as' h
  cases as' with
  | nil => cases h.items
  | cons first' rest' =>
      obtain ⟨spot', spread', value'⟩ := first'
      obtain ⟨hfirst, hrest⟩ := List.forall₂_cons.mp h.items
      have hspread := (hfirst.field "spread" rfl rfl).boolean_eq
      have hvalue := hv value' (hfirst.field "value" rfl rfl)
      rw [Arguments.unplaced, Arguments.unplaced, hspread, hvalue, hr rest' (.array hrest)]

namespace Elements

variable {value : Expr} {rest : List Element}

theorem told_nil : Elements.Told [] := by
  intro es' h
  cases es' with
  | nil => rfl
  | cons first' rest' => cases first' <;> cases h.items

-- The cases of an element with a value differ in the key, and a hole is no object.

theorem told_single (hv : value.Told) (hr : Elements.Told rest) :
    Elements.Told (.single value :: rest) := by
  intro es' h
  cases es' with
  | nil => cases h.items
  | cons first' rest' =>
      cases first' with
      | single value' =>
          obtain ⟨hfirst, hrest⟩ := List.forall₂_cons.mp h.items
          rw [Elements.unplaced, Elements.unplaced, hv value' hfirst.only.2,
            hr rest' (.array hrest)]
      | rest value' => exact absurd (List.forall₂_cons.mp h.items).1.only.1 (by decide)
      | hole => cases (List.forall₂_cons.mp h.items).1

theorem told_rest (hv : value.Told) (hr : Elements.Told rest) :
    Elements.Told (.rest value :: rest) := by
  intro es' h
  cases es' with
  | nil => cases h.items
  | cons first' rest' =>
      cases first' with
      | single value' => exact absurd (List.forall₂_cons.mp h.items).1.only.1 (by decide)
      | rest value' =>
          obtain ⟨hfirst, hrest⟩ := List.forall₂_cons.mp h.items
          rw [Elements.unplaced, Elements.unplaced, hv value' hfirst.only.2,
            hr rest' (.array hrest)]
      | hole => cases (List.forall₂_cons.mp h.items).1

theorem told_hole (hr : Elements.Told rest) : Elements.Told (.hole :: rest) := by
  intro es' h
  cases es' with
  | nil => cases h.items
  | cons first' rest' =>
      cases first' with
      | single value' | rest value' => cases (List.forall₂_cons.mp h.items).1
      | hole =>
          obtain ⟨-, hrest⟩ := List.forall₂_cons.mp h.items
          rw [Elements.unplaced, Elements.unplaced, hr rest' (.array hrest)]

end Elements

/-! ### Functions -/

theorem Func.told_mk {spot : Spot} {arrow async generator : Bool} {parameters : List Param}
    {returnType : Option TypeExpr} {body : Body} (hp : Params.Told parameters) (hb : body.Told) :
    (Func.mk spot arrow async generator parameters returnType body).Told := by
  intro f' h
  obtain ⟨spot', arrow', async', generator', parameters', returnType', body'⟩ := f'
  have harrow := (h.field "arrow" rfl rfl).boolean_eq
  have hasync := (h.field "async_" rfl rfl).boolean_eq
  have hgenerator := (h.field "generator" rfl rfl).boolean_eq
  have hparameters := hp parameters' (h.field "parameters" rfl rfl)
  have hreturnType := TypeExpr.map_bare_eq_of_same (h.field "return_type" rfl rfl)
  have hbody := hb body' (h.field "body" rfl rfl)
  rw [Func.unplaced, Func.unplaced, harrow, hasync, hgenerator, hparameters, hreturnType, hbody]

theorem Body.told_block {spot : Spot} {statements : List Stmt} (hs : Stmts.Told statements) :
    (Body.block spot statements).Told := by
  intro b' h
  cases b' with
  | block spot' statements' =>
      rw [Body.unplaced, Body.unplaced, hs statements' h.only.2]
  | expr spot' value' => exact absurd h.only.1 (by decide)

theorem Body.told_expr {spot : Spot} {value : Expr} (hv : value.Told) :
    (Body.expr spot value).Told := by
  intro b' h
  cases b' with
  | block spot' statements' => exact absurd h.only.1 (by decide)
  | expr spot' value' => rw [Body.unplaced, Body.unplaced, hv value' h.only.2]

theorem Params.told_nil : Params.Told [] := by
  intro ps' h
  cases ps' with
  | nil => rfl
  | cons first' rest' =>
      obtain ⟨spot', isRest', pattern', type', value'⟩ := first'
      have hitems := h.items
      rw [Params.snapshots_cons] at hitems
      cases hitems

theorem Params.told_cons {spot : Spot} {isRest : Bool} {pattern : Name} {type : Option TypeExpr}
    {value : Option Expr} {rest : List Param} (hv : Expr.OptionTold value)
    (hr : Params.Told rest) : Params.Told (⟨spot, isRest, pattern, type, value⟩ :: rest) := by
  intro ps' h
  have hitems := h.items
  rw [Params.snapshots_cons] at hitems
  cases ps' with
  | nil => cases hitems
  | cons first' rest' =>
      obtain ⟨spot', isRest', pattern', type', value'⟩ := first'
      rw [Params.snapshots_cons] at hitems
      obtain ⟨hfirst, hrest⟩ := List.forall₂_cons.mp hitems
      have hisRest := (hfirst.field "rest" rfl rfl).boolean_eq
      have hpattern := Name.bare_eq_of_same (hfirst.field "pattern" rfl rfl)
      have htype := TypeExpr.map_bare_eq_of_same (hfirst.field "type_annotation" rfl rfl)
      have hvalue := hv value' (hfirst.field "default_value" rfl rfl)
      rw [Params.unplaced_cons, Params.unplaced_cons, hisRest, hpattern, htype, hvalue,
        hr rest' (.array hrest)]

/-! ### Statements -/

namespace Stmt

theorem told_block {body : List Stmt} (hb : Stmts.Told body) : (block a body).Told := by
  intro s' h
  cases s' with
  | block a' body' => rw [unplaced, unplaced, hb body' (h.field "body" rfl rfl)]
  | _ => cases ctorIdx_of_same h

theorem told_breakTo {label : Option String} : (breakTo a label).Told := by
  intro s' h
  cases s' with
  | breakTo a' label' => rw [unplaced, unplaced, eq_of_same_text (h.field "label" rfl rfl)]
  | _ => cases ctorIdx_of_same h

theorem told_continueTo {label : Option String} : (continueTo a label).Told := by
  intro s' h
  cases s' with
  | continueTo a' label' => rw [unplaced, unplaced, eq_of_same_text (h.field "label" rfl rfl)]
  | _ => cases ctorIdx_of_same h

theorem told_doWhile {condition : Expr} {body : Stmt} (hc : condition.Told) (hb : body.Told) :
    (doWhile a condition body).Told := by
  intro s' h
  cases s' with
  | doWhile a' condition' body' =>
      have hcondition := hc condition' (h.field "condition" rfl rfl)
      have hbody := hb body' (h.field "body" rfl rfl)
      rw [unplaced, unplaced, hcondition, hbody]
  | _ => cases ctorIdx_of_same h

theorem told_empty : (empty a).Told := by
  intro s' h
  cases s' with
  | empty a' => rfl
  | _ => cases ctorIdx_of_same h

theorem told_expr {value : Expr} (hv : value.Told) : (expr a value).Told := by
  intro s' h
  cases s' with
  | expr a' value' => rw [unplaced, unplaced, hv value' (h.field "expr" rfl rfl)]
  | _ => cases ctorIdx_of_same h

theorem told_ifElse {test : Expr} {consequent : Stmt} {alternate : Option Stmt} (ht : test.Told)
    (hc : consequent.Told) (ha : Tells (ofOption Stmt.snapshot) (Option.map unplaced) alternate) :
    (ifElse a test consequent alternate).Told := by
  intro s' h
  cases s' with
  | ifElse a' test' consequent' alternate' =>
      rw [snapshot_ifElse, snapshot_ifElse] at h
      have htest := ht test' (h.field "test" rfl rfl)
      have hconsequent := hc consequent' (h.field "consequent" rfl rfl)
      have halternate := ha alternate' (h.field "alternate" rfl rfl)
      rw [unplaced_ifElse, unplaced_ifElse, htest, hconsequent, halternate]
  | _ => cases ctorIdx_of_same h

theorem told_ret {value : Option Expr} (hv : Expr.OptionTold value) : (ret a value).Told := by
  intro s' h
  cases s' with
  | ret a' value' =>
      rw [snapshot_ret, snapshot_ret] at h
      rw [unplaced_ret, unplaced_ret, hv value' (h.field "value" rfl rfl)]
  | _ => cases ctorIdx_of_same h

theorem told_throw {value : Expr} (hv : value.Told) : (throw a value).Told := by
  intro s' h
  cases s' with
  | throw a' value' => rw [unplaced, unplaced, hv value' (h.field "value" rfl rfl)]
  | _ => cases ctorIdx_of_same h

theorem told_tryBlock {wrapped : Block} {handler : Option Catch} {finalizer : Option Block}
    (hw : wrapped.Told)
    (hh : Tells (ofOption Catch.snapshot) (Option.map Catch.unplaced) handler)
    (hf : Tells (ofOption Block.snapshot) (Option.map Block.unplaced) finalizer) :
    (tryBlock a wrapped handler finalizer).Told := by
  intro s' h
  cases s' with
  | tryBlock a' wrapped' handler' finalizer' =>
      rw [snapshot_tryBlock, snapshot_tryBlock] at h
      have hwrapped := hw wrapped' (h.field "wrapped" rfl rfl)
      have hhandler := hh handler' (h.field "catch" rfl rfl)
      have hfinalizer := hf finalizer' (h.field "finally" rfl rfl)
      rw [unplaced_tryBlock, unplaced_tryBlock, hwrapped, hhandler, hfinalizer]
  | _ => cases ctorIdx_of_same h

theorem told_whileDo {condition : Expr} {body : Stmt} (hc : condition.Told) (hb : body.Told) :
    (whileDo a condition body).Told := by
  intro s' h
  cases s' with
  | whileDo a' condition' body' =>
      have hcondition := hc condition' (h.field "condition" rfl rfl)
      have hbody := hb body' (h.field "body" rfl rfl)
      rw [unplaced, unplaced, hcondition, hbody]
  | _ => cases ctorIdx_of_same h

theorem told_funcDecl {exported : Bool} {name : Option Name} {f : Func} (hf : f.Told) :
    (funcDecl a exported name f).Told := by
  intro s' h
  cases s' with
  | funcDecl a' exported' name' f' =>
      have hexported := (h.field "export" rfl rfl).boolean_eq
      have hname := Name.map_bare_eq_of_same (h.field "name" rfl rfl)
      have hfunc := hf f' (h.field "func" rfl rfl)
      rw [unplaced, unplaced, hexported, hname, hfunc]
  | _ => cases ctorIdx_of_same h

theorem told_varDecl {exported : Bool} {kind : BindingKind} {declarators : List Declarator}
    (hd : Declarators.Told declarators) : (varDecl a exported kind declarators).Told := by
  intro s' h
  cases s' with
  | varDecl a' exported' kind' declarators' =>
      have hexported := (h.field "export" rfl rfl).boolean_eq
      have hkind := BindingKind.name_injective (h.field "mode" rfl rfl).string_eq
      have hdeclarators := hd declarators' (h.field "declarators" rfl rfl)
      rw [unplaced, unplaced, hexported, hkind, hdeclarators]
  | _ => cases ctorIdx_of_same h

end Stmt

end forms

theorem Stmts.told_nil : Stmts.Told [] := by
  intro ss' h
  cases ss' with
  | nil => rfl
  | cons first' rest' => cases h.items

theorem Stmts.told_cons {first : Stmt} {rest : List Stmt} (hf : first.Told)
    (hr : Stmts.Told rest) : Stmts.Told (first :: rest) := by
  intro ss' h
  cases ss' with
  | nil => cases h.items
  | cons first' rest' =>
      obtain ⟨hfirst, hrest⟩ := List.forall₂_cons.mp h.items
      rw [Stmts.unplaced, Stmts.unplaced, hf first' hfirst, hr rest' (.array hrest)]

theorem Block.told_mk {spot : Spot} {body : List Stmt} (hb : Stmts.Told body) :
    (Block.mk spot body).Told := by
  intro b' h
  obtain ⟨spot', body'⟩ := b'
  rw [Block.unplaced, Block.unplaced, hb body' h.only.2]

theorem Catch.told_mk {spot : Spot} {parameter : Option Name} {body : List Stmt}
    (hb : Stmts.Told body) : (Catch.mk spot parameter body).Told := by
  intro c' h
  obtain ⟨spot', parameter', body'⟩ := c'
  have hparameter := Name.map_bare_eq_of_same (h.field "parameter" rfl rfl)
  have hbody := hb body' (h.field "body" rfl rfl)
  rw [Catch.unplaced, Catch.unplaced, hparameter, hbody]

theorem Declarators.told_nil : Declarators.Told [] := by
  intro ds' h
  cases ds' with
  | nil => rfl
  | cons first' rest' =>
      obtain ⟨pattern', type', value'⟩ := first'
      have hitems := h.items
      rw [Declarators.snapshots_cons] at hitems
      cases hitems

theorem Declarators.told_cons {pattern : Name} {type : Option TypeExpr} {value : Option Expr}
    {rest : List Declarator} (hv : Expr.OptionTold value) (hr : Declarators.Told rest) :
    Declarators.Told (⟨pattern, type, value⟩ :: rest) := by
  intro ds' h
  have hitems := h.items
  rw [Declarators.snapshots_cons] at hitems
  cases ds' with
  | nil => cases hitems
  | cons first' rest' =>
      obtain ⟨pattern', type', value'⟩ := first'
      rw [Declarators.snapshots_cons] at hitems
      obtain ⟨hfirst, hrest⟩ := List.forall₂_cons.mp hitems
      have hpattern := Name.bare_eq_of_same (hfirst.field "pattern" rfl rfl)
      have htype := TypeExpr.map_bare_eq_of_same (hfirst.field "type_annotation" rfl rfl)
      have hvalue := hv value' (hfirst.field "initializer" rfl rfl)
      rw [Declarators.unplaced_cons, Declarators.unplaced_cons, hpattern, htype, hvalue,
        hr rest' (.array hrest)]

end TypeProbe
