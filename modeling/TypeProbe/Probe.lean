import TypeProbe.Region
import TypeProbe.Tree.Calls

/-! # Probes

A probe is a call `marker(f)`: the callee is the bare marker name, and the only argument is a
function literal that is not spread.  Nothing else about the function matters.  A constructor
call `new marker(f)` is the operator `new` over such a call, and the call inside counts.

* `Call.probe?` is the probed function of a call, and `Call.withProbe` puts another one in its
  place.
* `Program.probes` lists the probes of a program, outer ones first. -/

namespace TypeProbe

def Expr.literal? : Expr → Option Func
  | .arrow _ f | .function _ _ f => some f
  | _ => none

/-- A function literal with another function in it; any other expression is left as it is. -/
def Expr.withLiteral (f : Func) : Expr → Expr
  | .arrow a _ => .arrow a f
  | .function a name _ => .function a name f
  | e => e

theorem Expr.literal?_withLiteral {e : Expr} {f : Func} (g : Func) (h : e.literal? = some f) :
    (e.withLiteral g).literal? = some g := by
  cases e with
  | arrow | function => rfl
  | _ => cases h

/-- Whether an expression is a name, and this one. -/
def Expr.isIdent (name : String) : Expr → Bool
  | .ident _ n => n == name
  | _ => false

theorem Expr.isIdent_iff {e : Expr} {name : String} :
    e.isIdent name = true ↔ ∃ a, e = .ident a name := by
  cases e <;> simp [isIdent]

namespace Call

/-- The value of the only argument, if it is not spread. -/
def soleArgument? (c : Call) : Option Expr :=
  match c.arguments with
  | [a] => if a.spread then none else some a.value
  | _ => none

theorem soleArgument?_eq_some_iff {c : Call} {value : Expr} :
    c.soleArgument? = some value ↔ ∃ spot, c.arguments = [⟨spot, false, value⟩] := by
  obtain ⟨optional, callee, arguments⟩ := c
  constructor
  · intro h
    unfold soleArgument? at h
    split at h
    · next a harguments =>
        obtain ⟨spot, spread, value'⟩ := a
        cases spread with
        | true => cases h
        | false =>
            obtain rfl := Option.some.inj h
            exact ⟨spot, harguments⟩
    · cases h
  · rintro ⟨spot, rfl⟩
    rfl

/-- The probed function, if the call is a probe. -/
def probe? (marker : String) (c : Call) : Option Func :=
  if c.callee.isIdent marker then c.soleArgument?.bind Expr.literal? else none

/-- A call with another function in its function literals. -/
def withProbe (f : Func) (c : Call) : Call :=
  { c with arguments := c.arguments.map fun a => { a with value := a.value.withLiteral f } }

theorem soleArgument?_withProbe (c : Call) (g : Func) :
    (c.withProbe g).soleArgument? = c.soleArgument?.map (Expr.withLiteral g) := by
  obtain ⟨optional, callee, arguments⟩ := c
  unfold soleArgument? withProbe
  match arguments with
  | [] => rfl
  | [a] => cases h : a.spread <;> simp [h]
  | _ :: _ :: _ => rfl

/-- A probe stays a probe when its function is replaced. -/
theorem probe?_withProbe {marker : String} {c : Call} {f : Func} (g : Func)
    (h : c.probe? marker = some f) : (c.withProbe g).probe? marker = some g := by
  unfold probe? at h ⊢
  have hc : (c.withProbe g).callee = c.callee := rfl
  rw [hc, soleArgument?_withProbe]
  split at h
  · next hi =>
      obtain ⟨value, hv, hl⟩ := Option.bind_eq_some_iff.mp h
      simp [hi, hv, Expr.literal?_withLiteral g hl]
  · cases h

end Call

/-- The probed function of an expression that is a probe. -/
def Expr.probe? (marker : String) : Expr → Option Func
  | .call _ c => c.probe? marker
  | _ => none

/-- A probe found in a program. -/
structure Site where
  /-- The position of the call. -/
  call : Loc
  /-- The region of the probed function. -/
  region : Region
  /-- How many parameters the probed function declares. -/
  parameters : Nat
deriving DecidableEq, Repr

def CallSite.site? (marker : String) (s : CallSite) : Option Site :=
  (s.call.probe? marker).map fun f => ⟨s.loc, .ofBody f.body, f.parameters.length⟩

namespace Program

/-- The probes of a program, outer ones first. -/
def probes (marker : String) (p : Program) : List Site := p.calls.filterMap (·.site? marker)

/-- The probed functions of the statements of a program that consist of a probe. -/
def statementProbes (marker : String) (p : Program) : List Func :=
  p.body.filterMap fun
    | .expr _ value => value.probe? marker
    | _ => none

end Program

end TypeProbe
