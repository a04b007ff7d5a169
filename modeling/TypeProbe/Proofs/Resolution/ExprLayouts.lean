import TypeProbe.Proofs.Resolution.Punctuation

/-! # Layouts of expressions

Trees with the same outline are printed around their outer bodies with the same layout
(`SharedLayout`).  One lemma for every form of expression says so of a node if it holds of its
parts (`Expr.hasLayout_binary` and so on); the forms of functions and statements follow in
`Proofs/Resolution/FuncLayouts` and `Proofs/Resolution/StmtLayouts`, and the induction in
`Proofs/Resolution/Layouts`.

A probed function is the only argument of a call, so its body is followed by a parenthesis
(`Arguments.HasProbedLayout`). -/

namespace TypeProbe

open Output

/-! ### Shared layouts -/

/-- Whether everything that has the outline `o` is printed with the same layout around its
bodies. -/
def SharedLayout {α : Type} (outline : α → α) (print : α → Output) (bodies : α → List Body)
    (o : α) : Prop :=
  ∃ l : Layout, ∀ x, outline x = o → (print x).Fits l (bodies x)

theorem SharedLayout.leaf {α : Type} {outline : α → α} {print : α → Output}
    {bodies : α → List Body} {o : α} (h : ∀ x, outline x = o → print x = print o ∧ bodies x = []) :
    SharedLayout outline print bodies o := by
  refine ⟨(print o).layout, ?_⟩
  intro x hx
  obtain ⟨hprint, hbodies⟩ := h x hx
  rw [hprint, hbodies]
  exact fits_layout _

section HasLayout

variable (marker : String)

def Expr.HasLayout : Expr → Prop :=
  SharedLayout (Expr.outline marker false) Expr.print fun e =>
    Visit.outerBodies marker (e.visits .rebuilding marker false)

def Elements.HasLayout : List Element → Prop :=
  SharedLayout (Elements.outline marker) (fun es => commaSeparated (Elements.outputs es))
    fun es => Visit.outerBodies marker (Elements.visits .rebuilding marker es)

def Arguments.HasLayout : List Argument → Prop :=
  SharedLayout (Arguments.outline marker false) (fun as => commaSeparated (Arguments.outputs as))
    fun as => Visit.outerBodies marker (Arguments.visits .rebuilding marker false as)

/-- The only argument of a probe is printed with the parenthesis after it. -/
def Arguments.HasProbedLayout (o : List Argument) : Prop :=
  ∃ l : Layout, ∀ spot value f, Arguments.outline marker true [⟨spot, false, value⟩] = o →
    value.literal? = some f →
    (commaSeparated (Arguments.outputs [⟨spot, false, value⟩]) ++ punct ")").Fits l
      (Visit.outerBodies marker (Params.visits .rebuilding marker f.parameters) ++ [f.body])

/-- The bodies of the outer probes among the arguments of a call, and that of the call itself if it
is a probe. -/
def Call.outerBodies (c : Call) : List Body :=
  Visit.outerBodies marker
      (Arguments.visits .rebuilding marker (c.probe? marker).isSome c.arguments) ++
    ((c.probe? marker).map (·.body)).toList

/-- The arguments of a call, in their parentheses. -/
def Call.HasLayout : Call → Prop :=
  SharedLayout (Call.outline marker)
    (fun c => parenthesized (commaSeparated (Arguments.outputs c.arguments)))
    (Call.outerBodies marker)

def Func.HasArrowLayout : Func → Prop :=
  SharedLayout (Func.outline marker false) Func.printArrow fun f =>
    Visit.outerBodies marker (f.visits .rebuilding marker false)

def Func.HasFunctionLayout (name : Option Name) : Func → Prop :=
  SharedLayout (Func.outline marker false) (Func.printFunction name) fun f =>
    Visit.outerBodies marker (f.visits .rebuilding marker false)

end HasLayout

section forms

variable {marker : String} {a : Anchor} {op : Operator} {optional : Bool}

/-! ### Expressions -/

namespace Expr

theorem hasLayout_arrow {f : Func} (hf : f.HasArrowLayout marker) :
    (arrow a f).HasLayout marker := by
  obtain ⟨l, hl⟩ := hf
  refine ⟨if f.generator then .written none :: l else l, ?_⟩
  intro e he
  cases e with
  | arrow _ f' =>
      cases he
      have h := hl f' rfl
      obtain ⟨spot, arrow, async, generator, parameters, returnType, body⟩ := f'
      cases generator with
      | true => exact h.failed rfl
      | false => exact h
  | _ => cases he

theorem hasLayout_function {name : Option Name} {f : Func}
    (hf : f.HasFunctionLayout marker name) : (function a name f).HasLayout marker := by
  obtain ⟨l, hl⟩ := hf
  refine ⟨if f.body.isBlock then l else .written none :: l, ?_⟩
  intro e he
  cases e with
  | function _ _ f' =>
      cases he
      have h := hl f' rfl
      rw [print_function, Func.isBlock_outline]
      split
      · exact h
      · exact h.failed rfl
  | _ => cases he

theorem hasLayout_binary {left right : Expr} (hl : left.HasLayout marker)
    (hr : right.HasLayout marker) : (binary a op left right).HasLayout marker := by
  obtain ⟨l, hl⟩ := hl
  obtain ⟨r, hr⟩ := hr
  refine ⟨left.wrapLayout (op.leftMin left) l ++ op.print.layout ++
    right.wrapLayout (op.rightMin right) r, ?_⟩
  intro e he
  cases e with
  | binary _ _ left' right' =>
      cases he
      simp only [wrapLayout_outline, Operator.leftMin_outline, Operator.rightMin_outline,
        visits, Visit.outerBodies_append]
      exact (((hl left' rfl).wrap _ _).after op.print).append ((hr right' rfl).wrap _ _)
  | _ => cases he

theorem outerBodies_call (a : Anchor) (c : Call) :
    Visit.outerBodies marker ((call a c).visits .rebuilding marker false) =
      Visit.outerBodies marker (c.callee.visits .rebuilding marker false) ++
        c.outerBodies marker := by
  have hself : Visit.outerBodies marker [⟨⟨a.inner, c⟩, false⟩] =
      ((c.probe? marker).map (·.body)).toList := by
    cases hp : c.probe? marker <;>
      simp [Visit.outerBodies, Visit.encounters, Visit.encounter?, hp]
  obtain ⟨optional, callee, arguments⟩ := c
  simp only [visits, Call.visits, Tour.around, Visit.outerBodies_append, hself,
    Call.outerBodies, List.append_assoc]

section call

variable {callee : Expr} {arguments : List Argument} (hc : callee.HasLayout marker)
  (ha : (Call.mk optional callee arguments).HasLayout marker)
include hc ha

theorem hasLayout_call : (call a ⟨optional, callee, arguments⟩).HasLayout marker := by
  obtain ⟨l, hl⟩ := hc
  obtain ⟨r, hr⟩ := ha
  refine ⟨callee.wrapLayout Precedence.callMember l ++ (printOptional optional).layout ++ r, ?_⟩
  intro e he
  cases e with
  | call _ c =>
      obtain ⟨optional', callee', arguments'⟩ := c
      cases he
      simp only [outerBodies_call, wrapLayout_outline]
      exact (((hl callee' rfl).wrap _ _).after (printOptional optional)).append
        (hr ⟨optional, callee', arguments'⟩ rfl)
  | _ => cases he

/-- Under `new` a call is printed by its parts, and fails if it is optional. -/
theorem hasLayout_newCall {b : Anchor} :
    (unary a .new (call b ⟨optional, callee, arguments⟩)).HasLayout marker := by
  obtain ⟨l, hl⟩ := hc
  obtain ⟨r, hr⟩ := ha
  let construction := (Operator.print .new).layout ++
    (callee.wrapLayout callee.constructorMin l ++ r)
  refine ⟨if optional then .written none :: construction else construction, ?_⟩
  intro e he
  cases e with
  | unary a' _ argument =>
      cases argument with
      | call b' c =>
          obtain ⟨optional', callee', arguments'⟩ := c
          cases he
          have h := (((hl callee' rfl).wrap callee' callee'.constructorMin).append
            (hr ⟨optional, callee', arguments'⟩ rfl)).before (Operator.print .new)
          have hvisits : (unary a .new (call b ⟨optional, callee', arguments'⟩)).visits .rebuilding
              marker false = (call b ⟨optional, callee', arguments'⟩).visits .rebuilding marker
                false := rfl
          simp only [hvisits, outerBodies_call, construction, wrapLayout_outline,
            constructorMin_outline]
          cases optional with
          | true => exact h.failed rfl
          | false => exact h
      | _ => cases he
  | _ => cases he

end call

theorem hasLayout_index {object key : Expr} (ho : object.HasLayout marker)
    (hk : key.HasLayout marker) : (index a optional object key).HasLayout marker := by
  obtain ⟨l, hl⟩ := ho
  obtain ⟨r, hr⟩ := hk
  refine ⟨object.wrapLayout Precedence.callMember l ++ (printOptional optional).layout ++
    (punct "[").layout ++ r ++ (punct "]").layout, ?_⟩
  intro e he
  cases e with
  | index _ _ object' key' =>
      cases he
      simp only [wrapLayout_outline, visits, Visit.outerBodies_append]
      exact (((((hl object' rfl).wrap _ _).after (printOptional optional)).after _).append
        (hr key' rfl)).after _
  | _ => cases he

theorem hasLayout_member {object : Expr} {property : String} (ho : object.HasLayout marker) :
    (member a optional object property).HasLayout marker := by
  obtain ⟨l, hl⟩ := ho
  refine ⟨object.wrapLayout Precedence.callMember l ++ object.integerPoint.layout ++
    (punct (if optional then "?." else ".")).layout ++ (identifier property).layout, ?_⟩
  intro e he
  cases e with
  | member _ _ object' _ =>
      cases he
      simp only [wrapLayout_outline, integerPoint_outline]
      exact ((((hl object' rfl).wrap _ _).after _).after _).after _
  | _ => cases he

theorem hasLayout_conditional {test consequent alternate : Expr} (ht : test.HasLayout marker)
    (hc : consequent.HasLayout marker) (ha : alternate.HasLayout marker) :
    (conditional a test consequent alternate).HasLayout marker := by
  obtain ⟨t, ht⟩ := ht
  obtain ⟨l, hl⟩ := hc
  obtain ⟨r, hr⟩ := ha
  refine ⟨test.wrapLayout (Precedence.assignment + 1) t ++ (punct "?").layout ++
    consequent.wrapLayout Precedence.assignment l ++ (punct ":").layout ++
    alternate.wrapLayout Precedence.assignment r, ?_⟩
  intro e he
  cases e with
  | conditional _ test' consequent' alternate' =>
      cases he
      simp only [wrapLayout_outline, visits, Visit.outerBodies_append]
      exact (((((ht test' rfl).wrap _ _).after _).append ((hl consequent' rfl).wrap _ _)).after
        _).append ((hr alternate' rfl).wrap _ _)
  | _ => cases he

theorem hasLayout_new {argument : Expr} (hc : argument.isCall = false)
    (ha : argument.HasLayout marker) : (unary a .new argument).HasLayout marker := by
  obtain ⟨l, hl⟩ := ha
  refine ⟨(Operator.print .new).layout ++ argument.wrapLayout argument.constructorMin l, ?_⟩
  intro e he
  cases e with
  | unary _ _ argument' =>
      cases he
      rw [isCall_outline] at hc
      rw [print_new hc, constructorMin_outline, wrapLayout_outline]
      exact ((hl argument' rfl).wrap _ _).before _
  | _ => cases he

theorem hasLayout_leading {argument : Expr} (hop : op ≠ .new) (ha : argument.HasLayout marker) :
    (unary a op argument).HasLayout marker := by
  obtain ⟨l, hl⟩ := ha
  refine ⟨op.print.layout ++ argument.wrapLayout Precedence.unary l, ?_⟩
  intro e he
  cases e with
  | unary _ _ argument' =>
      cases he
      rw [print_leading hop, wrapLayout_outline]
      exact ((hl argument' rfl).wrap _ _).before _
  | _ => cases he

theorem hasLayout_trailing {argument : Expr} (ha : argument.HasLayout marker) :
    (trailing a op argument).HasLayout marker := by
  obtain ⟨l, hl⟩ := ha
  refine ⟨argument.wrapLayout Precedence.callMember l ++ (punct op.token).layout, ?_⟩
  intro e he
  cases e with
  | trailing _ _ argument' =>
      cases he
      rw [wrapLayout_outline]
      exact ((hl argument' rfl).wrap _ _).after _
  | _ => cases he

theorem hasLayout_array {elements : List Element} (he : Elements.HasLayout marker elements) :
    (array a elements).HasLayout marker := by
  obtain ⟨l, hl⟩ := he
  refine ⟨(punct "[").layout ++ l ++ (onlyIf (endsInHole elements) (punct ",")).layout ++
    (punct "]").layout, ?_⟩
  intro e he
  cases e with
  | array _ elements' =>
      cases he
      rw [Elements.endsInHole_outline]
      exact (((hl elements' rfl).before _).after _).after _
  | _ => cases he

end Expr

/-! ### Elements -/

namespace Elements

theorem isEmpty_outputs (es : List Element) :
    (outputs es).isEmpty = (outline marker es).isEmpty := by
  cases es with
  | nil => rfl
  | cons first rest => cases first <;> rfl

theorem outerBodies_of_isEmpty {es : List Element}
    (h : (outline marker es).isEmpty = true) :
    Visit.outerBodies marker (visits .rebuilding marker es) = [] := by
  cases es with
  | nil => rfl
  | cons first rest => cases first <;> cases h

theorem hasLayout_nil : Elements.HasLayout marker [] := by
  refine ⟨[], ?_⟩
  intro es he
  cases es with
  | nil => exact fits_empty
  | cons first rest => cases first <;> cases he

variable {value : Expr} {rest : List Element}

theorem hasLayout_single (hv : value.HasLayout marker) (hr : Elements.HasLayout marker rest) :
    Elements.HasLayout marker (.single value :: rest) := by
  obtain ⟨l, hl⟩ := hv
  obtain ⟨r, hr⟩ := hr
  let first := value.wrapLayout Precedence.assignment l
  refine ⟨if rest.isEmpty then first else first ++ ((punct ",").layout ++ r), ?_⟩
  intro es he
  cases es with
  | nil => cases he
  | cons first' rest' =>
      cases first' with
      | single value' =>
          cases he
          simp only [first, Expr.wrapLayout_outline, Elements.visits, Visit.outerBodies_append]
          exact ((hl value' rfl).wrap _ _).comma _ (isEmpty_outputs rest') (hr rest' rfl)
            outerBodies_of_isEmpty
      | _ => cases he

theorem hasLayout_rest (hv : value.HasLayout marker) (hr : Elements.HasLayout marker rest) :
    Elements.HasLayout marker (.rest value :: rest) := by
  obtain ⟨l, hl⟩ := hv
  obtain ⟨r, hr⟩ := hr
  let first := (punct "...").layout ++ value.wrapLayout Precedence.assignment l
  refine ⟨if rest.isEmpty then first else first ++ ((punct ",").layout ++ r), ?_⟩
  intro es he
  cases es with
  | nil => cases he
  | cons first' rest' =>
      cases first' with
      | rest value' =>
          cases he
          simp only [first, Expr.wrapLayout_outline, Elements.visits, Visit.outerBodies_append]
          exact (((hl value' rfl).wrap _ _).before _).comma _ (isEmpty_outputs rest')
            (hr rest' rfl) outerBodies_of_isEmpty
      | _ => cases he

theorem hasLayout_hole (hr : Elements.HasLayout marker rest) :
    Elements.HasLayout marker (.hole :: rest) := by
  obtain ⟨r, hr⟩ := hr
  refine ⟨if rest.isEmpty then [] else [] ++ ((punct ",").layout ++ r), ?_⟩
  intro es he
  cases es with
  | nil => cases he
  | cons first' rest' =>
      cases first' with
      | hole =>
          cases he
          exact fits_empty.comma _ (isEmpty_outputs rest') (hr rest' rfl) outerBodies_of_isEmpty
      | _ => cases he

end Elements

/-! ### Arguments -/

namespace Arguments

theorem isEmpty_outputs (as : List Argument) :
    (outputs as).isEmpty = (outline marker false as).isEmpty := by
  cases as with
  | nil => rfl
  | cons first rest =>
      obtain ⟨spot, spread, value⟩ := first
      rfl

theorem outerBodies_of_isEmpty {as : List Argument}
    (h : (outline marker false as).isEmpty = true) :
    Visit.outerBodies marker (visits .rebuilding marker false as) = [] := by
  cases as with
  | nil => rfl
  | cons first rest =>
      obtain ⟨spot, spread, value⟩ := first
      cases h

theorem hasLayout_nil : Arguments.HasLayout marker [] := by
  refine ⟨[], ?_⟩
  intro as ha
  cases as with
  | nil => exact fits_empty
  | cons first rest =>
      obtain ⟨_, _, _⟩ := first
      cases ha

theorem hasLayout_cons {spot : Spot} {spread : Bool} {value : Expr} {rest : List Argument}
    (hv : value.HasLayout marker) (hr : Arguments.HasLayout marker rest) :
    Arguments.HasLayout marker (⟨spot, spread, value⟩ :: rest) := by
  obtain ⟨l, hl⟩ := hv
  obtain ⟨r, hr⟩ := hr
  let first := (onlyIf spread (punct "...")).layout ++ value.wrapLayout Precedence.assignment l
  refine ⟨if rest.isEmpty then first else first ++ ((punct ",").layout ++ r), ?_⟩
  intro as ha
  cases as with
  | nil => cases ha
  | cons first' rest' =>
      obtain ⟨spot', spread', value'⟩ := first'
      cases ha
      have hfirst := ((hl value' rfl).wrap value' Precedence.assignment).before
        (onlyIf spread (punct "..."))
      simp only [first, Expr.wrapLayout_outline, Arguments.visits, Visit.outerBodies_append]
      exact hfirst.comma _ (isEmpty_outputs rest') (hr rest' rfl) outerBodies_of_isEmpty

end Arguments

theorem Call.outerBodies_of_probe? {c : Call} {f : Func} (h : c.probe? marker = some f) :
    c.outerBodies marker =
      Visit.outerBodies marker (Params.visits .rebuilding marker f.parameters) ++ [f.body] := by
  have hv := Call.visits_of_probe? h .rebuilding
  obtain ⟨optional, anchor, spot, value, rfl, hl⟩ := Call.probe?_eq_some_iff.mp h
  have ha : Visit.outerBodies marker (Arguments.visits .rebuilding marker true
      [⟨spot, false, value⟩]) =
        Visit.outerBodies marker (Params.visits .rebuilding marker f.parameters) := by
    rw [Call.visits, h] at hv
    have hs : Arguments.visits .rebuilding marker true [⟨spot, false, value⟩] = _ := hv
    rw [hs, Visit.outerBodies_append, Visit.outerBodies_map_within, List.append_nil]
  simp only [Call.outerBodies, h, Option.isSome_some, Option.map_some, Option.toList_some, ha]

/-- The arguments of a call that is no probe are those of any other. -/
theorem Call.outerBodies_of_probe?_eq_none {c : Call} (h : c.probe? marker = none) :
    c.outerBodies marker =
      Visit.outerBodies marker (Arguments.visits .rebuilding marker false c.arguments) := by
  simp only [Call.outerBodies, h, Option.isSome_none, Option.map_none, Option.toList_none,
    List.append_nil]

/-- Whether a call is a probe shows in its outline. -/
theorem Call.hasLayout_mk {callee : Expr} {arguments : List Argument}
    (ha : Arguments.HasLayout marker arguments)
    (hp : Arguments.HasProbedLayout marker arguments) :
    (Call.mk optional callee arguments).HasLayout marker := by
  obtain ⟨l, hl⟩ := ha
  obtain ⟨r, hr⟩ := hp
  let probe := (Call.probe? marker ⟨optional, callee, arguments⟩).isSome
  refine ⟨if probe then (punct "(").layout ++ r else
    (punct "(").layout ++ l ++ (punct ")").layout, ?_⟩
  intro c hc
  have hp : (c.probe? marker).isSome = probe := by
    have ho : (c.outline marker).probe? marker = _ := c.probe?_outline
    rw [hc] at ho
    simp only [probe, ho, Option.isSome_map]
  cases hf : c.probe? marker with
  | some f =>
      rw [Call.outerBodies_of_probe? hf, ← hp, hf]
      obtain ⟨optional', anchor, spot, value, rfl, hv⟩ := Call.probe?_eq_some_iff.mp hf
      rw [Call.outline, hf] at hc
      have hm : _ = arguments := (Call.mk.inj hc).2.2
      have h := (hr spot value f hm hv).before (punct "(")
      rw [← append_assoc] at h
      exact h
  | none =>
      rw [Call.outerBodies_of_probe?_eq_none hf, ← hp, hf]
      obtain ⟨optional', callee', arguments'⟩ := c
      rw [Call.outline, hf] at hc
      have hm : _ = arguments := (Call.mk.inj hc).2.2
      exact (hl arguments' hm).parenthesized

end forms

end TypeProbe
