import TypeProbe.Proofs.Resolution.StmtLayouts

/-! # Layouts of outlines

Programs with the same outline have the same layout (`Program.exists_layout`): what is printed
around the bodies of their outer probes is the same, fragment by fragment, with a slot for each of
these bodies.

The induction goes over the outline, with one case for every form. -/

namespace TypeProbe

open Output

section layout

variable {marker : String}

mutual

theorem Expr.exists_layout : (o : Expr) → o.HasLayout marker
  | .arrow _ f => Expr.hasLayout_arrow f.exists_layout_arrow
  | .binary _ _ left right => Expr.hasLayout_binary left.exists_layout right.exists_layout
  | .call _ ⟨optional, callee, arguments⟩ =>
      Expr.hasLayout_call callee.exists_layout (Call.exists_layout ⟨optional, callee, arguments⟩)
  | .index _ _ object key => Expr.hasLayout_index object.exists_layout key.exists_layout
  | .conditional _ test consequent alternate =>
      Expr.hasLayout_conditional test.exists_layout consequent.exists_layout
        alternate.exists_layout
  | .function _ name f => Expr.hasLayout_function (f.exists_layout_function name)
  | .member _ _ object _ => Expr.hasLayout_member object.exists_layout
  | .unary _ op argument => by
      have ha := argument.exists_layout
      by_cases hnew : op = .new
      · subst hnew
        cases argument with
        | call _ c =>
            obtain ⟨optional, callee, arguments⟩ := c
            have hc := Call.exists_layout ⟨optional, callee, arguments⟩
            exact Expr.hasLayout_newCall callee.exists_layout hc
        | _ => exact Expr.hasLayout_new rfl ha
      · exact Expr.hasLayout_leading hnew ha
  | .trailing _ _ argument => Expr.hasLayout_trailing argument.exists_layout
  | .array _ elements => Expr.hasLayout_array (Elements.exists_layout elements)
  | .ident .. | .this _ | .boolean .. | .null _ | .number .. | .string .. => by
      refine .leaf ?_
      intro e he
      cases e <;> cases he
      exact ⟨rfl, rfl⟩

theorem Call.exists_layout : (o : Call) → o.HasLayout marker
  | ⟨_, _, arguments⟩ =>
      Call.hasLayout_mk (Arguments.exists_layout arguments)
        (Arguments.exists_layout_probed arguments)

theorem Arguments.exists_layout : (o : List Argument) → Arguments.HasLayout marker o
  | [] => Arguments.hasLayout_nil
  | ⟨_, _, value⟩ :: rest =>
      Arguments.hasLayout_cons value.exists_layout (Arguments.exists_layout rest)

theorem Arguments.exists_layout_probed :
    (o : List Argument) → Arguments.HasProbedLayout marker o
  | [] => Arguments.hasProbedLayout_nil
  | ⟨_, _, value⟩ :: _ => Arguments.hasProbedLayout_cons value.exists_layout_probed

theorem Expr.exists_layout_probed : (o : Expr) → o.HasProbedLayout marker
  | .arrow _ ⟨_, _, _, _, parameters, _, _⟩ =>
      Expr.hasProbedLayout_arrow (Params.exists_layout parameters)
  | .function _ _ ⟨_, _, _, _, parameters, _, _⟩ =>
      Expr.hasProbedLayout_function (Params.exists_layout parameters)
  | .binary .. | .call .. | .index .. | .conditional .. | .ident .. | .member .. | .this _
  | .unary .. | .trailing .. | .array .. | .boolean .. | .null _ | .number .. | .string .. =>
      Expr.hasProbedLayout_of_literal? rfl

theorem Elements.exists_layout : (o : List Element) → Elements.HasLayout marker o
  | [] => Elements.hasLayout_nil
  | .single value :: rest =>
      Elements.hasLayout_single value.exists_layout (Elements.exists_layout rest)
  | .rest value :: rest =>
      Elements.hasLayout_rest value.exists_layout (Elements.exists_layout rest)
  | .hole :: rest => Elements.hasLayout_hole (Elements.exists_layout rest)

theorem Func.exists_layout_arrow : (o : Func) → o.HasArrowLayout marker
  | ⟨_, _, _, _, parameters, _, body⟩ =>
      Func.hasArrowLayout_mk (Params.exists_layout parameters) body.exists_layout

theorem Func.exists_layout_function (name : Option Name) :
    (o : Func) → o.HasFunctionLayout marker name
  | ⟨_, _, _, _, parameters, _, body⟩ =>
      Func.hasFunctionLayout_mk (Params.exists_layout parameters) body.exists_layout

theorem Body.exists_layout : (o : Body) → o.HasLayout marker
  | .block _ statements => Body.hasLayout_block (Stmts.exists_layout statements)
  | .expr _ value => Body.hasLayout_expr value.exists_layout

theorem Params.exists_layout : (o : List Param) → Params.HasLayout marker o
  | [] => Params.hasLayout_nil
  | ⟨_, _, _, _, none⟩ :: rest => Params.hasLayout_required (Params.exists_layout rest)
  | ⟨_, _, _, _, some value⟩ :: rest =>
      Params.hasLayout_optional value.exists_layout (Params.exists_layout rest)

theorem Stmt.exists_layout : (o : Stmt) → o.HasLayout marker
  | .block _ body => Stmt.hasLayout_block (Stmts.exists_layout body)
  | .breakTo .. => Stmt.hasLayout_breakTo
  | .continueTo .. => Stmt.hasLayout_continueTo
  | .empty _ => Stmt.hasLayout_empty
  | .doWhile _ condition body =>
      Stmt.hasLayout_doWhile condition.exists_layout body.exists_layout
  | .expr _ value => Stmt.hasLayout_expr value.exists_layout
  | .ifElse _ test consequent none =>
      Stmt.hasLayout_if test.exists_layout consequent.exists_layout
  | .ifElse _ test consequent (some alternate) =>
      Stmt.hasLayout_ifElse test.exists_layout consequent.exists_layout alternate.exists_layout
  | .ret _ none => Stmt.hasLayout_retNothing
  | .ret _ (some value) => Stmt.hasLayout_ret value.exists_layout
  | .throw _ value => Stmt.hasLayout_throw value.exists_layout
  | .tryBlock _ wrapped none none => Stmt.hasLayout_tryAlone wrapped.exists_layout
  | .tryBlock _ wrapped (some handler) none =>
      Stmt.hasLayout_tryCatch wrapped.exists_layout handler.exists_layout
  | .tryBlock _ wrapped none (some finalizer) =>
      Stmt.hasLayout_tryFinally wrapped.exists_layout finalizer.exists_layout
  | .tryBlock _ wrapped (some handler) (some finalizer) =>
      Stmt.hasLayout_tryCatchFinally wrapped.exists_layout handler.exists_layout
        finalizer.exists_layout
  | .whileDo _ condition body =>
      Stmt.hasLayout_whileDo condition.exists_layout body.exists_layout
  | .funcDecl _ _ none f => Stmt.hasLayout_unnamed (f.exists_layout_function none)
  | .funcDecl _ _ (some name) f =>
      Stmt.hasLayout_funcDecl (f.exists_layout_function (some name))
  | .varDecl _ _ _ declarators =>
      Stmt.hasLayout_varDecl (Declarators.exists_layout declarators)

theorem Stmts.exists_layout : (o : List Stmt) → Stmts.HasLayout marker o
  | [] => Stmts.hasLayout_nil
  | s :: rest => Stmts.hasLayout_cons s.exists_layout (Stmts.exists_layout rest)

theorem Block.exists_layout : (o : Block) → o.HasLayout marker
  | ⟨_, body⟩ => Block.hasLayout_mk (Stmts.exists_layout body)

theorem Catch.exists_layout : (o : Catch) → o.HasLayout marker
  | ⟨_, _, body⟩ => Catch.hasLayout_mk (Stmts.exists_layout body)

theorem Declarators.exists_layout : (o : List Declarator) → Declarators.HasLayout marker o
  | [] => Declarators.hasLayout_nil
  | ⟨_, _, none⟩ :: rest => Declarators.hasLayout_unset (Declarators.exists_layout rest)
  | ⟨_, _, some value⟩ :: rest =>
      Declarators.hasLayout_set value.exists_layout (Declarators.exists_layout rest)

end

/-- The programs with a given outline have a layout in common. -/
theorem Program.exists_layout (marker : String) (o : Program) :
    ∃ l : Layout, ∀ p : Program, p.outline marker = o →
      p.print.Fits l (Visit.outerBodies marker (p.visits .rebuilding marker)) := by
  obtain ⟨l, hl⟩ := @Stmts.exists_layout marker o.body
  refine ⟨l, ?_⟩
  rintro p rfl
  exact hl p.body rfl

end layout

end TypeProbe
