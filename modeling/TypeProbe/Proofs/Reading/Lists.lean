import TypeProbe.Proofs.Reading.Operands

/-! # Reading lists back

Types, the entries of lists and what is built from them: arguments and elements (`Elements.Read`),
parameters and variables (`Params.Read`).  A list is read entry by entry up to the mark that closes
it; what is shown of a list goes by recursion on its entries.

Arguments are read as elements and variables as parameters, which is how they are written
(`Arguments.outputs_eq`, `Declarators.outputs_eq`). -/

namespace TypeProbe

open Grammar Output Lexeme

/-! ### Types -/

/-- The signs that may come after a type. -/
def endsType (c : Char) : Bool := [')', ',', '=', '>', ';', '\x7b'].contains c

/-- What ends a type does not go on with it, nor with an annotation. -/
theorem not_after_of_endsType {c : Char} (hc : endsType c = true) (rest : List Lexeme) :
    after? '<' (sign c :: rest) = none ∧ after? ':' (sign c :: rest) = none ∧
      ∀ t, readBrackets t (sign c :: rest) = (t, sign c :: rest) := by
  simp only [endsType, List.contains_eq_mem, List.mem_cons, List.not_mem_nil, or_false,
    decide_eq_true_eq] at hc
  rcases hc with rfl | rfl | rfl | rfl | rfl | rfl <;> exact ⟨rfl, rfl, fun _ => rfl⟩

mutual

/-- A type is read as its bare tree, and the brackets after it belong to it. -/
theorem TypeExpr.reads : (t : TypeExpr) → t.passes readable = true → ∀ ts, t.print.Spells ts →
    (∀ rest, after? '<' rest = none →
      readType (lexemes ts ++ rest) = some (readBrackets t.bare rest)) ∧
    ∀ rest, typeTail (lexemes ts ++ rest) = typeTail rest
  | .array _ element, h => by
      intro ts hs
      obtain ⟨us, hu, _, hb, rfl⟩ := spells_append.mp hs
      obtain rfl := spells_punct.mp hb
      obtain ⟨hread, htail⟩ := element.reads h us hu
      refine ⟨fun rest _ => ?_, fun rest => ?_⟩
      · rw [lexemes_append, List.append_assoc, hread _ rfl]
        rfl
      · rw [lexemes_append, List.append_assoc, htail]
        rfl
  | .keyword _ w, _ => by
      intro ts hs
      obtain rfl := spells_keyword.mp hs
      refine ⟨fun rest _ => readType_of_keyword ?_, fun _ => rfl⟩
      cases w <;> rfl
  | .reference _ name arguments, h => by
      intro ts hs
      simp only [TypeExpr.passes, Bool.and_eq_true] at h
      obtain ⟨hn, ha⟩ := h
      have hk : typeKeywords.lookup name = none := lookup_eq_none_of_check hn (by decide)
      obtain ⟨_, hname, vs, hv, rfl⟩ := spells_append.mp hs
      obtain rfl := spells_identifier.mp hname
      cases arguments with
      | nil =>
          obtain rfl := spells_empty.mp hv
          exact ⟨fun rest hr => readType_of_name hk hr, fun _ => rfl⟩
      | cons t types =>
          obtain ⟨_, hleft, _, hclose, rfl⟩ := spells_append.mp hv
          obtain ⟨_, hopen, us, hu, rfl⟩ := spells_append.mp hleft
          obtain rfl := spells_punct.mp hopen
          obtain rfl := spells_punct.mp hclose
          obtain ⟨hread, htail⟩ := TypeExprs.reads (t :: types) ha nofun us hu
          have htext (rest : List Lexeme) :
              lexemes ([Token.word name] ++ ([Token.mark "<"] ++ us ++ [Token.mark ">"])) ++ rest =
                run name :: sign '<' :: (lexemes us ++ sign '>' :: rest) := by
            simp only [lexemes_append, List.append_assoc]
            rfl
          refine ⟨fun rest _ => ?_, fun rest => ?_⟩
          · rw [htext, readType_of_applied hk (hread rest)]
            rfl
          · rw [htext]
            exact htail (sign '>' :: rest)

theorem TypeExprs.reads : (types : List TypeExpr) → TypeExprs.passes readable types = true →
    types ≠ [] → ∀ ts, (commaSeparated (TypeExprs.outputs types)).Spells ts →
    (∀ rest, readTypes (lexemes ts ++ sign '>' :: rest) = some (TypeExprs.bare types, rest)) ∧
    ∀ rest, typeTail (lexemes ts ++ rest) = typeTail rest
  | [], _, hne => absurd rfl hne
  | [t], h, _ => by
      intro ts hs
      simp only [TypeExprs.passes, Bool.and_eq_true] at h
      obtain ⟨hread, htail⟩ := t.reads h.1 ts hs
      refine ⟨fun rest => readTypes_of_last ?_, htail⟩
      rw [hread _ rfl, (not_after_of_endsType (by decide) _).2.2]
  | t :: u :: rest, h, _ => by
      intro ts hs
      simp only [TypeExprs.passes, Bool.and_eq_true] at h
      obtain ⟨us, hu, ⟨hnil, _⟩ | ⟨_, vs, hv, rfl⟩⟩ := spells_commaSeparated_cons.mp hs
      · cases hnil
      obtain ⟨hread, htail⟩ := t.reads h.1 us hu
      obtain ⟨hmore, htails⟩ := TypeExprs.reads (u :: rest)
        (by simp only [TypeExprs.passes, Bool.and_eq_true]; exact h.2) nofun vs hv
      have htext (rest : List Lexeme) : lexemes (us ++ [Token.mark ","] ++ vs) ++ rest =
          lexemes us ++ sign ',' :: (lexemes vs ++ rest) := by
        simp only [lexemes_append, List.append_assoc]
        rfl
      refine ⟨fun rest => ?_, fun rest => ?_⟩
      · rw [htext]
        refine readTypes_of_more ?_ (hmore rest)
        rw [hread _ rfl, (not_after_of_endsType (by decide) _).2.2]
      · rw [htext, htail]
        exact htails rest

end

/-- An annotation is read in front of what may come after one. -/
theorem reads_optionalType {type : Option TypeExpr} (h : TypeExpr.optionPasses readable type = true)
    {ts : List Token} (hs : (printType? type).Spells ts) {c : Char} (hc : endsType c = true)
    (rest : List Lexeme) :
    readOptionalType (lexemes ts ++ sign c :: rest) =
      some (type.map TypeExpr.bare, sign c :: rest) := by
  obtain ⟨hless, hcolon, hbrackets⟩ := not_after_of_endsType hc rest
  cases type with
  | none =>
      obtain rfl := spells_empty.mp hs
      rw [lexemes_nil, List.nil_append, readOptionalType, hcolon]
      rfl
  | some t =>
      obtain ⟨_, hmark, us, hu, rfl⟩ := spells_append.mp hs
      obtain rfl := spells_punct.mp hmark
      have hread := (t.reads h us hu).1 _ hless
      rw [hbrackets] at hread
      rw [lexemes_append, List.append_assoc]
      show readOptionalType (sign ':' :: (lexemes us ++ sign c :: rest)) = _
      rw [readOptionalType, after?_sign]
      simp only [hread, Option.map_some]

/-- After an annotation an arrow is in sight. -/
theorem arrowAfter_optionalType {type : Option TypeExpr}
    (h : TypeExpr.optionPasses readable type = true) {ts : List Token}
    (hs : (printType? type).Spells ts) (rest : List Lexeme) :
    arrowAfter (lexemes ts ++ sign '=' :: sign '>' :: rest) = true := by
  cases type with
  | none =>
      obtain rfl := spells_empty.mp hs
      rfl
  | some t =>
      obtain ⟨_, hcolon, us, hu, rfl⟩ := spells_append.mp hs
      obtain rfl := spells_punct.mp hcolon
      rw [lexemes_append, List.append_assoc]
      exact (t.reads h us hu).2 _

/-! ### Elements and arguments -/

theorem takePoints_of_opens {ls : List Lexeme} (h : opens ls = true) :
    takePoints ls = (false, ls) := by
  obtain ⟨l, ms, rfl, hl⟩ := exists_cons_of_opens h
  cases l with
  | sign c =>
      have hc : c ≠ '.' := fun hc => ne_of_check hl (y := sign '.') rfl (congrArg sign hc)
      unfold takePoints
      split
      · next heq =>
          exact absurd (sign.inj (List.cons.inj heq).1) hc
      · rfl
  | _ => rfl

namespace Elements

/-- What is shown of a list of elements: no arrow comes into sight in its text, and it is read up
to the mark that closes it. -/
structure Read (elements : List Element) : Prop where
  arrowFree : ∀ ts, (commaSeparated (Elements.outputs elements)).Spells ts → ArrowFree (lexemes ts)
  reads : ∀ ts, (commaSeparated (Elements.outputs elements)).Spells ts →
    ∀ close ∈ [')', ']'], ∀ rest,
      readElements close (lexemes ts ++
        (lexemes (Token.onlyIf (endsInHole elements) (.mark ",")) ++ sign close :: rest)) =
        some (Elements.bare elements, rest)

theorem read_nil : Read [] where
  arrowFree := by
    intro ts hs
    obtain rfl := spells_empty.mp hs
    exact arrowFree_nil
  reads := by
    intro ts hs close hclose rest
    obtain rfl := spells_empty.mp hs
    refine readElements_of_close ?_
    rintro rfl
    exact absurd hclose (by decide)

theorem outputs_eq_nil {elements : List Element} (h : Elements.outputs elements = []) :
    elements = [] := by
  cases elements with
  | nil => rfl
  | cons element rest => cases element <;> cases h

theorem endsInHole_cons {element : Element} {rest : List Element} (h : rest ≠ []) :
    endsInHole (element :: rest) = endsInHole rest := by
  cases rest with
  | nil => exact absurd rfl h
  | cons element' rest => cases element <;> rfl

theorem outputs_entry (spread : Bool) (value : Expr) (rest : List Element) :
    Elements.outputs (.entry spread value :: rest) =
      (onlyIf spread (punct "...") ++ value.wrap Precedence.assignment value.print) ::
        Elements.outputs rest := by
  cases spread <;> rfl

theorem bare_entry (spread : Bool) (value : Expr) (rest : List Element) :
    Elements.bare (.entry spread value :: rest) =
      .entry spread value.bare :: Elements.bare rest := by
  cases spread <;> rfl

/-- An entry with a value is no hole and does not end the list. -/
theorem readSeparator_entry {close : Char} (hc : close ∈ [')', ']']) (spread : Bool)
    {ls : List Lexeme} (h : opens ls = true) :
    readSeparator close (lexemes (Token.onlyIf spread (.mark "...")) ++ ls) = none ∧
      takePoints (lexemes (Token.onlyIf spread (.mark "...")) ++ ls) = (spread, ls) := by
  have hsign : (sign close).isOpener = false ∧ close ≠ '.' := by
    simp only [List.mem_cons, List.not_mem_nil, or_false] at hc
    rcases hc with rfl | rfl <;> decide
  cases spread with
  | true =>
      have hclose : after? close (sign '.' :: sign '.' :: sign '.' :: ls) = none :=
        if_neg hsign.2.symm
      refine ⟨?_, rfl⟩
      show readSeparator close (sign '.' :: sign '.' :: sign '.' :: ls) = none
      rw [readSeparator, hclose]
      rfl
  | false =>
      refine ⟨?_, takePoints_of_opens h⟩
      show readSeparator close ls = none
      rw [readSeparator, after?_of_opens h rfl, after?_of_opens h hsign.1]
      rfl

/-- A list that begins with an element. -/
theorem read_entry (spread : Bool) {value : Expr} {rest : List Element} (hv : value.Reads)
    (hp : value.passes readable = true) (hr : Read rest) : Read (.entry spread value :: rest) where
  arrowFree := by
    intro ts hs
    rw [outputs_entry] at hs
    obtain ⟨_, hu, hend⟩ := spells_commaSeparated_cons.mp hs
    obtain ⟨_, hdots, us, hu, rfl⟩ := spells_append.mp hu
    obtain rfl := spells_onlyIf_punct.mp hdots
    have hfree : ArrowFree (lexemes (Token.onlyIf spread (.mark "...") ++ us)) := by
      cases spread with
      | true => exact fun _ _ => rfl
      | false => exact ((value.opening_print hp).wrap hu).arrowFree
    obtain ⟨_, rfl⟩ | ⟨_, vs, hvs, rfl⟩ := hend
    · exact hfree
    · have hcomma : ArrowFree (lexemes [Token.mark ","]) := fun _ h => h
      rw [lexemes_append, lexemes_append]
      exact (hfree.append hcomma).append (hr.arrowFree vs hvs)
  reads := by
    intro ts hs close hclose more
    have hcomma : close ≠ ',' := by
      rintro rfl
      exact absurd hclose (by decide)
    rw [outputs_entry] at hs
    obtain ⟨_, hentry, hend⟩ := spells_commaSeparated_cons.mp hs
    obtain ⟨_, hdots, us, hu, rfl⟩ := spells_append.mp hentry
    obtain rfl := spells_onlyIf_punct.mp hdots
    have hfollows (more : List Lexeme) : Follows Precedence.assignment (sign close :: more) :=
      follows_close (List.mem_append_left ['\x7d', ';'] hclose) _ _
    have hopening := (value.opening_print hp).wrap hu
    rw [bare_entry]
    obtain ⟨hnil, rfl⟩ | ⟨hne, vs, hvs, rfl⟩ := hend
    · obtain rfl := outputs_eq_nil hnil
      have hends : endsInHole [.entry spread value] = false := by
        cases spread <;> rfl
      obtain ⟨hs, hp'⟩ := readSeparator_entry hclose spread (hopening.opens (sign close :: more))
      rw [hends, lexemes_append, List.append_assoc]
      exact readElements_of_last hcomma hs hp' (hv.whole hp hu le_rfl (hfollows more))
    · have hends : endsInHole (.entry spread value :: rest) = endsInHole rest :=
        endsInHole_cons fun hnil => hne (by rw [hnil]; rfl)
      rw [hends]
      generalize htail : lexemes (Token.onlyIf (endsInHole rest) (.mark ",")) ++
        sign close :: more = tail
      have hread := hr.reads vs hvs close hclose more
      have hfree : typeTail tail = false := by
        rw [← htail]
        cases endsInHole rest <;> exact (hfollows more).typeEnds
      rw [htail] at hread
      have hmore : Follows Precedence.assignment (sign ',' :: (lexemes vs ++ tail)) :=
        follows_comma le_rfl (hr.arrowFree vs hvs tail hfree)
      obtain ⟨hs, hp'⟩ :=
        readSeparator_entry hclose spread (hopening.opens (sign ',' :: (lexemes vs ++ tail)))
      have htext :
          lexemes (Token.onlyIf spread (.mark "...") ++ us ++ [Token.mark ","] ++ vs) ++ tail =
          lexemes (Token.onlyIf spread (.mark "...")) ++
            (lexemes us ++ sign ',' :: (lexemes vs ++ tail)) := by
        simp only [lexemes_append, List.append_assoc]
        rfl
      rw [htext]
      exact readElements_of_more hs hp' (hv.whole hp hu le_rfl hmore) hread

theorem read_hole {rest : List Element} (hr : Read rest) : Read (.hole :: rest) where
  arrowFree := by
    intro ts hs
    obtain ⟨_, hu, hend⟩ := spells_commaSeparated_cons.mp hs
    obtain rfl := spells_empty.mp hu
    obtain ⟨_, rfl⟩ | ⟨_, vs, hvs, rfl⟩ := hend
    · exact arrowFree_nil
    · exact hr.arrowFree vs hvs
  reads := by
    intro ts hs close hclose more
    obtain ⟨_, hu, hend⟩ := spells_commaSeparated_cons.mp hs
    obtain rfl := spells_empty.mp hu
    obtain ⟨hnil, rfl⟩ | ⟨hne, vs, hvs, rfl⟩ := hend
    · obtain rfl := outputs_eq_nil hnil
      exact readElements_of_hole (read_nil.reads [] (spells_empty.mpr rfl) close hclose more)
    · have hends : endsInHole (.hole :: rest) = endsInHole rest :=
        endsInHole_cons fun hnil => hne (by rw [hnil]; rfl)
      rw [hends]
      exact readElements_of_hole (hr.reads vs hvs close hclose more)

end Elements

/-- An argument as an entry of a list of elements. -/
def Argument.element (argument : Argument) : Element := .entry argument.spread argument.value

namespace Arguments

/-- Arguments are written as elements are. -/
theorem outputs_eq (arguments : List Argument) :
    Arguments.outputs arguments = Elements.outputs (arguments.map Argument.element) := by
  induction arguments with
  | nil => rfl
  | cons argument rest ih =>
      obtain ⟨spot, spread, value⟩ := argument
      rw [List.map_cons, Argument.element, Elements.outputs_entry, ← ih]
      rfl

theorem endsInHole_eq_false (arguments : List Argument) :
    endsInHole (arguments.map Argument.element) = false := by
  induction arguments with
  | nil => rfl
  | cons argument rest ih =>
      obtain ⟨spot, spread, value⟩ := argument
      cases rest with
      | nil => cases spread <;> rfl
      | cons argument' rest => exact (Elements.endsInHole_cons (List.cons_ne_nil _ _)).trans ih

theorem bare_eq (arguments : List Argument) :
    (Elements.bare (arguments.map Argument.element)).filterMap Element.argument? =
      Arguments.bare arguments := by
  induction arguments with
  | nil => rfl
  | cons argument rest ih =>
      obtain ⟨spot, spread, value⟩ := argument
      have hbare : Arguments.bare (⟨spot, spread, value⟩ :: rest) =
          ⟨.blank, spread, value.bare⟩ :: Arguments.bare rest := rfl
      rw [List.map_cons, Argument.element, Elements.bare_entry, hbare, ← ih]
      cases spread <;> rfl

/-- What is shown of arguments is what is shown of the same elements. -/
def Read (arguments : List Argument) : Prop :=
  Elements.Read (arguments.map Argument.element)

theorem Read.reads {arguments : List Argument} (h : Read arguments) {ts : List Token}
    (hs : (commaSeparated (Arguments.outputs arguments)).Spells ts) (rest : List Lexeme) :
    ∃ elements, readElements ')' (lexemes ts ++ sign ')' :: rest) = some (elements, rest) ∧
      elements.filterMap Element.argument? = Arguments.bare arguments := by
  rw [outputs_eq] at hs
  have hread := Elements.Read.reads h ts hs ')' (by decide) rest
  rw [endsInHole_eq_false] at hread
  exact ⟨_, hread, bare_eq arguments⟩

end Arguments

/-! ### Parameters and variables -/

/-- The default or initial value after a parameter or a variable. -/
def printDefault : Option Expr → Output
  | none => empty
  | some value => punct "=" ++ value.wrap Precedence.assignment value.print

namespace Params

/-- A parameter is written as its parts. -/
def printOne (isRest : Bool) (name : String) (type : Option TypeExpr) (value : Option Expr) :
    Output :=
  onlyIf isRest (punct "...") ++ identifier name ++ printType? type ++ printDefault value

theorem spells_outputs_cons {spot : Spot} {isRest : Bool} {pattern : Name} {type : Option TypeExpr}
    {value : Option Expr} {params : List Param} {ts : List Token}
    (h : (commaSeparated (Params.outputs (⟨spot, isRest, pattern, type, value⟩ :: params))).Spells
      ts) :
    ∃ us, (printOne isRest pattern.text type value).Spells us ∧
      ((params = [] ∧ ts = us) ∨ (params ≠ [] ∧
        ∃ vs, (commaSeparated (Params.outputs params)).Spells vs ∧
          ts = us ++ [Token.mark ","] ++ vs)) := by
  have hnil : Params.outputs params = [] → params = [] := by
    intro hnil
    cases params with
    | nil => rfl
    | cons p params =>
        obtain ⟨_, _, _, _, value⟩ := p
        cases value <;> cases hnil
  cases value with
  | none =>
      obtain ⟨us, hu, hend⟩ := spells_commaSeparated_cons.mp h
      refine ⟨us, ?_, hend.imp (And.imp_left hnil) (And.imp_left fun hne hp => hne (hp ▸ rfl))⟩
      rw [printOne]
      exact (append_empty _).symm ▸ hu
  | some value =>
      obtain ⟨us, hu, hend⟩ := spells_commaSeparated_cons.mp h
      refine ⟨us, ?_, hend.imp (And.imp_left hnil) (And.imp_left fun hne hp => hne (hp ▸ rfl))⟩
      cases isRest with
      | true => exact absurd hu not_spells_fail
      | false =>
          rw [printOne, printDefault, ← append_assoc]
          exact hu

/-- What a parameter spells. -/
theorem spells_printOne {isRest : Bool} {name : String} {type : Option TypeExpr}
    {value : Option Expr} {ts : List Token} (h : (printOne isRest name type value).Spells ts) :
    ∃ us, (printType? type).Spells us ∧ ∃ vs, (printDefault value).Spells vs ∧
      ∀ rest, lexemes ts ++ rest = lexemes (Token.onlyIf isRest (.mark "...")) ++
        run name :: (lexemes us ++ (lexemes vs ++ rest)) := by
  obtain ⟨_, hleft, vs, hv, rfl⟩ := spells_append.mp h
  obtain ⟨_, hhead, us, hu, rfl⟩ := spells_append.mp hleft
  obtain ⟨_, hpoints, _, hname, rfl⟩ := spells_append.mp hhead
  obtain rfl := spells_onlyIf_punct.mp hpoints
  obtain rfl := spells_identifier.mp hname
  refine ⟨us, hu, vs, hv, fun rest => ?_⟩
  simp only [lexemes_append, List.append_assoc]
  rfl

/-- What is known of the value of a parameter. -/
def LegibleDefault (value : Option Expr) : Prop :=
  ∀ v ∈ value, v.Reads ∧ v.passes readable = true

theorem legibleDefault_some {value : Expr} (hv : value.Reads) (hp : value.passes readable = true) :
    LegibleDefault (some value) := by
  rintro _ ⟨⟩
  exact ⟨hv, hp⟩

/-- A value is read in front of what ends the entry, and so is the annotation before it. -/
theorem reads_default {type : Option TypeExpr} {value : Option Expr}
    (ht : TypeExpr.optionPasses readable type = true) (hv : LegibleDefault value)
    {us vs : List Token} (hu : (printType? type).Spells us)
    (hvs : (printDefault value).Spells vs) {c : Char} (hc : c ∈ [',', ')', ';'])
    {rest : List Lexeme} (hf : Follows Precedence.assignment (sign c :: rest)) :
    readOptionalType (lexemes us ++ (lexemes vs ++ sign c :: rest)) =
        some (type.map TypeExpr.bare, lexemes vs ++ sign c :: rest) ∧
      readDefault (lexemes vs ++ sign c :: rest) = some (value.map Expr.bare, sign c :: rest) := by
  have hends : endsType c = true ∧ c ≠ '=' := by
    simp only [List.mem_cons, List.not_mem_nil, or_false] at hc
    rcases hc with rfl | rfl | rfl <;> decide
  cases value with
  | none =>
      obtain rfl := spells_empty.mp hvs
      exact ⟨reads_optionalType ht hu hends.1 rest, readDefault_of_none (if_neg hends.2)⟩
  | some value =>
      obtain ⟨_, hequals, ws, hw, rfl⟩ := spells_append.mp hvs
      obtain rfl := spells_punct.mp hequals
      have htext : lexemes ([Token.mark "="] ++ ws) ++ sign c :: rest =
          sign '=' :: (lexemes ws ++ sign c :: rest) := by
        simp only [lexemes_append, List.append_assoc]
        rfl
      obtain ⟨hr, hp⟩ := hv value rfl
      rw [htext]
      exact ⟨reads_optionalType ht hu (by decide) _,
        readDefault_of_value (hr.whole hp hw le_rfl hf)⟩

/-- No arrow comes into sight in a parameter. -/
theorem arrowFree_printOne {isRest : Bool} {name : String} {type : Option TypeExpr}
    {value : Option Expr} {ts : List Token} (hv : LegibleDefault value)
    (h : (printOne isRest name type value).Spells ts) : ArrowFree (lexemes ts) := by
  obtain ⟨us, hu, vs, hvs, htext⟩ := spells_printOne h
  intro rest hrest
  rw [htext]
  have hvalue : typeTail (lexemes vs ++ rest) = false := by
    cases value with
    | none =>
        obtain rfl := spells_empty.mp hvs
        exact hrest
    | some value =>
        obtain ⟨_, hequals, ws, hw, rfl⟩ := spells_append.mp hvs
        obtain rfl := spells_punct.mp hequals
        have hopening := (value.opening_print (hv value rfl).2).wrap hw
        obtain ⟨l, more, hls, hl⟩ := hopening.first (m := sign '>') rfl [] rest
        rw [List.append_nil] at hls
        rw [lexemes_append, List.append_assoc, hls]
        exact typeTail_equals hl more
  cases isRest with
  | true => rfl
  | false =>
      cases type with
      | none =>
          obtain rfl := spells_empty.mp hu
          exact hvalue
      | some type =>
          obtain ⟨_, hcolon, us, _, rfl⟩ := spells_append.mp hu
          obtain rfl := spells_punct.mp hcolon
          rfl

/-- What is shown of a list of parameters: no arrow comes into sight in its text, and it is read
up to the mark that closes it. -/
structure Read (params : List Param) : Prop where
  arrowFree : ∀ ts, (commaSeparated (Params.outputs params)).Spells ts → ArrowFree (lexemes ts)
  reads : ∀ ts, (commaSeparated (Params.outputs params)).Spells ts →
    ∀ close ∈ [')', ';'], ∀ rest,
      readParams close (lexemes ts ++ sign close :: rest) = some (Params.bare params, rest)

theorem read_nil : Read [] where
  arrowFree := by
    intro ts hs
    obtain rfl := spells_empty.mp hs
    exact arrowFree_nil
  reads := by
    intro ts hs close hclose rest
    obtain rfl := spells_empty.mp hs
    exact readParams_of_close

theorem bare_cons (spot : Spot) (isRest : Bool) (pattern : Name) (type : Option TypeExpr)
    (value : Option Expr) (params : List Param) :
    Params.bare (⟨spot, isRest, pattern, type, value⟩ :: params) =
      ⟨.blank, isRest, ⟨.blank, pattern.text⟩, type.map TypeExpr.bare, value.map Expr.bare⟩ ::
        Params.bare params := by
  cases value <;> rfl

theorem read_cons {spot : Spot} {isRest : Bool} {pattern : Name} {type : Option TypeExpr}
    {value : Option Expr} {params : List Param}
    (ht : TypeExpr.optionPasses readable type = true) (hv : LegibleDefault value)
    (hr : Read params) : Read (⟨spot, isRest, pattern, type, value⟩ :: params) where
  arrowFree := by
    intro ts hs
    obtain ⟨us, hu, ⟨_, rfl⟩ | ⟨_, vs, hvs, rfl⟩⟩ := spells_outputs_cons hs
    · exact arrowFree_printOne hv hu
    · have hcomma : ArrowFree (lexemes [Token.mark ","]) := fun _ h => h
      rw [lexemes_append, lexemes_append]
      exact ((arrowFree_printOne hv hu).append hcomma).append (hr.arrowFree vs hvs)
  reads := by
    intro ts hs close hclose more
    have hcomma : close ≠ ',' := by
      rintro rfl
      exact absurd hclose (by decide)
    have hfollows : Follows Precedence.assignment (sign close :: more) := by
      simp only [List.mem_cons, List.not_mem_nil, or_false] at hclose
      rcases hclose with rfl | rfl <;> exact follows_close (by decide) _ _
    obtain ⟨us, hu, hend⟩ := spells_outputs_cons hs
    obtain ⟨as, ha, vs, hvs, htext⟩ := spells_printOne hu
    have hopen (rest : List Lexeme) : after? close (lexemes (Token.onlyIf isRest (.mark "...")) ++
        run pattern.text :: rest) = none ∧
        takePoints (lexemes (Token.onlyIf isRest (.mark "...")) ++ run pattern.text :: rest) =
          (isRest, run pattern.text :: rest) := by
      have hpoint : close ≠ '.' := by
        rintro rfl
        exact absurd hclose (by decide)
      cases isRest with
      | true => exact ⟨if_neg hpoint.symm, rfl⟩
      | false => exact ⟨rfl, rfl⟩
    rw [bare_cons]
    obtain ⟨rfl, rfl⟩ | ⟨_, ws, hw, rfl⟩ := hend
    · obtain ⟨htyped, hdefault⟩ := reads_default ht hv ha hvs
        (List.mem_cons_of_mem _ hclose) hfollows
      rw [htext]
      exact readParams_of_last hcomma (hopen _).1 (hopen _).2 htyped hdefault
    · have hmore : Follows Precedence.assignment
          (sign ',' :: (lexemes ws ++ sign close :: more)) :=
        follows_comma le_rfl (hr.arrowFree ws hw _ hfollows.typeEnds)
      obtain ⟨htyped, hdefault⟩ := reads_default ht hv ha hvs List.mem_cons_self hmore
      have hlist : lexemes (us ++ [Token.mark ","] ++ ws) ++ sign close :: more =
          lexemes us ++ sign ',' :: (lexemes ws ++ sign close :: more) := by
        simp only [lexemes_append, List.append_assoc]
        rfl
      rw [hlist, htext]
      exact readParams_of_more (hopen _).1 (hopen _).2 htyped hdefault
        (hr.reads ws hw close hclose more)

end Params

/-- A variable as a parameter. -/
def Declarator.param (d : Declarator) : Param := ⟨.blank, false, d.pattern, d.annotation, d.value⟩

namespace Declarators

/-- Variables are written as parameters are. -/
theorem outputs_eq (declarators : List Declarator) :
    Declarators.outputs declarators = Params.outputs (declarators.map Declarator.param) := by
  induction declarators with
  | nil => rfl
  | cons d rest ih =>
      obtain ⟨pattern, type, value⟩ := d
      cases value with
      | none => exact congrArg (List.cons _) ih
      | some value => exact congrArg (List.cons _) ih

theorem bare_eq (declarators : List Declarator) :
    ((Params.bare (declarators.map Declarator.param)).map fun p =>
      (⟨p.pattern, p.annotation, p.defaultValue⟩ : Declarator)) = Declarators.bare declarators := by
  induction declarators with
  | nil => rfl
  | cons d rest ih =>
      obtain ⟨pattern, type, value⟩ := d
      cases value with
      | none => exact congrArg (List.cons _) ih
      | some value => exact congrArg (List.cons _) ih

/-- What is shown of variables is what is shown of the same parameters. -/
def Read (declarators : List Declarator) : Prop :=
  Params.Read (declarators.map Declarator.param)

end Declarators

end TypeProbe
