import TypeProbe.Proofs.Grammar.Edges
import TypeProbe.Proofs.Reading.Regular
import TypeProbe.Tree.Build

/-! # Expressions that begin with a function

A statement that begins with `function` or `async function` is read as a declaration.  Whether an
expression would begin so is found without printing it (`Expr.startsWithFunction`).

* **Main result** (`Expr.startsWithFunction_iff`): what is found is true of the tokens and of the
  characters of the expression.  So an expression statement never begins like a declaration, and
  is put in parentheses only if it would.

In the text, a word ends where its token does, since nothing is written there that goes on with it
(`Tail.firstWord_writeAll`). -/

namespace TypeProbe

open Grammar Output Token

/-! ### Beginning with a function -/

/-- Tokens that begin with `function` or with `async function`. -/
def BeginsFunction (ts : List Token) : Prop :=
  [word "function"] <+: ts ∨ [word "async", word "function"] <+: ts

instance (ts : List Token) : Decidable (BeginsFunction ts) := inferInstanceAs (Decidable (_ ∨ _))

/-- The word that a text begins with, after spaces. -/
def firstWord (text : List Char) : List Char :=
  (text.dropWhile (· == ' ')).takeWhile isWordChar

/-- What comes after the first word. -/
def afterFirstWord (text : List Char) : List Char :=
  (text.dropWhile (· == ' ')).dropWhile isWordChar

/-- A text that begins with the word `function`, or with `async` and `function`. -/
def ReadsAsFunction (text : List Char) : Prop :=
  firstWord text = "function".toList ∨
    (firstWord text = "async".toList ∧ firstWord (afterFirstWord text) = "function".toList)

instance (text : List Char) : Decidable (ReadsAsFunction text) :=
  inferInstanceAs (Decidable (_ ∨ _))

/-- Whether a word is a name other than the two that a function begins with. -/
def isOrdinaryName (name : String) : Bool :=
  isIdentifierName name && name != "function" && name != "async"

/-- **The check** for trees whose names are such names. -/
def ordinary : Check where
  name := isOrdinaryName
  property := fun _ => true
  expr := fun _ => true
  parameters := fun _ => true

/-! ### The first word of a text -/

namespace Tail

variable {f : Fragment}

/-- A fragment is the first that is written, apart from a space. -/
theorem dropWhile_writeAll {c : Char} {text : List Char} (htext : f.text = c :: text)
    (hc : c ≠ ' ') (t : Tail) (fs : List Fragment) :
    (t.writeAll (f :: fs)).1.dropWhile (· == ' ') = f.text ++ ((t.write f).2.writeAll fs).1 := by
  have hall : (t.writeAll (f :: fs)).1 = (t.write f).1 ++ ((t.write f).2.writeAll fs).1 := rfl
  have hne : f.text ≠ [] := by
    rw [htext]
    exact List.cons_ne_nil c text
  have hdrop (more : List Char) : (f.text ++ more).dropWhile (· == ' ') = f.text ++ more := by
    rw [htext]
    exact List.dropWhile_cons_of_neg (by simpa using hc)
  rw [hall]
  obtain ⟨_, _, _, _, hw⟩ | hw := write_eq hne t
  · rw [hw, hdrop]
  · rw [hw, List.cons_append, List.dropWhile_cons_of_pos rfl, hdrop]

/-- What is written after a word does not go on with it. -/
theorem takeWhile_writeAll (hne : f.text ≠ []) (hword : ∀ c ∈ f.text, isWordChar c = true)
    (t : Tail) (fs : List Fragment) :
    ((t.write f).2.writeAll fs).1.takeWhile isWordChar = [] := by
  have hmore := head_writeAll fs (t.write f).2
  have hedge : f.token.edge = (f.text.getLast?.map Edge.ofChar).getD .other := by
    cases f with
    | quoted value => cases hword '"' List.mem_cons_self
    | _ => rfl
  rw [edge_write hne, hedge] at hmore
  have hstop := not_isWordChar_of_not_merges hne hword hmore
  cases hrest : ((t.write f).2.writeAll fs).1 with
  | nil => rfl
  | cons c more =>
      rw [hrest] at hstop
      exact List.takeWhile_cons_of_neg (Bool.eq_false_iff.mp hstop)

/-- The first word of a text is that of the first fragment. -/
theorem firstWord_writeAll {c : Char} {text : List Char} (htext : f.text = c :: text)
    (hc : c ≠ ' ') (t : Tail) (fs : List Fragment) :
    firstWord (t.writeAll (f :: fs)).1 = f.text.takeWhile isWordChar := by
  rw [firstWord, dropWhile_writeAll htext hc, List.takeWhile_append]
  split
  · next hlength =>
      have hall : f.text.takeWhile isWordChar = f.text :=
        (List.takeWhile_prefix isWordChar).eq_of_length hlength
      have hne : f.text ≠ [] := by
        rw [htext]
        exact List.cons_ne_nil c text
      rw [takeWhile_writeAll hne (List.takeWhile_eq_self_iff.mp hall), List.append_nil, hall]
  · rfl

/-- A first fragment that is a word is all that the first word of the text is. -/
theorem afterFirstWord_writeAll (hne : f.text ≠ []) (hword : ∀ c ∈ f.text, isWordChar c = true)
    (t : Tail) (fs : List Fragment) :
    afterFirstWord (t.writeAll (f :: fs)).1 = ((t.write f).2.writeAll fs).1 := by
  obtain ⟨c, text, htext⟩ := List.exists_cons_of_ne_nil hne
  have hc : c ≠ ' ' := by
    rintro rfl
    have hspace := hword ' ' (htext ▸ List.mem_cons_self)
    cases hspace
  have hmore := takeWhile_writeAll hne hword t fs
  have hsplit : ((t.write f).2.writeAll fs).1.takeWhile isWordChar ++
      ((t.write f).2.writeAll fs).1.dropWhile isWordChar = ((t.write f).2.writeAll fs).1 :=
    List.takeWhile_append_dropWhile
  rw [hmore, List.nil_append] at hsplit
  rw [afterFirstWord, dropWhile_writeAll htext hc, List.dropWhile_append_of_pos hword, hsplit]

end Tail

/-! ### First tokens that are no functions -/

/-- Whether a text begins with a character that neither `function` nor `async` begins with, and
with no space. -/
def startsApart (text : List Char) : Bool :=
  text.head?.any fun c => c != ' ' && c != 'f' && c != 'a'

theorem startsApart_of_isNumeral {text : List Char} (h : isNumeral text = true) :
    startsApart text = true := by
  have hdigit {c : Char} (hc : c.isDigit = true) (more : List Char) :
      startsApart (c :: more) = true := by
    have hne {d : Char} (hd : d.isDigit = false) : c ≠ d := by
      rintro rfl
      rw [hc] at hd
      cases hd
    simp [startsApart, hne (d := ' ') rfl, hne (d := 'f') rfl, hne (d := 'a') rfl]
  obtain ⟨hrun, _⟩ | ⟨whole, fraction, rfl, hrun, _⟩ := numeral_cases h
  all_goals
    obtain ⟨c, more, rfl⟩ := List.exists_cons_of_ne_nil hrun.ne_nil
    exact hdigit (hrun.isDigit c List.mem_cons_self) _

/-- A number is written with a digit or a sign first, or as a word with a capital letter. -/
theorem Binary64.startsApart_text (x : Binary64) : startsApart x.text = true := by
  have hmagnitude : startsApart (if x.isInfinite then "Infinity".toList
      else if x.isZero then ['0'] else x.shortest.text) = true := by
    split
    · rfl
    · split
      · rfl
      · exact startsApart_of_isNumeral x.shortest.isNumeral_text
  unfold text
  split
  · rfl
  · dsimp only
    split
    · rfl
    · exact hmagnitude

/-- What is known of the text of a token that is no function: its first character is no space, and
its first word is none of the two that a function begins with. -/
structure Token.IsPlainStart (t : Token) : Prop where
  exists_text : ∃ c text, t.text = c :: text ∧ c ≠ ' '
  ne_function : t.text.takeWhile isWordChar ≠ "function".toList
  ne_async : t.text.takeWhile isWordChar ≠ "async".toList

theorem Token.isPlainStart_of_startsApart {t : Token} (h : startsApart t.text = true) :
    t.IsPlainStart := by
  cases htext : t.text with
  | nil =>
      rw [htext] at h
      cases h
  | cons c text =>
      simp only [htext, startsApart, List.head?_cons, Option.any_some, Bool.and_eq_true,
        bne_iff_ne] at h
      obtain ⟨⟨hspace, hf⟩, ha⟩ := h
      have hne {d : Char} (hd : c ≠ d) (word : List Char) :
          t.text.takeWhile isWordChar ≠ d :: word := by
        rw [htext, List.takeWhile_cons]
        split
        · exact fun heq => hd (List.cons.inj heq).1
        · nofun
      exact ⟨⟨c, text, htext, hspace⟩, hne hf _, hne ha _⟩

theorem Token.isPlainStart_word {w : String} (h : isOrdinaryName w = true) :
    (word w).IsPlainStart := by
  simp only [isOrdinaryName, isIdentifierName, Bool.and_eq_true, bne_iff_ne] at h
  obtain ⟨⟨hname, hfunction⟩, hasync⟩ := h
  cases htext : w.toList with
  | nil =>
      rw [htext] at hname
      cases hname
  | cons c rest =>
      simp only [htext, Bool.and_eq_true, List.all_eq_true] at hname
      have hword : ∀ d ∈ w.toList, isWordChar d = true := by
        rw [htext]
        exact List.forall_mem_cons.mpr ⟨hname.1.1, hname.2⟩
      have hall : (word w).text.takeWhile isWordChar = w.toList :=
        List.takeWhile_eq_self_iff.mpr hword
      refine ⟨⟨c, rest, htext, ?_⟩, ?_, ?_⟩
      · rintro rfl
        cases hname.1.1
      · rw [hall]
        exact fun heq => hfunction (String.toList_injective heq)
      · rw [hall]
        exact fun heq => hasync (String.toList_injective heq)

theorem FirstToken.isPlainStart {t : Token} (h : FirstToken ordinary t) : t.IsPlainStart := by
  cases h with
  | name hw => exact isPlainStart_word hw
  | operator op =>
      -- `await` begins with the letter that `async` does
      by_cases hawait : op = .await
      · subst hawait
        exact isPlainStart_word (by decide)
      · refine isPlainStart_of_startsApart ?_
        cases op <;> first | rfl | exact absurd rfl hawait
  | keyword hw =>
      simp only [List.mem_cons, List.not_mem_nil, or_false] at hw
      rcases hw with rfl | rfl | rfl | rfl <;> exact isPlainStart_word (by decide)
  | bracket hm =>
      simp only [List.mem_cons, List.not_mem_nil, or_false] at hm
      rcases hm with rfl | rfl <;> exact isPlainStart_of_startsApart rfl
  | numeral x =>
      refine isPlainStart_of_startsApart ?_
      rw [Token.text, String.toList_ofList]
      exact x.startsApart_text
  | quoted value => exact isPlainStart_of_startsApart rfl

/-! ### What is found -/

theorem BeginsAs.beginsFunction_iff {function : Bool} {ts : List Token}
    (h : BeginsAs ordinary function ts) : BeginsFunction ts ↔ function = true := by
  cases h with
  | function rest => exact iff_of_true (.inl (List.prefix_append [_] rest)) rfl
  | asyncFunction rest => exact iff_of_true (.inr (List.prefix_append [_, _] rest)) rfl
  | asyncArrow rest =>
      refine iff_of_false ?_ Bool.false_ne_true
      rintro (hp | hp)
      · exact absurd (List.cons_prefix_cons.mp hp).1 (by decide)
      · exact absurd (List.cons_prefix_cons.mp (List.cons_prefix_cons.mp hp).2).1 (by decide)
  | other rest ht =>
      refine iff_of_false ?_ Bool.false_ne_true
      rintro (hp | hp)
      · obtain rfl := (List.cons_prefix_cons.mp hp).1
        exact ht.isPlainStart.ne_function rfl
      · obtain rfl := (List.cons_prefix_cons.mp hp).1
        exact ht.isPlainStart.ne_async rfl

theorem Fragment.text_of_token {f : Fragment} {t : Token} (h : f.token = t) : f.text = t.text := by
  rw [f.text_eq, h]

/-- After `async`, the next word counts. -/
theorem readsAsFunction_async {f g : Fragment} (hf : f.text = "async".toList) {c : Char}
    {text : List Char} (hg : g.text = c :: text) (hc : c ≠ ' ') (t : Tail) (fs : List Fragment) :
    ReadsAsFunction (t.writeAll (f :: g :: fs)).1 ↔
      g.text.takeWhile isWordChar = "function".toList := by
  have hne : f.text ≠ [] := by
    rw [hf]
    decide
  have hword : ∀ c ∈ f.text, isWordChar c = true := by
    rw [hf]
    exact List.all_eq_true.mp rfl
  have hfirst : firstWord (t.writeAll (f :: g :: fs)).1 = "async".toList := by
    rw [Tail.firstWord_writeAll hf (by decide), hf]
    rfl
  rw [ReadsAsFunction, hfirst, Tail.afterFirstWord_writeAll hne hword,
    Tail.firstWord_writeAll hg hc]
  constructor
  · rintro (hasync | ⟨_, hnext⟩)
    · exact absurd hasync (by decide)
    · exact hnext
  · exact fun hnext => .inr ⟨rfl, hnext⟩

theorem BeginsAs.readsAsFunction_iff {function : Bool} {fs : List Fragment}
    (h : BeginsAs ordinary function (fs.map Fragment.token)) (t : Tail) :
    ReadsAsFunction (t.writeAll fs).1 ↔ function = true := by
  generalize hts : fs.map Fragment.token = ts at h
  cases h with
  | function rest =>
      obtain ⟨f, fs, rfl, hf, _⟩ := List.map_eq_cons_iff.mp hts
      have hf := Fragment.text_of_token hf
      refine iff_of_true (.inl ?_) rfl
      rw [Tail.firstWord_writeAll hf (by decide), hf]
      rfl
  | asyncFunction rest =>
      obtain ⟨f, gs, rfl, hf, hgs⟩ := List.map_eq_cons_iff.mp hts
      obtain ⟨g, fs, rfl, hg, _⟩ := List.map_eq_cons_iff.mp hgs
      have hg := Fragment.text_of_token hg
      rw [readsAsFunction_async (Fragment.text_of_token hf) hg (by decide), hg]
      exact iff_of_true rfl rfl
  | asyncArrow rest =>
      obtain ⟨f, gs, rfl, hf, hgs⟩ := List.map_eq_cons_iff.mp hts
      obtain ⟨g, fs, rfl, hg, _⟩ := List.map_eq_cons_iff.mp hgs
      have hg := Fragment.text_of_token hg
      rw [readsAsFunction_async (Fragment.text_of_token hf) hg (by decide), hg]
      exact iff_of_false (by decide) Bool.false_ne_true
  | other rest ht =>
      obtain ⟨f, fs, rfl, rfl, _⟩ := List.map_eq_cons_iff.mp hts
      obtain ⟨⟨c, text, htext, hc⟩, hfunction, hasync⟩ := ht.isPlainStart
      rw [← f.text_eq] at htext hfunction hasync
      refine iff_of_false ?_ Bool.false_ne_true
      rw [ReadsAsFunction, Tail.firstWord_writeAll htext hc]
      rintro (hw | ⟨hw, _⟩)
      · exact hfunction hw
      · exact hasync hw

/-! ### Expressions and expression statements -/

theorem Operator.one_le_precedence (op : Operator) : 1 ≤ op.precedence := by
  cases op <;> decide

namespace Expr

theorem one_le_precedence (e : Expr) : 1 ≤ e.precedence := by
  cases e with
  | binary a op l r => exact op.one_le_precedence
  | unary a op e => exact op.one_le_precedence
  | number a value =>
      show 1 ≤ if value.isNegative && !value.isNaN then Precedence.unary else Precedence.primary
      split
      · exact Nat.le_of_ble_eq_true rfl
      · exact Nat.le_of_ble_eq_true rfl
  | _ => exact Nat.le_of_ble_eq_true rfl

/-- No expression is in parentheses where any may stand. -/
theorem printAt_one (e : Expr) : e.printAt 1 = e.print :=
  if_neg (Nat.not_lt.mpr e.one_le_precedence)

/-- **Expressions that begin with a function.**  Of an expression that is printed,
`startsWithFunction` tells whether its tokens, and its text wherever it is written, begin with a
function.  A statement of it never begins so, and has parentheses around the expression only if it
would without them. -/
theorem startsWithFunction_iff {e : Expr} (he : e.passes ordinary = true) {fs : List Fragment}
    (hfs : e.printAt 1 = ⟨fs, none⟩) :
    (e.startsWithFunction = true ↔ BeginsFunction (fs.map Fragment.token)) ∧
      (∀ t : Tail, e.startsWithFunction = true ↔ ReadsAsFunction (t.writeAll fs).1) ∧
      ∀ a, ∃ gs, (Stmt.expr a e).print = ⟨gs, none⟩ ∧
        ¬ BeginsFunction (gs.map Fragment.token) ∧
        (∀ t : Tail, ¬ ReadsAsFunction (t.writeAll gs).1) ∧
        (gs = fs ++ [Fragment.punct ";"] ∨
          gs = [Fragment.punct "("] ++ fs ++ [Fragment.punct ")"] ++ [Fragment.punct ";"] ∧
            BeginsFunction ((fs ++ [Fragment.punct ";"]).map Fragment.token) ∧
            ∀ t : Tail, ReadsAsFunction (t.writeAll (fs ++ [Fragment.punct ";"])).1) := by
  rw [printAt_one] at hfs
  have hs : e.print.Spells (fs.map Fragment.token) := by
    rw [hfs]
    exact ⟨rfl, rfl⟩
  have hb := beginsAs_print e he _ hs
  refine ⟨hb.beginsFunction_iff.symm, fun t => (hb.readsAsFunction_iff t).symm, fun a => ?_⟩
  have hbare : BeginsAs ordinary e.startsWithFunction
      ((fs ++ [Fragment.punct ";"]).map Fragment.token) := by
    rw [List.map_append]
    exact hb.append _
  have hinside : BeginsAs ordinary false
      (([Fragment.punct "("] ++ fs ++ [Fragment.punct ")"] ++ [Fragment.punct ";"]).map
        Fragment.token) :=
    .other _ (.bracket (by decide))
  cases hf : e.startsWithFunction with
  | false =>
      rw [hf] at hbare
      refine ⟨fs ++ [Fragment.punct ";"], ?_, ?_, fun t => ?_, .inl rfl⟩
      · rw [Stmt.print, hf, hfs]
        rfl
      · rw [hbare.beginsFunction_iff]
        exact Bool.false_ne_true
      · rw [hbare.readsAsFunction_iff t]
        exact Bool.false_ne_true
  | true =>
      rw [hf] at hbare
      refine ⟨_, ?_, ?_, fun t => ?_, .inr ⟨rfl, hbare.beginsFunction_iff.mpr rfl,
        fun t => (hbare.readsAsFunction_iff t).mpr rfl⟩⟩
      · rw [Stmt.print, hf, hfs]
        rfl
      · rw [hinside.beginsFunction_iff]
        exact Bool.false_ne_true
      · rw [hinside.readsAsFunction_iff t]
        exact Bool.false_ne_true

/-- The expression `async function () {} () ? a : b`. -/
def immediate : Expr :=
  let loc : Loc := ⟨0, 29⟩
  let f : Func := ⟨loc, false, true, false, [], none, .block loc []⟩
  .conditional (.ofLoc loc) (Build.call loc (.function (.ofLoc loc) none f) [])
    (Build.ident loc "a") (Build.ident loc "b")

/-- The fragments of the expression. -/
def immediateFragments : List Fragment :=
  [.keyword "async", .keyword "function", .punct "(", .punct ")", .punct "\x7b", .punct "\x7d",
    .punct "(", .punct ")", .punct "?", .identifier "a", .punct ":", .identifier "b"]

theorem startsWithFunction_immediate :
    immediate.passes ordinary = true ∧ immediate.printAt 1 = ⟨immediateFragments, none⟩ ∧
      BeginsFunction (immediateFragments.map Fragment.token) ∧
      ReadsAsFunction (Fragment.join immediateFragments).toList ∧
      (Stmt.expr (.ofLoc ⟨0, 30⟩) immediate).print.text =
        .ok "(async function()\x7b\x7d()?a:b);" := by
  have hpasses : immediate.passes ordinary = true := by decide
  have hprint : immediate.printAt 1 = ⟨immediateFragments, none⟩ := rfl
  obtain ⟨htokens, htext, _⟩ := startsWithFunction_iff hpasses hprint
  have hjoin : ReadsAsFunction (Fragment.join immediateFragments).toList := by
    rw [Fragment.join, String.toList_ofList]
    exact (htext .clear).mp rfl
  exact ⟨hpasses, hprint, htokens.mp rfl, hjoin, rfl⟩

end Expr

end TypeProbe
