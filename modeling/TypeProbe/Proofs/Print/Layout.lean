import TypeProbe.Print.Tree

/-! # Layouts

A layout is what is known of an output before the bodies of some functions in it are: fragments,
with slots between them for the bodies (`Layout`).  An output fits a layout if putting bodies into
the slots yields its fragments (`Output.Fits`).

How a body is written does not depend on what stands before it, and what follows a slot does not
depend on the body (`Layout.writeAll_fill`).  So the text of an output that fits a layout is a text
with gaps (`Frame`) that depends on the layout alone, with the texts of the bodies put into the
gaps. -/

namespace TypeProbe

open Output

/-! ### Complete outputs -/

/-- One list after the other, if both are there. -/
def joined {α : Type} (a b : Option (List α)) : Option (List α) :=
  a.bind fun xs => b.map (xs ++ ·)

section joined

variable {α : Type}

@[simp] theorem joined_nil_left (a : Option (List α)) : joined (some []) a = a := by
  cases a <;> rfl

@[simp] theorem joined_nil_right (a : Option (List α)) : joined a (some []) = a := by
  cases a <;> simp [joined]

@[simp] theorem joined_none_right (a : Option (List α)) : joined a none = none := by
  cases a <;> rfl

theorem joined_assoc (a b c : Option (List α)) : joined (joined a b) c = joined a (joined b c) := by
  cases a <;> cases b <;> cases c <;> simp [joined]

theorem joined_eq_some_iff {a b : Option (List α)} {xs : List α} :
    joined a b = some xs ↔ ∃ ys zs, a = some ys ∧ b = some zs ∧ ys ++ zs = xs := by
  cases a <;> cases b <;> simp [joined]

end joined

namespace Output

/-- The fragments of a complete output. -/
def written? (o : Output) : Option (List Fragment) :=
  match o.error with
  | none => some o.fragments
  | some _ => none

theorem written?_append (a b : Output) : (a ++ b).written? = joined a.written? b.written? := by
  obtain ⟨fs, ea⟩ := a
  obtain ⟨gs, eb⟩ := b
  cases ea <;> cases eb <;> rfl

theorem text_eq_ok_iff {o : Output} {text : String} :
    o.text = .ok text ↔ ∃ fs, o.written? = some fs ∧ Fragment.join fs = text := by
  obtain ⟨fs, error⟩ := o
  cases error <;> simp [Output.text, written?]

end Output

/-! ### Slots -/

/-- A part of a layout. -/
inductive Slot where
  /-- Fragments that are known, or the knowledge that there are none. -/
  | written (fragments : Option (List Fragment))
  /-- The body of a function that is the last argument of a call, with the arrow before it if there
  is one, and the parenthesis after it. -/
  | body (arrow : Bool)

/-- The parts of an output, in order. -/
abbrev Layout := List Slot

/-- The body of an argument, with the arrow before it and the parenthesis after it.  Only an arrow
function may have an expression as its body. -/
def Body.printLast (arrow : Bool) (b : Body) : Output :=
  match arrow, b with
  | true, b => punct "=>" ++ b.print ++ punct ")"
  | false, .block .. => b.print ++ punct ")"
  | false, .expr spot _ => fail .functionWithExprBody spot

namespace Layout

/-- How many bodies a layout leaves open. -/
def gaps : Layout → Nat
  | [] => 0
  | .written _ :: rest => gaps rest
  | .body _ :: rest => gaps rest + 1

/-- The fragments of a layout with bodies in its slots. -/
def fill : Layout → List Body → Option (List Fragment)
  | [], _ => some []
  | .written fs :: rest, bs => joined fs (fill rest bs)
  | .body _ :: _, [] => none
  | .body arrow :: rest, b :: bs => joined (b.printLast arrow).written? (fill rest bs)

theorem gaps_append (l m : Layout) : gaps (l ++ m) = gaps l + gaps m := by
  induction l with
  | nil => simp [gaps]
  | cons slot rest ih =>
      cases slot with
      | written fs => simp [gaps, ih]
      | body arrow =>
          simp only [List.cons_append, gaps, ih]
          omega

theorem fill_append {l : Layout} (m : Layout) {bs : List Body} (cs : List Body)
    (h : bs.length = l.gaps) : fill (l ++ m) (bs ++ cs) = joined (fill l bs) (fill m cs) := by
  induction l generalizing bs with
  | nil =>
      obtain rfl := List.length_eq_zero_iff.mp h
      simp [fill]
  | cons slot rest ih =>
      cases slot with
      | written fs =>
          simp only [List.cons_append, fill]
          rw [ih h, joined_assoc]
      | body arrow =>
          cases bs with
          | nil => cases h
          | cons b bs =>
              simp only [List.cons_append, fill]
              rw [ih (Nat.succ.inj h), joined_assoc]

/-- A layout that can be filled can also be filled with any bodies in braces that have a text. -/
theorem exists_fill {l : Layout} {bs cs : List Body} {fs : List Fragment}
    (h : l.fill bs = some fs) (hlength : cs.length = l.gaps)
    (hc : ∀ b ∈ cs, ∀ arrow, (b.printLast arrow).written? ≠ none) : ∃ gs, l.fill cs = some gs := by
  induction l generalizing bs cs fs with
  | nil => exact ⟨[], rfl⟩
  | cons slot rest ih =>
      cases slot with
      | written ws =>
          obtain ⟨ys, zs, hy, hz, rfl⟩ := joined_eq_some_iff.mp h
          obtain ⟨gs, hg⟩ := ih hz hlength hc
          exact ⟨ys ++ gs, joined_eq_some_iff.mpr ⟨ys, gs, hy, hg, rfl⟩⟩
      | body arrow =>
          cases bs with
          | nil => cases h
          | cons b bs =>
              obtain ⟨_, zs, _, hz, rfl⟩ := joined_eq_some_iff.mp h
              cases cs with
              | nil => cases hlength
              | cons c cs =>
                  obtain ⟨gs, hg⟩ := ih hz (Nat.succ.inj hlength)
                    fun b hb => hc b (List.mem_cons_of_mem c hb)
                  obtain ⟨ys, hy⟩ := Option.ne_none_iff_exists'.mp (hc c List.mem_cons_self arrow)
                  exact ⟨ys ++ gs, joined_eq_some_iff.mpr ⟨ys, gs, hy, hg, rfl⟩⟩

end Layout

/-! ### Outputs that fit a layout -/

/-- Putting the bodies into the slots of the layout yields the fragments of the output. -/
structure Output.Fits (o : Output) (l : Layout) (bs : List Body) : Prop where
  length : bs.length = l.gaps
  written : o.written? = l.fill bs

namespace Output

/-- The layout of an output in which nothing is left open. -/
def layout (o : Output) : Layout := [.written o.written?]

variable {o o' : Output} {l l' : Layout} {bs bs' : List Body}

theorem fits_layout (o : Output) : o.Fits o.layout [] :=
  ⟨rfl, (joined_nil_right _).symm⟩

theorem fits_empty : empty.Fits [] [] := ⟨rfl, rfl⟩

theorem fits_printLast (arrow : Bool) (b : Body) : (b.printLast arrow).Fits [.body arrow] [b] :=
  ⟨rfl, (joined_nil_right _).symm⟩

theorem Fits.append (h : o.Fits l bs) (h' : o'.Fits l' bs') :
    (o ++ o').Fits (l ++ l') (bs ++ bs') where
  length := by rw [List.length_append, h.length, h'.length, Layout.gaps_append]
  written := by rw [written?_append, h.written, h'.written, Layout.fill_append _ _ h.length]

theorem Fits.before (h : o.Fits l bs) (a : Output) : (a ++ o).Fits (a.layout ++ l) bs :=
  (fits_layout a).append h

theorem Fits.after (h : o.Fits l bs) (a : Output) : (o ++ a).Fits (l ++ a.layout) bs := by
  have ha := h.append (fits_layout a)
  rwa [List.append_nil] at ha

theorem Fits.parenthesized (h : o.Fits l bs) :
    (parenthesized o).Fits ((punct "(").layout ++ l ++ (punct ")").layout) bs :=
  (h.before (punct "(")).after (punct ")")

theorem Fits.braced (h : o.Fits l bs) :
    (braced o).Fits ((punct "\x7b").layout ++ l ++ (punct "\x7d").layout) bs :=
  (h.before (punct "\x7b")).after (punct "\x7d")

/-- The first of several outputs, if `last` says that it is the only one. -/
theorem Fits.comma {os : List Output} (last : Bool) (hlast : os.isEmpty = last)
    (h : o.Fits l bs) (hs : (commaSeparated os).Fits l' bs') (hb : last = true → bs' = []) :
    (commaSeparated (o :: os)).Fits (if last then l else l ++ ((punct ",").layout ++ l'))
      (bs ++ bs') := by
  cases os with
  | nil =>
      subst hlast
      obtain rfl := hb rfl
      rw [List.append_nil]
      exact h
  | cons o' os =>
      subst hlast
      have ha := h.append (hs.before (punct ","))
      rwa [← append_assoc] at ha

end Output

/-! ### Tails around bodies -/

/-- The marks around bodies and after statements. -/
def delimiters : List String := ["=>", "(", ")", "\x7b", "\x7d", ";"]

namespace Tail

theorem writeAll_append (t : Tail) (fs gs : List Fragment) :
    t.writeAll (fs ++ gs) =
      ((t.writeAll fs).1 ++ ((t.writeAll fs).2.writeAll gs).1,
        ((t.writeAll fs).2.writeAll gs).2) := by
  induction fs generalizing t with
  | nil => rfl
  | cons f rest ih => simp only [List.cons_append, writeAll, ih, List.append_assoc]

/-- Delimiters are written without a space, and leave nothing behind to merge with. -/
theorem write_delimiter (t : Tail) {mark : String} (h : mark ∈ delimiters) :
    t.write (.punct mark) = (mark.toList, clear) := by
  obtain ⟨edge, opener⟩ := t
  simp only [delimiters, List.mem_cons, List.not_mem_nil, or_false] at h
  rcases h with rfl | rfl | rfl | rfl | rfl | rfl <;> cases edge <;> cases opener <;> rfl

end Tail

/-- The text of a body. -/
def Body.text (b : Body) : List Char := (Tail.clear.writeAll b.print.fragments).1

/-- A body in braces is written alike wherever it stands. -/
theorem Body.writeAll_block (t : Tail) (spot : Spot) (statements : List Stmt) :
    t.writeAll (Body.block spot statements).print.fragments =
      Tail.clear.writeAll (Body.block spot statements).print.fragments := by
  have hopen : ∃ fs, (Body.block spot statements).print.fragments = .punct "\x7b" :: fs := by
    show ∃ fs, (braced (Stmts.print statements)).fragments = .punct "\x7b" :: fs
    obtain ⟨fs, error⟩ := Stmts.print statements
    cases error <;> exact ⟨_, rfl⟩
  obtain ⟨fs, hf⟩ := hopen
  have hbrace : "\x7b" ∈ delimiters := by decide
  rw [hf]
  simp only [Tail.writeAll, Tail.write_delimiter _ hbrace]

/-- What the mark before a body adds to the text. -/
def arrowText (arrow : Bool) : List Char := if arrow then "=>".toList else []

theorem Output.written?_eq_some {o : Output} {fs : List Fragment} (h : o.written? = some fs) :
    o.fragments = fs := by
  obtain ⟨os, error⟩ := o
  cases error with
  | none => exact Option.some.inj h
  | some _ => cases h

theorem Tail.writeAll_close (t : Tail) (fs : List Fragment) :
    t.writeAll (fs ++ [Fragment.punct ")"]) = ((t.writeAll fs).1 ++ ")".toList, .clear) := by
  have hclose : ")" ∈ delimiters := by decide
  rw [writeAll_append]
  simp only [writeAll, write_delimiter _ hclose, List.append_nil]

/-- A body is written alike wherever it stands, and so is what follows. -/
theorem Body.writeAll_printLast {arrow : Bool} {b : Body} {fs : List Fragment} (t : Tail)
    (h : (b.printLast arrow).written? = some fs) :
    t.writeAll fs = (arrowText arrow ++ b.text ++ ")".toList, .clear) := by
  cases arrow with
  | true =>
      have ha : (punct "=>" ++ b.print ++ punct ")").written? = some fs := h
      rw [append_assoc, written?_append, written?_append] at ha
      obtain ⟨_, zs, ho, hz, rfl⟩ := joined_eq_some_iff.mp ha
      obtain ⟨gs, _, hg, hc, rfl⟩ := joined_eq_some_iff.mp hz
      obtain rfl := Option.some.inj ho
      obtain rfl := Option.some.inj hc
      have harrow : "=>" ∈ delimiters := by decide
      show t.writeAll (.punct "=>" :: (gs ++ [Fragment.punct ")"])) = _
      simp only [Tail.writeAll, Tail.write_delimiter _ harrow, Tail.writeAll_close]
      rw [text, written?_eq_some hg, ← List.append_assoc]
      rfl
  | false =>
      cases b with
      | expr spot value => cases h
      | block spot statements =>
          have hb : ((Body.block spot statements).print ++ punct ")").written? = some fs := h
          rw [written?_append] at hb
          obtain ⟨gs, _, hg, hc, rfl⟩ := joined_eq_some_iff.mp hb
          obtain rfl := Option.some.inj hc
          have hw := writeAll_block t spot statements
          rw [written?_eq_some hg] at hw
          show t.writeAll (gs ++ [Fragment.punct ")"]) = _
          rw [Tail.writeAll_close, hw, text, written?_eq_some hg]
          rfl

/-! ### Texts with gaps -/

/-- A part of a text with gaps. -/
inductive Piece where
  | text (chars : List Char)
  | gap
deriving DecidableEq, Repr

/-- A text with gaps. -/
abbrev Frame := List Piece

namespace Frame

/-- How many gaps a text has. -/
def gaps : Frame → Nat
  | [] => 0
  | .text _ :: rest => gaps rest
  | .gap :: rest => gaps rest + 1

/-- A text with other texts put into its gaps, in order. -/
def fill : Frame → List (List Char) → List Char
  | [], _ => []
  | .text chars :: rest, ts => chars ++ fill rest ts
  | .gap :: rest, [] => fill rest []
  | .gap :: rest, t :: ts => t ++ fill rest ts

end Frame

namespace Layout

/-- The text of a layout, with a gap for every body. -/
def frame (t : Tail) : Layout → Frame
  | [] => []
  | .written fs :: rest =>
      let (chars, t) := t.writeAll (fs.getD [])
      .text chars :: frame t rest
  | .body arrow :: rest =>
      .text (arrowText arrow) :: .gap :: .text ")".toList :: frame .clear rest

theorem gaps_frame (t : Tail) (l : Layout) : (l.frame t).gaps = l.gaps := by
  induction l generalizing t with
  | nil => rfl
  | cons slot rest ih => cases slot <;> simp [frame, Frame.gaps, gaps, ih]

/-- The text of a layout that is filled is its frame with the texts of the bodies in the gaps. -/
theorem writeAll_fill {l : Layout} {bs : List Body} {fs : List Fragment} (t : Tail)
    (h : l.fill bs = some fs) : (t.writeAll fs).1 = (l.frame t).fill (bs.map Body.text) := by
  induction l generalizing bs fs t with
  | nil =>
      obtain rfl := Option.some.inj h
      rfl
  | cons slot rest ih =>
      cases slot with
      | written ws =>
          obtain ⟨ys, zs, rfl, hz, rfl⟩ := joined_eq_some_iff.mp h
          rw [Tail.writeAll_append, ih _ hz]
          rfl
      | body arrow =>
          cases bs with
          | nil => cases h
          | cons b bs =>
              obtain ⟨ys, zs, hy, hz, rfl⟩ := joined_eq_some_iff.mp h
              rw [Tail.writeAll_append, b.writeAll_printLast t hy, ih _ hz]
              simp only [frame, Frame.fill, List.map_cons, List.append_assoc]

end Layout

end TypeProbe
