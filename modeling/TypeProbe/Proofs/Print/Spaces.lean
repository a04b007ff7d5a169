import Mathlib.Data.List.Basic
import Mathlib.Data.List.Induction
import TypeProbe.Print.Spacing

/-! # Which spaces are written

Fragments are written with as few spaces as keep them apart.

* `Spacing` is a sequence of fragments, each with or without a space before it, and
  `Fragment.spacing` is the one that is written.
* Fragments **merge** (`Spacing.Merges`) if two words become one, or if one of the marks that
  begin a comment or are operators of two characters stands in the text without being part of a
  single fragment.
* **Main result** (`Fragment.spacing_minimal`): nothing merges in what is written, and without any
  one of the spaces something would, unless a fragment opens a comment on its own.

All that is known of the text written so far is its tail.  The tail is a function of the text
(`Tail.ofText`), and the steps of `Opener` find exactly the marks that the text ends with
(`Opener.completes_after`).  Both directions of the main result are read off this. -/

namespace TypeProbe

/-! ### Marks over several fragments -/

/-- The marks that open a comment up to the end of the line. -/
def lineCommentMarks : List (List Char) := ["<!--".toList, "-->".toList]

/-- The operators of two equal signs, and the marks that open the other comments. -/
def doubleMarks : List (List Char) := ["++".toList, "--".toList, "//".toList, "/*".toList]

/-- The marks that may stand within a fragment only. -/
def guardedMarks : List (List Char) := doubleMarks ++ lineCommentMarks

/-- A mark begins in a text and goes on into the next one. -/
def Straddles (m before after : List Char) : Prop :=
  ∃ u v, u ≠ [] ∧ v ≠ [] ∧ m = u ++ v ∧ u <:+ before ∧ v <+: after

/-- A text ends and the next one begins with a character of words. -/
def WordsTouch (before after : List Char) : Prop :=
  before.getLast?.any isWordChar = true ∧ after.head?.any isWordChar = true

/-! ### Spacings -/

/-- A fragment, after a space or not. -/
structure Placed where
  spaced : Bool
  fragment : Fragment

namespace Placed

/-- The space before the fragment, if there is one. -/
def gap (w : Placed) : List Char := if w.spaced then [' '] else []

/-- The fragment with the space before it. -/
def text (w : Placed) : List Char := w.gap ++ w.fragment.text

/-- The fragment alone. -/
def unspaced (w : Placed) : Placed := ⟨false, w.fragment⟩

end Placed

/-- Fragments one after another, with spaces between them. -/
abbrev Spacing := List Placed

namespace Spacing

/-- The text of the fragments and the spaces. -/
def text (s : Spacing) : List Char := s.flatMap Placed.text

/-- Two words are written as one: a fragment ends and the next one that is not empty begins with a
character of words, and nothing is between them. -/
def JoinsWords (s : Spacing) : Prop :=
  ∃ (before : Spacing) (f : Placed) (between : Spacing) (g : Placed) (after : Spacing),
    s = before ++ f :: (between ++ g :: after) ∧ text between = [] ∧ g.spaced = false ∧
      WordsTouch f.fragment.text g.fragment.text

/-- A part of the text is a part of a single fragment. -/
def Inside (s : Spacing) (left part right : List Char) : Prop :=
  ∃ before w after p q, s = before ++ w :: after ∧ w.fragment.text = p ++ part ++ q ∧
    left = text before ++ w.gap ++ p ∧ right = q ++ text after

/-- A guarded mark stands in the text and not in a single fragment. -/
def FormsMark (s : Spacing) : Prop :=
  ∃ m ∈ guardedMarks, ∃ left right, text s = left ++ m ++ right ∧ ¬ Inside s left m right

/-- The text is read as something else than the fragments. -/
def Merges (s : Spacing) : Prop := JoinsWords s ∨ FormsMark s

end Spacing

namespace Tail

/-- Whether a fragment is written after a space. -/
def spaces (t : Tail) : Fragment → Bool
  | .quoted _ => false
  | f => t.needsSpace f.text

/-- Fragments with the spaces that are written before them. -/
def spacing (t : Tail) : List Fragment → Spacing
  | [] => []
  | f :: rest => ⟨t.spaces f, f⟩ :: (t.write f).2.spacing rest

end Tail

/-- Fragments with the spaces that are written between them on an empty page. -/
def Fragment.spacing (fs : List Fragment) : Spacing := Tail.clear.spacing fs

/-! ### How far a text has come into a mark -/

namespace Opener

/-- The state after a text, whose last character comes first. -/
def ofReversed : List Char → Opener
  | '-' :: '-' :: _ => dashDash
  | '-' :: '!' :: '<' :: _ => lessBangDash
  | '-' :: _ => dash
  | '!' :: '<' :: _ => lessBang
  | '<' :: _ => less
  | _ => none

theorem next_ofReversed (c : Char) (r : List Char) :
    (ofReversed r).next c = ofReversed (c :: r) := by
  by_cases hd : c = '-'
  · subst hd
    fun_cases ofReversed r <;> simp_all [next, ofReversed]
  · by_cases hb : c = '!'
    · subst hb
      fun_cases ofReversed r <;> simp_all [next, ofReversed]
    · by_cases hl : c = '<'
      · subst hl
        fun_cases ofReversed r <;> simp_all [next, ofReversed]
      · fun_cases ofReversed r <;> simp_all [next, ofReversed]

theorem after_concat (o : Opener) (text : List Char) (c : Char) :
    o.after (text ++ [c]) = (o.after text).next c := List.foldl_concat ..

theorem after_append (o : Opener) (a b : List Char) : o.after (a ++ b) = (o.after a).after b :=
  List.foldl_append

theorem after_eq_ofReversed (text : List Char) : none.after text = ofReversed text.reverse := by
  induction text using List.reverseRecOn with
  | nil => rfl
  | append_singleton text c ih =>
      rw [after_concat, ih, next_ofReversed, List.reverse_concat]

theorem completes_iff (o : Opener) (c : Char) :
    o.completes c = true ↔ (o = lessBangDash ∧ c = '-') ∨ (o = dashDash ∧ c = '>') := by
  cases o <;> simp [completes]

theorem ofReversed_eq_dashDash_iff {r : List Char} :
    ofReversed r = dashDash ↔ ['-', '-'] <+: r := by
  constructor
  · fun_cases ofReversed r <;> simp
  · rintro ⟨more, rfl⟩
    rfl

theorem ofReversed_eq_lessBangDash_iff {r : List Char} :
    ofReversed r = lessBangDash ↔ ['-', '!', '<'] <+: r := by
  constructor
  · fun_cases ofReversed r <;> simp
  · rintro ⟨more, rfl⟩
    rfl

/-- A mark is completed exactly where the text ends with it. -/
theorem completes_after (text : List Char) (c : Char) :
    (none.after text).completes c = true ↔ ∃ m ∈ lineCommentMarks, m <:+ text ++ [c] := by
  have hsuffix (m : List Char) : m <:+ text ++ [c] ↔ m.reverse <+: c :: text.reverse := by
    rw [← List.reverse_prefix, List.reverse_concat]
  simp only [hsuffix, lineCommentMarks, List.mem_cons, List.not_mem_nil, or_false,
    exists_eq_or_imp, exists_eq_left]
  rw [after_eq_ofReversed, completes_iff, ofReversed_eq_lessBangDash_iff,
    ofReversed_eq_dashDash_iff, and_comm, and_comm (b := c = '>'), eq_comm (a := c),
    eq_comm (a := c)]
  exact or_congr List.cons_prefix_cons.symm List.cons_prefix_cons.symm

/-- Marks are completed within a text exactly where the text so far ends with one. -/
theorem opensIn_after (text more : List Char) :
    (none.after text).opensIn more = true ↔
      ∃ w, w ≠ [] ∧ w <+: more ∧ ∃ m ∈ lineCommentMarks, m <:+ text ++ w := by
  induction more generalizing text with
  | nil =>
      constructor
      · nofun
      · rintro ⟨w, hne, hw, _⟩
        exact absurd (List.prefix_nil.mp hw) hne
  | cons c more ih =>
      have hnext (w : List Char) : text ++ c :: w = text ++ [c] ++ w := by simp
      rw [opensIn, Bool.or_eq_true, completes_after, ← after_concat, ih]
      constructor
      · rintro (⟨m, hm, hsuffix⟩ | ⟨w, _, hw, m, hm, hsuffix⟩)
        · exact ⟨[c], List.cons_ne_nil _ _, List.prefix_append [c] more, m, hm, hsuffix⟩
        · rw [← hnext] at hsuffix
          exact ⟨c :: w, List.cons_ne_nil _ _, List.cons_prefix_cons.mpr ⟨rfl, hw⟩, m, hm, hsuffix⟩
      · rintro ⟨w, hne, hw, m, hm, hsuffix⟩
        rcases List.prefix_cons_iff.mp hw with rfl | ⟨w, rfl, hprefix⟩
        · exact absurd rfl hne
        · by_cases hnil : w = []
          · subst hnil
            exact .inl ⟨m, hm, hsuffix⟩
          · rw [hnext] at hsuffix
            exact .inr ⟨w, hnil, hprefix, m, hm, hsuffix⟩

end Opener

/-! ### What the tail tells of the text -/

/-- What merges with a character: another character of words, or the rest of a mark. -/
theorem Edge.merges_ofChar_iff (c d : Char) :
    (Edge.ofChar c).merges d = true ↔
      (isWordChar c = true ∧ isWordChar d = true) ∨ [c, d] ∈ doubleMarks := by
  have hmarks : doubleMarks = [['+', '+'], ['-', '-'], ['/', '/'], ['/', '*']] := rfl
  have hplus : isWordChar '+' = false := rfl
  have hminus : isWordChar '-' = false := rfl
  have hslash : isWordChar '/' = false := rfl
  rw [hmarks]
  unfold Edge.ofChar
  split
  · next h => simp [h, merges, hplus]
  split
  · next h => simp [h, merges, hminus]
  split
  · next h => simp [h, merges, hslash]
  · next hp hm hs => cases isWordChar c <;> simp [merges, hp, hm, hs]

namespace Tail

/-- The tail of a text. -/
def ofText (text : List Char) : Tail :=
  ⟨(text.getLast?.map Edge.ofChar).getD .other, Opener.none.after text⟩

theorem edge_ofText_concat (text : List Char) (c : Char) :
    (ofText (text ++ [c])).edge = Edge.ofChar c := by
  simp [ofText]

/-- Where a mark would go on, a space is needed. -/
theorem needsSpace_of_straddles {m before text : List Char} (hm : m ∈ guardedMarks)
    (h : Straddles m before text) : (ofText before).needsSpace text = true := by
  obtain ⟨u, v, hu, hv, rfl, ⟨left, rfl⟩, htext⟩ := h
  unfold needsSpace
  rw [Bool.or_eq_true]
  rcases List.mem_append.mp hm with hdouble | hcomment
  · left
    have hlengths : ∀ m ∈ doubleMarks, m.length = 2 := by decide
    have hlength := hlengths _ hdouble
    rw [List.length_append] at hlength
    have hleft := List.length_pos_of_ne_nil hu
    have hright := List.length_pos_of_ne_nil hv
    obtain ⟨c, rfl⟩ := List.length_eq_one_iff.mp (show u.length = 1 by omega)
    obtain ⟨d, rfl⟩ := List.length_eq_one_iff.mp (show v.length = 1 by omega)
    obtain ⟨right, rfl⟩ := htext
    rw [edge_ofText_concat]
    exact (Edge.merges_ofChar_iff c d).mpr (.inr hdouble)
  · right
    refine (Opener.opensIn_after _ text).mpr ⟨v, hv, htext, u ++ v, hcomment, left, ?_⟩
    exact (List.append_assoc ..).symm

/-- Where two words would become one, too. -/
theorem needsSpace_of_wordsTouch {before text : List Char} (h : WordsTouch before text) :
    (ofText before).needsSpace text = true := by
  obtain ⟨hbefore, htext⟩ := h
  obtain ⟨c, hlast, hc⟩ := (Option.any_eq_true _ _).mp hbefore
  obtain ⟨d, hd, hword⟩ := (Option.any_eq_true _ _).mp htext
  obtain ⟨left, rfl⟩ := List.getLast?_eq_some_iff.mp hlast
  unfold needsSpace
  rw [hd, edge_ofText_concat, Bool.or_eq_true]
  exact .inl ((Edge.merges_ofChar_iff c d).mpr (.inl ⟨hc, hword⟩))

/-- Only there a space is needed, unless the text opens a comment on its own. -/
theorem touch_or_straddles_of_needsSpace {before text : List Char}
    (h : (ofText before).needsSpace text = true)
    (hown : ∀ m ∈ lineCommentMarks, ¬ m <:+: text) :
    WordsTouch before text ∨ ∃ m ∈ guardedMarks, Straddles m before text := by
  unfold needsSpace at h
  rw [Bool.or_eq_true] at h
  rcases h with hmerges | hopens
  · obtain ⟨d, hhead, hnext⟩ := (Option.any_eq_true _ _).mp hmerges
    obtain ⟨right, rfl⟩ := List.head?_eq_some_iff.mp hhead
    rcases List.eq_nil_or_concat before with rfl | ⟨left, c, rfl⟩
    · cases hnext
    · rw [List.concat_eq_append, edge_ofText_concat, Edge.merges_ofChar_iff] at hnext
      rcases hnext with ⟨hc, hd⟩ | hdouble
      · left
        exact ⟨by simp [hc], by simp [hd]⟩
      · right
        exact ⟨[c, d], List.mem_append_left _ hdouble, [c], [d], List.cons_ne_nil _ _,
          List.cons_ne_nil _ _, rfl, ⟨left, by simp⟩, ⟨right, rfl⟩⟩
  · right
    obtain ⟨v, hv, hprefix, m, hm, ⟨left, hsuffix⟩⟩ := (Opener.opensIn_after before text).mp hopens
    rcases List.append_eq_append_iff.mp hsuffix with ⟨u, rfl, rfl⟩ | ⟨more, rfl, rfl⟩
    · refine ⟨u ++ v, List.mem_append_right _ hm, u, v, ?_, hv, rfl, ⟨left, rfl⟩, hprefix⟩
      rintro rfl
      exact hown _ hm hprefix.isInfix
    · exact absurd ((List.suffix_append more m).isInfix.trans hprefix.isInfix) (hown m hm)

/-! ### The spacing that is written -/

theorem ofText_append {text : List Char} {last : Char} (h : text.getLast? = some last)
    (before : List Char) :
    ofText (before ++ text) = ⟨Edge.ofChar last, (Opener.none.after before).after text⟩ := by
  unfold ofText
  rw [List.getLast?_append, h, Opener.after_append]
  rfl

theorem after_space (o : Opener) (text : List Char) :
    o.after (' ' :: text) = Opener.none.after text := by
  cases o <;> rfl

/-- What a text other than a literal adds, and the tail after it, follow from the text so far. -/
theorem writeText_ofText (before text : List Char) :
    (ofText before).writeText text =
      let gap := if (ofText before).needsSpace text then [' '] else []
      (gap ++ text, ofText (before ++ (gap ++ text))) := by
  rcases List.eq_nil_or_concat text with rfl | ⟨left, last, rfl⟩
  · simp [writeText, needsSpace, Opener.opensIn]
  · rw [List.concat_eq_append]
    simp only [writeText, List.getLast?_concat]
    by_cases hspace : (ofText before).needsSpace (left ++ [last]) = true
    · have hlast : (' ' :: (left ++ [last])).getLast? = some last :=
        List.getLast?_concat (l := ' ' :: left)
      rw [if_pos hspace, if_pos hspace, List.singleton_append, ofText_append hlast, after_space]
    · rw [if_neg hspace, if_neg hspace, List.nil_append, ofText_append List.getLast?_concat]
      rfl

/-- What is written, and the tail after it, follow from the text so far. -/
theorem write_ofText (before : List Char) (f : Fragment) :
    (ofText before).write f =
      (Placed.text ⟨(ofText before).spaces f, f⟩,
        ofText (before ++ Placed.text ⟨(ofText before).spaces f, f⟩)) := by
  cases f with
  | quoted value =>
      have hlast : (Quoted.encode value.toList).getLast? = some '"' := List.getLast?_concat
      have hclosed : (Opener.none.after before).after (Quoted.encode value.toList) = .none := by
        unfold Quoted.encode
        rw [Opener.after_concat]
        cases ((Opener.none.after before).after ('"' :: Quoted.body value.toList)) <;> rfl
      show (Quoted.encode value.toList, clear) =
        (Quoted.encode value.toList, ofText (before ++ Quoted.encode value.toList))
      rw [ofText_append hlast, hclosed]
      rfl
  | _ => exact writeText_ofText before _

/-- The text of the spacing is what is written. -/
theorem text_spacing (before : List Char) (fs : List Fragment) :
    Spacing.text ((ofText before).spacing fs) = ((ofText before).writeAll fs).1 := by
  induction fs generalizing before with
  | nil => rfl
  | cons f fs ih =>
      have hcons : Spacing.text ((ofText before).spacing (f :: fs)) =
          Placed.text ⟨(ofText before).spaces f, f⟩ ++
            Spacing.text (((ofText before).write f).2.spacing fs) := List.flatMap_cons
      rw [hcons, write_ofText, ih]
      simp only [writeAll, write_ofText]

theorem map_fragment_spacing (t : Tail) (fs : List Fragment) :
    (t.spacing fs).map Placed.fragment = fs := by
  induction fs generalizing t with
  | nil => rfl
  | cons f fs ih => exact congrArg (f :: ·) (ih _)

/-- Each space depends on the text before it. -/
theorem spaced_of_spacing (start : List Char) {s after : Spacing} {w : Placed}
    {fs : List Fragment} (h : (ofText start).spacing fs = s ++ w :: after) :
    w.spaced = (ofText (start ++ Spacing.text s)).spaces w.fragment := by
  induction s generalizing start fs with
  | nil =>
      cases fs with
      | nil => cases h
      | cons f fs =>
          obtain ⟨rfl, _⟩ := List.cons.inj h
          simp [Spacing.text]
  | cons v s ih =>
      cases fs with
      | nil => cases h
      | cons f fs =>
          obtain ⟨rfl, hrest⟩ := List.cons.inj h
          rw [write_ofText] at hrest
          rw [ih _ hrest, List.append_assoc]
          rfl

end Tail

/-! ### What merges in a spacing -/

namespace Spacing

theorem text_nil : text [] = [] := rfl

theorem text_cons (w : Placed) (s : Spacing) : text (w :: s) = w.gap ++ w.fragment.text ++ text s :=
  List.flatMap_cons

theorem text_append (s r : Spacing) : text (s ++ r) = text s ++ text r := List.flatMap_append

/-- A word at the end of a text is the end of the last fragment that is not empty. -/
theorem exists_last_word {s : Spacing} (h : (text s).getLast?.any isWordChar = true) :
    ∃ before f between, s = before ++ f :: between ∧ text between = [] ∧
      f.fragment.text.getLast?.any isWordChar = true := by
  induction s using List.reverseRecOn with
  | nil => cases h
  | append_singleton s w ih =>
      rw [text_append, text_cons, text_nil, List.append_nil] at h
      rcases List.eq_nil_or_concat w.fragment.text with hnil | ⟨left, c, hconcat⟩
      · rw [hnil, List.append_nil] at h
        cases hspaced : w.spaced with
        | true =>
            have hgap : w.gap = [' '] := by simp [Placed.gap, hspaced]
            rw [hgap, List.getLast?_concat] at h
            cases h
        | false =>
            have hgap : w.gap = [] := by simp [Placed.gap, hspaced]
            rw [hgap, List.append_nil] at h
            obtain ⟨before, f, between, rfl, hbetween, hf⟩ := ih h
            refine ⟨before, f, between ++ [w], by simp, ?_, hf⟩
            rw [text_append, hbetween, text_cons, hgap, hnil]
            rfl
      · refine ⟨s, w, [], rfl, rfl, ?_⟩
        rw [List.concat_eq_append] at hconcat
        rw [hconcat, ← List.append_assoc, ← List.append_assoc, List.getLast?_concat] at h
        rw [hconcat, List.getLast?_concat]
        exact h

/-- Words are joined where a fragment without a space goes on with the word before it. -/
theorem joinsWords_iff {s : Spacing} :
    JoinsWords s ↔ ∃ (before : Spacing) (w : Placed) (after : Spacing),
      s = before ++ w :: after ∧ w.spaced = false ∧
        WordsTouch (text before) w.fragment.text := by
  constructor
  · rintro ⟨before, f, between, g, after, rfl, hbetween, hg, hf, hhead⟩
    refine ⟨before ++ f :: between, g, after, by simp, hg, ?_, hhead⟩
    obtain ⟨c, hlast, hc⟩ := (Option.any_eq_true _ _).mp hf
    rw [text_append, text_cons, hbetween, List.append_nil, List.getLast?_append,
      List.getLast?_append, hlast]
    exact hc
  · rintro ⟨before, g, after, rfl, hg, hlast, hhead⟩
    obtain ⟨before, f, between, rfl, hbetween, hf⟩ := exists_last_word hlast
    exact ⟨before, f, between, g, after, by simp, hbetween, hg, hf, hhead⟩

/-- A part of the text that ends in a fragment is inside of it, or began before it. -/
theorem inside_or_straddles_of_end {w : Placed} {start left m v q : List Char} (hm : ' ' ∉ m)
    (hleft : left ++ m = start ++ v) (hv : v ≠ []) (hw : w.gap ++ w.fragment.text = v ++ q) :
    (∃ p, w.fragment.text = p ++ m ++ q ∧ left = start ++ w.gap ++ p) ∨
      (w.spaced = false ∧ Straddles m start w.fragment.text) := by
  have hsplit := List.append_eq_append_iff.mp hleft
  cases hspaced : w.spaced with
  | true =>
      -- the space before the fragment is not in the part
      left
      have hgap : w.gap = [' '] := by simp [Placed.gap, hspaced]
      rw [hgap] at hw ⊢
      rcases List.cons_eq_append_iff.mp hw with ⟨hnil, _⟩ | ⟨v, rfl, htext⟩
      · exact absurd hnil hv
      · have htext : w.fragment.text = v ++ q := htext
        rcases hsplit with ⟨u, _, rfl⟩ | ⟨c, rfl, hc⟩
        · exact absurd (List.mem_append_right u List.mem_cons_self) hm
        · rcases List.cons_eq_append_iff.mp hc with ⟨_, rfl⟩ | ⟨p, rfl, rfl⟩
          · exact absurd List.mem_cons_self hm
          · exact ⟨p, htext, by simp⟩
  | false =>
      have hgap : w.gap = [] := by simp [Placed.gap, hspaced]
      rw [hgap, List.nil_append] at hw
      rw [hgap, List.append_nil, hw]
      rcases hsplit with ⟨u, rfl, rfl⟩ | ⟨p, rfl, rfl⟩
      · by_cases hu : u = []
        · subst hu
          exact .inl ⟨[], by simp⟩
        · exact .inr ⟨rfl, u, v, hu, hv, rfl, List.suffix_append .., List.prefix_append ..⟩
      · exact .inl ⟨p, rfl, rfl⟩

/-- A part of the text behind some place is inside of a fragment, or goes on in one that has no
space before it. -/
theorem inside_or_straddles {s : Spacing} {start left m right v : List Char} (hm : ' ' ∉ m)
    (hleft : left ++ m = start ++ v) (hv : v ≠ []) (hs : text s = v ++ right) :
    (∃ (before : Spacing) (w : Placed) (after : Spacing) (p q : List Char),
      s = before ++ w :: after ∧ w.fragment.text = p ++ m ++ q ∧
        left = start ++ text before ++ w.gap ++ p ∧ right = q ++ text after) ∨
    ∃ (before : Spacing) (w : Placed) (after : Spacing),
      s = before ++ w :: after ∧ w.spaced = false ∧
        Straddles m (start ++ text before) w.fragment.text := by
  induction s generalizing start v with
  | nil => exact absurd (List.append_eq_nil_iff.mp hs.symm).1 hv
  | cons w s ih =>
      rw [text_cons] at hs
      -- the part ends in this fragment, or goes on behind it
      have hends : (∃ q, w.gap ++ w.fragment.text = v ++ q ∧ right = q ++ text s) ∨
          ∃ v', v' ≠ [] ∧ v = w.gap ++ w.fragment.text ++ v' ∧ text s = v' ++ right := by
        rcases List.append_eq_append_iff.mp hs with ⟨v', hv', hrest⟩ | hends
        · by_cases hnil : v' = []
          · subst hnil
            exact .inl ⟨[], by rw [hv', List.append_nil, List.append_nil], hrest.symm⟩
          · exact .inr ⟨v', hnil, hv', hrest⟩
        · exact .inl hends
      rcases hends with ⟨q, hw, hright⟩ | ⟨v', hv', rfl, hrest⟩
      · rcases inside_or_straddles_of_end hm hleft hv hw with ⟨p, htext, hl⟩ | ⟨hspaced, hstraddles⟩
        · refine .inl ⟨[], w, s, p, q, rfl, htext, ?_, hright⟩
          rwa [text_nil, List.append_nil]
        · refine .inr ⟨[], w, s, rfl, hspaced, ?_⟩
          rwa [text_nil, List.append_nil]
      · rw [← List.append_assoc] at hleft
        rcases ih hleft hv' hrest with ⟨before, x, after, p, q, rfl, htext, hl, hright⟩ |
          ⟨before, x, after, rfl, hspaced, hstraddles⟩
        · refine .inl ⟨w :: before, x, after, p, q, rfl, htext, ?_, hright⟩
          rw [text_cons, ← List.append_assoc start, hl]
        · refine .inr ⟨w :: before, x, after, rfl, hspaced, ?_⟩
          rwa [text_cons, ← List.append_assoc start]

/-- Where a mark goes on in a fragment, it is inside of none. -/
theorem not_inside_of_straddles {before after : Spacing} {w : Placed} {left u v right : List Char}
    (hu : u ≠ []) (hv : v ≠ []) (hbefore : text before = left ++ u) :
    ¬ Inside (before ++ w :: after) left (u ++ v) right := by
  rintro ⟨before', w', after', p, q, hs, htext, rfl, _⟩
  have hleft := congrArg List.length hbefore
  have hu := List.length_pos_of_ne_nil hu
  have hv := List.length_pos_of_ne_nil hv
  rcases List.append_eq_append_iff.mp hs with ⟨c, rfl, _⟩ | ⟨c, rfl, hc⟩
  -- the fragment is not before the place where the mark goes on
  · simp only [text_append, List.length_append] at hleft
    omega
  · rcases List.cons_eq_append_iff.mp hc with ⟨rfl, _⟩ | ⟨c, rfl, _⟩
    · simp only [List.append_nil, List.length_append] at hleft
      omega
    -- nor behind it
    · have hlength := congrArg List.length htext
      simp only [text_append, text_cons, List.length_append] at hleft hlength
      omega

/-- Marks are formed where a fragment without a space goes on with a mark before it. -/
theorem formsMark_iff {s : Spacing} :
    FormsMark s ↔ ∃ (before : Spacing) (w : Placed) (after : Spacing),
      s = before ++ w :: after ∧ w.spaced = false ∧
        ∃ m ∈ guardedMarks, Straddles m (text before) w.fragment.text := by
  constructor
  · rintro ⟨m, hm, left, right, hs, hinside⟩
    have hmarks : ∀ m ∈ guardedMarks, m ≠ [] ∧ ' ' ∉ m := by decide
    obtain ⟨hne, hspace⟩ := hmarks m hm
    have hleft : left ++ m = [] ++ (left ++ m) := rfl
    rcases inside_or_straddles hspace hleft (List.append_ne_nil_of_right_ne_nil left hne) hs
      with h | h
    · obtain ⟨before, w, after, p, q, hsplit, htext, hleft, hright⟩ := h
      exact absurd ⟨before, w, after, p, q, hsplit, htext, hleft, hright⟩ hinside
    · obtain ⟨before, w, after, hsplit, hspaced, hstraddles⟩ := h
      exact ⟨before, w, after, hsplit, hspaced, m, hm, hstraddles⟩
  · rintro ⟨before, w, after, rfl, hspaced, m, hm, u, v, hu, hv, rfl, ⟨left, hleft⟩, q, hq⟩
    refine ⟨u ++ v, hm, left, q ++ text after, ?_, not_inside_of_straddles hu hv hleft.symm⟩
    have hgap : w.gap = [] := by simp [Placed.gap, hspaced]
    rw [text_append, text_cons, hgap, ← hleft, ← hq]
    simp

end Spacing

/-! ### What is written -/

namespace Tail

theorem spaces_of_needsSpace {t : Tail} {f : Fragment} (hf : f.text.head? ≠ some '"')
    (h : t.needsSpace f.text = true) : t.spaces f = true := by
  cases f with
  | quoted value => exact absurd rfl hf
  | _ => exact h

/-- No word and no mark goes on in a fragment that is written without a space. -/
theorem not_merges_spacing (fs : List Fragment) : ¬ (Fragment.spacing fs).Merges := by
  have hspaced {before after : Spacing} {w : Placed}
      (hs : Fragment.spacing fs = before ++ w :: after) (hw : w.fragment.text.head? ≠ some '"')
      (hneeds : (ofText (Spacing.text before)).needsSpace w.fragment.text = true) :
      w.spaced = true := by
    rw [spaced_of_spacing [] hs]
    exact spaces_of_needsSpace hw hneeds
  rintro (hwords | hmark)
  · obtain ⟨before, w, after, hs, hunspaced, htouch⟩ := Spacing.joinsWords_iff.mp hwords
    have hw : w.fragment.text.head? ≠ some '"' := by
      intro hquote
      have hword := htouch.2
      rw [hquote] at hword
      cases hword
    rw [hspaced hs hw (needsSpace_of_wordsTouch htouch)] at hunspaced
    cases hunspaced
  · obtain ⟨before, w, after, hs, hunspaced, m, hm, hstraddles⟩ :=
      Spacing.formsMark_iff.mp hmark
    have hw : w.fragment.text.head? ≠ some '"' := by
      obtain ⟨u, v, _, hv, rfl, _, q, hq⟩ := hstraddles
      have hquotes : ∀ m ∈ guardedMarks, '"' ∉ m := by decide
      intro hquote
      obtain ⟨d, v, rfl⟩ := List.exists_cons_of_ne_nil hv
      rw [← hq] at hquote
      obtain rfl := Option.some.inj hquote
      exact hquotes _ hm (List.mem_append_right u List.mem_cons_self)
    rw [hspaced hs hw (needsSpace_of_straddles hm hstraddles)] at hunspaced
    cases hunspaced

/-- A literal is written without a space before it. -/
theorem needsSpace_of_spaces {t : Tail} {f : Fragment} (h : t.spaces f = true) :
    (∀ value, f ≠ .quoted value) ∧ t.needsSpace f.text = true := by
  cases f with
  | quoted value => cases h
  | _ => exact ⟨nofun, h⟩

/-- Without a space that is written, something would merge. -/
theorem merges_unspaced {fs : List Fragment} {before after : Spacing} {w : Placed}
    (hs : Fragment.spacing fs = before ++ w :: after) (hw : w.spaced = true)
    (hown : ∀ f ∈ fs, (∀ value, f ≠ .quoted value) → ∀ m ∈ lineCommentMarks, ¬ m <:+: f.text) :
    Spacing.Merges (before ++ w.unspaced :: after) := by
  have hspaces := spaced_of_spacing [] hs
  rw [hw] at hspaces
  obtain ⟨hplain, hneeds⟩ := needsSpace_of_spaces hspaces.symm
  have hmem : w.fragment ∈ fs := by
    rw [← map_fragment_spacing clear fs]
    refine List.mem_map_of_mem ?_
    show w ∈ Fragment.spacing fs
    rw [hs]
    exact List.mem_append_right before List.mem_cons_self
  rcases touch_or_straddles_of_needsSpace hneeds (hown w.fragment hmem hplain) with h | h
  · exact .inl (Spacing.joinsWords_iff.mpr ⟨before, w.unspaced, after, rfl, rfl, h⟩)
  · exact .inr (Spacing.formsMark_iff.mpr ⟨before, w.unspaced, after, rfl, rfl, h⟩)

end Tail

/-- **Spaces are written where they are needed, and nowhere else.**  What is written are the
fragments in their order, with spaces before some.  No two words are joined, and no guarded mark
stands in the text that is not part of a single fragment.  If no fragment but a literal opens a
comment on its own, then leaving out any one space would join two words or form such a mark. -/
theorem Fragment.spacing_minimal (fs : List Fragment) :
    (spacing fs).map Placed.fragment = fs ∧ Spacing.text (spacing fs) = (join fs).toList ∧
      ¬ (spacing fs).Merges ∧
      ((∀ f ∈ fs, (∀ value, f ≠ .quoted value) → ∀ m ∈ lineCommentMarks, ¬ m <:+: f.text) →
        ∀ (before : Spacing) (w : Placed) (after : Spacing),
          spacing fs = before ++ w :: after → w.spaced = true →
            Spacing.Merges (before ++ w.unspaced :: after)) := by
  refine ⟨Tail.map_fragment_spacing _ fs, ?_, Tail.not_merges_spacing fs, ?_⟩
  · rw [join, String.toList_ofList]
    exact Tail.text_spacing [] fs
  · intro hown before w after hs hw
    exact Tail.merges_unspaced hs hw hown

/-- A mark over four fragments, with an empty one among them, is broken before its last part. -/
example : Fragment.join [.identifier "a", .punct "<", .punct "!", .punct "-", .keyword "",
    .punct "-", .identifier "b"] = "a<!- -b" := rfl

/-- A fragment that is a comment on its own is written after a space that is of no use. -/
example : Fragment.join [.punct ";", .punct "<!--"] = "; <!--" := rfl

end TypeProbe
