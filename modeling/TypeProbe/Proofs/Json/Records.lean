import TypeProbe.Proofs.Json.Values

/-! # Records and nesting

* A record is an object whose fields are known by name; some of them may be left out, and they may
  stand in any order (`slots`).  `record?` finds what every field holds (`record?_of_perm`).
* `Json.depth` counts how many arrays and objects nest, which is what `isKept` limits
  (`itemsKept_iff`, `fieldsKept_iff`); numbers of 32 bits are always kept (`not_isTooLarge`). -/

namespace TypeProbe.Json

/-! ### Records -/

/-- The fields of a record that are there, given what each of its fields holds. -/
def slots (record : List (String × Option Json)) : List (Option String × Json) :=
  record.filterMap fun (name, value) => value.map (some name, ·)

theorem slots_cons (name : String) (value : Option Json) (rest : List (String × Option Json)) :
    slots ((name, value) :: rest) = (value.map (some name, ·)).toList ++ slots rest := by
  cases value <;> rfl

theorem mem_slots {record : List (String × Option Json)} {f : Option String × Json} :
    f ∈ slots record ↔ ∃ name, f.1 = some name ∧ (name, some f.2) ∈ record := by
  constructor
  · intro h
    obtain ⟨⟨name, value⟩, hmem, hvalue⟩ := List.mem_filterMap.mp h
    obtain ⟨j, rfl, rfl⟩ := Option.map_eq_some_iff.mp hvalue
    exact ⟨name, rfl, hmem⟩
  · rintro ⟨name, hname, hmem⟩
    obtain ⟨_, j⟩ := f
    obtain rfl := hname
    exact List.mem_filterMap.mpr ⟨_, hmem, rfl⟩

/-- The field of a name, if it is there. -/
theorem filter_slots {record : List (String × Option Json)} {name : String} {value : Option Json}
    (hnames : (record.map Prod.fst).Nodup) (hmem : (name, value) ∈ record) :
    (slots record).filter (·.1 == some name) = (value.map (some name, ·)).toList := by
  induction record with
  | nil => cases hmem
  | cons entry rest ih =>
      obtain ⟨other, content⟩ := entry
      obtain ⟨hother, hrest⟩ := List.nodup_cons.mp hnames
      rw [slots_cons, List.filter_append]
      by_cases hname : other = name
      · subst hname
        have hcontent : content = value := by
          rcases List.mem_cons.mp hmem with h | h
          · cases h
            rfl
          · exact absurd (List.mem_map_of_mem h) hother
        have hnone : (slots rest).filter (·.1 == some other) = [] := by
          apply List.filter_eq_nil_iff.mpr
          intro f hf hkey
          obtain ⟨found, hfst, hfound⟩ := mem_slots.mp hf
          rw [hfst, beq_iff_eq, Option.some.injEq] at hkey
          subst hkey
          exact hother (List.mem_map.mpr ⟨_, hfound, rfl⟩)
        rw [hnone, List.append_nil, hcontent]
        cases value <;> simp
      · have hin : (name, value) ∈ rest := by
          rcases List.mem_cons.mp hmem with h | h
          · cases h
            exact absurd rfl hname
          · exact h
        have hnone : (content.map (some other, ·)).toList.filter (·.1 == some name) = [] := by
          cases content <;> simp [hname]
        rw [hnone, List.nil_append, ih hrest hin]

theorem field?_of_perm {record : List (String × Option Json)}
    {fields : List (Option String × Json)} {name : String} {value : Option Json}
    (hnames : (record.map Prod.fst).Nodup) (hfields : fields.Perm (slots record))
    (hmem : (name, value) ∈ record) : field? fields name = some value := by
  have hfilter := hfields.filter (·.1 == some name)
  rw [filter_slots hnames hmem] at hfilter
  unfold field?
  cases value with
  | none =>
      rw [List.perm_nil.mp hfilter]
  | some j =>
      rw [List.perm_singleton.mp hfilter]

theorem mapM_of_forall₂ {α β : Type} {f : α → Option β} {xs : List α} {ys : List β}
    (h : List.Forall₂ (fun x y => f x = some y) xs ys) : xs.mapM f = some ys := by
  induction h with
  | nil => rfl
  | cons hfirst _ ih =>
      rw [List.mapM_cons, hfirst, ih]
      rfl

/-- **A record is read by its names**, in whatever order its fields stand. -/
theorem record?_of_perm {record : List (String × Option Json)}
    {fields : List (Option String × Json)} (hnames : (record.map Prod.fst).Nodup)
    (hfields : fields.Perm (slots record)) :
    (object fields).record? (record.map Prod.fst) = some (record.map Prod.snd) := by
  have hnamed : fields.all (·.1.isSome) = true := by
    apply List.all_eq_true.mpr
    intro f hf
    obtain ⟨name, hname, _⟩ := mem_slots.mp (hfields.mem_iff.mp hf)
    rw [hname]
    rfl
  have hrecord : (object fields).record? (record.map Prod.fst) =
      (record.map Prod.fst).mapM (field? fields) := if_pos hnamed
  rw [hrecord]
  apply mapM_of_forall₂
  rw [List.forall₂_map_left_iff, List.forall₂_map_right_iff, List.forall₂_same]
  exact fun entry hentry => field?_of_perm hnames hfields hentry

/-! ### Nesting -/

mutual

/-- How many arrays and objects nest. -/
def depth : Json → Nat
  | null | boolean _ | number _ | string _ => 0
  | array items => itemsDepth items + 1
  | object fields => fieldsDepth fields + 1

/-- How many arrays and objects nest in the items of an array. -/
def itemsDepth : List Json → Nat
  | [] => 0
  | j :: rest => max j.depth (itemsDepth rest)

/-- How many arrays and objects nest in the fields of an object. -/
def fieldsDepth : List (Option String × Json) → Nat
  | [] => 0
  | (_, j) :: rest => max j.depth (fieldsDepth rest)

end

theorem itemsDepth_le_iff {items : List Json} {n : Nat} :
    itemsDepth items ≤ n ↔ ∀ j ∈ items, j.depth ≤ n := by
  induction items with
  | nil => exact ⟨fun _ => nofun, fun _ => Nat.zero_le n⟩
  | cons j rest ih => rw [itemsDepth, Nat.max_le, ih, List.forall_mem_cons]

theorem fieldsDepth_le_iff {fields : List (Option String × Json)} {n : Nat} :
    fieldsDepth fields ≤ n ↔ ∀ f ∈ fields, f.2.depth ≤ n := by
  induction fields with
  | nil => exact ⟨fun _ => nofun, fun _ => Nat.zero_le n⟩
  | cons f rest ih => rw [fieldsDepth, Nat.max_le, ih, List.forall_mem_cons]

theorem itemsKept_iff {items : List Json} {levels : Nat} :
    itemsKept levels items = true ↔ ∀ j ∈ items, j.isKept levels = true := by
  induction items with
  | nil => exact ⟨fun _ => nofun, fun _ => rfl⟩
  | cons j rest ih => rw [itemsKept, Bool.and_eq_true, ih, List.forall_mem_cons]

theorem fieldsKept_iff {fields : List (Option String × Json)} {levels : Nat} :
    fieldsKept levels fields = true ↔
      ∀ f ∈ fields, f.1.isSome = true ∧ f.2.isKept levels = true := by
  induction fields with
  | nil => exact ⟨fun _ => nofun, fun _ => rfl⟩
  | cons f rest ih =>
      rw [fieldsKept, Bool.and_eq_true, Bool.and_eq_true, ih, List.forall_mem_cons]

section record

variable {record : List (String × Option Json)} {fields : List (Option String × Json)}

/-- What a field of a record holds nests less than the record. -/
theorem depth_of_perm (hfields : fields.Perm (slots record)) {levels : Nat}
    (h : (object fields).depth ≤ levels + 1) (name : String) {j : Json}
    (hmem : (name, some j) ∈ record) : j.depth ≤ levels := by
  have hall : ∀ f ∈ fields, f.2.depth ≤ levels :=
    fieldsDepth_le_iff.mp (Nat.le_of_succ_le_succ h)
  have hfield : (some name, j) ∈ fields := hfields.mem_iff.mpr (mem_slots.mpr ⟨name, rfl, hmem⟩)
  exact hall _ hfield

/-- A record is kept if what its fields hold is. -/
theorem isKept_of_perm (hfields : fields.Perm (slots record)) {levels : Nat}
    (h : ∀ name j, (name, some j) ∈ record → j.isKept levels = true) :
    (object fields).isKept (levels + 1) = true := by
  have hall : fieldsKept levels fields = true := by
    apply fieldsKept_iff.mpr
    intro f hf
    obtain ⟨name, hname, hmem⟩ := mem_slots.mp (hfields.mem_iff.mp hf)
    refine ⟨?_, h name f.2 hmem⟩
    rw [hname]
    rfl
  show (decide (0 < levels + 1) && fieldsKept levels fields) = true
  rw [hall, decide_eq_true (Nat.succ_pos levels)]
  rfl

end record

/-- What an array holds nests less than the array. -/
theorem depth_of_mem {items : List Json} {levels : Nat} (h : (array items).depth ≤ levels + 1) :
    ∀ j ∈ items, j.depth ≤ levels :=
  itemsDepth_le_iff.mp (Nat.le_of_succ_le_succ h)

/-- An array is kept if its items are. -/
theorem isKept_of_mem {items : List Json} {levels : Nat}
    (h : ∀ j ∈ items, j.isKept levels = true) : (array items).isKept (levels + 1) = true := by
  show (decide (0 < levels + 1) && itemsKept levels items) = true
  rw [itemsKept_iff.mpr h, decide_eq_true (Nat.succ_pos levels)]
  rfl

/-! ### Numbers -/

theorem ofDigits_toDigits (n : Nat) :
    Number.ofDigits ((Nat.toDigits 10 n).map digitValue) = n := by
  have hdigits := Nat.ofDigitChars_ten_toDigits (n := n)
  rw [Number.ofDigits, List.foldl_map]
  exact hdigits

/-- A natural number is written as itself. -/
theorem toNat?_ofNat (n : Nat) : (Number.ofNat n).toNat? = some n := by
  show some (Number.ofDigits ((Nat.toDigits 10 n).map digitValue)) = some n
  rw [ofDigits_toDigits]

theorem le_foldl_digits (ds : List Nat) (v : Nat) :
    v ≤ ds.foldl (fun n d => 10 * n + d) v := by
  induction ds generalizing v with
  | nil => exact Nat.le_refl v
  | cons d ds ih =>
      have hrest : 10 * v + d ≤ ds.foldl (fun n d => 10 * n + d) (10 * v + d) := ih _
      rw [List.foldl_cons]
      omega

/-- Digits whose value fits in 64 bits are all taken in. -/
theorem foldl_digit {ds : List Nat} {v : Nat}
    (h : ds.foldl (fun n d => 10 * n + d) v < 0x10000000000000000) :
    ds.foldl Number.Prefixed.digit ⟨v, 0⟩ = ⟨ds.foldl (fun n d => 10 * n + d) v, 0⟩ := by
  induction ds generalizing v with
  | nil => rfl
  | cons d ds ih =>
      rw [List.foldl_cons] at h
      have hfits : 10 * v + d < 0x10000000000000000 :=
        Nat.lt_of_le_of_lt (le_foldl_digits ds _) h
      have hdigit : Number.Prefixed.digit ⟨v, 0⟩ d = ⟨10 * v + d, 0⟩ := by
        unfold Number.Prefixed.digit
        rw [if_pos]
        simpa using hfits
      rw [List.foldl_cons, hdigit, ih h]
      rfl

theorem round53_of_lt {n : Nat} (h : n < 0x20000000000000) : Number.round53 n = n := by
  have hlog : n.log2 + 1 - 53 = 0 := by
    by_cases hn : n = 0
    · subst hn
      rfl
    · have hlt : n.log2 < 53 := (Nat.log2_lt hn).mpr h
      omega
  have hlow : n % Nat.pow 2 0 = 0 := Nat.mod_one n
  have hhigh : n / Nat.pow 2 0 = n := Nat.div_one n
  unfold Number.round53
  rw [hlog]
  simp only [hlow, hhigh]
  exact Nat.mul_one n

/-- A natural number of 32 bits is not too large. -/
theorem not_isTooLarge {n : Nat} (h : n < 0x100000000) : (Number.ofNat n).isTooLarge = false := by
  have hvalue : ((Nat.toDigits 10 n).map digitValue).foldl (fun n d => 10 * n + d) 0 = n :=
    ofDigits_toDigits n
  have hwhole : ((Nat.toDigits 10 n).map digitValue).foldl Number.Prefixed.digit ⟨0, 0⟩ =
      ⟨n, 0⟩ := by
    rw [foldl_digit, hvalue]
    omega
  have hleading : (Number.ofNat n).leading = (n, 0) := by
    unfold Number.leading Number.ofNat
    rw [hwhole]
    rfl
  have hround : Number.round53 n = n := by
    apply round53_of_lt
    omega
  have hbound : n * Number.round53 1 < Number.roundsToInfinity := by
    have hone : Number.round53 1 = 1 := rfl
    have hlarge : 0x100000000 ≤ Number.roundsToInfinity := by decide +kernel
    rw [hone]
    omega
  unfold Number.isTooLarge
  rw [hleading]
  by_cases hn : n = 0
  · exact if_pos hn
  · show (if n = 0 then false else if (0 : Int) > 308 then true
      else decide (Number.roundsToInfinity ≤ Number.round53 n * Number.round53 1)) = false
    rw [if_neg hn, if_neg (by decide), hround]
    exact decide_eq_false (Nat.not_le.mpr hbound)

end TypeProbe.Json
