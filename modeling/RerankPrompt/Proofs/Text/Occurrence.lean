import RerankPrompt.Text.Search

/-!
# Occurrences in joined texts

An occurrence in a joined text lies in the first part, lies in the second, or runs over the seam.
`Seam` excludes the last, and then the positions of a pattern add up (`positions_append`). Two
criteria for it look at one character beside the seam: the second part may start with one that the
pattern has only at its start (`seam_of_head?`), or the first part may end with one that the pattern
has only at its end (`seam_of_getLast?`). A third looks at the start of the pattern, which the first
part may miss altogether (`seam_of_notMem`). None asks anything of the other part, so they hold
whatever text stands there, the empty one included.

Two patterns of which neither holds the first character of the other have no occurrences that share a
character (`add_length_le_of_mem_positions`).
-/

namespace RerankPrompt.Text

variable {pattern front back : List Char}

/-- Where an occurrence starts in the first part, all of it lies there. -/
def Seam (pattern front back : List Char) : Prop :=
  ∀ i < front.length, pattern <+: (front ++ back).drop i → pattern <+: front.drop i

/-- Before a seam the joined text and its first part have the same occurrences. -/
theorem Seam.drop_iff (hseam : Seam pattern front back) {i : Nat} (hi : i < front.length) :
    pattern <+: (front ++ back).drop i ↔ pattern <+: front.drop i := by
  constructor
  · exact hseam i hi
  · intro h
    rw [List.drop_append_of_le_length (Nat.le_of_lt hi)]
    exact h.trans (List.prefix_append _ _)

/-! ## Criteria -/

/-- A pattern at the start of a joined text either lies in the first part or goes on behind it. -/
theorem exists_of_prefix_append (h : pattern <+: front ++ back) (hfront : ¬ pattern <+: front) :
    ∃ rest, rest ≠ [] ∧ pattern = front ++ rest ∧ rest <+: back := by
  rcases List.prefix_or_prefix_of_prefix h (List.prefix_append front back) with hp | hp
  · exact absurd hp hfront
  · obtain ⟨rest, rfl⟩ := hp
    have hrest : rest ≠ [] := by
      intro hnil
      subst hnil
      exact hfront (by simp)
    exact ⟨rest, hrest, rfl, (List.prefix_append_right_inj front).mp h⟩

theorem seam_of_head? {c : Char} (hback : back.head? = some c) (hc : c ∉ pattern.tail) :
    Seam pattern front back := by
  intro i hi h
  rw [List.drop_append_of_le_length (Nat.le_of_lt hi)] at h
  by_cases hp : pattern <+: front.drop i
  · exact hp
  · -- the occurrence would hold a character of the first part, and `c` behind it
    obtain ⟨rest, hne, heq, hrest⟩ := exists_of_prefix_append h hp
    have hmem : c ∈ rest := by
      obtain ⟨d, tail, rfl⟩ := List.exists_cons_of_ne_nil hne
      obtain ⟨after, rfl⟩ := hrest
      rw [List.cons_append, List.head?_cons, Option.some.injEq] at hback
      exact hback ▸ List.mem_cons_self
    rw [heq, List.drop_eq_getElem_cons hi, List.cons_append, List.tail_cons] at hc
    exact absurd (List.mem_append_right _ hmem) hc

theorem seam_of_getLast? {c : Char} (hfront : front.getLast? = some c)
    (hc : c ∉ pattern.dropLast) : Seam pattern front back := by
  obtain ⟨init, rfl⟩ := List.getLast?_eq_some_iff.mp hfront
  intro i hi h
  rw [List.length_append, List.length_singleton] at hi
  have hdrop : (init ++ [c]).drop i = init.drop i ++ [c] :=
    List.drop_append_of_le_length (by omega)
  rw [List.drop_append_of_le_length (by simp; omega)] at h
  by_cases hp : pattern <+: (init ++ [c]).drop i
  · exact hp
  · obtain ⟨rest, hne, heq, -⟩ := exists_of_prefix_append h hp
    rw [hdrop] at heq
    rw [heq, List.dropLast_append_of_ne_nil hne] at hc
    exact absurd (by simp) hc

/-- No occurrence starts where the first character of the pattern is missing. -/
theorem seam_of_notMem {c : Char} (hhead : pattern.head? = some c) (hc : c ∉ front) :
    Seam pattern front back := by
  obtain ⟨tail, rfl⟩ := List.head?_eq_some_iff.mp hhead
  intro i hi h
  rw [List.drop_append_of_le_length (Nat.le_of_lt hi), List.drop_eq_getElem_cons hi,
    List.cons_append, List.cons_prefix_cons] at h
  exact absurd (h.1 ▸ List.getElem_mem hi) hc

/-! ## Positions -/

theorem positions_eq_nil_iff {text : List Char} :
    positions pattern text = [] ↔ ¬ pattern <:+: text := by
  rw [List.eq_nil_iff_forall_not_mem]
  constructor
  · rintro h ⟨before, after, rfl⟩
    apply h before.length
    rw [mem_positions, List.append_assoc, List.drop_left]
    exact ⟨by simp, List.prefix_append pattern after⟩
  · intro h i hi
    exact h ((mem_positions.mp hi).2.isInfix.trans (List.drop_suffix i text).isInfix)

theorem positions_eq_nil_of_notMem {text : List Char} {c : Char} (hhead : pattern.head? = some c)
    (hc : c ∉ text) : positions pattern text = [] :=
  positions_eq_nil_iff.mpr fun h => hc (h.subset (List.mem_of_mem_head? hhead))

theorem length_positions_eq_zero_iff {text : List Char} :
    (positions pattern text).length = 0 ↔ ¬ pattern <:+: text := by
  rw [List.length_eq_zero_iff, positions_eq_nil_iff]

/-- A place is an occurrence where the text can be split around the pattern. -/
theorem mem_positions_iff_exists_append {text : List Char} {i : Nat} :
    i ∈ positions pattern text ↔
      ∃ front back, text = front ++ (pattern ++ back) ∧ front.length = i := by
  rw [mem_positions]
  constructor
  · rintro ⟨hi, back, hback⟩
    refine ⟨text.take i, back, ?_, List.length_take_of_le hi⟩
    rw [hback, List.take_append_drop]
  · rintro ⟨front, back, rfl, rfl⟩
    rw [List.drop_left]
    exact ⟨by simp, List.prefix_append pattern back⟩

/-- No occurrence starts at the end of a text, unless the pattern is empty. -/
theorem positions_eq_filter_range (hne : pattern ≠ []) (text : List Char) :
    positions pattern text
      = (List.range text.length).filter fun i => pattern.isPrefixOf (text.drop i) := by
  rw [positions, List.range_succ, List.filter_append,
    List.filter_cons_of_neg (by simpa using hne), List.filter_nil, List.append_nil]

theorem positions_append (hne : pattern ≠ []) (hseam : Seam pattern front back) :
    positions pattern (front ++ back)
      = positions pattern front ++ (positions pattern back).map (front.length + ·) := by
  have hfront : ∀ i ∈ List.range front.length,
      pattern.isPrefixOf ((front ++ back).drop i) = pattern.isPrefixOf (front.drop i) := by
    intro i hi
    rw [Bool.eq_iff_iff, List.isPrefixOf_iff_prefix, List.isPrefixOf_iff_prefix]
    exact hseam.drop_iff (List.mem_range.mp hi)
  have hback : (fun i => pattern.isPrefixOf ((front ++ back).drop i)) ∘ (front.length + ·)
      = fun i => pattern.isPrefixOf (back.drop i) := by
    funext i
    simp only [Function.comp_apply, List.drop_length_add_append]
  rw [positions_eq_filter_range hne, List.length_append, List.range_add,
    List.filter_append, List.filter_congr hfront, List.filter_map, hback,
    ← positions_eq_filter_range hne, ← positions_eq_filter_range hne]

theorem exists_mem_positions {text : List Char} (h : pattern <:+: text) :
    ∃ i, i ∈ positions pattern text :=
  List.exists_mem_of_ne_nil _ fun hnil => positions_eq_nil_iff.mp hnil h

/-! ## Two patterns -/

section Two

variable {first second text : List Char} {i j : Nat} (hi : i ∈ positions first text)
  (hj : j ∈ positions second text)

include hi hj

/-- Of two occurrences the second starts behind the first, if the first holds no character that the
second could start with. -/
theorem add_length_le_of_mem_positions {c : Char} (hhead : second.head? = some c) (hc : c ∉ first)
    (hle : i ≤ j) : i + first.length ≤ j := by
  apply Nat.le_of_not_lt
  intro hlt
  obtain ⟨tail, rfl⟩ := List.head?_eq_some_iff.mp hhead
  obtain ⟨back, hback⟩ := (mem_positions.mp hj).2
  obtain ⟨before, after, rfl, rfl⟩ := mem_positions_iff_exists_append.mp hi
  have hget : (before ++ (first ++ after))[j]? = some c := by
    rw [← List.head?_drop, ← hback]
    rfl
  rw [List.getElem?_append_right hle, List.getElem?_append_left (by omega)] at hget
  exact hc (List.mem_of_getElem? hget)

/-- A text is split around two occurrences that follow each other. -/
theorem exists_append_of_mem_positions (hle : i + first.length ≤ j) :
    ∃ before between after, text = before ++ first ++ between ++ second ++ after ∧
      before.length = i ∧ (before ++ first ++ between).length = j := by
  obtain ⟨before, rest, hfirst, rfl⟩ := mem_positions_iff_exists_append.mp hi
  obtain ⟨front, after, hsecond, rfl⟩ := mem_positions_iff_exists_append.mp hj
  -- the first pattern ends where the second starts or before, so what stands in front of the second
  -- holds all of the first
  have hinside : before ++ first <+: front := by
    have hprefix : before ++ first <+: text := ⟨rest, by rw [hfirst, List.append_assoc]⟩
    have hfront : front <+: text := ⟨_, hsecond.symm⟩
    apply List.prefix_of_prefix_length_le hprefix hfront
    rwa [List.length_append]
  obtain ⟨between, rfl⟩ := hinside
  exact ⟨before, between, after, by rw [hsecond, ← List.append_assoc], rfl, rfl⟩

end Two

/-! ## The first occurrence -/

theorem firstPosition?_eq_none_iff {text : List Char} :
    firstPosition? pattern text = none ↔ ¬ pattern <:+: text := by
  rw [firstPosition?, List.head?_eq_none_iff, positions_eq_nil_iff]

/-- A search that ends in a field, or else at a place behind it, ends between the start of the field
and that place. -/
theorem exists_of_firstPosition?_eq_or {text field : List Char} {start place : Nat}
    (h : firstPosition? pattern text
      = ((firstPosition? pattern field).map (start + ·)).or (some place))
    (hle : start + field.length ≤ place) :
    ∃ i, firstPosition? pattern text = some i ∧ start ≤ i ∧ i ≤ place := by
  rw [h]
  cases hfield : firstPosition? pattern field with
  | none => exact ⟨place, rfl, by omega, Nat.le_refl place⟩
  | some i =>
    have hi := (mem_positions.mp (firstPosition?_eq_some_iff.mp hfield).1).1
    exact ⟨start + i, rfl, Nat.le_add_right start i, by omega⟩

/-- A mark whose first character is found nowhere else in it cuts a text at the end of `front`
exactly where it does not occur in `front`, whatever the text goes on with. -/
theorem cut?_append_iff {mark : List Char} {c : Char} (hmark : mark.head? = some c)
    (hc : c ∉ mark.tail) :
    cut? mark (front ++ mark ++ back) = some (front, back) ↔ ¬ mark <:+: front := by
  have hne : mark ≠ [] := List.ne_nil_of_mem (List.mem_of_mem_head? hmark)
  have hseam : Seam mark front (mark ++ back) := by
    apply seam_of_head? _ hc
    rw [List.head?_append, hmark, Option.some_or]
  rw [cut?_eq_some_iff, ← positions_eq_nil_iff, positions_eq_filter_range hne,
    List.filter_eq_nil_iff]
  simp only [List.mem_range, List.isPrefixOf_iff_prefix, true_and, List.append_assoc]
  exact forall₂_congr fun i hi => not_congr (hseam.drop_iff hi)

/-- The first occurrence of a mark leaves behind it whatever follows any other occurrence. -/
theorem suffix_of_cut? {mark before after : List Char}
    (h : cut? mark (front ++ mark ++ back) = some (before, after)) : back <:+ after := by
  obtain ⟨heq, hfirst⟩ := cut?_eq_some_iff.mp h
  have hle : before.length ≤ front.length := by
    apply Nat.le_of_not_lt
    intro hlt
    apply hfirst front.length hlt
    rw [List.append_assoc, List.drop_left]
    exact List.prefix_append mark back
  have hlength := congrArg List.length heq
  simp only [List.length_append] at hlength
  have hback : back <:+ front ++ mark ++ back := List.suffix_append _ back
  have hafter : after <:+ front ++ mark ++ back := heq ▸ List.suffix_append _ after
  exact List.suffix_of_suffix_length_le hback hafter (by omega)

end RerankPrompt.Text
