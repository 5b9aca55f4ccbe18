/-!
# Searching text

Where a pattern occurs in a text, over lists of characters. `occurs` decides whether it does,
`positions` lists all places, overlapping ones included, `firstPosition?` is the first of them, and
`cut?` splits there. `firstPosition?_eq_some_iff` and `cut?_eq_some_iff` say that what they find is the
first occurrence, the latter also that nothing of the text is lost.
-/

namespace RerankPrompt.Text

/-- Whether `pattern` occurs somewhere in the text. -/
def occurs (pattern : List Char) : List Char → Bool
  | [] => pattern.isPrefixOf []
  | c :: rest => pattern.isPrefixOf (c :: rest) || occurs pattern rest

/-- The offsets at which `pattern` occurs, in ascending order. -/
def positions (pattern text : List Char) : List Nat :=
  (List.range (text.length + 1)).filter fun i => pattern.isPrefixOf (text.drop i)

/-- The offset of the first occurrence of `pattern`. -/
def firstPosition? (pattern text : List Char) : Option Nat :=
  (positions pattern text).head?

/-- The text before and after the first occurrence of `mark`. -/
def cut? (mark : List Char) : List Char → Option (List Char × List Char)
  | [] => if mark.isPrefixOf [] then some ([], []) else none
  | c :: rest =>
    if mark.isPrefixOf (c :: rest) then some ([], (c :: rest).drop mark.length)
    else (cut? mark rest).map fun (before, after) => (c :: before, after)

/-- What stands between `front` and `back`, which may not overlap. -/
def between? (front back text : List Char) : Option (List Char) :=
  if front.isPrefixOf text then
    let rest := text.drop front.length
    if back.isSuffixOf rest then some (rest.take (rest.length - back.length)) else none
  else none

theorem occurs_iff {pattern text : List Char} : occurs pattern text = true ↔ pattern <:+: text := by
  induction text with
  | nil => simp [occurs]
  | cons c rest ih => simp [occurs, ih, List.infix_cons_iff]

theorem mem_positions {pattern text : List Char} {i : Nat} :
    i ∈ positions pattern text ↔ i ≤ text.length ∧ pattern <+: text.drop i := by
  rw [positions, List.mem_filter, List.mem_range, Nat.lt_succ_iff, List.isPrefixOf_iff_prefix]

/-- The first position is one, and none is before it. -/
theorem firstPosition?_eq_some_iff {pattern text : List Char} {i : Nat} :
    firstPosition? pattern text = some i ↔
      i ∈ positions pattern text ∧ ∀ j < i, ¬ pattern <+: text.drop j := by
  rw [firstPosition?, positions, List.head?_filter, List.find?_range_eq_some, ← positions,
    mem_positions, List.mem_range, Nat.lt_succ_iff]
  simp only [Bool.not_eq_true', ← Bool.not_eq_true, List.isPrefixOf_iff_prefix]
  rw [and_assoc, and_left_comm]

theorem between?_eq_some_iff {front back text body : List Char} :
    between? front back text = some body ↔ text = front ++ body ++ back := by
  simp only [between?]
  constructor
  · intro h
    split at h
    · next hf =>
      obtain ⟨rest, rfl⟩ := List.isPrefixOf_iff_prefix.mp hf
      rw [List.drop_left] at h
      split at h
      · next hb =>
        obtain ⟨mid, rfl⟩ := List.isSuffixOf_iff_suffix.mp hb
        simp only [List.length_append, Nat.add_sub_cancel, List.take_left, Option.some.injEq] at h
        subst h
        simp
      · simp at h
    · simp at h
  · rintro rfl
    have hb : back.isSuffixOf (body ++ back) = true :=
      List.isSuffixOf_iff_suffix.mpr ⟨body, rfl⟩
    simp [hb]

/-- The cut is at an occurrence of the mark, and no occurrence starts before it. -/
theorem cut?_eq_some_iff {mark text before after : List Char} :
    cut? mark text = some (before, after) ↔
      text = before ++ mark ++ after ∧ ∀ i < before.length, ¬ mark <+: text.drop i := by
  induction text generalizing before with
  | nil =>
    simp only [cut?]
    cases mark with
    | nil =>
      simp only [List.isPrefixOf, ite_true, Option.some.injEq, Prod.mk.injEq]
      constructor
      · rintro ⟨rfl, rfl⟩; simp
      · rintro ⟨h, -⟩
        simp only [List.append_nil, List.nil_eq, List.append_eq_nil_iff] at h
        exact ⟨h.1.symm, h.2.symm⟩
    | cons m mark => simp [List.isPrefixOf]
  | cons c rest ih =>
    simp only [cut?]
    split
    · next hm =>
      obtain ⟨tail, ht⟩ := List.isPrefixOf_iff_prefix.mp hm
      rw [← ht, List.drop_left]
      simp only [Option.some.injEq, Prod.mk.injEq]
      constructor
      · rintro ⟨rfl, rfl⟩; simp
      · rintro ⟨h, hfirst⟩
        cases before with
        | nil =>
          simp only [List.nil_append, List.append_cancel_left_eq] at h
          exact ⟨rfl, h⟩
        | cons b before => exact absurd ⟨tail, by simp⟩ (hfirst 0 (by simp))
    · next hm =>
      have hm' : ¬ mark <+: c :: rest := fun h => hm (List.isPrefixOf_iff_prefix.mpr h)
      rw [Option.map_eq_some_iff]
      constructor
      · rintro ⟨⟨b, a⟩, hcut, heq⟩
        simp only [Prod.mk.injEq] at heq
        obtain ⟨rfl, rfl⟩ := heq
        obtain ⟨rfl, hfirst⟩ := ih.mp hcut
        refine ⟨by simp, fun i hi => ?_⟩
        cases i with
        | zero => simpa using hm'
        | succ i => simpa using hfirst i (by simpa using hi)
      · rintro ⟨h, hfirst⟩
        cases before with
        | nil => exact absurd ⟨after, by simpa using h.symm⟩ hm'
        | cons b before =>
          simp only [List.cons_append, List.cons.injEq] at h
          obtain ⟨rfl, rfl⟩ := h
          refine ⟨(before, after), ih.mpr ⟨rfl, fun i hi => ?_⟩, rfl⟩
          simpa using hfirst (i + 1) (by simpa using hi)

/-- There is a cut unless the mark does not occur at all. -/
theorem cut?_eq_none_iff {mark text : List Char} : cut? mark text = none ↔ ¬ mark <:+: text := by
  induction text with
  | nil => simp [cut?]
  | cons c rest ih =>
    rw [List.infix_cons_iff, not_or, ← ih, cut?]
    split
    · next hm => simp [List.isPrefixOf_iff_prefix.mp hm]
    · next hm =>
      rw [Option.map_eq_none_iff]
      exact ⟨fun h => ⟨fun hp => hm (List.isPrefixOf_iff_prefix.mpr hp), h⟩, And.right⟩

end RerankPrompt.Text
