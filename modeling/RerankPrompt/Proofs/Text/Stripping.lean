import RerankPrompt.Text.EscapeSequence

/-!
# Stripping joined texts

The scan for escape sequences looks ahead, so a text may end with the beginning of a sequence that goes
on in what follows. It cannot where what follows starts with a character that `Stops` every
beginning: such a text is stripped by itself (`strip_append_of_stops`). And a text without an escape
character is passed over as it is (`strip_append_of_notMem`). Stripping only drops characters, and
drops none exactly where no sequence occurs (`strip_eq_self_iff`).
-/

namespace RerankPrompt.Text.EscapeSequence

/-- A sequence stands somewhere in the text. -/
def HasSequence (text : List Char) : Prop :=
  ∃ sequence, IsSequence sequence ∧ sequence <:+: text

/-- No beginning of a sequence goes on with this character. -/
structure Stops (c : Char) : Prop where
  bracket : c ≠ '['
  parameter : isParameter c = false
  letter : c.isAlpha = false

/-! ## Scanning up to a seam -/

section Stops

variable {c : Char} (h : Stops c)

include h

theorem afterLetter?_append (front back : List Char) :
    afterLetter? (front ++ c :: back) = (afterLetter? front).map (· ++ c :: back) := by
  induction front with
  | nil => simp [afterLetter?, h.parameter, h.letter]
  | cons d front ih =>
    simp only [List.cons_append, afterLetter?]
    split
    · exact ih
    · split
      · rfl
      · rfl

/-- A sequence that starts before `c` has ended there. -/
theorem after?_append {front : List Char} (hne : front ≠ []) (back : List Char) :
    after? (front ++ c :: back) = (after? front).map (· ++ c :: back) := by
  match front, hne with
  | [d], _ =>
    have hbracket : (c == '[') = false := beq_eq_false_iff_ne.mpr h.bracket
    simp [after?, hbracket]
  | d :: e :: front, _ =>
    simp only [List.cons_append, after?]
    split
    · exact afterLetter?_append h front back
    · rfl

theorem strip_append_of_stops (front back : List Char) :
    strip (front ++ c :: back) = strip front ++ strip (c :: back) := by
  fun_induction strip front with
  | case1 => rfl
  | case2 d front rest hafter ih =>
    have happend := after?_append h (List.cons_ne_nil d front) back
    rw [hafter, Option.map_some] at happend
    rw [strip_of_after? happend, ih]
  | case3 d front hafter ih =>
    have happend := after?_append h (List.cons_ne_nil d front) back
    rw [hafter, Option.map_none, List.cons_append] at happend
    rw [List.cons_append, strip_cons happend, ih, List.cons_append]

end Stops

theorem strip_append_of_notMem {front : List Char} (h : escape ∉ front) (back : List Char) :
    strip (front ++ back) = front ++ strip back := by
  induction front with
  | nil => rfl
  | cons c front ih =>
    rw [List.mem_cons, not_or] at h
    rw [List.cons_append, strip_cons_of_ne (Ne.symm h.1), ih h.2, List.cons_append]

theorem strip_of_notMem {text : List Char} (h : escape ∉ text) : strip text = text := by
  have happend := strip_append_of_notMem h []
  rwa [strip_nil, List.append_nil] at happend

/-! ## What is dropped -/

theorem strip_sublist (text : List Char) : (strip text).Sublist text := by
  fun_induction strip text with
  | case1 => exact List.Sublist.refl []
  | case2 c text rest hafter ih =>
    obtain ⟨sequence, -, heq⟩ := after?_eq_some_iff.mp hafter
    rw [heq]
    exact ih.trans (List.sublist_append_right sequence rest)
  | case3 c text hafter ih => exact ih.cons_cons c

theorem after?_eq_none_iff {text : List Char} :
    after? text = none ↔ ∀ sequence, IsSequence sequence → ¬ sequence <+: text := by
  rw [Option.eq_none_iff_forall_ne_some]
  constructor
  · intro h sequence hsequence hstart
    obtain ⟨rest, rfl⟩ := hstart
    exact h rest (after?_eq_some_iff.mpr ⟨sequence, hsequence, rfl⟩)
  · intro h rest hafter
    obtain ⟨sequence, hsequence, rfl⟩ := after?_eq_some_iff.mp hafter
    exact h sequence hsequence (List.prefix_append sequence rest)

theorem not_hasSequence_cons_iff {c : Char} {text : List Char} :
    ¬ HasSequence (c :: text) ↔ after? (c :: text) = none ∧ ¬ HasSequence text := by
  rw [after?_eq_none_iff]
  constructor
  · intro h
    refine ⟨fun sequence hsequence hstart => ?_, fun ⟨sequence, hsequence, hoccurs⟩ => ?_⟩
    · exact h ⟨sequence, hsequence, hstart.isInfix⟩
    · exact h ⟨sequence, hsequence, List.infix_cons hoccurs⟩
  · rintro ⟨hhead, htail⟩ ⟨sequence, hsequence, hoccurs⟩
    rcases List.infix_cons_iff.mp hoccurs with hstart | hoccurs
    · exact hhead sequence hsequence hstart
    · exact htail ⟨sequence, hsequence, hoccurs⟩

theorem not_hasSequence_nil : ¬ HasSequence [] := by
  rintro ⟨_, ⟨parameters, letter, rfl, -, -⟩, hoccurs⟩
  exact absurd (List.infix_nil.mp hoccurs) (List.cons_ne_nil _ _)

/-- A text is left as it is exactly where no sequence occurs in it. -/
theorem strip_eq_self_iff {text : List Char} : strip text = text ↔ ¬ HasSequence text := by
  induction text with
  | nil => simp [not_hasSequence_nil]
  | cons c text ih =>
    rw [not_hasSequence_cons_iff, ← ih]
    cases hafter : after? (c :: text) with
    | none => simp [strip_cons hafter]
    | some rest =>
      have hlt := length_lt_of_after? hafter
      have hle := (strip_sublist rest).length_le
      rw [strip_of_after? hafter]
      constructor
      · intro heq
        rw [heq] at hle
        omega
      · intro hnone
        cases hnone.1

end RerankPrompt.Text.EscapeSequence
