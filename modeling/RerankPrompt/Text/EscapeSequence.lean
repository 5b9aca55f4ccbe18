/-!
# Terminal escape sequences

An escape sequence is an escape character and an opening bracket, then any number of parameter
characters (ASCII digits, `;` and `?`), then one ASCII letter. `strip` removes the sequences of a
text from left to right. Parameters and closing letters are different characters, so at most one
sequence starts at a place and none of its proper beginnings is a sequence: `after?_eq_some_iff`
says that the scan finds exactly this one.
-/

namespace RerankPrompt.Text.EscapeSequence

/-- The character that starts every sequence. -/
def escape : Char := '\x1b'

/-- Whether a character may stand between the bracket and the closing letter. -/
def isParameter (c : Char) : Bool :=
  c == ';' || c == '?' || c.isDigit

/-- The texts that are one escape sequence. -/
def IsSequence (text : List Char) : Prop :=
  ∃ parameters letter, text = escape :: '[' :: (parameters ++ [letter]) ∧
    (∀ c ∈ parameters, isParameter c = true) ∧ letter.isAlpha = true

/-- The text after the parameters at its start and the letter that closes them. -/
def afterLetter? : List Char → Option (List Char)
  | [] => none
  | c :: rest =>
    if isParameter c then afterLetter? rest else if c.isAlpha then some rest else none

/-- The text after the escape sequence at its start. -/
def after? : List Char → Option (List Char)
  | c :: d :: rest => if c == escape && d == '[' then afterLetter? rest else none
  | _ => none

theorem not_isAlpha_of_isParameter {c : Char} (h : isParameter c = true) : c.isAlpha = false := by
  have bounds : c.toNat = 0x3b ∨ c.toNat = 0x3f ∨ 0x30 ≤ c.toNat ∧ c.toNat ≤ 0x39 := by
    simp only [isParameter, Bool.or_eq_true, beq_iff_eq] at h
    rcases h with (rfl | rfl) | h
    · exact Or.inl rfl
    · exact Or.inr (Or.inl rfl)
    · change (decide (0x30 ≤ c.toNat) && decide (c.toNat ≤ 0x39)) = true at h
      simp only [Bool.and_eq_true, decide_eq_true_eq] at h
      exact Or.inr (Or.inr h)
  have upper : c.isUpper = false :=
    decide_eq_false (by change ¬ (0x41 ≤ c.toNat ∧ c.toNat ≤ 0x5a); omega)
  have lower : c.isLower = false := by
    change (decide (0x61 ≤ c.toNat) && decide (c.toNat ≤ 0x7a)) = false
    simp only [Bool.and_eq_false_iff, decide_eq_false_iff_not]
    omega
  change (c.isUpper || c.isLower) = false
  rw [upper, lower, Bool.or_false]

theorem afterLetter?_eq_some_iff {text rest : List Char} :
    afterLetter? text = some rest ↔
      ∃ parameters letter, text = parameters ++ letter :: rest ∧
        (∀ c ∈ parameters, isParameter c = true) ∧ letter.isAlpha = true := by
  induction text with
  | nil => simp [afterLetter?]
  | cons c text ih =>
    simp only [afterLetter?]
    split
    · next hc =>
      rw [ih]
      constructor
      · rintro ⟨parameters, letter, rfl, hp, hl⟩
        exact ⟨c :: parameters, letter, rfl, by simpa [hc] using hp, hl⟩
      · rintro ⟨parameters, letter, h, hp, hl⟩
        cases parameters with
        | nil =>
          simp only [List.nil_append, List.cons.injEq] at h
          rw [← h.1, not_isAlpha_of_isParameter hc] at hl
          exact absurd hl (by simp)
        | cons p parameters =>
          simp only [List.cons_append, List.cons.injEq] at h
          exact ⟨parameters, letter, h.2, fun d hd => hp d (by simp [hd]), hl⟩
    · next hc =>
      constructor
      · intro h
        split at h
        · next ha =>
          simp only [Option.some.injEq] at h
          exact ⟨[], c, by simp [h], by simp, ha⟩
        · simp at h
      · rintro ⟨parameters, letter, h, hp, hl⟩
        cases parameters with
        | nil =>
          simp only [List.nil_append, List.cons.injEq] at h
          simp [h.1, h.2, hl]
        | cons p parameters =>
          simp only [List.cons_append, List.cons.injEq] at h
          exact absurd (hp p (by simp)) (h.1 ▸ hc)

/-- What the scan removes is one escape sequence, and it removes the only one there is. -/
theorem after?_eq_some_iff {text rest : List Char} :
    after? text = some rest ↔ ∃ sequence, IsSequence sequence ∧ text = sequence ++ rest := by
  constructor
  · intro h
    match text, h with
    | c :: d :: tail, h =>
      simp only [after?] at h
      split at h
      · next hcd =>
        simp only [Bool.and_eq_true, beq_iff_eq] at hcd
        obtain ⟨rfl, rfl⟩ := hcd
        obtain ⟨parameters, letter, rfl, hp, hl⟩ := afterLetter?_eq_some_iff.mp h
        exact ⟨_, ⟨parameters, letter, rfl, hp, hl⟩, by simp⟩
      · simp at h
  · rintro ⟨_, ⟨parameters, letter, rfl, hp, hl⟩, rfl⟩
    simp only [List.cons_append, List.append_assoc, List.nil_append, after?, beq_self_eq_true,
      Bool.and_self, ite_true]
    exact afterLetter?_eq_some_iff.mpr ⟨parameters, letter, rfl, hp, hl⟩

theorem length_lt_of_after? {text rest : List Char} (h : after? text = some rest) :
    rest.length < text.length := by
  obtain ⟨_, ⟨parameters, letter, rfl, -, -⟩, rfl⟩ := after?_eq_some_iff.mp h
  simp only [List.length_append, List.length_cons]
  omega

/-- The text without its escape sequences. -/
def strip : List Char → List Char
  | [] => []
  | c :: text =>
    match _ : after? (c :: text) with
    | some rest => strip rest
    | none => c :: strip text
termination_by text => text.length
decreasing_by
  · exact length_lt_of_after? ‹_›
  · simp

@[simp]
theorem strip_nil : strip [] = [] := by
  rw [strip]

theorem strip_of_after? {text rest : List Char} (h : after? text = some rest) :
    strip text = strip rest := by
  cases text with
  | nil => simp [after?] at h
  | cons c text =>
    rw [strip]
    split
    · next rest' h' => rw [h] at h'; cases h'; rfl
    · next h' => rw [h] at h'; cases h'

theorem strip_cons {c : Char} {text : List Char} (h : after? (c :: text) = none) :
    strip (c :: text) = c :: strip text := by
  rw [strip]
  split
  · next h' => rw [h] at h'; cases h'
  · rfl

theorem strip_cons_of_ne {c : Char} {text : List Char} (h : c ≠ escape) :
    strip (c :: text) = c :: strip text := by
  apply strip_cons
  cases text with
  | nil => rfl
  | cons d text => simp [after?, h]

end RerankPrompt.Text.EscapeSequence
