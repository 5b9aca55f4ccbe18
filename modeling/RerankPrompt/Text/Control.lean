import RerankPrompt.Text.Numeric

/-!
# Control characters

A message that repeats what a user typed must not carry control characters to the terminal.
`showControls` writes each of them by its number and leaves every other character as it is,
backslashes included. No control character is left (`isControl_eq_false_of_mem_showControls`), and a
text without any stays the same (`showControls_eq_self`).
-/

namespace RerankPrompt.Text

/-- Whether a character is a control: one of the first 32, or one of the 33 from delete on. -/
def isControl (c : Char) : Bool :=
  decide (c.toNat < 0x20) || decide (0x7f ≤ c.toNat) && decide (c.toNat < 0xa0)

/-- The text with its control characters written by number. -/
def showControls (text : List Char) : List Char :=
  text.flatMap fun c => if isControl c then numeric c else [c]

/-- The string with its control characters written by number. -/
def visible (text : String) : String :=
  String.ofList (showControls text.toList)

theorem numeric_of_isControl {c : Char} (h : isControl c = true) :
    numeric c = backslash :: 'x' :: hexDigits 2 c.toNat := by
  simp only [isControl, Bool.or_eq_true, Bool.and_eq_true, decide_eq_true_eq] at h
  exact if_pos (by omega)

theorem isControl_digitChar : ∀ d < 16, isControl (Nat.digitChar d) = false := by
  decide

theorem isControl_eq_false_of_mem_showControls {text : List Char} {c : Char}
    (h : c ∈ showControls text) : isControl c = false := by
  obtain ⟨d, -, hc⟩ := List.mem_flatMap.mp h
  split at hc
  · next hd =>
    rw [numeric_of_isControl hd] at hc
    rcases List.mem_cons.mp hc with rfl | hc
    · decide
    · rcases List.mem_cons.mp hc with rfl | hc
      · decide
      · obtain ⟨digit, hdigit, rfl⟩ := exists_of_mem_hexDigits hc
        exact isControl_digitChar digit hdigit
  · next hd =>
    rw [List.mem_singleton.mp hc]
    simpa using hd

theorem showControls_eq_self {text : List Char} (h : ∀ c ∈ text, isControl c = false) :
    showControls text = text := by
  induction text with
  | nil => rfl
  | cons c text ih =>
    have hc := h c (by simp)
    have htext := ih fun d hd => h d (by simp [hd])
    rw [showControls] at htext ⊢
    rw [List.flatMap_cons, htext, hc]
    rfl

end RerankPrompt.Text
