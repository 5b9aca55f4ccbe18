import Mathlib.Algebra.Group.Nat.Defs
import Mathlib.Data.List.Induction
import RerankPrompt.Text.Quoted

/-!
# Reading quoted text back

Whatever a text holds, its quoted form reads back as that text (`decode?_encode`), shows printable
characters only, and has its quote inside only behind an odd number of backslashes. All of it is seen
from what is written for one character, of which there are three kinds (`Writes`): the character
itself, the character behind a backslash, or a code of ASCII letters and digits behind one.
-/

namespace RerankPrompt.Text

/-! ## Numbers -/

namespace Quoted

theorem hexValue?_digitChar : ∀ d < 16, hexValue? (Nat.digitChar d) = some d := by
  decide

/-- Digits are read from the front and written from the back, so the induction reads all digits but the
last and leaves that one to what is read next. -/
theorem readHex?_hexDigits {width n : Nat} (h : n < 16 ^ width) (further m : Nat)
    (rest : List Char) :
    readHex? (width + further) m (hexDigits width n ++ rest)
      = readHex? further (m * 16 ^ width + n) rest := by
  induction width generalizing n further rest with
  | zero =>
    obtain rfl : n = 0 := by omega
    rw [Nat.zero_add, hexDigits, List.nil_append, Nat.pow_zero, Nat.mul_one, Nat.add_zero]
  | succ width ih =>
    have hquotient : n / 16 < 16 ^ width := by
      rw [Nat.div_lt_iff_lt_mul (by decide), ← Nat.pow_succ]
      exact h
    have hdigit := hexValue?_digitChar (n % 16) (Nat.mod_lt n (by decide))
    have hvalue : 16 * (m * 16 ^ width + n / 16) + n % 16 = m * 16 ^ (width + 1) + n := by
      rw [Nat.pow_succ, ← Nat.mul_assoc]
      omega
    rw [Nat.succ_add_eq_add_succ, hexDigits, List.append_assoc, ih hquotient, List.singleton_append,
      readHex?, hdigit]
    exact congrArg (readHex? further · rest) hvalue

theorem readNumeric?_hexDigits {width : Nat} {c : Char} (h : c.toNat < 16 ^ width)
    (rest : List Char) :
    readNumeric? width (hexDigits width c.toNat ++ rest) = some (c, rest) := by
  have hread := readHex?_hexDigits h 0 0 rest
  rw [Nat.add_zero, Nat.zero_mul, Nat.zero_add, readHex?] at hread
  rw [readNumeric?, hread, Option.map_some]
  exact congrArg (fun d => some (d, rest)) (Char.ofNat_toNat c)

theorem isAlphanum_of_mem_hexDigits {width n : Nat} {c : Char} (h : c ∈ hexDigits width n) :
    c.isAlphanum = true := by
  have hdigits : ∀ d < 16, (Nat.digitChar d).isAlphanum = true := by decide
  obtain ⟨d, hd, rfl⟩ := exists_of_mem_hexDigits h
  exact hdigits d hd

/-! ## Single characters -/

/-- What may be written for a character between the given quotes. -/
inductive Writes (quote c : Char) : List Char → Prop where
  | self : isPrintable c = true → c ≠ quote → c ≠ backslash → Writes quote c [c]
  | escaped : c = quote ∨ c = backslash → Writes quote c [backslash, c]
  | coded {code : List Char} : (∀ d ∈ code, d.isAlphanum = true) →
      (∀ rest, readEscape? (code ++ rest) = some (c, rest)) → Writes quote c (backslash :: code)

theorem writes_numeric (quote c : Char) : Writes quote c (numeric c) := by
  have hcode {width : Nat} {letter : Char} (hletter : letter.isAlphanum = true) :
      ∀ d ∈ letter :: hexDigits width c.toNat, d.isAlphanum = true := by
    rw [List.forall_mem_cons]
    exact ⟨hletter, fun d hd => isAlphanum_of_mem_hexDigits hd⟩
  unfold numeric
  split
  · next hlt => exact .coded (hcode (by decide)) fun rest => readNumeric?_hexDigits hlt rest
  · split
    · next hlt => exact .coded (hcode (by decide)) fun rest => readNumeric?_hexDigits hlt rest
    · have hlt : c.toNat < 16 ^ 8 := c.val.toNat_lt
      exact .coded (hcode (by decide)) fun rest => readNumeric?_hexDigits hlt rest

theorem writes_encodeChar (quote c : Char) : Writes quote c (encodeChar quote c) := by
  unfold encodeChar
  split
  · next hc =>
    rw [Bool.or_eq_true, beq_iff_eq, beq_iff_eq] at hc
    exact .escaped hc
  · next hc =>
    rw [Bool.or_eq_true, beq_iff_eq, beq_iff_eq, not_or] at hc
    split
    · next heq => exact .coded (List.forall_mem_singleton.mpr rfl) fun _ => by rw [eq_of_beq heq]; rfl
    · split
      · next heq => exact .coded (List.forall_mem_singleton.mpr rfl) fun _ => by rw [eq_of_beq heq]; rfl
      · split
        · next heq => exact .coded (List.forall_mem_singleton.mpr rfl) fun _ => by rw [eq_of_beq heq]; rfl
        · split
          · next hprintable => exact .self hprintable hc.1 hc.2
          · exact writes_numeric quote c

/-- A quote that may enclose a text. -/
def IsQuote (quote : Char) : Prop :=
  quote = singleQuote ∨ quote = doubleQuote

theorem isQuote_quoteFor (text : List Char) : IsQuote (quoteFor text) := by
  unfold quoteFor
  split
  · exact Or.inr rfl
  · exact Or.inl rfl

section Quote

variable {quote : Char} (hquote : IsQuote quote)

include hquote

theorem IsQuote.ne_backslash : quote ≠ backslash := by
  rcases hquote with rfl | rfl
  · decide
  · decide

theorem IsQuote.not_isAlphanum : quote.isAlphanum = false := by
  rcases hquote with rfl | rfl
  · decide
  · decide

/-! ## Reading -/

theorem readEscape?_of_quote_or_backslash {c : Char} (h : c = quote ∨ c = backslash)
    (rest : List Char) : readEscape? (c :: rest) = some (c, rest) := by
  rcases h with rfl | rfl
  · rcases hquote with rfl | rfl
    · rfl
    · rfl
  · rfl

theorem readBody?_backslash {c : Char} {code rest : List Char}
    (h : readEscape? (code ++ rest) = some (c, rest)) :
    readBody? quote (backslash :: (code ++ rest)) = (readBody? quote rest).map (c :: ·) := by
  rw [readBody?, if_neg, if_pos (beq_self_eq_true backslash)]
  · split
    · next hread =>
      rw [h] at hread
      cases hread
      rfl
    · next hread =>
      rw [h] at hread
      cases hread
  · rw [beq_iff_eq]
    exact hquote.ne_backslash.symm

theorem Writes.readBody?_append {c : Char} {written : List Char} (h : Writes quote c written)
    (rest : List Char) :
    readBody? quote (written ++ rest) = (readBody? quote rest).map (c :: ·) := by
  cases h with
  | self hprintable hne hbackslash =>
    rw [List.singleton_append, readBody?, if_neg (by rwa [beq_iff_eq]),
      if_neg (by rwa [beq_iff_eq])]
  | escaped hc => exact readBody?_backslash hquote (readEscape?_of_quote_or_backslash hquote hc rest)
  | coded hcode hread => exact readBody?_backslash hquote (hread rest)

theorem readBody?_encodeBody (text : List Char) :
    readBody? quote (encodeBody quote text ++ [quote]) = some text := by
  induction text with
  | nil =>
    rw [encodeBody, List.flatMap_nil, List.nil_append, readBody?, if_pos (beq_self_eq_true quote)]
    rfl
  | cons c text ih =>
    rw [encodeBody] at ih ⊢
    rw [List.flatMap_cons, List.append_assoc, (writes_encodeChar quote c).readBody?_append hquote, ih,
      Option.map_some]

end Quote

/-- A quoted form is read back to its end, and as the text that it is of. -/
theorem decode?_encode (text : List Char) : decode? (encode text) = some text := by
  have hquote := isQuote_quoteFor text
  rw [encode, decode?, if_pos]
  · exact readBody?_encodeBody hquote text
  · rw [Bool.or_eq_true, beq_iff_eq, beq_iff_eq]
    exact hquote

theorem encode_injective : Function.Injective encode := by
  intro text other h
  have hdecode := congrArg decode? h
  rw [decode?_encode, decode?_encode] at hdecode
  exact Option.some.inj hdecode

/-! ## What is shown -/

/-- A character that the quoted form of a text may show: a printable one, of ASCII or of the text. -/
def IsShown (text : List Char) (c : Char) : Prop :=
  0x20 ≤ c.toNat ∧ c.toNat < 0x7f ∨ 0x80 ≤ c.toNat ∧ isPrintable c = true ∧ c ∈ text

/-- The characters that end a line. -/
def lineBreaks : List Char :=
  ['\n', '\x0b', '\x0c', '\r', '\x1c', '\x1d', '\x1e', '\u0085', '\u2028', '\u2029']

theorem IsShown.isPrintable {text : List Char} {c : Char} (h : IsShown text c) :
    isPrintable c = true := by
  rcases h with h | ⟨-, h, -⟩
  · have hascii : c.toNat < 0x80 := by omega
    exact (isPrintable_iff_of_ascii hascii).mpr h
  · exact h

theorem IsShown.notMem_lineBreaks {text : List Char} {c : Char} (h : IsShown text c) :
    c ∉ lineBreaks := by
  have hbreaks : ∀ c ∈ lineBreaks, Text.isPrintable c = false := by
    simp only [lineBreaks, List.forall_mem_cons, List.not_mem_nil, false_implies, implies_true]
    decide
  intro hmem
  exact Bool.false_ne_true ((hbreaks c hmem).symm.trans h.isPrintable)

theorem isShown_of_isPrintable {text : List Char} {c : Char} (h : isPrintable c = true)
    (hmem : c ∈ text) : IsShown text c := by
  by_cases hascii : c.toNat < 0x80
  · exact Or.inl ((isPrintable_iff_of_ascii hascii).mp h)
  · exact Or.inr ⟨Nat.le_of_not_lt hascii, h, hmem⟩

theorem isShown_of_isAlphanum {c : Char} (h : c.isAlphanum = true) (text : List Char) :
    IsShown text c := by
  change (decide (65 ≤ c.val ∧ c.val ≤ 90) || 97 ≤ c.val && c.val ≤ 122
    || 48 ≤ c.val && c.val ≤ 57) = true at h
  simp only [Bool.or_eq_true, Bool.and_eq_true, decide_eq_true_eq, UInt32.le_iff_toNat_le] at h
  change ((65 ≤ c.toNat ∧ c.toNat ≤ 90) ∨ (97 ≤ c.toNat ∧ c.toNat ≤ 122)) ∨
    (48 ≤ c.toNat ∧ c.toNat ≤ 57) at h
  exact Or.inl (by omega)

theorem isShown_backslash (text : List Char) : IsShown text backslash :=
  Or.inl (by decide)

theorem IsQuote.isShown {quote : Char} (h : IsQuote quote) (text : List Char) :
    IsShown text quote := by
  rcases h with rfl | rfl
  · exact Or.inl (by decide)
  · exact Or.inl (by decide)

theorem Writes.isShown {quote c d : Char} {written text : List Char} (h : Writes quote c written)
    (hquote : IsQuote quote) (hc : c ∈ text) (hd : d ∈ written) : IsShown text d := by
  cases h with
  | self hprintable hne hbackslash =>
    rw [List.mem_singleton.mp hd]
    exact isShown_of_isPrintable hprintable hc
  | escaped heq =>
    rcases List.mem_cons.mp hd with rfl | hd
    · exact isShown_backslash text
    · rw [List.mem_singleton.mp hd]
      rcases heq with rfl | rfl
      · exact hquote.isShown text
      · exact isShown_backslash text
  | coded hcode hread =>
    rcases List.mem_cons.mp hd with rfl | hd
    · exact isShown_backslash text
    · exact isShown_of_isAlphanum (hcode d hd) text

theorem isShown_of_mem_encode {text : List Char} {d : Char} (h : d ∈ encode text) :
    IsShown text d := by
  have hquote := isQuote_quoteFor text
  rw [encode, List.mem_cons, List.mem_append, List.mem_singleton] at h
  rcases h with rfl | hbody | rfl
  · exact hquote.isShown text
  · obtain ⟨c, hc, hd⟩ := List.mem_flatMap.mp hbody
    exact (writes_encodeChar _ c).isShown hquote hc hd
  · exact hquote.isShown text

/-! ## Quotes inside -/

/-- How many backslashes stand at the end of a text. -/
def endingBackslashes (text : List Char) : Nat :=
  (text.reverse.takeWhile (· == backslash)).length

/-- The quote stands in the text only where an odd number of backslashes stands before it, so that the
last of them is not escaped itself. -/
def OnlyEscaped (quote : Char) (text : List Char) : Prop :=
  ∀ front back, text = front ++ quote :: back → endingBackslashes front % 2 = 1

theorem endingBackslashes_concat (text : List Char) (c : Char) :
    endingBackslashes (text ++ [c]) = if c = backslash then endingBackslashes text + 1 else 0 := by
  rw [endingBackslashes, List.reverse_append, List.reverse_singleton, List.singleton_append,
    List.takeWhile_cons]
  simp only [beq_iff_eq]
  split
  · rfl
  · rfl

/-- An even number of backslashes in front changes no parity. -/
theorem endingBackslashes_append_mod {front : List Char} (h : endingBackslashes front % 2 = 0)
    (back : List Char) :
    endingBackslashes (front ++ back) % 2 = endingBackslashes back % 2 := by
  induction back using List.reverseRecOn with
  | nil => rw [List.append_nil, h]; rfl
  | append_singleton back c ih =>
    rw [← List.append_assoc, endingBackslashes_concat, endingBackslashes_concat]
    split
    · omega
    · rfl

theorem Writes.endingBackslashes_mod {quote c : Char} {written : List Char}
    (h : Writes quote c written) : endingBackslashes written % 2 = 0 := by
  cases h with
  | self hprintable hne hbackslash =>
    rw [← List.nil_append [c], endingBackslashes_concat, if_neg hbackslash]
  | escaped heq =>
    rw [← List.singleton_append, endingBackslashes_concat]
    split
    · rfl
    · rfl
  | @coded code hcode hread =>
    rcases List.eq_nil_or_concat code with rfl | ⟨init, d, rfl⟩
    · cases hread []
    · have hd : d ≠ backslash := by
        rintro rfl
        exact absurd (hcode backslash (by simp)) (by decide)
      rw [List.concat_eq_append, ← List.cons_append, endingBackslashes_concat, if_neg hd]

section Quote

variable {quote : Char} (hquote : IsQuote quote)

include hquote

theorem Writes.onlyEscaped {c : Char} {written : List Char} (h : Writes quote c written) :
    OnlyEscaped quote written := by
  intro front back heq
  cases h with
  | self hprintable hne hbackslash =>
    have hmem : quote ∈ [c] := heq ▸ List.mem_append_cons_self
    exact absurd (List.mem_singleton.mp hmem).symm hne
  | escaped hc =>
    rcases List.cons_eq_append_iff.mp heq with ⟨-, hback⟩ | ⟨init, rfl, hrest⟩
    · exact absurd (List.cons.inj hback).1 hquote.ne_backslash
    · obtain rfl : init = [] := by
        rcases List.singleton_eq_append_iff.mp hrest with ⟨rfl, -⟩ | ⟨-, hnil⟩
        · rfl
        · cases hnil
      rfl
  | coded hcode hread =>
    rcases List.cons_eq_append_iff.mp heq with ⟨-, hback⟩ | ⟨init, rfl, rfl⟩
    · exact absurd (List.cons.inj hback).1 hquote.ne_backslash
    · have halphanum := hcode quote List.mem_append_cons_self
      rw [hquote.not_isAlphanum] at halphanum
      cases halphanum

theorem onlyEscaped_encodeBody (text : List Char) : OnlyEscaped quote (encodeBody quote text) := by
  induction text with
  | nil =>
    intro front back heq
    cases List.nil_eq_append_iff.mp heq |>.2
  | cons c text ih =>
    intro front back heq
    have hwrites := writes_encodeChar quote c
    rw [encodeBody, List.flatMap_cons] at heq
    rcases List.append_eq_append_iff.mp heq with ⟨middle, rfl, hrest⟩ | ⟨middle, hwritten, hrest⟩
    · rw [endingBackslashes_append_mod hwrites.endingBackslashes_mod]
      exact ih middle back hrest
    · cases middle with
      | nil => exact absurd (ih [] back hrest.symm) (by decide)
      | cons d middle =>
        cases (List.cons.inj hrest).1
        exact hwrites.onlyEscaped hquote front middle hwritten

end Quote

end Quoted

end RerankPrompt.Text
