import RerankPrompt.Text.Numeric
import RerankPrompt.Text.Printable

/-!
# Quoted text

Text between quotes, in which every character that is not printable is written as an escape. The
enclosing quote is a single one, unless the text holds single quotes and no double ones, so that
few quotes have to be escaped. `decode?` reads a whole quoted text back and refuses anything that
has no end or goes on after it.
-/

namespace RerankPrompt.Text.Quoted

def singleQuote : Char := '\x27'

def doubleQuote : Char := '\x22'

/-- The quote that encloses a text. -/
def quoteFor (text : List Char) : Char :=
  if text.contains singleQuote && !text.contains doubleQuote then doubleQuote else singleQuote

/-- What is written for one character between the given quotes. -/
def encodeChar (quote c : Char) : List Char :=
  if c == quote || c == backslash then [backslash, c]
  else if c == '\n' then [backslash, 'n']
  else if c == '\r' then [backslash, 'r']
  else if c == '\t' then [backslash, 't']
  else if isPrintable c then [c]
  else numeric c

/-- The characters of a text as they stand between the given quotes. -/
def encodeBody (quote : Char) (text : List Char) : List Char :=
  text.flatMap (encodeChar quote)

/-- The quoted form of a text. -/
def encode (text : List Char) : List Char :=
  quoteFor text :: (encodeBody (quoteFor text) text ++ [quoteFor text])

/-- The quoted form of a string. -/
def quote (text : String) : String :=
  String.ofList (encode text.toList)

/-! ## Reading back -/

/-- The value of a hexadecimal digit in lower case. -/
def hexValue? (c : Char) : Option Nat :=
  if c.isDigit then some (c.toNat - 0x30)
  else if 'a' ≤ c && c ≤ 'f' then some (c.toNat - 0x57)
  else none

/-- The number that the first `width` characters write after what was read before them, and the
rest of the text. -/
def readHex? : Nat → Nat → List Char → Option (Nat × List Char)
  | 0, n, text => some (n, text)
  | _ + 1, _, [] => none
  | width + 1, n, c :: text =>
    match hexValue? c with
    | some d => readHex? width (16 * n + d) text
    | none => none

/-- The character with the number written in the first `width` characters. -/
def readNumeric? (width : Nat) (text : List Char) : Option (Char × List Char) :=
  (readHex? width 0 text).map fun (n, rest) => (Char.ofNat n, rest)

/-- The character that an escape stands for, from what follows the backslash. -/
def readEscape? : List Char → Option (Char × List Char)
  | [] => none
  | c :: text =>
    if c == singleQuote || c == doubleQuote || c == backslash then some (c, text)
    else if c == 'n' then some ('\n', text)
    else if c == 'r' then some ('\r', text)
    else if c == 't' then some ('\t', text)
    else if c == 'x' then readNumeric? 2 text
    else if c == 'u' then readNumeric? 4 text
    else if c == 'U' then readNumeric? 8 text
    else none

theorem length_le_of_readHex? {width n m : Nat} {text rest : List Char}
    (h : readHex? width n text = some (m, rest)) : rest.length ≤ text.length := by
  induction width generalizing n text with
  | zero => simp only [readHex?, Option.some.injEq, Prod.mk.injEq] at h; simp [h.2]
  | succ width ih =>
    cases text with
    | nil => simp [readHex?] at h
    | cons c text =>
      simp only [readHex?] at h
      split at h
      · exact Nat.le_succ_of_le (ih h)
      · cases h

theorem length_lt_of_readEscape? {text rest : List Char} {c : Char}
    (h : readEscape? text = some (c, rest)) : rest.length < text.length := by
  have numeric {width : Nat} {text : List Char} (h : readNumeric? width text = some (c, rest)) :
      rest.length < text.length + 1 := by
    obtain ⟨⟨n, tail⟩, hread, heq⟩ := Option.map_eq_some_iff.mp h
    simp only [Prod.mk.injEq] at heq
    exact heq.2 ▸ Nat.lt_succ_of_le (length_le_of_readHex? hread)
  cases text with
  | nil => simp [readEscape?] at h
  | cons d text =>
    simp only [readEscape?] at h
    repeat' split at h
    all_goals first
      | exact numeric h
      | simp only [Option.some.injEq, Prod.mk.injEq] at h; simp [h.2]
      | cases h

/-- The text up to the closing quote, which must end it. -/
def readBody? (quote : Char) : List Char → Option (List Char)
  | [] => none
  | c :: text =>
    if c == quote then (if text.isEmpty then some [] else none)
    else if c == backslash then
      match _ : readEscape? text with
      | some (d, rest) => (readBody? quote rest).map (d :: ·)
      | none => none
    else (readBody? quote text).map (c :: ·)
termination_by text => text.length
decreasing_by
  · exact Nat.lt_succ_of_lt (length_lt_of_readEscape? ‹_›)
  · simp

/-- The text whose quoted form this is. -/
def decode? : List Char → Option (List Char)
  | [] => none
  | quote :: body =>
    if quote == singleQuote || quote == doubleQuote then readBody? quote body else none

end RerankPrompt.Text.Quoted
