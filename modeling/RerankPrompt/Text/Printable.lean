/-!
# Printable characters

A character is printable unless it is a control, a format or a private-use character, a separator
other than the space, or a code point that is reserved as no character. `nonPrintable` lists these
classes as ranges of code points, apart from the last two points of each plane, which `isPrintable`
tests by their remainder.
-/

namespace RerankPrompt.Text

/-- First and last code points of the ranges that hold no printable character. -/
def nonPrintable : List (Nat × Nat) :=
  [(0x0000, 0x001f), (0x007f, 0x00a0), (0x00ad, 0x00ad), (0x0600, 0x0605), (0x061c, 0x061c),
   (0x06dd, 0x06dd), (0x070f, 0x070f), (0x0890, 0x0891), (0x08e2, 0x08e2), (0x1680, 0x1680),
   (0x180e, 0x180e), (0x2000, 0x200f), (0x2028, 0x202f), (0x205f, 0x2064), (0x2066, 0x206f),
   (0x3000, 0x3000), (0xe000, 0xf8ff), (0xfdd0, 0xfdef), (0xfeff, 0xfeff), (0xfff9, 0xfffb),
   (0x110bd, 0x110bd), (0x110cd, 0x110cd), (0x13430, 0x13438), (0x1bca0, 0x1bca3),
   (0x1d173, 0x1d17a), (0xe0001, 0xe0001), (0xe0020, 0xe007f), (0xf0000, 0x10ffff)]

/-- Whether a character is shown as itself in quoted text. -/
def isPrintable (c : Char) : Bool :=
  c.toNat % 0x10000 < 0xfffe &&
    nonPrintable.all fun (first, last) => c.toNat < first || last < c.toNat

/-- Of the ASCII characters those from the space to the tilde are printable. -/
theorem isPrintable_iff_of_ascii {c : Char} (h : c.toNat < 0x80) :
    isPrintable c = true ↔ 0x20 ≤ c.toNat ∧ c.toNat < 0x7f := by
  simp only [isPrintable, nonPrintable, List.all_cons, List.all_nil, Bool.and_eq_true,
    Bool.or_eq_true, decide_eq_true_eq, and_true]
  constructor
  · rintro ⟨-, h0, h1, -⟩
    omega
  · intro h'
    and_intros <;> omega

end RerankPrompt.Text
