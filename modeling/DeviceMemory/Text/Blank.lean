-- SUMMARY: Blank characters, and text without the blanks around it.

/-!
# Blanks

A character is blank if it has the Unicode property `White_Space`. The property
covers 25 characters in ten ranges, listed here in order. `trimmed` removes the
blanks at both ends and keeps those inside.
-/

namespace DeviceMemory.Text

/-- The ranges of blank characters, first and last code point of each. -/
def blankRanges : List (Nat × Nat) :=
  [(0x0009, 0x000d), (0x0020, 0x0020), (0x0085, 0x0085), (0x00a0, 0x00a0), (0x1680, 0x1680),
    (0x2000, 0x200a), (0x2028, 0x2029), (0x202f, 0x202f), (0x205f, 0x205f), (0x3000, 0x3000)]

/-- Whether the character is blank. -/
def isBlank (c : Char) : Bool :=
  blankRanges.any fun (first, last) => first ≤ c.toNat && c.toNat ≤ last

/-- Text without the blanks at its ends. -/
def trimmed (text : List Char) : List Char :=
  ((text.dropWhile isBlank).reverse.dropWhile isBlank).reverse

/-- Text that neither starts nor ends with a blank is trimmed already. -/
theorem trimmed_eq_self {text : List Char} (hfirst : ∀ c ∈ text.head?, isBlank c = false)
    (hlast : ∀ c ∈ text.getLast?, isBlank c = false) : trimmed text = text := by
  have hstart : text.dropWhile isBlank = text := by
    cases text with
    | nil => rfl
    | cons c cs => simp [hfirst c (by simp)]
  have hend : text.reverse.dropWhile isBlank = text.reverse := by
    cases hrev : text.reverse with
    | nil => rfl
    | cons c cs =>
      have hc : isBlank c = false := by
        apply hlast
        rw [List.getLast?_eq_head?_reverse, hrev]
        rfl
      simp [hc]
  rw [trimmed, hstart, hend, List.reverse_reverse]

end DeviceMemory.Text
