-- SUMMARY: Decimal numerals of one machine word.
import DeviceMemory.Word

/-!
# Numerals

A numeral is an optional plus sign and at least one decimal digit, leading zeros
included. It denotes a word if its value fits in one.
-/

namespace DeviceMemory.Text

/-- The digits of a numeral, without its sign. -/
def unsigned : List Char → List Char
  | '+' :: digits => digits
  | digits => digits

/-- The word that a numeral denotes. -/
def word? (text : List Char) : Option Nat :=
  let digits := unsigned text
  let value := Nat.ofDigitChars 10 digits 0
  if digits ≠ [] ∧ digits.all Char.isDigit = true ∧ value < Word.limit then some value else none

theorem word?_eq_some_iff {text : List Char} {n : Nat} :
    word? text = some n ↔ unsigned text ≠ [] ∧ (unsigned text).all Char.isDigit = true ∧
      n < Word.limit ∧ Nat.ofDigitChars 10 (unsigned text) 0 = n := by
  simp only [word?]
  split
  next h =>
    simp only [Option.some.injEq]
    constructor
    · rintro rfl
      exact ⟨h.1, h.2.1, h.2.2, rfl⟩
    · exact fun h => h.2.2.2
  next h =>
    simp only [reduceCtorEq, false_iff]
    rintro ⟨hne, hall, hlt, rfl⟩
    exact h ⟨hne, hall, hlt⟩

/-- Writing a word in decimal and reading it back gives the same word. -/
theorem word?_repr {n : Nat} (h : n < Word.limit) : word? n.repr.toList = some n := by
  have hdigits : n.repr.toList = Nat.toDigits 10 n := Nat.toList_repr
  have hall : ∀ c ∈ Nat.toDigits 10 n, c.isDigit = true := fun _ hc =>
    Nat.isDigit_of_mem_toDigits (by decide) (by decide) hc
  have hunsigned : unsigned (Nat.toDigits 10 n) = Nat.toDigits 10 n := by
    unfold unsigned
    split
    next digits heq =>
      have := hall '+' (by simp [heq])
      exact absurd this (by decide)
    next => rfl
  rw [word?_eq_some_iff, hdigits, hunsigned]
  refine ⟨Nat.toDigits_ne_nil, List.all_eq_true.mpr hall, h, ?_⟩
  exact Nat.ofDigitChars_toDigits (by decide) (by decide)

end DeviceMemory.Text
