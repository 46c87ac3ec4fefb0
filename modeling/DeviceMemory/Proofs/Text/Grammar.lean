-- SUMMARY: What the readers of text accept: a core between blanks, letters of either case, and numerals with their value.
import DeviceMemory.Text.Blank
import DeviceMemory.Text.Numeral
import Mathlib.Data.List.DropRight
import Mathlib.Data.List.Forall2
import Mathlib.Data.List.TakeDrop
import Mathlib.Data.List.TakeWhile
import Mathlib.Data.Nat.Digits.Defs
import Mathlib.Tactic.Ring

/-!
# Grammars of short texts

Names and numbers are read from text in three steps: blanks at both ends are cut
off, letters are folded to one case, and numerals are evaluated. Each step is
described here without the function that performs it: `Strips` by what stands
around the core of a text, `SameLetters` by the other of the two cases, and
`Numeral` by the sign, the digits and their value by position.

Main statements: the core of a text is what `trimmed` leaves
(`strips_iff`), and `word?` reads exactly the numerals of words
(`word?_eq_some_iff_numeral`).
-/

namespace DeviceMemory.Text

/-! ## Blanks -/

/-- The core of a text: what is left when the blanks at both ends are gone. -/
structure Strips (text core : List Char) : Prop where
  around : ∃ lead trail, text = lead ++ core ++ trail ∧
    (∀ c ∈ lead, isBlank c = true) ∧ ∀ c ∈ trail, isBlank c = true
  first : ∀ c ∈ core.head?, isBlank c = false
  last : ∀ c ∈ core.getLast?, isBlank c = false

theorem trimmed_eq_rdropWhile (text : List Char) :
    trimmed text = (text.dropWhile isBlank).rdropWhile isBlank := rfl

/-- Blanks around a text make no difference to what is left of it. -/
theorem trimmed_append_blanks {lead core trail : List Char} (hlead : ∀ c ∈ lead, isBlank c = true)
    (htrail : ∀ c ∈ trail, isBlank c = true) :
    trimmed (lead ++ core ++ trail) = trimmed core := by
  rw [trimmed_eq_rdropWhile, trimmed_eq_rdropWhile, List.append_assoc,
    List.dropWhile_append_of_pos hlead, List.dropWhile_append]
  split
  next hcore =>
    -- nothing but blanks: the trailing ones go with the leading ones
    rw [List.dropWhile_eq_nil_iff.mpr htrail, List.isEmpty_iff.mp hcore]
  next =>
    rw [List.rdropWhile, List.rdropWhile, List.reverse_append,
      List.dropWhile_append_of_pos fun c hc => htrail c (List.mem_reverse.mp hc)]

theorem trimmed_eq_nil {text : List Char} (h : ∀ c ∈ text, isBlank c = true) :
    trimmed text = [] := by
  rw [trimmed, List.dropWhile_eq_nil_iff.mpr h]
  rfl

theorem strips_trimmed (text : List Char) : Strips text (trimmed text) where
  around := by
    refine ⟨text.takeWhile isBlank, (text.dropWhile isBlank).rtakeWhile isBlank, ?_,
      fun c hc => List.mem_takeWhile_imp hc, fun c hc => List.mem_rtakeWhile_imp hc⟩
    rw [trimmed_eq_rdropWhile, List.append_assoc, List.rdropWhile_append_rtakeWhile,
      List.takeWhile_append_dropWhile]
  first := by
    intro c hc
    -- what is left starts as the text without its leading blanks does
    obtain ⟨cut, hcut⟩ := List.rdropWhile_prefix isBlank (text.dropWhile isBlank)
    have hhead : c ∈ (text.dropWhile isBlank).head? := by
      rw [← hcut, List.head?_append]
      exact Option.or_eq_some_iff.mpr (.inl hc)
    have hnot := List.head?_dropWhile_not isBlank text
    rw [hhead] at hnot
    simpa using hnot
  last := by
    intro c hc
    obtain ⟨hne, rfl⟩ := List.mem_getLast?_eq_getLast hc
    exact Bool.eq_false_iff.mpr (List.rdropWhile_last_not isBlank (text.dropWhile isBlank) hne)

/-- Visible ASCII characters are not blank. -/
theorem isBlank_eq_false {c : Char} (hlow : 33 ≤ c.toNat) (hhigh : c.toNat ≤ 126) :
    isBlank c = false := by
  simp only [isBlank, blankRanges, List.any_cons, List.any_nil, Bool.or_false, Bool.or_eq_false_iff,
    Bool.and_eq_false_iff, decide_eq_false_iff_not]
  omega

/-- A text has one core, and `trimmed` finds it. -/
theorem strips_iff {text core : List Char} : Strips text core ↔ core = trimmed text := by
  constructor
  · rintro ⟨⟨lead, trail, rfl, hlead, htrail⟩, hfirst, hlast⟩
    rw [trimmed_append_blanks hlead htrail, trimmed_eq_self hfirst hlast]
  · rintro rfl
    exact strips_trimmed text

theorem ofList_eq_iff {text : List Char} {word : String} :
    String.ofList text = word ↔ word.toList = text := by
  rw [← String.toList_inj, String.toList_ofList, eq_comm]

/-! ## Letters of either case -/

/-- The same text up to the case of ASCII letters. -/
def SameLetters (text text' : List Char) : Prop :=
  text.map Char.toLower = text'.map Char.toLower

instance (text text' : List Char) : Decidable (SameLetters text text') :=
  inferInstanceAs (Decidable (_ = _))

theorem toNat_toUpper (c : Char) :
    c.toUpper.toNat = if 97 ≤ c.toNat ∧ c.toNat ≤ 122 then c.toNat - 32 else c.toNat := by
  delta Char.toUpper Char.toNat
  simp only [UInt32.le_iff_toNat_le]
  split
  next h =>
    change 97 ≤ c.val.toNat ∧ c.val.toNat ≤ 122 at h
    rw [if_pos h, UInt32.toNat_add]
    change (c.val.toNat + 4294967264) % 4294967296 = _
    omega
  next h =>
    change ¬(97 ≤ c.val.toNat ∧ c.val.toNat ≤ 122) at h
    rw [if_neg h]

theorem toNat_toLower (c : Char) :
    c.toLower.toNat = if 65 ≤ c.toNat ∧ c.toNat ≤ 90 then c.toNat + 32 else c.toNat := by
  delta Char.toLower Char.toNat
  simp only [ge_iff_le, UInt32.le_iff_toNat_le]
  split
  next h =>
    change 65 ≤ c.val.toNat ∧ c.val.toNat ≤ 90 at h
    rw [if_pos h, UInt32.toNat_add]
    change (c.val.toNat + 32) % 4294967296 = _
    omega
  next h =>
    change ¬(65 ≤ c.val.toNat ∧ c.val.toNat ≤ 90) at h
    rw [if_neg h]

theorem toUpper_eq_toUpper_iff {c d : Char} :
    c.toUpper = d.toUpper ↔ c.toLower = d.toLower := by
  rw [← Char.toNat_inj, ← Char.toNat_inj, toNat_toUpper, toNat_toUpper, toNat_toLower,
    toNat_toLower]
  split <;> split <;> split <;> split <;> omega

/-- Folding to upper case tells the same texts apart as folding to lower case. -/
theorem map_toUpper_eq_iff {text text' : List Char} :
    text.map Char.toUpper = text'.map Char.toUpper ↔ SameLetters text text' := by
  rw [SameLetters]
  induction text generalizing text' with
  | nil => simp
  | cons c cs ih =>
    cases text' with
    | nil => simp
    | cons d ds => simp only [List.map_cons, List.cons.injEq, toUpper_eq_toUpper_iff, ih]

/-- Only letters are changed by folding. -/
theorem eq_of_toUpper_eq {c d : Char} (h : c.toUpper = d) (hd : d.toNat < 65) : c = d := by
  have hcode := congrArg Char.toNat h
  rw [toNat_toUpper] at hcode
  refine Char.toNat_inj.mp ?_
  split at hcode <;> omega

theorem toUpper_eq_self {c : Char} (h : c.toNat < 65) : c.toUpper = c := by
  refine Char.toNat_inj.mp ?_
  rw [toNat_toUpper, if_neg (by omega)]

/-- A text without letters has no other spelling. -/
theorem map_toUpper_eq_of_lt {text text' : List Char} (h : ∀ c ∈ text', c.toNat < 65) :
    text.map Char.toUpper = text' ↔ text = text' := by
  induction text generalizing text' with
  | nil => simp
  | cons c cs ih =>
    cases text' with
    | nil => simp
    | cons d ds =>
      obtain ⟨hd, hds⟩ := List.forall_mem_cons.mp h
      rw [List.map_cons, List.cons.injEq, List.cons.injEq, ih hds]
      refine and_congr_left fun _ => ⟨fun hcd => eq_of_toUpper_eq hcd hd, ?_⟩
      rintro rfl
      exact toUpper_eq_self hd

/-! ## Numerals -/

/-- The number that decimal digits denote by position. -/
def valueOf (digits : List Char) : Nat :=
  Nat.ofDigits 10 (digits.map fun c => c.toNat - '0'.toNat).reverse

/-- The text is a numeral of the number: a plus sign or none, and at least one digit. -/
inductive Numeral : List Char → Nat → Prop where
  | unsigned {digits : List Char} (hne : digits ≠ [])
      (hdigits : ∀ c ∈ digits, c.isDigit = true) : Numeral digits (valueOf digits)
  | signed {digits : List Char} (hne : digits ≠ [])
      (hdigits : ∀ c ∈ digits, c.isDigit = true) : Numeral ('+' :: digits) (valueOf digits)

theorem ofDigitChars_eq (digits : List Char) (init : Nat) :
    Nat.ofDigitChars 10 digits init = init * 10 ^ digits.length + valueOf digits := by
  induction digits generalizing init with
  | nil => simp [valueOf]
  | cons c digits ih =>
    rw [Nat.ofDigitChars_cons, ih]
    simp only [valueOf, List.map_cons, List.reverse_cons, Nat.ofDigits_append, List.length_reverse,
      List.length_map, Nat.ofDigits_singleton, List.length_cons, pow_succ]
    ring

theorem toNat_of_isDigit {c : Char} (h : c.isDigit = true) : 48 ≤ c.toNat ∧ c.toNat ≤ 57 := by
  simp only [Char.isDigit, Bool.and_eq_true, decide_eq_true_eq, UInt32.le_iff_toNat_le] at h
  exact h

theorem isBlank_of_isDigit {c : Char} (h : c.isDigit = true) : isBlank c = false := by
  obtain ⟨hlow, hhigh⟩ := toNat_of_isDigit h
  exact isBlank_eq_false (by omega) (by omega)

/-- Written in decimal, a number has no blanks around it. -/
theorem trimmed_repr (n : Nat) : trimmed n.repr.toList = n.repr.toList := by
  have hdigits : ∀ c ∈ n.repr.toList, isBlank c = false := by
    intro c hc
    rw [Nat.toList_repr] at hc
    exact isBlank_of_isDigit (Nat.isDigit_of_mem_toDigits (by decide) (by decide) hc)
  exact trimmed_eq_self (fun c hc => hdigits c (List.mem_of_head? hc))
    (fun c hc => hdigits c (List.mem_of_getLast? hc))

theorem eq_signed_or_unsigned (text : List Char) :
    text = '+' :: unsigned text ∨ unsigned text = text := by
  unfold unsigned
  split
  next => exact .inl rfl
  next => exact .inr rfl

/-- A digit is no sign. -/
theorem unsigned_of_digits {digits : List Char} (hdigits : ∀ c ∈ digits, c.isDigit = true) :
    unsigned digits = digits := by
  unfold unsigned
  split
  next rest => exact absurd (hdigits '+' List.mem_cons_self) (by decide)
  next => rfl

theorem word?_eq_some_iff_numeral {text : List Char} {n : Nat} :
    word? text = some n ↔ Numeral text n ∧ n < Word.limit := by
  rw [word?_eq_some_iff, List.all_eq_true, ofDigitChars_eq, Nat.zero_mul, Nat.zero_add]
  constructor
  · rintro ⟨hne, hdigits, hlt, rfl⟩
    refine ⟨?_, hlt⟩
    rcases eq_signed_or_unsigned text with hsigned | hunsigned
    · rw [hsigned]
      exact .signed hne hdigits
    · rw [hunsigned] at hne hdigits ⊢
      exact .unsigned hne hdigits
  · rintro ⟨hnumeral, hlt⟩
    cases hnumeral with
    | unsigned hne hdigits =>
      rw [unsigned_of_digits hdigits]
      exact ⟨hne, hdigits, hlt, rfl⟩
    | signed hne hdigits => exact ⟨hne, hdigits, hlt, rfl⟩

theorem Numeral.lt_of_mem {text : List Char} {n : Nat} (h : Numeral text n) {c : Char}
    (hc : c ∈ text) : c.toNat < 65 := by
  cases h with
  | unsigned _ hdigits => exact Nat.lt_of_le_of_lt (toNat_of_isDigit (hdigits c hc)).2 (by decide)
  | signed _ hdigits =>
    rcases List.mem_cons.mp hc with rfl | hc
    · decide
    · exact Nat.lt_of_le_of_lt (toNat_of_isDigit (hdigits c hc)).2 (by decide)

/-- Folding letters makes no numeral, and unmakes none. -/
theorem numeral_map_toUpper_iff {text : List Char} {n : Nat} :
    Numeral (text.map Char.toUpper) n ↔ Numeral text n := by
  constructor
  · intro h
    rwa [← (map_toUpper_eq_of_lt fun _ hc => h.lt_of_mem hc).mp rfl] at h
  · intro h
    rwa [(map_toUpper_eq_of_lt fun _ hc => h.lt_of_mem hc).mpr rfl]

end DeviceMemory.Text
