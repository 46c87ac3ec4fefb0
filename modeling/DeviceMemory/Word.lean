-- SUMMARY: Sizes and counters held in one 64-bit machine word, with checked and wrapping arithmetic.

/-!
# Machine words

Sizes, offsets and counters are natural numbers here, and the machine keeps
each of them in one word of 64 bits. The checked operations answer `none` where
the exact result needs more than a word; the wrapping ones reduce it modulo
`Word.limit`. Each comes with the law that says when it answers and what.
-/

namespace DeviceMemory.Word

/-- The first natural number that does not fit in a word. -/
def limit : Nat := Nat.pow 2 64

/-- The largest number a word holds. -/
def greatest : Nat := limit - 1

/-! ## Checked arithmetic -/

/-- The sum, if it fits in a word. -/
def add? (a b : Nat) : Option Nat :=
  if a + b < limit then some (a + b) else none

/-- The product, if it fits in a word. -/
def mul? (a b : Nat) : Option Nat :=
  if a * b < limit then some (a * b) else none

/-- The product of a list, multiplied from the left starting with one, if every
    partial product fits in a word. -/
def product? (factors : List Nat) : Option Nat :=
  factors.foldlM mul? 1

/-- The product, or the largest word where it does not fit. -/
def saturatingMul (a b : Nat) : Nat :=
  min (a * b) greatest

theorem add?_eq_some_iff {a b c : Nat} : add? a b = some c ↔ a + b < limit ∧ c = a + b := by
  unfold add?
  split
  · simp_all [eq_comm]
  · simp only [reduceCtorEq, false_iff]
    omega

theorem add?_eq_none_iff {a b : Nat} : add? a b = none ↔ limit ≤ a + b := by
  unfold add?
  split <;> simp_all

theorem mul?_eq_some_iff {a b c : Nat} : mul? a b = some c ↔ a * b < limit ∧ c = a * b := by
  unfold mul?
  split
  · simp_all [eq_comm]
  · simp only [reduceCtorEq, false_iff]
    omega

theorem mul?_eq_none_iff {a b : Nat} : mul? a b = none ↔ limit ≤ a * b := by
  unfold mul?
  split <;> simp_all

/-! ## Wrapping arithmetic -/

/-- The sum modulo the size of a word. -/
def wrapAdd (a b : Nat) : Nat :=
  (a + b) % limit

/-- The difference modulo the size of a word. -/
def wrapSub (a b : Nat) : Nat :=
  (a + (limit - b % limit)) % limit

theorem wrapAdd_eq {a b : Nat} (h : a + b < limit) : wrapAdd a b = a + b :=
  Nat.mod_eq_of_lt h

theorem wrapSub_eq {a b : Nat} (hle : b ≤ a) (ha : a < limit) : wrapSub a b = a - b := by
  have hb : b % limit = b := Nat.mod_eq_of_lt (by omega)
  unfold wrapSub
  rw [hb, show a + (limit - b) = (a - b) + limit by omega, Nat.add_mod_right]
  exact Nat.mod_eq_of_lt (by omega)

/-! ## Division -/

/-- How many groups of `group` cover `n` things. -/
def ceilDiv (n group : Nat) : Nat :=
  n / group + (if n % group = 0 then 0 else 1)

theorem le_ceilDiv_mul {group : Nat} (hgroup : 0 < group) (n : Nat) :
    n ≤ ceilDiv n group * group := by
  have hdiv := Nat.div_add_mod n group
  have hmod := Nat.mod_lt n hgroup
  rw [ceilDiv, Nat.add_mul, Nat.mul_comm]
  split <;> omega

end DeviceMemory.Word
