-- SUMMARY: Scalars in memory: little-endian bytes, and the two conversions between byte and scalar lists.
import DeviceMemory.Scalar.Arithmetic

/-!
# Scalars in memory

A scalar occupies the bytes of its pattern, least significant byte first, and a
list of scalars occupies them one after another. Reading back what was written
gives the same list (`Scalar.decodeAll_encodeAll`).
-/

namespace DeviceMemory

/-! ## Numbers as bytes -/

/-- The lowest `count` bytes of `n`, least significant first. -/
def littleEndian : (count : Nat) → (n : Nat) → List UInt8
  | 0, _ => []
  | count + 1, n => UInt8.ofNat n :: littleEndian count (n / 256)

/-- The number whose bytes these are, least significant first. -/
def ofLittleEndian : List UInt8 → Nat
  | [] => 0
  | b :: bs => b.toNat + 256 * ofLittleEndian bs

@[simp] theorem littleEndian_length (count n : Nat) : (littleEndian count n).length = count := by
  induction count generalizing n with
  | zero => rfl
  | succ count ih => simp [littleEndian, ih]

theorem ofLittleEndian_littleEndian (count n : Nat) :
    ofLittleEndian (littleEndian count n) = n % Nat.pow 256 count := by
  simp only [Nat.pow_eq]
  induction count generalizing n with
  | zero => simp [littleEndian, ofLittleEndian, Nat.mod_one]
  | succ count ih =>
    rw [littleEndian, ofLittleEndian, ih, Nat.pow_succ', Nat.mod_mul]
    rfl

theorem ofLittleEndian_lt (bs : List UInt8) : ofLittleEndian bs < Nat.pow 256 bs.length := by
  simp only [Nat.pow_eq]
  induction bs with
  | nil => exact Nat.one_pos
  | cons b bs ih =>
    have hb : b.toNat < 256 := b.toNat_lt
    rw [ofLittleEndian, List.length_cons, Nat.pow_succ]
    omega

theorem littleEndian_ofLittleEndian (bs : List UInt8) :
    littleEndian bs.length (ofLittleEndian bs) = bs := by
  induction bs with
  | nil => rfl
  | cons b bs ih =>
    have hb : b.toNat < 256 := b.toNat_lt
    have hrest : (b.toNat + 256 * ofLittleEndian bs) / 256 = ofLittleEndian bs := by omega
    have hfirst : UInt8.ofNat (b.toNat + 256 * ofLittleEndian bs) = b := by
      apply UInt8.toNat_inj.mp
      rw [UInt8.toNat_ofNat']
      omega
    rw [List.length_cons, ofLittleEndian, littleEndian, hrest, hfirst, ih]

/-! ## Scalars as bytes -/

namespace Scalar

/-- The bytes of a scalar. -/
def encode {t : ScalarType} (v : Scalar t) : List UInt8 :=
  littleEndian t.bytes v.toNat

/-- The scalar that these bytes hold. -/
def decode (t : ScalarType) (bs : List UInt8) : Scalar t :=
  BitVec.ofNat t.bits (ofLittleEndian bs)

@[simp] theorem encode_length {t : ScalarType} (v : Scalar t) : v.encode.length = t.bytes :=
  littleEndian_length ..

/-- There are as many scalars as lists of their bytes. -/
theorem two_pow_bits (t : ScalarType) : Nat.pow 2 t.bits = Nat.pow 256 t.bytes := by
  simp only [Nat.pow_eq]
  rw [ScalarType.bits_eq, Nat.pow_mul]

@[simp] theorem decode_encode {t : ScalarType} (v : Scalar t) : decode t v.encode = v := by
  have hv : v.toNat < Nat.pow 256 t.bytes := two_pow_bits t ▸ v.isLt
  rw [decode, encode, ofLittleEndian_littleEndian, Nat.mod_eq_of_lt hv, BitVec.ofNat_toNat,
    BitVec.setWidth_eq]

theorem encode_decode {t : ScalarType} {bs : List UInt8} (hbs : bs.length = t.bytes) :
    (decode t bs).encode = bs := by
  have hlt : ofLittleEndian bs < Nat.pow 2 t.bits := two_pow_bits t ▸ hbs ▸ ofLittleEndian_lt bs
  rw [encode, decode, BitVec.toNat_ofNat, ← Nat.pow_eq, Nat.mod_eq_of_lt hlt, ← hbs,
    littleEndian_ofLittleEndian]

/-- The bytes of a list of scalars. -/
def encodeAll {t : ScalarType} (vs : List (Scalar t)) : List UInt8 :=
  vs.flatMap encode

/-- The first `count` scalars that these bytes hold. -/
def decodeMany (t : ScalarType) : (count : Nat) → List UInt8 → List (Scalar t)
  | 0, _ => []
  | count + 1, bs => decode t (bs.take t.bytes) :: decodeMany t count (bs.drop t.bytes)

/-- The scalars that these bytes hold. Bytes past the last whole scalar are not
    part of any. -/
def decodeAll (t : ScalarType) (bs : List UInt8) : List (Scalar t) :=
  decodeMany t (bs.length / t.bytes) bs

@[simp] theorem encodeAll_length {t : ScalarType} (vs : List (Scalar t)) :
    (encodeAll vs).length = t.bytes * vs.length := by
  induction vs with
  | nil => rfl
  | cons v vs ih =>
    simp only [encodeAll, List.flatMap_cons, List.length_append, encode_length, List.length_cons]
      at ih ⊢
    rw [ih, Nat.mul_succ, Nat.add_comm]

@[simp] theorem decodeMany_length (t : ScalarType) (count : Nat) (bs : List UInt8) :
    (decodeMany t count bs).length = count := by
  induction count generalizing bs with
  | zero => rfl
  | succ count ih => simp [decodeMany, ih]

@[simp] theorem decodeAll_length (t : ScalarType) (bs : List UInt8) :
    (decodeAll t bs).length = bs.length / t.bytes :=
  decodeMany_length ..

/-- Reading back what was written gives the same scalars. -/
@[simp] theorem decodeAll_encodeAll {t : ScalarType} (vs : List (Scalar t)) :
    decodeAll t (encodeAll vs) = vs := by
  rw [decodeAll, encodeAll_length, Nat.mul_div_cancel_left _ t.bytes_pos]
  induction vs with
  | nil => rfl
  | cons v vs ih =>
    simp only [List.length_cons, decodeMany, encodeAll, List.flatMap_cons]
    rw [List.take_left' (encode_length v), List.drop_left' (encode_length v), decode_encode]
    exact congrArg (v :: ·) ih

/-- Bytes of whole scalars are those of what is read from them. -/
theorem encodeAll_decodeMany {t : ScalarType} {count : Nat} {bs : List UInt8}
    (hbs : bs.length = count * t.bytes) : encodeAll (decodeMany t count bs) = bs := by
  induction count generalizing bs with
  | zero =>
    rw [Nat.zero_mul, List.length_eq_zero_iff] at hbs
    rw [hbs]
    rfl
  | succ count ih =>
    rw [Nat.succ_mul] at hbs
    have hfirst : (bs.take t.bytes).length = t.bytes :=
      List.length_take_of_le (hbs ▸ Nat.le_add_left ..)
    have hrest : (bs.drop t.bytes).length = count * t.bytes := by
      rw [List.length_drop, hbs, Nat.add_sub_cancel]
    rw [decodeMany, encodeAll, List.flatMap_cons, encode_decode hfirst, ← encodeAll, ih hrest,
      List.take_append_drop]

theorem encodeAll_decodeAll {t : ScalarType} {count : Nat} {bs : List UInt8}
    (hbs : bs.length = count * t.bytes) : encodeAll (decodeAll t bs) = bs := by
  rw [decodeAll, hbs, Nat.mul_div_cancel _ t.bytes_pos, encodeAll_decodeMany hbs]

theorem decodeMany_append {t : ScalarType} {count : Nat} {xs : List UInt8}
    (hxs : xs.length = count * t.bytes) (n : Nat) (ys : List UInt8) :
    decodeMany t (count + n) (xs ++ ys) = decodeMany t count xs ++ decodeMany t n ys := by
  induction count generalizing xs with
  | zero =>
    rw [Nat.zero_mul, List.length_eq_zero_iff] at hxs
    rw [hxs, Nat.zero_add, decodeMany]
    rfl
  | succ count ih =>
    rw [Nat.succ_mul] at hxs
    have hfirst : t.bytes ≤ xs.length := hxs ▸ Nat.le_add_left ..
    have hrest : (xs.drop t.bytes).length = count * t.bytes := by
      rw [List.length_drop, hxs, Nat.add_sub_cancel]
    rw [Nat.add_right_comm, decodeMany, decodeMany, List.take_append_of_le_length hfirst,
      List.drop_append_of_le_length hfirst, ih hrest, List.cons_append]

/-- Whole scalars are read apart from what comes after them. -/
theorem decodeAll_append {t : ScalarType} {count : Nat} {xs : List UInt8}
    (hxs : xs.length = count * t.bytes) (ys : List UInt8) :
    decodeAll t (xs ++ ys) = decodeAll t xs ++ decodeAll t ys := by
  have hlength : (xs ++ ys).length / t.bytes = count + ys.length / t.bytes := by
    rw [List.length_append, hxs, Nat.mul_comm, Nat.mul_add_div t.bytes_pos]
  rw [decodeAll, hlength, decodeMany_append hxs, decodeAll, decodeAll, hxs,
    Nat.mul_div_cancel _ t.bytes_pos]

/-- The bytes of the first scalars hold these, and the rest holds the rest. -/
theorem decodeAll_take_drop {t : ScalarType} {count : Nat} {bs : List UInt8}
    (hcount : count * t.bytes ≤ bs.length) :
    decodeAll t (bs.take (count * t.bytes)) = (decodeAll t bs).take count ∧
      decodeAll t (bs.drop (count * t.bytes)) = (decodeAll t bs).drop count := by
  have htake : (bs.take (count * t.bytes)).length = count * t.bytes := List.length_take_of_le hcount
  have hfirst : (decodeAll t (bs.take (count * t.bytes))).length = count := by
    rw [decodeAll_length, htake, Nat.mul_div_cancel _ t.bytes_pos]
  have hsplit := decodeAll_append htake (bs.drop (count * t.bytes))
  rw [List.take_append_drop] at hsplit
  rw [hsplit]
  exact ⟨(List.take_left' hfirst).symm, (List.drop_left' hfirst).symm⟩

end Scalar

end DeviceMemory
