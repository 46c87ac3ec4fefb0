-- SUMMARY: The device that a text names, by a grammar that the reader accepts exactly, and which the canonical spelling belongs to.
import DeviceMemory.Device.Error
import DeviceMemory.Proofs.Text.Grammar

/-!
# Device names

`Device.Named` is the grammar of device names: what may stand between the blanks of
a text, and which device it names then. Reading accepts exactly the names of this
grammar and shows any other core in its error; the canonical spelling of a device is
one of its names, and all names of a device have the same canonical spelling
(`parse_exact`).
-/

namespace DeviceMemory.Device

open Text

/-! ## Names -/

/-- One of the two names of accelerators. -/
def Accelerator (kind : List Char) : Prop :=
  SameLetters kind "CUDA".toList ∨ SameLetters kind "GPU".toList

/-- The text, without blanks around it, is a name of the device. -/
inductive Named : List Char → Device → Prop where
  | host {name : List Char} (hname : SameLetters name "CPU".toList) : Named name .cpu
  | first {name : List Char} (hname : Accelerator name) : Named name (.cuda 0)
  | numbered {kind numeral : List Char} {ordinal : Nat} (hkind : Accelerator kind)
      (hnumeral : Numeral numeral ordinal) (hword : ordinal < Word.limit) :
      Named (kind ++ ':' :: numeral) (.cuda ordinal)

/-- The ordinal of the device, if it has one, is a word. -/
def InWord (device : Device) : Prop :=
  ∀ ordinal ∈ device.ordinal?, ordinal < Word.limit

theorem Named.inWord {name : List Char} {device : Device} (h : Named name device) :
    device.InWord := by
  intro ordinal hordinal
  cases h with
  | host => cases hordinal
  | first =>
    cases hordinal
    decide
  | numbered _ _ hword =>
    cases hordinal
    exact hword

/-! ## The first colon -/

theorem ne_colon_of_notMem {text : List Char} (h : ':' ∉ text) :
    ∀ c ∈ text, (c != ':') = true := by
  intro c hc
  exact bne_iff_ne.mpr fun heq => h (heq ▸ hc)

theorem splitOrdinal_of_notMem {text : List Char} (h : ':' ∉ text) :
    splitOrdinal text = (text, none) := by
  have hall := ne_colon_of_notMem h
  rw [splitOrdinal, List.span_eq_takeWhile_dropWhile, List.takeWhile_eq_self_iff.mpr hall,
    List.dropWhile_eq_nil_iff.mpr hall]

theorem splitOrdinal_append {kind ordinal : List Char} (h : ':' ∉ kind) :
    splitOrdinal (kind ++ ':' :: ordinal) = (kind, some ordinal) := by
  have hall := ne_colon_of_notMem h
  rw [splitOrdinal, List.span_eq_takeWhile_dropWhile, List.takeWhile_append_of_pos hall,
    List.dropWhile_append_of_pos hall]
  simp

/-! ## Upper case -/

/-- Text in upper case is a word in upper case if the two are the same letters. -/
theorem map_toUpper_eq_word_iff {text word : List Char} (hword : word.map Char.toUpper = word) :
    text.map Char.toUpper = word ↔ SameLetters text word := by
  rw [← map_toUpper_eq_iff, hword]

theorem map_toUpper_eq_accelerator_iff {kind : List Char} :
    (kind.map Char.toUpper = "CUDA".toList ∨ kind.map Char.toUpper = "GPU".toList) ↔
      Accelerator kind :=
  or_congr (map_toUpper_eq_word_iff (by decide)) (map_toUpper_eq_word_iff (by decide))

/-- Folding letters makes no colon, and unmakes none. -/
theorem colon_mem_map_toUpper_iff {text : List Char} :
    ':' ∈ text.map Char.toUpper ↔ ':' ∈ text := by
  constructor
  · intro h
    obtain ⟨c, hc, hupper⟩ := List.mem_map.mp h
    rwa [eq_of_toUpper_eq hupper (by decide)] at hc
  · intro h
    exact List.mem_map.mpr ⟨':', h, rfl⟩

theorem Accelerator.colon_notMem {kind : List Char} (h : Accelerator kind) : ':' ∉ kind := by
  rw [← colon_mem_map_toUpper_iff]
  rcases map_toUpper_eq_accelerator_iff.mpr h with h | h <;> rw [h] <;> decide

theorem word?_map_toUpper (text : List Char) : word? (text.map Char.toUpper) = word? text := by
  refine Option.ext fun n => ?_
  rw [word?_eq_some_iff_numeral, word?_eq_some_iff_numeral, numeral_map_toUpper_iff]

/-! ## Reading -/

theorem ofName?_upper_of_colon {kind ordinal : List Char} (h : ':' ∉ kind) :
    ofName? ((kind ++ ':' :: ordinal).map Char.toUpper) =
      if kind.map Char.toUpper = "CUDA".toList ∨ kind.map Char.toUpper = "GPU".toList
      then (word? ordinal).map .cuda else none := by
  have hkind : ':' ∉ kind.map Char.toUpper := fun hmem => h (colon_mem_map_toUpper_iff.mp hmem)
  have hcolon : Char.toUpper ':' = ':' := rfl
  rw [List.map_append, List.map_cons, hcolon, ofName?, splitOrdinal_append hkind]
  simp only [word?_map_toUpper]

theorem ofName?_upper_of_no_colon {name : List Char} (h : ':' ∉ name) :
    ofName? (name.map Char.toUpper) =
      if name.map Char.toUpper = "CPU".toList then some .cpu
      else if name.map Char.toUpper = "CUDA".toList ∨ name.map Char.toUpper = "GPU".toList
      then some (.cuda 0) else none := by
  rw [ofName?, splitOrdinal_of_notMem fun hmem => h (colon_mem_map_toUpper_iff.mp hmem)]

theorem named_of_ofName? {name : List Char} {device : Device}
    (h : ofName? (name.map Char.toUpper) = some device) : Named name device := by
  by_cases hcolon : ':' ∈ name
  · obtain ⟨kind, numeral, rfl, hkind⟩ := List.eq_append_cons_of_mem hcolon
    rw [ofName?_upper_of_colon hkind] at h
    split at h
    next haccelerator =>
      obtain ⟨ordinal, hword, rfl⟩ := Option.map_eq_some_iff.mp h
      obtain ⟨hnumeral, hlt⟩ := word?_eq_some_iff_numeral.mp hword
      exact .numbered (map_toUpper_eq_accelerator_iff.mp haccelerator) hnumeral hlt
    next => cases h
  · rw [ofName?_upper_of_no_colon hcolon] at h
    split at h
    next hhost =>
      cases h
      exact .host ((map_toUpper_eq_word_iff (by decide)).mp hhost)
    next =>
      split at h
      next haccelerator =>
        cases h
        exact .first (map_toUpper_eq_accelerator_iff.mp haccelerator)
      next => cases h

theorem ofName?_of_named {name : List Char} {device : Device} (h : Named name device) :
    ofName? (name.map Char.toUpper) = some device := by
  cases h with
  | host hname =>
    have hhost : name.map Char.toUpper = "CPU".toList :=
      (map_toUpper_eq_word_iff (by decide)).mpr hname
    have hcolon : ':' ∉ name := by
      rw [← colon_mem_map_toUpper_iff, hhost]
      decide
    rw [ofName?_upper_of_no_colon hcolon, if_pos hhost]
  | first hname =>
    have haccelerator := map_toUpper_eq_accelerator_iff.mpr hname
    have hhost : name.map Char.toUpper ≠ "CPU".toList := by
      rcases haccelerator with heq | heq <;> rw [heq] <;> decide
    rw [ofName?_upper_of_no_colon hname.colon_notMem, if_neg hhost, if_pos haccelerator]
  | numbered hkind hnumeral hword =>
    rw [ofName?_upper_of_colon hkind.colon_notMem,
      if_pos (map_toUpper_eq_accelerator_iff.mpr hkind),
      word?_eq_some_iff_numeral.mpr ⟨hnumeral, hword⟩]
    rfl

theorem parse?_eq_some_iff {text : String} {device : Device} :
    parse? text = some device ↔ Named (trimmed text.toList) device :=
  ⟨named_of_ofName?, ofName?_of_named⟩

theorem parse_eq_ok_iff {text : String} {device : Device} :
    parse text = .ok device ↔ Named (trimmed text.toList) device := by
  rw [← parse?_eq_some_iff, parse]
  split
  next hread => simp [hread]
  next hread => simp [hread]

/-- The spelling of the device that a text names, if it names one. -/
theorem map_canonical_parse_eq_ok_iff {text spelled : String} :
    (parse text).map canonical = .ok spelled ↔
      ∃ device, parse text = .ok device ∧ device.canonical = spelled := by
  cases parse text with
  | error cause => simp [Except.map]
  | ok device => simp [Except.map]

theorem parse_eq_error_of_not_named {text : String}
    (h : ∀ device, ¬Named (trimmed text.toList) device) :
    parse text = .error (.invalidDevice (String.ofList (trimmed text.toList))) := by
  rw [parse]
  split
  next device hread => exact absurd (parse?_eq_some_iff.mp hread) (h device)
  next => rfl

/-! ## The canonical spelling -/

theorem toList_canonical (ordinal : Nat) :
    (canonical (.cuda ordinal)).toList = "CUDA".toList ++ ':' :: ordinal.repr.toList := by
  simp [canonical]

/-- The canonical spelling has no blanks around it. -/
theorem trimmed_canonical (device : Device) :
    trimmed device.canonical.toList = device.canonical.toList := by
  cases device with
  | cpu => decide
  | cuda ordinal =>
    rw [toList_canonical]
    refine trimmed_eq_self ?_ ?_
    · intro c hc
      cases hc
      decide
    · intro c hc
      have hdigits : ordinal.repr.toList = Nat.toDigits 10 ordinal := Nat.toList_repr
      rw [hdigits, List.getLast?_append_of_ne_nil _ (List.cons_ne_nil _ _),
        List.getLast?_cons_of_ne_nil Nat.toDigits_ne_nil] at hc
      have hdigit : c.isDigit = true :=
        Nat.isDigit_of_mem_toDigits (by decide) (by decide) (List.mem_of_getLast? hc)
      exact isBlank_of_isDigit hdigit

theorem named_canonical {device : Device} (h : device.InWord) :
    Named device.canonical.toList device := by
  cases device with
  | cpu => exact .host (by decide)
  | cuda ordinal =>
    obtain ⟨hnumeral, hlt⟩ := word?_eq_some_iff_numeral.mp (word?_repr (h ordinal rfl))
    rw [toList_canonical]
    exact .numbered (.inl rfl) hnumeral hlt

theorem parse_canonical {device : Device} (h : device.InWord) :
    parse device.canonical = .ok device := by
  rw [parse_eq_ok_iff, trimmed_canonical]
  exact named_canonical h

/-! ## Other spellings -/

theorem Named.of_sameLetters {name name' : List Char} {device : Device} (h : Named name device)
    (hsame : SameLetters name name') : Named name' device := by
  have hread := ofName?_of_named h
  rw [map_toUpper_eq_iff.mpr hsame] at hread
  exact named_of_ofName? hread

/-- Reading accepts exactly the names of the grammar, whatever the blanks around them, and an error
    shows what stands between these. The canonical spelling of a device names it again, so
    to read a text and spell the device is to do so once; texts that differ in blanks
    around them and in the case of letters are spelled alike. -/
theorem parse_exact :
    (∀ (text : String) name, Strips text.toList name →
      (∀ device, parse text = .ok device ↔ Named name device) ∧
      ((∀ device, ¬Named name device) →
        parse text = .error (.invalidDevice (String.ofList name)))) ∧
    (∀ text : String, ∃ name, Strips text.toList name) ∧
    (∀ device, InWord device → parse device.canonical = .ok device) ∧
    (∀ text spelled, (parse text).map canonical = .ok spelled →
      (parse spelled).map canonical = .ok spelled) ∧
    (∀ (text text' : String) name name', Strips text.toList name → Strips text'.toList name' →
      SameLetters name name' → ∀ device, parse text = .ok device ↔ parse text' = .ok device) := by
  refine ⟨?_, ?_, fun device => parse_canonical, ?_, ?_⟩
  · intro text name hname
    obtain rfl := strips_iff.mp hname
    exact ⟨fun device => parse_eq_ok_iff, parse_eq_error_of_not_named⟩
  · exact fun text => ⟨_, strips_trimmed text.toList⟩
  · intro text spelled hspelled
    obtain ⟨device, hread, rfl⟩ := map_canonical_parse_eq_ok_iff.mp hspelled
    have hword : device.InWord := (parse_eq_ok_iff.mp hread).inWord
    exact map_canonical_parse_eq_ok_iff.mpr ⟨device, parse_canonical hword, rfl⟩
  · intro text text' name name' hname hname' hsame device
    rw [parse_eq_ok_iff, parse_eq_ok_iff, ← strips_iff.mp hname, ← strips_iff.mp hname']
    exact ⟨fun h => h.of_sameLetters hsame, fun h => h.of_sameLetters hsame.symm⟩

/-- A name of either case with a sign and zeros between blanks, and an ordinal that no device
    has. -/
theorem parse_exact_blanksAround :
    parse " gPu:+007\t" = .ok (.cuda 7) ∧ parse (canonical (.cuda 7)) = .ok (.cuda 7) ∧
      parse "\ncpu:0" = .error (.invalidDevice "cpu:0") := by
  obtain ⟨hread, -, hcanonical, -⟩ := parse_exact
  have hspaced : Strips " gPu:+007\t".toList "gPu:+007".toList :=
    ⟨⟨[' '], ['\t'], rfl, List.all_eq_true.mp rfl, List.all_eq_true.mp rfl⟩,
      fun _ hfirst => by cases hfirst; rfl, fun _ hlast => by cases hlast; rfl⟩
  have hbroken : Strips "\ncpu:0".toList "cpu:0".toList :=
    ⟨⟨['\n'], [], rfl, List.all_eq_true.mp rfl, List.all_eq_true.mp rfl⟩,
      fun _ hfirst => by cases hfirst; rfl, fun _ hlast => by cases hlast; rfl⟩
  have hnumeral : Numeral "+007".toList 7 :=
    (by decide : valueOf "007".toList = 7) ▸
      .signed (by decide) (List.all_eq_true.mp rfl)
  have hnamed : Named ("gPu".toList ++ ':' :: "+007".toList) (.cuda 7) :=
    .numbered (.inr (by decide)) hnumeral (by decide)
  have hnone : ∀ device, ¬Named "cpu:0".toList device := by
    intro device hnamed
    have hnothing : ofName? ("cpu:0".toList.map Char.toUpper) = none := by decide
    cases hnothing.symm.trans (ofName?_of_named hnamed)
  refine ⟨((hread _ _ hspaced).1 _).mpr hnamed, hcanonical _ ?_, (hread _ _ hbroken).2 hnone⟩
  intro ordinal hordinal
  cases hordinal
  decide

end DeviceMemory.Device
