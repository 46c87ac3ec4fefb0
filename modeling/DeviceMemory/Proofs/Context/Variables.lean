-- SUMMARY: The configuration that variables give: each setting is given by its own variable alone, and only the device can be refused.
import DeviceMemory.Context.Config
import DeviceMemory.Proofs.Device.Names

/-!
# Configuration from variables

Every setting of a configuration has a variable of its own. `Setting.Gives` says
which value a variable gives its setting, by what stands between the blanks of its
text: the device that the text names, the word whose numeral it is, or one of the
words for yes. A number without a numeral is left at its default; a text that names
no device is the one thing that is refused.

The relation mentions one variable and one setting, and gives one value
(`Setting.Gives.unique`), so that the settings are independent as soon as the
reader is known to follow it. Written into its variables and read again, a
configuration is the same (`ofVariables_exact`).
-/

namespace DeviceMemory.Config

open Text

variable {lookup : String → Option String} {value : Option String} {core : List Char}
  {config : Config} {fallback n : Nat}

/-! ## Settings and their variables -/

/-- One of the settings of a configuration. -/
inductive Setting where
  | device
  | rank
  | threadsPerBlock
  | retainShared
  | cacheCapacity

namespace Setting

/-- The name of the variable of the setting. -/
def name : Setting → String
  | .device => "GPUARR_DEVICE"
  | .rank => "GPUARR_RANK"
  | .threadsPerBlock => "GPUARR_THREADS_PER_BLOCK"
  | .retainShared => "GPUARR_POOL_RETAIN"
  | .cacheCapacity => "GPUARR_LRU_CAPACITY"

/-- The values that the setting can have. -/
abbrev Value : Setting → Type
  | .device => Device
  | .rank => Nat
  | .threadsPerBlock => Nat
  | .retainShared => Bool
  | .cacheCapacity => Nat

/-- The value of the setting in a configuration. -/
def valueIn (config : Config) : (setting : Setting) → setting.Value
  | .device => config.device
  | .rank => config.rank
  | .threadsPerBlock => config.threadsPerBlock
  | .retainShared => config.retainShared
  | .cacheCapacity => config.cacheCapacity

end Setting

/-! ## What a variable gives -/

/-- The variable is set to the text, blanks around it aside. -/
def Holds (value : Option String) (core : List Char) : Prop :=
  ∃ text ∈ value, Strips text.toList core

/-- The variable is set to a numeral of the word. -/
def HoldsWord (value : Option String) (n : Nat) : Prop :=
  ∃ numeral, Holds value numeral ∧ Numeral numeral n ∧ n < Word.limit

/-- The variable is set to one of the words for yes. -/
def HoldsYes (value : Option String) : Prop :=
  Holds value "1".toList ∨ Holds value "true".toList ∨ Holds value "TRUE".toList

/-- The device that a variable gives. -/
inductive GivesDevice (value : Option String) : Device → Prop where
  | held {text : String} {device : Device} (htext : text ∈ value)
      (hread : Device.parse text = .ok device) : GivesDevice value device
  | missing (hunset : value = none) : GivesDevice value default.device

/-- The number that a variable gives where there is a default. -/
inductive GivesNumber (value : Option String) (fallback : Nat) : Nat → Prop where
  | held {n : Nat} (hword : HoldsWord value n) : GivesNumber value fallback n
  | missing (hnone : ∀ n, ¬HoldsWord value n) : GivesNumber value fallback fallback

/-- The value that its variable gives a setting. Blocks have at least one thread. -/
def Setting.Gives : (setting : Setting) → Option String → setting.Value → Prop
  | .device, value, given => GivesDevice value given
  | .rank, value, given => GivesNumber value default.rank given
  | .threadsPerBlock, value, given =>
    ∃ n, GivesNumber value default.threadsPerBlock n ∧ given = max n 1
  | .retainShared, value, given => given = true ↔ HoldsYes value
  | .cacheCapacity, value, given => GivesNumber value default.cacheCapacity given

/-! ## Reading one variable -/

@[simp] theorem not_holds_none : ¬Holds none core := by
  rintro ⟨text, htext, -⟩
  cases htext

theorem holds_some_iff {text : String} : Holds (some text) core ↔ core = trimmed text.toList := by
  rw [← strips_iff]
  constructor
  · rintro ⟨text', htext, hstrips⟩
    cases htext
    exact hstrips
  · exact fun hstrips => ⟨text, rfl, hstrips⟩

theorem holdsWord_iff :
    HoldsWord value n ↔ (value.bind fun text => word? (trimmed text.toList)) = some n := by
  cases value with
  | none => simp [HoldsWord]
  | some text =>
    rw [Option.bind_some, word?_eq_some_iff_numeral, HoldsWord]
    simp only [holds_some_iff, exists_eq_left]

theorem number_eq_iff : number value fallback = n ↔ GivesNumber value fallback n := by
  rw [number, Option.getD_eq_iff, ← holdsWord_iff, Option.eq_none_iff_forall_ne_some]
  simp only [ne_eq, ← holdsWord_iff]
  constructor
  · rintro (hword | ⟨hnone, rfl⟩)
    · exact .held hword
    · exact .missing hnone
  · intro hgives
    cases hgives with
    | held hword => exact .inl hword
    | missing hnone => exact .inr ⟨hnone, rfl⟩

theorem flag_eq_true_iff : flag value = true ↔ HoldsYes value := by
  cases value with
  | none => simp [flag, HoldsYes]
  | some text =>
    simp only [flag, Option.any_some, decide_eq_true_eq, List.mem_cons, List.not_mem_nil, or_false,
      ofList_eq_iff, HoldsYes, holds_some_iff]

theorem deviceOf_eq_ok_iff {device : Device} :
    deviceOf value = .ok device ↔ GivesDevice value device := by
  constructor
  · intro hread
    cases value with
    | none =>
      cases hread
      exact .missing rfl
    | some text => exact .held rfl hread
  · intro hgives
    cases hgives with
    | held htext hread =>
      cases htext
      exact hread
    | missing hunset =>
      rw [hunset]
      rfl

theorem deviceOf_eq_error_iff {cause : DeviceError} :
    deviceOf value = .error cause ↔ ∃ text ∈ value, Device.parse text = .error cause := by
  cases value with
  | none => simp [deviceOf]
  | some text => simp [deviceOf]

/-- A variable gives its setting no two values. -/
theorem Setting.Gives.unique {setting : Setting} {v v' : setting.Value}
    (h : setting.Gives value v) (h' : setting.Gives value v') : v = v' := by
  cases setting with
  | device =>
    exact Except.ok.inj ((deviceOf_eq_ok_iff.mpr h).symm.trans (deviceOf_eq_ok_iff.mpr h'))
  | rank => exact (number_eq_iff.mpr h).symm.trans (number_eq_iff.mpr h')
  | threadsPerBlock =>
    obtain ⟨n, hn, rfl⟩ := h
    obtain ⟨n', hn', rfl⟩ := h'
    rw [← number_eq_iff.mpr hn, ← number_eq_iff.mpr hn']
  | retainShared => exact Bool.eq_iff_iff.mpr (h.trans h'.symm)
  | cacheCapacity => exact (number_eq_iff.mpr h).symm.trans (number_eq_iff.mpr h')

/-! ## Reading a configuration -/

theorem ofVariables_eq_error_iff {cause : DeviceError} :
    ofVariables lookup = .error cause ↔
      ∃ text ∈ lookup (Setting.name .device), Device.parse text = .error cause := by
  rw [← deviceOf_eq_error_iff, ofVariables, Setting.name]
  cases deviceOf (lookup "GPUARR_DEVICE") with
  | error => simp [Except.map]
  | ok => simp [Except.map]

theorem ofVariables_eq_ok_iff :
    ofVariables lookup = .ok config ↔
      ∀ setting : Setting, setting.Gives (lookup setting.name) (setting.valueIn config) := by
  constructor
  · intro hread
    -- past the device nothing fails, and each field is read from one variable
    cases hdevice : deviceOf (lookup "GPUARR_DEVICE") with
    | error => simp [ofVariables, hdevice, Except.map] at hread
    | ok device =>
      rw [ofVariables, hdevice] at hread
      cases hread
      intro setting
      cases setting with
      | device => exact deviceOf_eq_ok_iff.mp hdevice
      | rank => exact number_eq_iff.mp rfl
      | threadsPerBlock => exact ⟨_, number_eq_iff.mp rfl, rfl⟩
      | retainShared => exact flag_eq_true_iff
      | cacheCapacity => exact number_eq_iff.mp rfl
  · intro hgives
    have hdevice := deviceOf_eq_ok_iff.mpr (hgives .device)
    have hrank := number_eq_iff.mpr (hgives .rank)
    obtain ⟨n, hn, hthreads⟩ := hgives .threadsPerBlock
    have hretain : flag (lookup "GPUARR_POOL_RETAIN") = config.retainShared :=
      Bool.eq_iff_iff.mpr (flag_eq_true_iff.trans (hgives .retainShared).symm)
    have hcapacity := number_eq_iff.mpr (hgives .cacheCapacity)
    simp only [Setting.name, Setting.valueIn] at hdevice hrank hn hthreads hcapacity
    rw [ofVariables, hdevice, hrank, number_eq_iff.mpr hn, ← hthreads, hretain, hcapacity]
    rfl

/-! ## Writing a configuration -/

/-- The settings of the configuration are words, where they are numbers. -/
structure InWords (config : Config) : Prop where
  device : config.device.InWord
  rank : config.rank < Word.limit
  threadsPerBlock : config.threadsPerBlock < Word.limit
  cacheCapacity : config.cacheCapacity < Word.limit

theorem GivesNumber.lt_limit (h : GivesNumber value fallback n)
    (hfallback : fallback < Word.limit) : n < Word.limit := by
  cases h with
  | held hword =>
    obtain ⟨_, _, _, hlt⟩ := hword
    exact hlt
  | missing => exact hfallback

theorem GivesDevice.inWord {device : Device} (h : GivesDevice value device) : device.InWord := by
  cases h with
  | held _ hread => exact (Device.parse_eq_ok_iff.mp hread).inWord
  | missing =>
    intro ordinal hordinal
    cases hordinal

/-- What the configuration is spelled with in the variable of a setting. -/
def written (config : Config) : Setting → Option String
  | .device => some config.device.canonical
  | .rank => some config.rank.repr
  | .threadsPerBlock => some config.threadsPerBlock.repr
  | .retainShared => if config.retainShared then some "1" else none
  | .cacheCapacity => some config.cacheCapacity.repr

/-- The variable is set to a spelling, with any blanks around it. Without a spelling it is
    blank or not set. -/
inductive Carries : Option String → Option String → Prop where
  | spelled {text spelling : String} (lead trail : List Char)
      (htext : text.toList = lead ++ spelling.toList ++ trail)
      (hlead : ∀ c ∈ lead, isBlank c = true) (htrail : ∀ c ∈ trail, isBlank c = true) :
      Carries (some text) (some spelling)
  | blank {text : String} (htext : ∀ c ∈ text.toList, isBlank c = true) : Carries (some text) none
  | unset : Carries none none

theorem Carries.holds {spelling : String} (h : Carries value (some spelling))
    (hspelling : trimmed spelling.toList = spelling.toList) : Holds value spelling.toList := by
  cases h with
  | spelled lead trail htext hlead htrail =>
    rw [holds_some_iff, htext, trimmed_append_blanks hlead htrail, hspelling]

/-- Between blanks alone there is nothing. -/
theorem Carries.eq_nil_of_holds (h : Carries value none) (hcore : Holds value core) :
    core = [] := by
  cases h with
  | blank htext => exact (holds_some_iff.mp hcore).trans (trimmed_eq_nil htext)
  | unset => exact absurd hcore not_holds_none

theorem Carries.givesNumber (h : Carries value (some n.repr)) (hn : n < Word.limit) :
    GivesNumber value fallback n :=
  .held ⟨_, h.holds (trimmed_repr n), word?_eq_some_iff_numeral.mp (word?_repr hn)⟩

theorem Carries.givesDevice {device : Device} (h : Carries value (some device.canonical))
    (hdevice : device.InWord) : GivesDevice value device := by
  obtain ⟨text, htext, hstrips⟩ := h.holds (Device.trimmed_canonical device)
  refine .held htext (Device.parse_eq_ok_iff.mpr ?_)
  rw [← strips_iff.mp hstrips]
  exact Device.named_canonical hdevice

theorem Carries.holdsYes_iff {retained : Bool}
    (h : Carries value (if retained then some "1" else none)) :
    retained = true ↔ HoldsYes value := by
  cases retained with
  | true =>
    have hone := h.holds (by decide)
    exact iff_of_true rfl (.inl hone)
  | false =>
    refine iff_of_false Bool.false_ne_true ?_
    rintro (hyes | hyes | hyes) <;> cases h.eq_nil_of_holds hyes

/-- Variables that carry a configuration give it. -/
theorem gives_of_carries (hconfig : config.InWords) (hthreads : 1 ≤ config.threadsPerBlock)
    (hcarries : ∀ setting : Setting, Carries (lookup setting.name) (config.written setting))
    (setting : Setting) : setting.Gives (lookup setting.name) (setting.valueIn config) := by
  have hcarried := hcarries setting
  cases setting with
  | device => exact hcarried.givesDevice hconfig.device
  | rank => exact hcarried.givesNumber hconfig.rank
  | threadsPerBlock =>
    exact ⟨_, hcarried.givesNumber hconfig.threadsPerBlock, (Nat.max_eq_left hthreads).symm⟩
  | retainShared => exact hcarried.holdsYes_iff
  | cacheCapacity => exact hcarried.givesNumber hconfig.cacheCapacity

/-- What variables give are words, and blocks with threads. -/
theorem formed_of_gives
    (hgives : ∀ setting : Setting, setting.Gives (lookup setting.name) (setting.valueIn config)) :
    config.InWords ∧ 1 ≤ config.threadsPerBlock := by
  obtain ⟨n, hn, hthreads⟩ := hgives .threadsPerBlock
  have hlt : n < Word.limit := hn.lt_limit (by decide)
  rw [Setting.valueIn] at hthreads
  refine ⟨⟨GivesDevice.inWord (hgives .device), ?_, ?_, ?_⟩, ?_⟩
  · exact GivesNumber.lt_limit (hgives .rank) (by decide)
  · exact hthreads ▸ Nat.max_lt.mpr ⟨hlt, by decide⟩
  · exact GivesNumber.lt_limit (hgives .cacheCapacity) (by decide)
  · exact hthreads ▸ Nat.le_max_right n 1

/-- Reading fails iff the variable of the device is set to a text that names no device, and then
    as reading that text does. Otherwise the configuration has, setting by setting, what the
    variable of the setting gives; in two configurations a setting is the same if its variable
    is, whatever the other variables are. A configuration that is spelled in its variables
    comes back, unless a number is no word or its blocks have no threads. -/
theorem ofVariables_exact (lookup : String → Option String) :
    (∀ cause, ofVariables lookup = .error cause ↔
      ∃ text ∈ lookup (Setting.name .device), Device.parse text = .error cause) ∧
    (∀ config, ofVariables lookup = .ok config ↔
      ∀ setting : Setting, setting.Gives (lookup setting.name) (setting.valueIn config)) ∧
    (∀ lookup' config config', ofVariables lookup = .ok config →
      ofVariables lookup' = .ok config' → ∀ setting : Setting,
        lookup setting.name = lookup' setting.name →
          setting.valueIn config = setting.valueIn config') ∧
    (∀ config : Config,
      (∀ setting : Setting, Carries (lookup setting.name) (config.written setting)) →
        (ofVariables lookup = .ok config ↔ config.InWords ∧ 1 ≤ config.threadsPerBlock)) := by
  refine ⟨fun _ => ofVariables_eq_error_iff, fun _ => ofVariables_eq_ok_iff, ?_, ?_⟩
  · intro lookup' config config' hread hread' setting hsame
    have hgives := ofVariables_eq_ok_iff.mp hread setting
    have hgives' := ofVariables_eq_ok_iff.mp hread' setting
    rw [← hsame] at hgives'
    exact hgives.unique hgives'
  · intro config hcarries
    rw [ofVariables_eq_ok_iff]
    constructor
    · exact formed_of_gives
    · rintro ⟨hconfig, hthreads⟩
      exact gives_of_carries hconfig hthreads hcarries

def secondDevice : Config := ⟨.cuda 1, 2, 64, true, 4⟩

/-- The second device, with blanks of all kinds. -/
def secondDeviceSpaced : String → Option String
  | "GPUARR_DEVICE" => some " CUDA:1\n"
  | "GPUARR_RANK" => some "\t2"
  | "GPUARR_THREADS_PER_BLOCK" => some "64\u2003"
  | "GPUARR_POOL_RETAIN" => some "\u00a01 "
  | "GPUARR_LRU_CAPACITY" => some "4"
  | _ => none

/-- The rank of `secondDeviceSpaced`, no device, and three settings that are not what was meant. -/
def rankAlone : String → Option String
  | "GPUARR_RANK" => some "\t2"
  | "GPUARR_THREADS_PER_BLOCK" => some "0"
  | "GPUARR_POOL_RETAIN" => some "yes"
  | "GPUARR_LRU_CAPACITY" => some "18446744073709551616"
  | _ => none

theorem ofVariables_exact_secondDevice :
    (∀ setting : Setting,
      Carries (secondDeviceSpaced setting.name) (secondDevice.written setting)) ∧
      secondDevice.InWords ∧ 1 ≤ secondDevice.threadsPerBlock ∧
      ofVariables secondDeviceSpaced = .ok secondDevice ∧
      ofVariables rankAlone = .ok ⟨.cpu, 2, 1, false, 32⟩ ∧
      Setting.valueIn secondDevice .rank = Setting.valueIn ⟨.cpu, 2, 1, false, 32⟩ .rank := by
  obtain ⟨-, -, hsame, hcarried⟩ := ofVariables_exact secondDeviceSpaced
  have blanks {text : List Char} (hall : text.all isBlank = true) : ∀ c ∈ text, isBlank c = true :=
    List.all_eq_true.mp hall
  have hcarries : ∀ setting : Setting,
      Carries (secondDeviceSpaced setting.name) (secondDevice.written setting) := by
    intro setting
    cases setting with
    | device => exact .spelled [' '] ['\n'] rfl (blanks rfl) (blanks rfl)
    | rank => exact .spelled ['\t'] [] rfl (blanks rfl) (blanks rfl)
    | threadsPerBlock => exact .spelled [] ['\u2003'] rfl (blanks rfl) (blanks rfl)
    | retainShared => exact .spelled ['\u00a0'] [' '] rfl (blanks rfl) (blanks rfl)
    | cacheCapacity => exact .spelled [] [] rfl (blanks rfl) (blanks rfl)
  have hwords : secondDevice.InWords := by
    refine ⟨?_, by decide, by decide, by decide⟩
    intro ordinal hordinal
    cases hordinal
    decide
  have hread := (hcarried secondDevice hcarries).mpr ⟨hwords, by decide⟩
  have hread' : ofVariables rankAlone = .ok ⟨.cpu, 2, 1, false, 32⟩ := by decide
  exact ⟨hcarries, hwords, by decide, hread, hread',
    hsame rankAlone secondDevice _ hread hread' .rank rfl⟩

end DeviceMemory.Config
