-- SUMMARY: How every request for memory ends, of a buffer, a pool or an array: a trap if its size is no word, else memory or a typed refusal.
import DeviceMemory.Proofs.Allocator.Answers
import DeviceMemory.Proofs.Array.Since
import DeviceMemory.Proofs.Buffer.Formed

/-!
# Requests for memory

A buffer, a pool and an array ask for memory by a shape, and each makes a size of it before
it asks its allocator. The size is a product taken from the left in words, and one that needs
more than a word traps (`byteSize?_eq_none_iff`). Any other request ends with memory, with
the refusal of the allocator or with a refusal of the pool (`requests_end`), as long as the
books of the allocator are right, which they are in every store that operations lead to
(`Store.Balanced.ledger`), and what it owes leaves room in a word for another block that a
process can address.
-/

namespace DeviceMemory

open DeviceMemory.Action

/-! ## Sizes -/

/-- A product from the left needs more than a word once some of its factors have one that does. -/
theorem Word.foldlM_mul?_eq_none_iff {factors : List Nat} {start : Nat}
    (hstart : start < Word.limit) :
    factors.foldlM Word.mul? start = none ↔
      ∃ k, Word.limit ≤ start * (factors.take k).prod := by
  induction factors generalizing start with
  | nil =>
    refine iff_of_false nofun ?_
    rintro ⟨k, hpast⟩
    rw [List.take_nil, List.prod_nil, Nat.mul_one] at hpast
    exact absurd hstart (Nat.not_lt.mpr hpast)
  | cons factor factors ih =>
    rw [List.foldlM_cons]
    rcases hnext : Word.mul? start factor with _ | next
    · refine iff_of_true rfl ⟨1, ?_⟩
      simpa using Word.mul?_eq_none_iff.mp hnext
    · obtain ⟨hlt, rfl⟩ := Word.mul?_eq_some_iff.mp hnext
      refine (ih hlt).trans ⟨?_, ?_⟩
      · rintro ⟨k, hpast⟩
        refine ⟨k + 1, ?_⟩
        rwa [List.take_succ_cons, List.prod_cons, ← Nat.mul_assoc]
      · rintro ⟨k, hpast⟩
        cases k with
        | zero =>
          rw [List.take_zero, List.prod_nil, Nat.mul_one] at hpast
          exact absurd hstart (Nat.not_lt.mpr hpast)
        | succ k =>
          rw [List.take_succ_cons, List.prod_cons, ← Nat.mul_assoc] at hpast
          exact ⟨k, hpast⟩

theorem Word.product?_eq_none_iff {factors : List Nat} :
    Word.product? factors = none ↔ ∃ k, Word.limit ≤ (factors.take k).prod := by
  have hone : 1 < Word.limit := by decide
  simpa only [Word.product?, Nat.one_mul] using Word.foldlM_mul?_eq_none_iff hone

/-- A shape has no size in bytes if a product on the way needs more than a word, even where a
    later factor is zero. -/
theorem byteSize?_eq_none_iff {t : ScalarType} {shape : List Nat} :
    byteSize? t shape = none ↔
      (∃ k, Word.limit ≤ (shape.take k).prod) ∨
        Word.limit ≤ t.bytes * shape.prod := by
  rw [← Word.product?_eq_none_iff, byteSize?]
  rcases hproduct : Word.product? shape with _ | count
  · exact iff_of_true rfl (.inl rfl)
  · rw [Option.bind_some, Word.mul?_eq_none_iff, Word.prod_eq_of_product? hproduct]
    exact ⟨.inr, fun h => h.resolve_left (Option.some_ne_none count)⟩

/-! ## Ends of requests -/

variable {ε α β : Type}

/-- How a request for memory of some size ends, where a live slot under its key has `live?` bytes
    and the allocator has these answers. Refusals are seen from the operation that makes the
    request. -/
inductive RequestEnds (view : DeviceError → ε) (key : Nat) (live? : Option Nat)
    (answer : Nat → Grant) : Option Nat → Except (Fault ε) α → Prop where
  /-- The size needs more than a word. -/
  | unsized : RequestEnds view key live? answer none (.error .trap)
  | present {size : Nat} {a : α} (hlive : live? = some size) :
      RequestEnds view key live? answer (some size) (.ok a)
  | mismatched {size other : Nat} (hlive : live? = some other) (hother : other ≠ size) :
      RequestEnds view key live? answer (some size)
        (.error (.error (view (.slotMismatch key other size))))
  | granted {size : Nat} {block : Block} {a : α} (hlive : live? = none)
      (hgrant : answer size = .ok block) :
      RequestEnds view key live? answer (some size) (.ok a)
  | refused {size : Nat} {device reason : String} (hlive : live? = none)
      (hrefusal : answer size = .error (.error (.allocationFailed device size reason))) :
      RequestEnds view key live? answer (some size)
        (.error (.error (view (.allocationFailed device size reason))))

/-- An operation that makes a request, and then something of the memory, ends as the request does. -/
theorem RequestEnds.mapError_bind {key : Nat} {live? size? : Option Nat} {answer : Nat → Grant}
    {s : Store} {view : DeviceError → ε} {act : Action DeviceError α} {next : α → Action ε β}
    (h : RequestEnds id key live? answer size? (exec act s).1)
    (hnext : ∀ a s, ∃ b, (exec (next a) s).1 = .ok b) :
    RequestEnds view key live? answer size? (exec (act.mapError view >>= next) s).1 := by
  rcases hrun : exec act s with ⟨fault | a, s'⟩
  · rw [exec_bind_of_error (exec_mapError_of_error hrun)]
    rw [hrun] at h
    cases h with
    | unsized => exact .unsized
    | mismatched hlive hother => exact .mismatched hlive hother
    | refused hlive hrefusal => exact .refused hlive hrefusal
  · rw [exec_bind_of_ok (exec_mapError_eq_ok_iff.mpr hrun)]
    rw [hrun] at h
    obtain ⟨b, hb⟩ := hnext a s'
    cases h with
    | present hlive => exact hb ▸ .present hlive
    | granted hlive hgrant => exact hb ▸ .granted hlive hgrant

/-- What an allocator answers to requests. -/
def Store.answer (A : AllocatorId) (zeroed : Bool) (s : Store) (size : Nat) : Grant :=
  (s.alloc A size zeroed).1

/-- The allocator grants every request or refuses it with its size. -/
def Store.Answers (A : AllocatorId) (s : Store) : Prop :=
  ∀ size zeroed, (∃ block, s.answer A zeroed size = .ok block) ∨
    ∃ device reason, s.answer A zeroed size =
      .error (.error (.allocationFailed device size reason))

namespace Store.Answers

variable {A : AllocatorId} {s : Store} {t : ScalarType} {shape : List Nat}

theorem of_accounts {stack : Stack} {held : Multiset Tag} (hstack : s.allocators[A]? = some stack)
    (haccounts : stack.Accounts held)
    (hroom : Tag.total held + stack.parkedBytes + HostMemory.addressable ≤ Word.limit) :
    s.Answers A := by
  intro size zeroed
  have halloc : s.answer A zeroed size = (stack.alloc size zeroed).1 := by
    rw [Store.answer, Store.alloc, hstack]
  rw [halloc]
  exact haccounts.answer hroom size zeroed

/-- A request that is passed on to the allocator ends as the allocator answers. -/
theorem ends (hs : s.Answers A) (key size : Nat) (zeroed : Bool) (f : Block → α) :
    RequestEnds id key none (s.answer A zeroed) (some size) ((s.answer A zeroed size).map f) := by
  rcases hs size zeroed with ⟨block, hgrant⟩ | ⟨device, reason, hrefusal⟩
  · have hends : RequestEnds id key none (s.answer A zeroed) (some size) (.ok (f block)) :=
      .granted rfl hgrant
    rwa [hgrant]
  · have hends : RequestEnds id key none (s.answer A zeroed) (some size)
        (.error (.error (.allocationFailed device size reason)) : Except _ α) :=
      .refused rfl hrefusal
    rwa [hrefusal]

theorem allocate (hs : s.Answers A) (t : ScalarType) (shape : List Nat) (zeroed : Bool) :
    RequestEnds id 0 none (s.answer A zeroed) (byteSize? t shape)
      (exec (Buffer.allocate A t shape zeroed) s).1 := by
  cases hsize : byteSize? t shape with
  | none =>
    have htrap : exec (Buffer.allocate A t shape zeroed) s = (.error .trap, s) := by
      refine exec_bind_of_error ?_
      rw [Buffer.create, hsize]
      rfl
    rw [htrap]
    exact .unsized
  | some size =>
    rw [Buffer.outcome_allocate hsize]
    exact hs.ends 0 size zeroed _

/-- A pool asks its allocator only if nothing is live under the key. -/
theorem acquire {p : PoolId} (hs : s.Answers (Pool.allocatorOf p s)) (key : PoolKey)
    (t : ScalarType) (shape : List Nat) :
    RequestEnds id key.id ((Pool.live? p key s).map s.sizeOf)
      (s.answer (Pool.allocatorOf p s) false) (byteSize? t shape)
      (exec (Pool.acquire p key t shape) s).1 := by
  cases hsize : byteSize? t shape with
  | none =>
    rw [Pool.exec_acquire_trap hsize]
    exact .unsized
  | some size =>
    cases hlive : Pool.live? p key s with
    | none =>
      rw [Pool.outcome_acquire_new hsize hlive]
      exact hs.ends key.id size false _
    | some B =>
      rw [Pool.exec_acquire_live hsize hlive]
      split
      next hsame => exact .present (congrArg some hsame)
      next hother => exact .mismatched rfl hother

end Store.Answers

namespace BlockArray

variable {A : AllocatorId} {t : ScalarType} {e : ElementShape} {s : Store}

theorem requestEnds_new (hs : s.Answers A) (e : ElementShape) (t : ScalarType) (len : Nat) :
    RequestEnds ArrayError.device 0 none (s.answer A false)
      (DeviceMemory.byteSize? t (bufferShape e len)) (exec (new e t A len) s).1 :=
  (hs.allocate t (bufferShape e len) false).mapError_bind fun _ _ => ⟨_, rfl⟩

/-- A shared array without memory asks its pool for it. -/
theorem requestEnds_acquire {a : BlockArray t e} {p : PoolId} {key : PoolKey}
    (hs : s.Answers (Pool.allocatorOf p s)) (hbuffer : a.buffer = none)
    (hshared : a.ownership = .shared key) (hpool : a.pool = some p) :
    RequestEnds ArrayError.device key.id ((Pool.live? p key s).map s.sizeOf)
      (s.answer (Pool.allocatorOf p s) false) (DeviceMemory.byteSize? t a.shape)
      (exec a.acquire s).1 := by
  rw [BlockArray.acquire, hbuffer, hshared, hpool]
  exact (hs.acquire key t a.shape).mapError_bind fun _ _ => ⟨_, rfl⟩

/-- How every request for memory of an allocator ends, whether a buffer, a pool or an array makes
    it. -/
structure EveryRequestEnds (A : AllocatorId) (s : Store) : Prop where
  allocate : ∀ t shape zeroed,
    RequestEnds id 0 none (s.answer A zeroed) (DeviceMemory.byteSize? t shape)
      (exec (Buffer.allocate A t shape zeroed) s).1
  acquire : ∀ p key t shape, Pool.allocatorOf p s = A →
    RequestEnds id key.id ((Pool.live? p key s).map s.sizeOf) (s.answer A false)
      (DeviceMemory.byteSize? t shape) (exec (Pool.acquire p key t shape) s).1
  new : ∀ e t len,
    RequestEnds ArrayError.device 0 none (s.answer A false)
      (DeviceMemory.byteSize? t (bufferShape e len)) (exec (new e t A len) s).1
  /-- Number zero asks for memory at once. -/
  owned : ∀ e t p len, Pool.allocatorOf p s = A →
    RequestEnds ArrayError.device 0 none (s.answer A false)
      (DeviceMemory.byteSize? t (bufferShape e len)) (exec (withId e t p 0 len) s).1
  /-- Any other number asks for none yet. -/
  keyed : ∀ e t p number len, number ≠ 0 →
    ∃ a, exec (withId e t p number len) s = (.ok a, s.addPoolHandle p)
  slot : ∀ {t e} (a : BlockArray t e) p key, a.buffer = none → a.ownership = .shared key →
    a.pool = some p → Pool.allocatorOf p s = A →
    RequestEnds ArrayError.device key.id ((Pool.live? p key s).map s.sizeOf) (s.answer A false)
      (DeviceMemory.byteSize? t a.shape) (exec a.acquire s).1
  /-- What has memory does not ask again. -/
  again : ∀ {t e} (a : BlockArray t e) key, a.isAcquired → a.ownership = .shared key →
    exec a.acquire s = (.ok (false, a), s)

/-- Every request whose size is a word ends as a live slot or else the allocator answers it, and an
    allocator that owes little enough answers with memory or a refusal. It is not asked for other
    sizes: the request traps. -/
theorem requests_end {stack : Stack} {held : Multiset Tag} (hstack : s.allocators[A]? = some stack)
    (haccounts : stack.Accounts held)
    (hroom : Tag.total held + stack.parkedBytes + HostMemory.addressable ≤ Word.limit) :
    EveryRequestEnds A s ∧
      ∀ t shape, DeviceMemory.byteSize? t shape = none ↔
        (∃ k, Word.limit ≤ (shape.take k).prod) ∨ Word.limit ≤ t.bytes * shape.prod := by
  have hanswers : s.Answers A := .of_accounts hstack haccounts hroom
  refine ⟨⟨fun t shape zeroed => hanswers.allocate t shape zeroed, ?_,
    fun e t len => requestEnds_new hanswers e t len, ?_, ?_, ?_, ?_⟩,
    fun t shape => byteSize?_eq_none_iff⟩
  · rintro p key t shape rfl
    exact hanswers.acquire key t shape
  · rintro e t p len rfl
    exact requestEnds_new hanswers e t len
  · intro e t p number len hnumber
    have hkey : PoolKey.ofNat? number = some ⟨number, hnumber⟩ := dif_pos hnumber
    refine ⟨⟨len, none, .shared ⟨number, hnumber⟩, some p, Grid.default⟩, ?_⟩
    rw [withId, hkey]
    rfl
  · rintro t e a p key hbuffer hshared hpool rfl
    exact requestEnds_acquire hanswers hbuffer hshared hpool
  · intro t e a key hacquired hshared
    obtain ⟨b, hbuffer⟩ := Option.isSome_iff_exists.mp hacquired
    exact exec_acquire_again hbuffer hshared s

/-- A device that has granted nothing yet, and a pool on it. -/
def freshDevice : Store :=
  ((Store.empty.addStack (.ofDevice 4)).2.addPool 0 false).2

/-- The most integers of 64 bits whose size is a word are asked for, -/
theorem requests_end_freshDevice :
    RequestEnds ArrayError.device 0 none (freshDevice.answer 0 false) (some (2 ^ 64 - 8))
      (exec (new .scalar .int64 0 (2 ^ 61 - 1)) freshDevice).1 := by
  have hstack : freshDevice.allocators[0]? = some (Stack.ofDevice 4) := rfl
  have haccounts : (Stack.ofDevice 4).Accounts 0 := Stack.accounts_new _ _
  have hroom : Tag.total 0 + (Stack.ofDevice 4).parkedBytes + HostMemory.addressable ≤
      Word.limit := by
    rw [Stack.ofDevice, Stack.parkedBytes_new]
    decide
  have hsize : DeviceMemory.byteSize? .int64 (bufferShape .scalar (2 ^ 61 - 1)) =
      some (2 ^ 64 - 8) := rfl
  exact hsize ▸ (requests_end hstack haccounts hroom).1.new .scalar .int64 (2 ^ 61 - 1)

/-- and one more traps, whoever asks, as do lengths that come before a zero. -/
theorem requests_trap_on_wide_sizes :
    exec (Buffer.allocate 0 .int64 [2 ^ 61] false) freshDevice = (.error .trap, freshDevice) ∧
      exec (Pool.acquire 0 ⟨1, Nat.one_ne_zero⟩ .int64 [2 ^ 61]) freshDevice =
        (.error .trap, freshDevice) ∧
      exec (new .scalar .int64 0 (2 ^ 61)) freshDevice = (.error .trap, freshDevice) ∧
      exec (withId .scalar .int64 0 0 (2 ^ 61)) freshDevice = (.error .trap, freshDevice) ∧
      exec (acquire (⟨2 ^ 61, none, .shared ⟨1, Nat.one_ne_zero⟩, some 0, Grid.default⟩ :
        BlockArray .int64 .scalar)) freshDevice = (.error .trap, freshDevice) ∧
      exec (Buffer.allocate 0 .int32 [2 ^ 63, 2, 0] false) freshDevice =
        (.error .trap, freshDevice) :=
  ⟨rfl, rfl, rfl, rfl, rfl, rfl⟩

end BlockArray

end DeviceMemory
