-- SUMMARY: Buffers that lie in their allocations: how they come about, and that what is done with them never misses its bytes.
import DeviceMemory.Proofs.Buffer.Changes

/-!
# Well-formed buffers

A buffer is `Formed` if its range lies in its allocation, the size of that fits in a
word, and its shape has as many entries as the range has whole scalars. Buffers come
about formed (`formed_of_exec_create` and so on, views of views included) and nothing
that happens to a store changes that (`Formed.leads`).

Bytes of a formed buffer are always there to be read and written. So an operation
ends as its requests for memory and its checks end (`Formed.outcome_zero` and so
on), and no operation stops at a range.
-/

namespace DeviceMemory

/-! ## Products -/

theorem Word.prod_eq_of_product? {factors : List Nat} {n : Nat}
    (h : Word.product? factors = some n) : factors.prod = n := by
  have hfold : ∀ (factors : List Nat) (start : Nat),
      factors.foldlM Word.mul? start = some n → start * factors.prod = n := by
    intro factors
    induction factors with
    | nil =>
      rintro start ⟨⟩
      rw [List.prod_nil, Nat.mul_one]
    | cons factor factors ih =>
      intro start hstart
      rw [List.foldlM_cons] at hstart
      obtain ⟨next, hnext, hrest⟩ := Option.bind_eq_some_iff.mp hstart
      obtain ⟨-, rfl⟩ := Word.mul?_eq_some_iff.mp hnext
      rw [List.prod_cons, ← Nat.mul_assoc]
      exact ih _ hrest
  simpa using hfold factors 1 h

namespace Store

variable {s s' : Store} {written : Set AllocationId} {A : AllocationId}

/-! ## Sizes of allocations -/

theorem sizeOf_eq {a : Allocation} (ha : s.allocations[A]? = some a) : s.sizeOf A = a.size := by
  rw [sizeOf, ha]
  rfl

/-- An allocation keeps its size. -/
theorem Leads.sizeOf_eq (h : s.Leads written s') (hA : A < s.allocations.length) :
    s'.sizeOf A = s.sizeOf A := by
  have hstep {id : AllocationId} {a a' : Allocation} {s₁ : Store}
      (ha : s₁.allocations[id]? = some a) (hsize : a'.size = a.size) :
      (s₁.setAllocation id a').sizeOf A = s₁.sizeOf A := by
    have hlt : id < s₁.allocations.length := (List.getElem?_eq_some_iff.mp ha).1
    rw [sizeOf, sizeOf, setAllocation]
    by_cases hid : id = A
    · subst hid
      rw [List.getElem?_set_self hlt, ha, Option.map_some, Option.map_some, hsize]
    · rw [List.getElem?_set_ne hid]
  refine (h.preserves (P := fun s₁ => A < s₁.allocations.length ∧ s₁.sizeOf A = s.sizeOf A)
    (fun {s₁ s₂} hchange hs₁ => ⟨Nat.lt_of_lt_of_le hs₁.1 hchange.length_le, ?_⟩)
    ⟨hA, rfl⟩).2
  rw [← hs₁.2]
  cases hchange with
  | made => rw [sizeOf, sizeOf, addAllocation, List.getElem?_append_left hs₁.1]
  | counted ha => exact hstep ha rfl
  | unused ha => exact hstep ha rfl
  | granted ha => exact hstep ha rfl
  | overwritten ha => exact hstep ha rfl
  | _ => rfl

end Store

namespace Buffer

open DeviceMemory.Action

variable {s s' : Store} {b v source : Buffer} {t : ScalarType} {shape : List Nat}
  {written : Set AllocationId} {ε : Type} {h : Holdings}

/-- The range lies in its allocation, whose size fits in a word, and the shape counts the
    whole scalars of the range. -/
structure Formed (b : Buffer) (s : Store) : Prop where
  known : b.allocation < s.allocations.length
  fits : b.offset + b.size ≤ s.sizeOf b.allocation
  word : s.sizeOf b.allocation < Word.limit
  counted : b.shape.prod = b.numel

/-- Nothing that happens to a store deforms a buffer. -/
theorem Formed.leads (hb : b.Formed s) (h : s.Leads written s') : b.Formed s' where
  known := Nat.lt_of_lt_of_le hb.known h.length_le
  fits := by
    rw [h.sizeOf_eq hb.known]
    exact hb.fits
  word := by
    rw [h.sizeOf_eq hb.known]
    exact hb.word
  counted := hb.counted

/-! ## Making handles -/

theorem numel_whole {A : AllocationId} {size : Nat} (hsize : byteSize? t shape = some size) :
    shape.prod = (whole A size t shape).numel := by
  obtain ⟨count, hcount, hbytes⟩ := Option.bind_eq_some_iff.mp hsize
  obtain ⟨-, rfl⟩ := Word.mul?_eq_some_iff.mp hbytes
  rw [Word.prod_eq_of_product? hcount]
  exact (Nat.mul_div_cancel_left count t.bytes_pos).symm

/-- A buffer over a whole allocation is formed if its shape has the size of that. -/
theorem formed_whole {A : AllocationId} {a : Allocation} (ha : s.allocations[A]? = some a)
    (hsize : byteSize? t shape = some a.size) : (whole A a.size t shape).Formed s where
  known := (List.getElem?_eq_some_iff.mp ha).1
  fits := by
    rw [show (whole A a.size t shape).allocation = A from rfl, Store.sizeOf_eq ha]
    exact Nat.le_of_eq (Nat.zero_add _)
  word := by
    rw [show (whole A a.size t shape).allocation = A from rfl, Store.sizeOf_eq ha]
    obtain ⟨count, -, hbytes⟩ := Option.bind_eq_some_iff.mp hsize
    obtain ⟨hlt, hproduct⟩ := Word.mul?_eq_some_iff.mp hbytes
    exact hproduct ▸ hlt
  counted := numel_whole hsize

theorem formed_addAllocation {allocator : AllocatorId} {size : Nat} {zeroed : Bool}
    (hsize : byteSize? t shape = some size) :
    (whole s.allocations.length size t shape).Formed (s.addAllocation allocator size zeroed).2 :=
  formed_whole (a := ⟨allocator, size, zeroed, 1, none⟩) List.getElem?_concat_length hsize

theorem formed_of_exec_create {allocator : AllocatorId} {zeroed : Bool}
    (h : exec (create allocator t shape zeroed : Action ε Buffer) s = (.ok b, s')) :
    b.Formed s' := by
  obtain ⟨hsize, hb, rfl⟩ := of_exec_create h
  rw [hb] at hsize ⊢
  exact formed_addAllocation hsize

theorem formed_of_exec_allocate {allocator : AllocatorId} {zeroed : Bool}
    (h : exec (allocate allocator t shape zeroed) s = (.ok b, s')) : b.Formed s' := by
  obtain ⟨hsize, hb, rfl⟩ := of_exec_allocate h
  have hformed : b.Formed (s.addAllocation allocator b.size zeroed).2 := by
    rw [hb] at hsize ⊢
    exact formed_addAllocation hsize
  have hleads : (s.addAllocation allocator b.size zeroed).2.Leads ∅
      ((s.addAllocation allocator b.size zeroed).2.allocate b.allocation).2 := .allocate ..
  exact hformed.leads hleads

/-- The store of an action that ended well is one that its changes lead to. -/
theorem leads_of_exec {α : Type} {act : Action ε α} {a : α} (hact : act.Leads written)
    (h : exec act s = (.ok a, s')) : s.Leads written s' := by
  have hleads := hact s
  rw [h] at hleads
  exact hleads

theorem Formed.of_exec_clone (hb : b.Formed s)
    (h : exec (b.clone : Action ε Buffer) s = (.ok v, s')) : v.Formed s' := by
  have hleads : s.Leads ∅ s' := leads_of_exec (leads_clone b) h
  cases h
  exact hb.leads hleads

/-- A view is made of a range inside the buffer. -/
theorem of_exec_view {offset size : Nat} (h : exec (b.view offset size) s = (.ok v, s')) :
    offset + size ≤ b.size ∧
      v = { b with
        offset := b.offset + offset, size := size, shape := [size / b.dtype.bytes] } ∧
      s' = s.addHandle b.allocation := by
  obtain ⟨hinside, h⟩ := of_exec_ensure_bind h
  cases h
  exact ⟨hinside, rfl, rfl⟩

theorem exec_view {offset size : Nat} (hinside : offset + size ≤ b.size) (s : Store) :
    exec (b.view offset size) s =
      (.ok { b with
        offset := b.offset + offset, size := size, shape := [size / b.dtype.bytes] },
        s.addHandle b.allocation) := by
  rw [view, exec_ensure_bind hinside]
  rfl

theorem Formed.of_exec_view {offset size : Nat} (hb : b.Formed s)
    (h : exec (b.view offset size) s = (.ok v, s')) : v.Formed s' := by
  have hleads : s.Leads ∅ s' := leads_of_exec (leads_view b offset size) h
  obtain ⟨hinside, rfl, -⟩ := Buffer.of_exec_view h
  have hb' := hb.leads hleads
  have hfits := hb'.fits
  refine ⟨hb'.known, ?_, hb'.word, ?_⟩
  · change b.offset + offset + size ≤ s'.sizeOf b.allocation
    omega
  · exact List.prod_singleton

theorem formed_of_exec_detach (h : exec source.detach s = (.ok b, s')) : b.Formed s' := by
  obtain ⟨allocator, s₁, -, h⟩ := exists_of_exec_bind h
  obtain ⟨made, s₂, hmade, h⟩ := exists_of_exec_bind h
  obtain ⟨_, s₃, hfill, h⟩ := exists_of_exec_bind h
  cases h
  have hleads : s₂.Leads {b.allocation} s' := by
    refine leads_of_exec ?_ (of_exec_orDrop hfill)
    refine (leads_acquire source).bind fun _ => (leads_ensure _ _).bind fun _ => ?_
    exact (leads_load source).bind fun bytes => leads_store b bytes
  exact (formed_of_exec_allocate hmade).leads hleads

/-! ## Views of views -/

/-- A view of a view lies in both, and is the view of the whole range from the sum of the
    offsets on. -/
theorem view_view_iff {offset₁ size₁ offset₂ size₂ : Nat} :
    (∃ v w s₁ s₂, exec (b.view offset₁ size₁) s = (.ok v, s₁) ∧
        exec (v.view offset₂ size₂) s₁ = (.ok w, s₂)) ↔
      offset₁ + size₁ ≤ b.size ∧ offset₂ + size₂ ≤ size₁ := by
  constructor
  · rintro ⟨v, w, s₁, s₂, hv, hw⟩
    obtain ⟨hinside, rfl, -⟩ := of_exec_view hv
    obtain ⟨hinside', -, -⟩ := of_exec_view hw
    exact ⟨hinside, hinside'⟩
  · rintro ⟨hinside, hinside'⟩
    exact ⟨_, _, _, _, exec_view hinside s, exec_view hinside' _⟩

theorem exec_view_of_view_view {w : Buffer} {s₁ s₂ : Store} {offset₁ size₁ offset₂ size₂ : Nat}
    (hv : exec (b.view offset₁ size₁) s = (.ok v, s₁))
    (hw : exec (v.view offset₂ size₂) s₁ = (.ok w, s₂)) :
    exec (b.view (offset₁ + offset₂) size₂) s = (.ok w, s₁) := by
  obtain ⟨hinside, rfl, rfl⟩ := of_exec_view hv
  obtain ⟨hinside', rfl, -⟩ := of_exec_view hw
  change offset₂ + size₂ ≤ size₁ at hinside'
  rw [exec_view (by omega)]
  simp only [Nat.add_assoc]

/-! ## Outcomes -/

/-- Memory has the size of its allocation. -/
theorem Formed.backed (hb : b.Formed s) (hs : s.Balanced h)
    (hblock : (s.block? b.allocation).isSome = true) : b.Backed s := by
  obtain ⟨block, hblock⟩ := Option.isSome_iff_exists.mp hblock
  obtain ⟨a, ha, hab⟩ := exists_of_block? hblock
  refine ⟨block, hblock, ?_⟩
  rw [hs.sizes a (List.mem_of_getElem? ha) block hab, ← Store.sizeOf_eq ha]
  exact hb.fits

/-- Once a request for memory was granted, the range lies in memory. -/
theorem Formed.of_exec_acquire {b' : Buffer} (hb : b.Formed s) (hs : s.Balanced h)
    (hheld : b'.allocation ∈ h.handles) (hacquire : exec b'.acquire s = (.ok (), s')) :
    b.Formed s' ∧ s'.Balanced h := by
  have hleads : s.Leads ∅ s' := leads_of_exec (leads_acquire b') hacquire
  exact ⟨hb.leads hleads, of_exec_triple (triple_acquire hheld) hs hacquire⟩

theorem Formed.backed_of_acquire (hb : b.Formed s) (hs : s.Balanced h)
    (hheld : b.allocation ∈ h.handles) (hacquire : exec b.acquire s = (.ok (), s')) :
    b.Backed s' := by
  obtain ⟨hb', hs'⟩ := hb.of_exec_acquire hs hheld hacquire
  exact hb'.backed hs' (Option.isSome_iff_exists.mpr (Store.block?_of_allocate hacquire))

/-- What begins with a request for memory can begin once that was granted. -/
theorem exec_acquire_bind {α : Type} (hacquire : exec b.acquire s = (.ok (), s'))
    (hb : b.Backed s') (next : Unit → Action DeviceError α) :
    exec (b.acquire >>= next) s = exec (b.acquire >>= next) s' := by
  rw [exec_bind_of_ok hacquire, exec_bind_of_ok hb.exec_acquire]

/-- Zeroing is writing zeros, of whatever size the range is and whether or not it is all of its
    allocation. -/
theorem Formed.zero_eq_write (hb : b.Formed s) (hs : s.Balanced h)
    (hheld : b.allocation ∈ h.handles) :
    exec b.zero s = exec (b.write (List.replicate b.size 0)) s := by
  rcases hacquire : exec b.acquire s with ⟨fault | _, s₁⟩
  · rw [zero, write, exec_bind_of_error hacquire, exec_bind_of_error hacquire]
  · have hbacked := hb.backed_of_acquire hs hheld hacquire
    rw [zero, write, exec_acquire_bind hacquire hbacked, exec_acquire_bind hacquire hbacked,
      ← zero, ← write, hbacked.zero_eq, hbacked.write_eq List.length_replicate.symm]

/-- Zeroing ends as the request for memory does. -/
theorem Formed.outcome_zero (hb : b.Formed s) (hs : s.Balanced h)
    (hheld : b.allocation ∈ h.handles) : (exec b.zero s).1 = (exec b.acquire s).1 := by
  rcases hacquire : exec b.acquire s with ⟨fault | _, s₁⟩
  · rw [zero, exec_bind_of_error hacquire]
  · have hbacked := hb.backed_of_acquire hs hheld hacquire
    rw [zero, exec_acquire_bind hacquire hbacked, ← zero, hbacked.zero_eq]

/-- Writing ends as the request for memory and the comparison of sizes do. -/
theorem Formed.outcome_write (hb : b.Formed s) (hs : s.Balanced h)
    (hheld : b.allocation ∈ h.handles) (bytes : List UInt8) :
    (exec (b.write bytes) s).1 =
      (exec (do
        b.acquire
        ensure (b.size = bytes.length) (.sizeMismatch b.size bytes.length)) s).1 := by
  rw [write, exec_bind, exec_bind]
  rcases hacquire : exec b.acquire s with ⟨fault | _, s₁⟩
  · rfl
  · have hbacked := hb.backed_of_acquire hs hheld hacquire
    simp only
    by_cases hlength : b.size = bytes.length
    · rw [exec_ensure_bind hlength, hbacked.exec_store hlength.symm, exec_ensure, if_pos hlength]
    · rw [exec_bind, exec_ensure, if_neg hlength]

/-- So does reading, and the bytes are those of the range. -/
theorem Formed.outcome_read (hb : b.Formed s) (hs : s.Balanced h)
    (hheld : b.allocation ∈ h.handles) (size : Nat) :
    (exec (b.read size) s).1 =
      (exec (do
        b.acquire
        ensure (b.size = size) (.sizeMismatch b.size size)
        Action.read b.bytes) s).1 := by
  rw [read, exec_bind, exec_bind]
  rcases hacquire : exec b.acquire s with ⟨fault | _, s₁⟩
  · rfl
  · have hbacked := hb.backed_of_acquire hs hheld hacquire
    simp only
    by_cases hlength : b.size = size
    · rw [exec_ensure_bind hlength, exec_ensure_bind hlength, hbacked.exec_load, exec_read]
    · rw [exec_bind, exec_bind, exec_ensure, if_neg hlength]

/-- What a detached copy asks for and checks. -/
def detachChecks (b : Buffer) : Action DeviceError Unit := do
  let allocator ← Action.read b.allocator
  let copy ← allocate allocator b.dtype [b.numel] false
  ensure (copy.size = b.size) (.sizeMismatch copy.size b.size)

/-- Copying a range with memory ends as the request for new memory and the comparison of sizes
    do, and a copy that was made holds the bytes of the range. -/
theorem Backed.outcome_detach (hb : b.Backed s) :
    (∃ fault s₁ s₂, exec b.detach s = (.error fault, s₁) ∧
        exec b.detachChecks s = (.error fault, s₂)) ∨
      ∃ copy s₁ s₂, exec b.detach s = (.ok copy, s₁) ∧ exec b.detachChecks s = (.ok (), s₂) ∧
        s.Extends s₁ ∧ copy.Backed s₁ ∧ copy.bytes s₁ = b.bytes s := by
  rw [detachChecks, exec_bind_of_ok (exec_read ..)]
  rcases hmade : exec (allocate (b.allocator s) b.dtype [b.numel] false) s with ⟨fault | copy, s₁⟩
  · refine .inl ⟨fault, s₁, s₁, ?_, exec_bind_of_error hmade⟩
    rw [detach, exec_bind_of_ok (exec_read ..), exec_bind_of_error hmade]
  obtain ⟨hbytes, -, -⟩ := of_exec_allocate hmade
  obtain ⟨block, s₂, halloc, hs₁⟩ := provided_of_exec_allocate hmade
  rw [exec_bind_of_ok hmade, exec_ensure]
  by_cases hsize : copy.size = b.size
  · rw [hsize] at hbytes halloc
    obtain ⟨hcopy, hsame⟩ := hb.copy block.address s₂.allocators
    exact .inr ⟨_, _, s₁, hb.exec_detach hbytes halloc, if_pos hsize, .append _ rfl, hcopy, hsame⟩
  · -- a range of more than whole scalars is refused, and the copy dropped
    have hextends : s.Extends s₁ := hs₁ ▸ .append _ rfl
    have hbacked : b.Backed s₁ := hb.of_kept fun _ => hextends.block?
    refine .inl ⟨.error (.sizeMismatch copy.size b.size), s₁.dropHandle copy.allocation, s₁, ?_,
      if_neg hsize⟩
    rw [detach, exec_bind_of_ok (exec_read ..), exec_bind_of_ok hmade]
    refine exec_bind_of_error ?_
    rw [orDrop, exec_of, exec_bind_of_ok hbacked.exec_acquire, exec_bind, exec_ensure,
      if_neg hsize]

/-- What a copy between ranges asks for and checks. Between ranges of one allocation it makes a
    detached copy. -/
def copyChecks (b source : Buffer) : Action DeviceError Unit := do
  b.acquire
  source.acquire
  ensure (b.size = source.size) (.sizeMismatch b.size source.size)
  if b.allocation = source.allocation ∧ b.offset ≠ source.offset then source.detachChecks

/-- Copying ends as its requests for memory and its comparisons of sizes do. -/
theorem Formed.outcome_copyFrom (hb : b.Formed s) (hsource : source.Formed s) (hs : s.Balanced h)
    (hheld : b.allocation ∈ h.handles) (hsourceHeld : source.allocation ∈ h.handles) :
    (exec (b.copyFrom source) s).1 = (exec (b.copyChecks source) s).1 := by
  rw [copyFrom, copyChecks, exec_bind, exec_bind]
  rcases hacquire : exec b.acquire s with ⟨fault | _, s₁⟩
  · rfl
  obtain ⟨hsource₁, hs₁⟩ := hsource.of_exec_acquire hs hheld hacquire
  obtain ⟨block, hblock, hfits⟩ := hb.backed_of_acquire hs hheld hacquire
  simp only
  rw [exec_bind, exec_bind]
  rcases hacquire' : exec source.acquire s₁ with ⟨fault | _, s₂⟩
  · rfl
  have hbacked : b.Backed s₂ := ⟨block, Store.block?_allocate hacquire' hblock, hfits⟩
  have hbacked' : source.Backed s₂ := hsource₁.backed_of_acquire hs₁ hsourceHeld hacquire'
  simp only
  by_cases hsize : b.size = source.size
  swap
  · rw [exec_bind, exec_bind, exec_ensure, if_neg hsize]
  rw [exec_ensure_bind hsize, exec_ensure_bind hsize]
  by_cases hallocation : b.allocation = source.allocation
  swap
  · rw [if_pos hallocation, if_neg fun hboth => hallocation hboth.1,
      exec_bind_of_ok hbacked'.exec_load,
      hbacked.exec_store (hbacked'.length_bytes.trans hsize.symm)]
    rfl
  rw [if_neg fun hne => hne hallocation]
  by_cases hoffset : b.offset = source.offset
  · rw [if_neg fun hne => hne hoffset, if_neg fun hboth => hboth.2 hoffset]
  rw [if_pos hoffset, if_pos ⟨hallocation, hoffset⟩]
  rcases hbacked'.outcome_detach with
    ⟨fault, s₃, s₄, hdetach, hchecks⟩ | ⟨copy, s₃, s₄, hdetach, hchecks, hextends, hcopy, hsame⟩
  · rw [exec_bind_of_error hdetach, hchecks]
  have hbacked₃ : b.Backed s₃ := hbacked.of_kept fun _ => hextends.block?
  have hlength : (copy.bytes s₃).length = b.size := by
    rw [hsame, hbacked'.length_bytes, hsize]
  rw [exec_bind_of_ok hdetach, hchecks, thenDrop, exec_of, exec_bind_of_ok hcopy.exec_load,
    hbacked₃.exec_store hlength]

end Buffer

end DeviceMemory
