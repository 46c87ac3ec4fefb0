-- SUMMARY: What each command of a session does.
import DeviceMemory.Session.Command
import DeviceMemory.Session.State
import DeviceMemory.Array.Accumulate

/-!
# Steps

Each command runs as one turn. A turn that ends with a fault leaves every name
as it was. A trap of an allocator that memory went back to is no end of the turn
but of the step: what the turn dropped by then stays dropped.
-/

namespace DeviceMemory.Session

/-! ## Descriptions -/

def describeBuffer (b : Buffer) : Turn BufferDescription :=
  Turn.ask fun s =>
    ⟨b.isAllocated s, b.size, b.offset, b.dtype, b.shape, b.numel, b.handles s, b.device s⟩

def describeContext (c : Context) : Turn Answer :=
  Turn.ask fun s =>
    .context ⟨c.device, c.rank, c.visible, c.grid.threadsPerBlock, Pool.retainsOf c.pool s,
      s.allocatorName c.allocator⟩

def describePool (p : PoolId) (keys : List PoolKey) : Turn Answer :=
  Turn.ask fun s =>
    .pool ⟨Pool.liveSlots p s, Pool.retainsOf p s, keys.map fun k => (k, Pool.contains p k s),
      (s.usage (Pool.allocatorOf p s)).outstandingBuffers⟩

def describeArray {t : ScalarType} {e : ElementShape} (a : BlockArray t e) : Turn Answer := do
  let numel ← Turn.onArray a.numel
  let byteSize ← Turn.onArray (Action.checked a.byteSize?)
  return .array ⟨a.len, a.shape, numel, byteSize, a.ownership, a.isAcquired, e.block,
    a.grid.threadsPerBlock⟩

/-- Name a new buffer and answer what it says of itself. -/
def answerBuffer (id : String) (b : Buffer) : Turn Answer := do
  let description ← describeBuffer b
  nameBuffer id b
  return .buffer description

/-! ## Allocators and blocks -/

def AllocatorCommand.run : AllocatorCommand → Turn Answer
  | .make id base layers => do
    let a ← Turn.change (Store.addStack (Stack.new base layers))
    nameAllocator id a
    return .text (← Turn.ask (Store.allocatorName a))
  | .usage alloc => do
    let a ← Turn.find allocators alloc
    return .usage (← Turn.ask (Store.usage a))
  | .trim alloc => do
    let a ← Turn.find allocators alloc
    Turn.onDevice (Action.update (Store.trim a))
    return .nothing
  | .synchronize alloc => do
    let _ ← Turn.find allocators alloc
    return .nothing
  | .drop id => do
    let existed := ((← get).allocators.lookup id).isSome
    modify fun s => { s with allocators := s.allocators.erase id }
    return .flag existed
  | .takeBlock id alloc size zeroed => do
    let a ← Turn.find allocators alloc
    let b ← Turn.onDevice (Action.of (Store.alloc a size zeroed))
    nameBlock id b
    return .rawBlock b
  | .writeBlock id bytes => do
    let b ← Turn.find blocks id
    let b ← Turn.onDevice (Action.checked (b.write? 0 bytes))
    nameBlock id b
    return .bytes b.bytes
  | .clearBlock id => do
    let b ← Turn.find blocks id
    nameBlock id b.cleared
    return .bytes b.cleared.bytes
  | .giveBlock id alloc => do
    let b ← Turn.find blocks id
    let a ← Turn.find allocators alloc
    modify fun s => { s with blocks := s.blocks.erase id }
    Turn.onDevice (Action.update (Store.free a b))
    return .nothing

/-! ## Buffers -/

def BufferCommand.run : BufferCommand → Turn Answer
  | .create id alloc t shape zeroed => do
    let a ← Turn.find allocators alloc
    answerBuffer id (← Turn.onDevice (Buffer.create a t shape zeroed))
  | .allocate id alloc t shape zeroed => do
    let a ← Turn.find allocators alloc
    answerBuffer id (← Turn.onDevice (Buffer.allocate a t shape zeroed))
  | .view id buf offset size => do
    let b ← Turn.find buffers buf
    answerBuffer id (← Turn.onDevice (b.view offset size))
  | .clone id buf => do
    let b ← Turn.find buffers buf
    answerBuffer id (← Turn.onDevice b.clone)
  | .detach id buf => do
    let b ← Turn.find buffers buf
    answerBuffer id (← Turn.onDevice b.detach)
  | .acquire buf => do
    let b ← Turn.find buffers buf
    Turn.onDevice b.acquire
    return .nothing
  | .zero buf => do
    let b ← Turn.find buffers buf
    Turn.onDevice b.zero
    return .nothing
  | .synchronize buf => do
    let _ ← Turn.find buffers buf
    return .nothing
  | .describe buf => do
    let b ← Turn.find buffers buf
    return .buffer (← describeBuffer b)
  | .shares buf other => do
    let b ← Turn.find buffers buf
    return .flag (b.shares (← Turn.find buffers other))
  | .usage buf => do
    let b ← Turn.find buffers buf
    return .usage (← Turn.ask fun s => s.usage (b.allocator s))
  | .write buf bytes => do
    let b ← Turn.find buffers buf
    Turn.onDevice (b.write bytes)
    return .nothing
  | .read buf size => do
    let b ← Turn.find buffers buf
    return .bytes (← Turn.onDevice (b.read (size.getD b.size)))
  | .copy buf source => do
    let b ← Turn.find buffers buf
    Turn.onDevice (b.copyFrom (← Turn.find buffers source))
    return .nothing
  | .drop id => do
    let old := (← get).buffers.lookup id
    modify fun s =>
      { s with store := dropOld Buffer.drop old s.store, buffers := s.buffers.erase id }
    return .flag old.isSome
  | .launch d t buf indices source n block g => do
    let destination ← Turn.find buffers buf
    let positions ← Turn.find buffers indices
    let values ← Turn.find buffers source
    Turn.onDevice (Kernel.launch d t destination positions values n block g)
    return .nothing
  | .reduce r t buf g => do
    let b ← Turn.find buffers buf
    return .scalar (← Turn.onDevice (Kernel.launchReduction r t b g)).literal

/-! ## Pools -/

def PoolCommand.run : PoolCommand → Turn Answer
  | .make id alloc retains => do
    let a ← Turn.find allocators alloc
    let p ← Turn.change (Store.addPool a retains)
    namePool id p
    return .flag retains
  | .clone id pool => do
    let p ← Turn.find pools pool
    Turn.onDevice (Action.update (Store.addPoolHandle p))
    namePool id p
    return .nothing
  | .acquire id pool key t shape => do
    let p ← Turn.find pools pool
    let (b, acquisition) ← Turn.onDevice (Pool.acquire p key t shape)
    let description ← describeBuffer b
    nameBuffer id b
    return .slot acquisition description
  | .describe pool keys => do
    describePool (← Turn.find pools pool) keys
  | .release pool key => do
    let p ← Turn.find pools pool
    return .flag (← Turn.change (Pool.release p key))
  | .clear pool => do
    let p ← Turn.find pools pool
    Turn.onDevice (Action.update (Store.clearPool p))
    return .nothing
  | .drop id => do
    let old := (← get).pools.lookup id
    modify fun s =>
      { s with store := dropOld Store.dropPoolHandle old s.store, pools := s.pools.erase id }
    return .flag old.isSome

/-! ## Registries and contexts -/

/-- The names that an allocator has, in order. -/
def namesOf (a : AllocatorId) (names : Names AllocatorId) : List String :=
  ((names.filter (·.2 = a)).map (·.1)).mergeSort fun x y => !(y < x)

def ContextCommand.run : ContextCommand → Turn Answer
  | .makeRegistry id => do
    nameRegistry id .empty
    return .nothing
  | .allocator id registry device capacity => do
    let r ← Turn.find registries registry
    let device ← Turn.ofExcept (Device.parse device)
    let (a, r) ← Turn.onDevice (r.get device capacity)
    nameRegistry registry r
    let sameAs := namesOf a (← get).allocators
    nameAllocator id a
    return .allocator (← Turn.ask (Store.allocatorName a)) sameAs
  | .sharedAllocator device => do
    let device ← Turn.ofExcept (Device.parse device)
    let (a, r) ← Turn.onDevice ((← get).shared.get device Allocator.defaultCapacity)
    let (host, r) ← Turn.onDevice (r.get .cpu Allocator.defaultCapacity)
    modify fun s => { s with shared := r }
    return .sharedAllocator (← Turn.ask (Store.allocatorName a)) (a = host)
  | .setUp id settings registry => do
    let config ← Turn.ofExcept (Config.ofSettings settings)
    let c ← match registry with
      | some name => do
        let (c, r) ← Turn.onDevice (Context.setUp (← Turn.find registries name) config)
        nameRegistry name r
        pure c
      | none => do
        let (c, r) ← Turn.onDevice (Context.setUp (← get).shared config)
        modify fun s => { s with shared := r }
        pure c
    let description ← describeContext c
    nameContext id c
    return description
  | .describe ctx => do
    describeContext (← Turn.find contexts ctx)
  | .shareAllocator id ctx => do
    let c ← Turn.find contexts ctx
    nameAllocator id c.allocator
    return .nothing
  | .sharePool id ctx => do
    let c ← Turn.find contexts ctx
    Turn.onDevice (Action.update (Store.addPoolHandle c.pool))
    namePool id c.pool
    return .nothing
  | .tearDown ctx => do
    let c ← Turn.find contexts ctx
    let (usage, c) ← Turn.change c.tearDown
    updateContext ctx c
    return .usage usage
  | .drop id => do
    let old := (← get).contexts.lookup id
    modify fun s =>
      { s with store := dropOld Context.drop old s.store, contexts := s.contexts.erase id }
    return .flag old.isSome

/-! ## Arrays -/

/-- The scalars that literals write. -/
def readLiterals (t : ScalarType) (name : String) (values : List Literal) :
    Turn (List (Scalar t)) :=
  Turn.required name (values.mapM (Scalar.ofLiteral? t))

def ArrayCommand.run : ArrayCommand → Turn Answer
  | .new id t e alloc len => do
    let a ← Turn.find allocators alloc
    nameArray id ⟨t, e, ← Turn.onArray (BlockArray.new e t a len)⟩
    return .nothing
  | .fromHost id t e alloc values => do
    let a ← Turn.find allocators alloc
    let values ← readLiterals t id values
    nameArray id ⟨t, e, ← Turn.onArray (BlockArray.fromHost e t a values)⟩
    return .nothing
  | .shared id t e pool key len => do
    let p ← Turn.find pools pool
    nameArray id ⟨t, e, ← Turn.onArray (BlockArray.shared e t p key len)⟩
    return .nothing
  | .withId id t e pool key len => do
    let p ← Turn.find pools pool
    nameArray id ⟨t, e, ← Turn.onArray (BlockArray.withId e t p key len)⟩
    return .nothing
  | .inContext id t e ctx len => do
    let c ← Turn.find contexts ctx
    nameArray id ⟨t, e, ← Turn.onArray (BlockArray.inContext e t c len)⟩
    return .nothing
  | .sharedIn id t e ctx key len => do
    let c ← Turn.find contexts ctx
    nameArray id ⟨t, e, ← Turn.onArray (BlockArray.sharedIn e t c key len)⟩
    return .nothing
  | .setGrid arr g => do
    let a ← Turn.find arrays arr
    updateArray arr ⟨a.t, a.e, a.array.withGrid g⟩
    return .nothing
  | .describe arr => do
    describeArray (← Turn.find arrays arr).array
  | .acquire arr => do
    let a ← Turn.find arrays arr
    let (toWrite, array) ← Turn.onArray a.array.acquire
    updateArray arr ⟨a.t, a.e, array⟩
    return .flag toWrite
  | .zero arr => do
    let a ← Turn.find arrays arr
    Turn.onArray a.array.zero
    return .nothing
  | .toHost arr => do
    let a ← Turn.find arrays arr
    return .scalars ((← Turn.onArray a.array.toHost).map Scalar.literal)
  | .ofHost arr values => do
    let a ← Turn.find arrays arr
    let values ← readLiterals a.t arr values
    Turn.onArray (a.array.ofHost values)
    return .nothing
  | .copy arr source index count => do
    let a ← Turn.find arrays arr
    let ⟨_, b⟩ ← Turn.required source ((← Turn.find arrays source).ofType? a.t)
    Turn.onArray (a.array.copyFrom index b count)
    return .nothing
  | .scatter arr indices source n => do
    let a ← Turn.find arrays arr
    let positions ← Turn.required indices ((← Turn.find arrays indices).as? .int32 .scalar)
    let values ← Turn.required source ((← Turn.find arrays source).as? a.t a.e)
    Turn.onArray (a.array.scatter positions values n)
    return .nothing
  | .gather arr indices source start n => do
    let a ← Turn.find arrays arr
    let positions ← Turn.required indices ((← Turn.find arrays indices).as? .int32 .scalar)
    let values ← Turn.required source ((← Turn.find arrays source).as? a.t a.e)
    Turn.onArray (a.array.gather start positions values n)
    return .nothing
  | .reduce r arr => do
    let a ← Turn.find arrays arr
    return .scalar (← Turn.onArray (a.array.reduce r)).literal
  | .summarize arr => do
    let a ← Turn.find arrays arr
    return .summary (← Turn.onArray a.array.summarize)
  | .shareBuffer id arr => do
    let a ← Turn.find arrays arr
    match a.array.buffer with
    | none => return .nothing
    | some b => answerBuffer id (← Turn.onDevice b.clone)
  | .drop id => do
    let old := (← get).arrays.lookup id
    modify fun s =>
      { s with store := dropOld (·.array.drop) old s.store, arrays := s.arrays.erase id }
    return .flag old.isSome

/-! ## Sessions -/

def Command.run : Command → Turn Answer
  | .allocator c => c.run
  | .buffer c => c.run
  | .pool c => c.run
  | .context c => c.run
  | .array c => c.run

/-- Run a command. The reply shows what it wrote to the journal, and a trap that
    the store kept is a trap of the command. -/
def step (session : Session) (command : Command) : Reply × Session :=
  let quiet := { session with store := { session.store with journal := [], trapped := false } }
  let (outcome, next) := StateT.run (ExceptT.run command.run) quiet
  (⟨if next.store.trapped then .error .trap else outcome, next.store.journal⟩, next)

/-- The session after a list of commands. -/
def after (session : Session) (commands : List Command) : Session :=
  commands.foldl (fun session command => (session.step command).2) session

end DeviceMemory.Session
