import VMCIQueuePair.Resources

/-! `VMCIQueuePair_Alloc`, `VMCIQueuePair_AllocPriv` and `VMCIQueuePairAllocHelper`.
The helper is split at the code's labels: `allocAttach` is the branch for a handle
already in the list (local attach, or one of its `errorKeepEntry` exits),
`allocCreate` the fresh create up to the PPN set, `allocInsert` the local checks or
the alloc hypercall and the insertion, and `allocOut` the `out:` label. Each exit to
`error:` releases what the call acquired: through `QueuePairEntryDestroy` once the
entry exists, the raw queues before. -/

namespace VMCIQueuePair

/-- What the collaborators of `VMCIQueuePairAllocHelper` answer during one call. -/
structure AllocEnv where
  deviceShutdown : Bool
  contextID : VMCIId
  attachResult : Int
  produceQ : Option Queue
  consumeQ : Option Queue
  entryMem : Bool
  hibernateFailure : Bool
  ppnSet : Option PPNSet
  ppnError : Int
  msgMem : Bool
  populateResult : Int
  allocResult : Int
  deriving DecidableEq, Repr

/-- What a call returns: its result, the values written to `*handle`, `*produceQ` and
`*consumeQ` (only on success), the globals after it, and its calls. -/
structure AllocOut where
  result : Int
  out : Option (VMCIHandle × Queue × Queue)
  state : State
  calls : List Call
  deriving DecidableEq, Repr

/-- `QueuePairNotifyPeerLocal`: the event it dispatches for `handle`. -/
def queuePairNotifyPeerLocal (attach : Bool) (handle : VMCIHandle) (contextID : VMCIId)
    (result : Int) : Call :=
  .dispatch ⟨if attach then .qpPeerAttach else .qpPeerDetach, contextID, handle⟩ result

/-- The message `VMCIQueuePairAlloc_HyperCall` fills in from `e`. -/
def allocMsg (e : QueuePairEntry) : Datagram :=
  .queuePairAlloc e.handle e.peer e.flags e.produceSize e.consumeSize e.numPPNs e.ppnSet

/-- `VMCIQueuePairAlloc_HyperCall`. -/
def vmciQueuePairAllocHyperCall (env : AllocEnv) (e : QueuePairEntry) : Int × List Call :=
  if e.numPPNs ≤ 2 then (vmciErrorInvalidArgs, [])
  else if !env.msgMem then (vmciErrorNoMem, [])
  else if env.populateResult ≠ vmciSuccess then (env.populateResult, [])
  else (env.allocResult, [.sendDatagram (allocMsg e) env.allocResult])

/-- An exit that writes no output and leaves the globals as `s`. -/
def allocError (result : Int) (s : State) (calls : List Call) : AllocOut :=
  ⟨result, none, s, calls⟩

/-- The `out:` label: `refCount++` on the entry, written back into the list by `write`;
the outputs; and the header pages of a local queue pair at its first reference. -/
def allocOut (s : State) (write : QueuePairEntry → List QueuePairEntry) (e : QueuePairEntry)
    (myProduceQ myConsumeQ : Queue) (calls : List Call) : AllocOut :=
  let e' := { e with refCount := e.refCount + 1 }
  ⟨vmciSuccess, some (e'.handle, myProduceQ, myConsumeQ), { s with head := write e' },
    calls ++ if isLocal e'.flags && e'.refCount == 1 then
      [.initQueueHeader myProduceQ e'.handle, .initQueueHeader myConsumeQ e'.handle] else []⟩

/-- The branch for a handle found in the list: a local attach, or an `errorKeepEntry`. -/
def allocAttach (s : State) (env : AllocEnv) (handle : VMCIHandle)
    (produceSize consumeSize : UInt64) (flags : UInt32) (e : QueuePairEntry) : AllocOut :=
  if !isLocal e.flags then allocError vmciErrorAlreadyExists s []
  else if e.refCount > 1 then allocError vmciErrorUnavailable s []
  else if e.produceSize ≠ consumeSize ∨ e.consumeSize ≠ produceSize ∨
      e.flags ≠ flags &&& ~~~vmciQPFlagAttachOnly then
    allocError vmciErrorQueuePairMismatch s []
  else
    let notify := queuePairNotifyPeerLocal true handle env.contextID env.attachResult
    if env.attachResult < vmciSuccess then allocError env.attachResult s [notify]
    else allocOut s (setEntry handle · s.head) e e.consumeQ e.produceQ [notify]

/-- A create past `VMCI_AllocPPNSet`: the local checks or the alloc hypercall, then the
insertion. On failure the entry is destroyed. -/
def allocInsert (s : State) (env : AllocEnv) (e : QueuePairEntry) (calls : List Call) :
    AllocOut :=
  if isLocal e.flags then
    if e.handle.context ≠ env.contextID ∨
        (e.peer ≠ vmciInvalidId ∧ e.peer ≠ env.contextID) then
      allocError vmciErrorNoAccess s (calls ++ queuePairEntryDestroy e)
    else if e.flags &&& vmciQPFlagAttachOnly ≠ 0 then
      allocError vmciErrorNotFound s (calls ++ queuePairEntryDestroy e)
    else allocOut s (queuePairListAddEntry s.head) e e.produceQ e.consumeQ
      (calls ++ [.initQueueMutex e.produceQ e.consumeQ])
  else
    let hc := vmciQueuePairAllocHyperCall env e
    if hc.1 < vmciSuccess then allocError hc.1 s (calls ++ hc.2 ++ queuePairEntryDestroy e)
    else allocOut s (queuePairListAddEntry s.head) e e.produceQ e.consumeQ
      (calls ++ hc.2 ++ [.initQueueMutex e.produceQ e.consumeQ])

/-- A create: the two queues, the entry, the PPN set. -/
def allocCreate (s : State) (env : AllocEnv) (handle : VMCIHandle)
    (produceSize consumeSize : UInt64) (peer : VMCIId) (flags : UInt32) : AllocOut :=
  match env.produceQ, env.consumeQ with
  | none, _ => allocError vmciErrorNoMem s []
  | some pq, none => allocError vmciErrorNoMem s [.allocQueue pq, .freeQueue pq]
  | some pq, some cq =>
    let allocs := [Call.allocQueue pq, .allocQueue cq]
    match queuePairEntryCreate s.head s.queuePairRID env.contextID env.entryMem
        env.hibernateFailure handle peer flags produceSize consumeSize pq cq with
    | (none, rid) =>
      allocError vmciErrorNoMem { s with queuePairRID := rid } (allocs ++ [.freeQueue pq, .freeQueue cq])
    | (some e, rid) =>
      match env.ppnSet with
      | some p => allocInsert { s with queuePairRID := rid } env { e with ppnSet := some p }
          (allocs ++ [.allocPPNSet p])
      | none =>
        if env.ppnError < vmciSuccess then
          allocError env.ppnError { s with queuePairRID := rid } (allocs ++ queuePairEntryDestroy e)
        else allocInsert { s with queuePairRID := rid } env e allocs

/-- `VMCIQueuePairAllocHelper`. -/
def vmciQueuePairAllocHelper (s : State) (env : AllocEnv) (handle : VMCIHandle)
    (produceSize consumeSize : UInt64) (peer : VMCIId) (flags : UInt32) : AllocOut :=
  if env.deviceShutdown then allocError vmciErrorDeviceNotFound s []
  else if s.hibernate && !isLocal flags then allocError vmciErrorUnavailable s []
  else match queuePairListFindEntry s.head handle with
    | some e => allocAttach s env handle produceSize consumeSize flags e
    | none => allocCreate s env handle produceSize consumeSize peer flags

/-- The arguments of `VMCIQueuePair_AllocPriv`: the handle `*handle` holds (`none` for a
NULL pointer), whether the two queue out-pointers are non-NULL, sizes, peer and flags. -/
structure AllocRequest where
  handle : Option VMCIHandle
  produceQ : Bool
  consumeQ : Bool
  produceSize : UInt64
  consumeSize : UInt64
  peer : VMCIId
  flags : UInt32
  deriving DecidableEq, Repr

/-- The argument checks of `VMCIQueuePair_AllocPriv`. -/
def AllocRequest.Admitted (req : AllocRequest) : Prop :=
  req.handle.isSome ∧ req.produceQ ∧ req.consumeQ ∧
    (req.produceSize ≠ 0 ∨ req.consumeSize ≠ 0) ∧ req.flags &&& ~~~vmciQPAllFlags = 0

instance (req : AllocRequest) : Decidable req.Admitted :=
  inferInstanceAs (Decidable (_ ∧ _ ∧ _ ∧ _ ∧ _))

/-- `VMCIQueuePair_AllocPriv`. -/
def vmciQueuePairAllocPriv (s : State) (env : AllocEnv) (req : AllocRequest)
    (privFlags : UInt32) : AllocOut :=
  if privFlags ≠ vmciNoPrivilegeFlags then allocError vmciErrorNoAccess s []
  else match req.handle with
    | some h =>
      if req.Admitted then
        vmciQueuePairAllocHelper s env h req.produceSize req.consumeSize req.peer req.flags
      else allocError vmciErrorInvalidArgs s []
    | none => allocError vmciErrorInvalidArgs s []

/-- `VMCIQueuePair_Alloc`. -/
def vmciQueuePairAlloc (s : State) (env : AllocEnv) (req : AllocRequest) : AllocOut :=
  vmciQueuePairAllocPriv s env req vmciNoPrivilegeFlags

/-! ### What one call can do -/

/-- The calls of a successful create of `e`: both queues, the PPN set if it was filled,
the alloc datagram of a non-local queue pair, the queue mutex, and the header pages of
a local one. -/
def createCalls (env : AllocEnv) (e : QueuePairEntry) : List Call :=
  [.allocQueue e.produceQ, .allocQueue e.consumeQ] ++ (e.ppnSet.map Call.allocPPNSet).toList ++
    (if isLocal e.flags then [] else (vmciQueuePairAllocHyperCall env e).2) ++
    [.initQueueMutex e.produceQ e.consumeQ] ++
    (if isLocal e.flags then
      [.initQueueHeader e.produceQ e.handle, .initQueueHeader e.consumeQ e.handle] else [])

/-- Everything `VMCIQueuePairAllocHelper` can do from `s`: fail with a negative result,
writing nothing and changing nothing but the counter, after at most an alloc datagram,
refused, for a non-local entry it was creating, and releasing exactly what it
allocated; attach locally to the entry found
for `handle`; or create a fresh entry `e` and append it. -/
inductive AllocSpec (s : State) (env : AllocEnv) (handle : VMCIHandle)
    (produceSize consumeSize : UInt64) (peer : VMCIId) (flags : UInt32) : AllocOut → Prop
  | error (result : Int) (rid : VMCIId) (calls : List Call) :
      result < vmciSuccess →
      (sentDatagrams calls = [] ∨ ∃ e r, sentDatagrams calls = [(allocMsg e, r)] ∧
        r < vmciSuccess ∧ isLocal e.flags = false ∧ queuePairListFindEntry s.head handle = none ∧
        createHandle s.head s.queuePairRID env.contextID handle = (some e.handle, rid)) →
      Balanced calls →
      AllocSpec s env handle produceSize consumeSize peer flags
        ⟨result, none, { s with queuePairRID := rid }, calls⟩
  | attach (e : QueuePairEntry) :
      queuePairListFindEntry s.head handle = some e → isLocal e.flags = true →
      e.refCount ≤ 1 → e.produceSize = consumeSize → e.consumeSize = produceSize →
      e.flags = flags &&& ~~~vmciQPFlagAttachOnly → vmciSuccess ≤ env.attachResult →
      AllocSpec s env handle produceSize consumeSize peer flags
        ⟨vmciSuccess, some (e.handle, e.consumeQ, e.produceQ),
          { s with head := setEntry handle { e with refCount := e.refCount + 1 } s.head },
          [queuePairNotifyPeerLocal true handle env.contextID env.attachResult] ++
            if e.refCount + 1 = 1 then
              [.initQueueHeader e.consumeQ e.handle, .initQueueHeader e.produceQ e.handle]
            else []⟩
  | create (e : QueuePairEntry) (rid : VMCIId) :
      queuePairListFindEntry s.head handle = none →
      (s.hibernate = false ∨ isLocal flags = true) →
      createHandle s.head s.queuePairRID env.contextID handle = (some e.handle, rid) →
      env.produceQ = some e.produceQ → env.consumeQ = some e.consumeQ →
      e.peer = peer → e.flags = flags → e.produceSize = produceSize →
      e.consumeSize = consumeSize → e.refCount = 1 →
      e.hibernateFailure = env.hibernateFailure →
      e.numPPNs = ceiling produceSize pageSize + ceiling consumeSize pageSize + 2 →
      e.ppnSet = env.ppnSet →
      (isLocal flags = true → e.handle.context = env.contextID ∧
        (peer = vmciInvalidId ∨ peer = env.contextID) ∧ flags &&& vmciQPFlagAttachOnly = 0) →
      (isLocal flags = false → vmciSuccess ≤ (vmciQueuePairAllocHyperCall env e).1) →
      AllocSpec s env handle produceSize consumeSize peer flags
        ⟨vmciSuccess, some (e.handle, e.produceQ, e.consumeQ),
          { s with head := s.head ++ [e], queuePairRID := rid }, createCalls env e⟩

/-- The hypercall sends at most the alloc message, and its result is the answer. -/
theorem allocHyperCall_datagrams (env : AllocEnv) (e : QueuePairEntry) :
    sentDatagrams (vmciQueuePairAllocHyperCall env e).2 = [] ∨
      sentDatagrams (vmciQueuePairAllocHyperCall env e).2 =
        [(allocMsg e, (vmciQueuePairAllocHyperCall env e).1)] := by
  unfold vmciQueuePairAllocHyperCall
  split_ifs <;> simp

/-- When `VMCI_PopulatePPNList` answers no positive value, a hypercall that succeeds has
sent the alloc message and been answered with success. -/
theorem allocHyperCall_sent {env : AllocEnv} {e : QueuePairEntry}
    (hp : env.populateResult ≤ vmciSuccess)
    (hok : vmciSuccess ≤ (vmciQueuePairAllocHyperCall env e).1) :
    sentDatagrams (vmciQueuePairAllocHyperCall env e).2 =
      [(allocMsg e, (vmciQueuePairAllocHyperCall env e).1)] := by
  unfold vmciQueuePairAllocHyperCall at hok ⊢
  split_ifs at hok ⊢ with h1 h2 h3
  · exact absurd hok (by decide)
  · exact absurd hok (by decide)
  · exact absurd (le_antisymm hp hok) h3
  · simp

@[simp] theorem sentDatagrams_ppnSet (p : Option PPNSet) :
    sentDatagrams (p.map Call.allocPPNSet).toList = [] := by
  cases p <;> rfl

@[simp] theorem sentDatagrams_destroy (e : QueuePairEntry) :
    sentDatagrams (queuePairEntryDestroy e) = [] := rfl

theorem allocHyperCall_quiet (env : AllocEnv) (e : QueuePairEntry) :
    ∀ c ∈ (vmciQueuePairAllocHyperCall env e).2, Quiet c := by
  refine quiet_of_all ?_
  unfold vmciQueuePairAllocHyperCall
  split_ifs <;> rfl

theorem sentDatagrams_createCalls (env : AllocEnv) (e : QueuePairEntry) :
    sentDatagrams (createCalls env e) =
      if isLocal e.flags then [] else sentDatagrams (vmciQueuePairAllocHyperCall env e).2 := by
  by_cases hl : isLocal e.flags = true <;> simp [createCalls, hl]

section Spec

variable {s : State} {env : AllocEnv} {handle : VMCIHandle} {produceSize consumeSize : UInt64}
  {peer : VMCIId} {flags : UInt32}

/-- A failure that sent no datagram. -/
theorem AllocSpec.quiet (result : Int) (rid : VMCIId) {calls : List Call}
    (hr : result < vmciSuccess) (hq : sentDatagrams calls = []) (hb : Balanced calls) :
    AllocSpec s env handle produceSize consumeSize peer flags
      ⟨result, none, { s with queuePairRID := rid }, calls⟩ :=
  .error result rid calls hr (.inl hq) hb

theorem allocAttach_spec {e : QueuePairEntry} (hf : queuePairListFindEntry s.head handle = some e) :
    AllocSpec s env handle produceSize consumeSize peer flags
      (allocAttach s env handle produceSize consumeSize flags e) := by
  unfold allocAttach allocError
  split_ifs with hl hr hm hn
  · exact .quiet _ s.queuePairRID (by decide) rfl balanced_nil
  · exact .quiet _ s.queuePairRID (by decide) rfl balanced_nil
  · exact .quiet _ s.queuePairRID (by decide) rfl balanced_nil
  · exact .quiet _ s.queuePairRID hn rfl
      (balanced_of_quiet (quiet_of_all rfl))
  · simp only [Bool.not_eq_true', Bool.not_eq_false, not_or, not_not, not_lt] at hl hr hm hn
    have hc := @AllocSpec.attach s env handle produceSize consumeSize peer flags e hf hl
      (UInt32.not_lt.1 hr)
      hm.1 hm.2.1 hm.2.2 hn
    simp only [allocOut, hl, Bool.true_and, beq_iff_eq] at hc ⊢
    exact hc

theorem allocInsert_spec (e : QueuePairEntry) {rid : VMCIId}
    (hf : queuePairListFindEntry s.head handle = none)
    (hh : s.hibernate = false ∨ isLocal flags = true)
    (hc : createHandle s.head s.queuePairRID env.contextID handle = (some e.handle, rid))
    (hp : env.produceQ = some e.produceQ) (hq : env.consumeQ = some e.consumeQ)
    (hpeer : e.peer = peer) (hfl : e.flags = flags) (hps : e.produceSize = produceSize)
    (hcs : e.consumeSize = consumeSize) (hr : e.refCount = 0)
    (hhf : e.hibernateFailure = env.hibernateFailure)
    (hn : e.numPPNs = ceiling produceSize pageSize + ceiling consumeSize pageSize + 2)
    (hppn : e.ppnSet = env.ppnSet) :
    AllocSpec s env handle produceSize consumeSize peer flags
      (allocInsert { s with queuePairRID := rid } env e
        ([.allocQueue e.produceQ, .allocQueue e.consumeQ] ++ (e.ppnSet.map Call.allocPPNSet).toList)) := by
  have hcr := @AllocSpec.create s env handle produceSize consumeSize peer flags
    { e with refCount := e.refCount + 1 } rid
    hf hh hc hp hq hpeer hfl hps hcs (by simp [hr]) hhf hn hppn
  unfold allocInsert allocError
  subst hfl
  by_cases hl : isLocal e.flags = true
  · simp only [hl, ite_true]
    have hb := balanced_create e (show ∀ c ∈ ([] : List Call), Quiet c from nofun)
    rw [List.append_nil] at hb
    split_ifs with hctx hao
    · exact .quiet _ rid (by decide) (by simp) hb
    · exact .quiet _ rid (by decide) (by simp) hb
    · simp only [not_or, not_and, not_not] at hctx hao
      simpa [allocOut, createCalls, hl, hr] using hcr fun _ =>
        ⟨hctx.1, by by_cases hpi : e.peer = vmciInvalidId <;> simp_all, hao⟩
  · simp only [hl, Bool.false_eq_true, ite_false]
    split_ifs with hhc
    · refine .error _ rid _ hhc ?_ (balanced_create e (allocHyperCall_quiet env e))
      simp only [sentDatagrams_append, sentDatagrams_cons, sentDatagrams_ppnSet,
        sentDatagrams_destroy, Call.datagram?, Option.toList_none, sentDatagrams_nil,
        List.nil_append, List.append_nil]
      exact (allocHyperCall_datagrams env e).imp_right fun h =>
        ⟨e, _, h, hhc, by simpa using hl, hf, hc⟩
    · simp only [Bool.not_eq_true] at hl
      simpa [allocOut, createCalls, hl, hr] using hcr (by simp [hl]) fun _ => not_lt.1 hhc

theorem allocCreate_spec (hf : queuePairListFindEntry s.head handle = none)
    (hh : s.hibernate = false ∨ isLocal flags = true) :
    AllocSpec s env handle produceSize consumeSize peer flags
      (allocCreate s env handle produceSize consumeSize peer flags) := by
  unfold allocCreate allocError
  rcases hp : env.produceQ with _ | pq
  · exact .quiet _ s.queuePairRID (by decide) rfl balanced_nil
  rcases hq : env.consumeQ with _ | cq
  · exact .quiet _ s.queuePairRID (by decide) rfl (balanced_allocFree pq)
  dsimp only
  rcases hc : queuePairEntryCreate s.head s.queuePairRID env.contextID env.entryMem
    env.hibernateFailure handle peer flags produceSize consumeSize pq cq with ⟨_ | e, rid⟩
  · dsimp only; exact .quiet _ rid (by decide) rfl (balanced_queues pq cq balanced_nil)
  obtain ⟨hpeer, hfl, hps, hcs, rfl, rfl, hr, hppn, hhf, hn, hch⟩ := entryCreate_some hc
  rcases hs : env.ppnSet with _ | p
  · dsimp only
    split_ifs with he
    · have hb := balanced_create e (show ∀ c ∈ ([] : List Call), Quiet c from nofun)
      rw [hppn, Option.map_none', Option.toList_none, List.append_nil, List.append_nil] at hb
      exact .quiet _ rid he rfl hb
    · simpa [hppn] using allocInsert_spec e hf hh hch hp hq hpeer hfl hps hcs hr hhf hn (hppn.trans hs.symm)
  · exact allocInsert_spec { e with ppnSet := some p } hf hh hch hp hq hpeer hfl hps hcs hr hhf hn hs.symm

/-- The spec of `VMCIQueuePairAllocHelper`: every call is one of the three outcomes. -/
theorem allocHelper_spec :
    AllocSpec s env handle produceSize consumeSize peer flags
      (vmciQueuePairAllocHelper s env handle produceSize consumeSize peer flags) := by
  unfold vmciQueuePairAllocHelper allocError
  split_ifs with hd hh
  · exact .quiet _ s.queuePairRID (by decide) rfl balanced_nil
  · exact .quiet _ s.queuePairRID (by decide) rfl balanced_nil
  · rcases hf : queuePairListFindEntry s.head handle with _ | e
    · exact allocCreate_spec hf (by cases hs : s.hibernate <;> simp_all)
    · exact allocAttach_spec hf

/-- `VMCIQueuePair_AllocPriv` rejects its arguments or runs the helper; a request
without a handle pointer fails, whatever handle the spec is read at. -/
theorem allocPriv_spec (s : State) (env : AllocEnv) (req : AllocRequest) (privFlags : UInt32) :
    AllocSpec s env (req.handle.getD vmciInvalidHandle) req.produceSize req.consumeSize req.peer
      req.flags (vmciQueuePairAllocPriv s env req privFlags) := by
  unfold vmciQueuePairAllocPriv allocError
  rcases req with ⟨_ | h, pq, cq, ps, cs, peer, flags⟩
  · split_ifs <;> exact .quiet _ s.queuePairRID (by decide) rfl balanced_nil
  · dsimp only [Option.getD_some]
    split_ifs
    · exact .quiet _ s.queuePairRID (by decide) rfl balanced_nil
    · exact allocHelper_spec
    · exact .quiet _ s.queuePairRID (by decide) rfl balanced_nil

end Spec

end VMCIQueuePair
