import VMCIQueuePair.Run

/-! Create and detach cycles. Creating a local queue pair with an auto-assigned handle
and detaching it again leaves the globals as they were but for the resource-id counter,
which moves on by one, and neither call sends a datagram. Repeating the cycle walks the
counter through the id space: from `VMCI_RESERVED_RESOURCE_ID_MAX + 1` it reaches
`0xFFFFFFFF` after `0xFFFFFFFF - VMCI_RESERVED_RESOURCE_ID_MAX - 1` cycles.

Only a create moves the counter, and only through the search of `QueuePairEntryCreate`,
so every run keeps it outside the reserved range (`rid_range_of_reachableBy`). At
`0xFFFFFFFF`, with `VMCI_GetContextID` answering `VMCI_INVALID_ID`, the search's first
probe is the sentinel handle itself, which `QueuePairList_FindEntry` never finds. -/

namespace VMCIQueuePair

/-- The answers to a create of a local queue pair in context 5: both queues, the
entry's memory and a PPN set. -/
def cycleAllocEnv : AllocEnv := ⟨false, 5, 0, some 1, some 2, true, false, some 3, 0, true, 0, 0⟩

/-- A local queue pair of one page each way, its handle to be assigned. -/
def cycleRequest : AllocRequest :=
  ⟨some vmciInvalidHandle, true, true, 4096, 4096, vmciInvalidId, vmciQPFlagLocal⟩

/-- The entry the create appends when the counter is at `rid`. -/
def cycleEntry (rid : VMCIId) : QueuePairEntry :=
  ⟨⟨5, rid⟩, vmciInvalidId, vmciQPFlagLocal, 4096, 4096, 4, some 3, 1, 2, 1, false⟩

/-- Create, then detach, the queue pair that gets the handle `5:rid`. -/
def cycleOps (rid : VMCIId) : List Op :=
  [.alloc cycleAllocEnv cycleRequest vmciNoPrivilegeFlags, .detach ⟨5, 0, 0⟩ ⟨5, rid⟩]

/-- `k` cycles from the counter value `rid`. -/
def cycles : Nat → VMCIId → List Op
  | 0, _ => []
  | k + 1, rid => cycleOps rid ++ cycles k (nextRID rid)

/-! ### One cycle -/

theorem alloc_cycle {s : State} (hf : queuePairListFindEntry s.head ⟨5, s.queuePairRID⟩ = none) :
    (vmciQueuePairAllocPriv s cycleAllocEnv cycleRequest vmciNoPrivilegeFlags).state =
        { s with head := s.head ++ [cycleEntry s.queuePairRID],
                 queuePairRID := nextRID s.queuePairRID } ∧
      sentDatagrams (vmciQueuePairAllocPriv s cycleAllocEnv cycleRequest vmciNoPrivilegeFlags).calls = [] := by
  have hr : ridSpace = 4294966271 + 1 := rfl
  have h1 : vmciQPFlagLocal &&& ~~~vmciQPAllFlags = 0 := by decide
  have h2 : isLocal vmciQPFlagLocal = true := by decide
  have h3 : vmciQPFlagLocal &&& vmciQPFlagAttachOnly = 0 := by decide
  have h4 : ceiling 4096 pageSize + ceiling 4096 pageSize + 2 = 4 := by decide
  simp [vmciQueuePairAllocPriv, cycleRequest, AllocRequest.Admitted, vmciQueuePairAllocHelper,
    cycleAllocEnv, queuePairListFindEntry, allocCreate, queuePairEntryCreate, createHandle, hr,
    ridSearch_first hf, allocInsert, allocOut, queuePairListAddEntry, cycleEntry, h1, h2, h3, h4]

theorem detach_cycle {t : State} {l : List QueuePairEntry} {rid : VMCIId}
    (hs : t.head = l ++ [cycleEntry rid]) (hf : queuePairListFindEntry l ⟨5, rid⟩ = none) :
    (vmciQueuePairDetach t ⟨5, 0, 0⟩ ⟨5, rid⟩).state = { t with head := l } ∧
      sentDatagrams (vmciQueuePairDetach t ⟨5, 0, 0⟩ ⟨5, rid⟩).calls = [] := by
  have hv : (⟨5, rid⟩ : VMCIHandle) ≠ vmciInvalidHandle := fun h =>
    absurd (congrArg VMCIHandle.context h) (show (5 : VMCIId) ≠ vmciInvalidId by decide)
  have hpre := (findEntry_eq_none hf).resolve_left hv
  have hfind : queuePairListFindEntry t.head ⟨5, rid⟩ = some (cycleEntry rid) := by
    rw [hs]; exact findEntry_append_new hf hv rfl
  have hrm : queuePairListRemoveEntry ⟨5, rid⟩ t.head = l := by
    simpa [hs] using removeEntry_split _ (cycleEntry rid) l [] rfl hpre
  have h2 : isLocal vmciQPFlagLocal = true := by decide
  simp [vmciQueuePairDetach, hv, vmciQueuePairDetachHelper, hfind, detachBranch, cycleEntry, h2,
    detachOut, hrm, queuePairEntryDestroy]

/-! ### Many cycles -/

theorem findEntry_context {head : List QueuePairEntry} (hc : ∀ x ∈ head, x.handle.context ≠ 5)
    (rid : VMCIId) : queuePairListFindEntry head ⟨5, rid⟩ = none :=
  findEntry_of_valid
    (fun h => absurd (congrArg VMCIHandle.context h) (show (5 : VMCIId) ≠ vmciInvalidId by decide))
    fun x hx h => hc x hx (congrArg VMCIHandle.context h)

/-- Each cycle sends no datagram, and `k` of them only advance the counter `k` times. -/
theorem run_cycles (P : State → Op → Prop)
    (hP : ∀ s, P s (.alloc cycleAllocEnv cycleRequest vmciNoPrivilegeFlags))
    (hD : ∀ s rid, P s (.detach ⟨5, 0, 0⟩ ⟨5, rid⟩)) :
    ∀ (k : Nat) (s : State), (∀ x ∈ s.head, x.handle.context ≠ 5) →
      Admits (fun s op => P s op ∧ sentDatagrams (op.calls s) = []) s (cycles k s.queuePairRID) ∧
      Op.run s (cycles k s.queuePairRID) = { s with queuePairRID := nextRID^[k] s.queuePairRID }
  | 0, _, _ => ⟨trivial, rfl⟩
  | k + 1, s, hc => by
    have hf := findEntry_context hc s.queuePairRID
    obtain ⟨ha, hq⟩ := alloc_cycle hf
    obtain ⟨hd, hdq⟩ := detach_cycle (t := (vmciQueuePairAllocPriv s cycleAllocEnv cycleRequest
      vmciNoPrivilegeFlags).state) (by rw [ha]) hf
    have hrun : Op.run s (cycleOps s.queuePairRID) = { s with queuePairRID := nextRID s.queuePairRID } := by
      simp only [cycleOps, Op.run_cons, Op.run_nil, Op.apply]
      rw [hd, ha]
    obtain ⟨hadm, hrun'⟩ := run_cycles P hP hD k { s with queuePairRID := nextRID s.queuePairRID } hc
    refine ⟨admits_append _ ⟨⟨hP s, hq⟩, ⟨hD _ _, hdq⟩, trivial⟩ (hrun ▸ hadm), ?_⟩
    rw [cycles, Op.run_append, hrun, hrun', Function.iterate_succ_apply]

/-- From `VMCI_RESERVED_RESOURCE_ID_MAX + 1`, `0xFFFFFFFF - 1024` cycles bring the counter
to `0xFFFFFFFF`. -/
theorem cycles_reach_last : nextRID^[0xFFFFFFFF - 1024] initialRID = 0xFFFFFFFF :=
  UInt32.toNat.inj (nextRID_iterate _ _ (by decide))

/-! ### The counter over every run -/

section Counter

variable {s : State} {env : AllocEnv} {handle : VMCIHandle} {produceSize consumeSize : UInt64}
  {peer : VMCIId} {flags : UInt32}

theorem allocAttach_rid (e : QueuePairEntry) :
    (allocAttach s env handle produceSize consumeSize flags e).state.queuePairRID = s.queuePairRID := by
  unfold allocAttach; split_ifs <;> rfl

theorem allocInsert_rid (e : QueuePairEntry) (calls : List Call) :
    (allocInsert s env e calls).state.queuePairRID = s.queuePairRID := by
  unfold allocInsert; dsimp only; split_ifs <;> rfl

/-- A create leaves the counter where it was, or where the search for its handle left it. -/
theorem allocCreate_rid :
    (allocCreate s env handle produceSize consumeSize peer flags).state.queuePairRID = s.queuePairRID ∨
      (allocCreate s env handle produceSize consumeSize peer flags).state.queuePairRID =
        (createHandle s.head s.queuePairRID env.contextID handle).2 := by
  unfold allocCreate allocError
  rcases env.produceQ with _ | pq
  · exact .inl rfl
  rcases env.consumeQ with _ | cq
  · exact .inl rfl
  have hr := entryCreate_rid s.head s.queuePairRID env.contextID env.entryMem env.hibernateFailure
    handle peer flags produceSize consumeSize pq cq
  dsimp only
  rcases hc : queuePairEntryCreate s.head s.queuePairRID env.contextID env.entryMem
    env.hibernateFailure handle peer flags produceSize consumeSize pq cq with ⟨_ | e, rid⟩ <;>
    rw [hc] at hr <;> refine .inr (Eq.trans ?_ hr)
  · rfl
  rcases env.ppnSet with _ | p
  · dsimp only; split_ifs
    · rfl
    · exact allocInsert_rid e _
  · exact allocInsert_rid _ _

theorem allocPriv_rid (s : State) (env : AllocEnv) (req : AllocRequest) (pf : UInt32) :
    (vmciQueuePairAllocPriv s env req pf).state.queuePairRID = s.queuePairRID ∨
      (vmciQueuePairAllocPriv s env req pf).state.queuePairRID =
        (createHandle s.head s.queuePairRID env.contextID (req.handle.getD vmciInvalidHandle)).2 := by
  unfold vmciQueuePairAllocPriv vmciQueuePairAllocHelper allocError
  rcases req with ⟨_ | h, pq, cq, ps, cs, peer, flags⟩
  · split_ifs <;> exact .inl rfl
  · dsimp only [Option.getD_some]
    split_ifs
    · exact .inl rfl
    · exact .inl rfl
    · exact .inl rfl
    · split
      · exact .inl (allocAttach_rid _)
      · exact allocCreate_rid
    · exact .inl rfl

end Counter

theorem detach_rid (s : State) (env : DetachEnv) (handle : VMCIHandle) :
    (vmciQueuePairDetach s env handle).state.queuePairRID = s.queuePairRID := by
  unfold vmciQueuePairDetach vmciQueuePairDetachHelper detachOut
  split_ifs
  · rfl
  · split
    · rfl
    · dsimp only; split_ifs <;> rfl

theorem convert_rid (s : State) (env : ConvertOpEnv) (toLocal deviceReset : Bool) :
    (vmciQueuePairConvert s env toLocal deviceReset).1.queuePairRID = s.queuePairRID := by
  unfold vmciQueuePairConvert; split <;> rfl

/-- Every run keeps the counter outside the reserved range. -/
theorem rid_range_of_reachableBy {P : State → Op → Prop} {s : State} (h : ReachableBy P s) :
    vmciReservedResourceIdMax < s.queuePairRID := by
  induction h with
  | init => decide
  | step op _ _ ih =>
    cases op with
    | alloc env req pf =>
      rcases allocPriv_rid _ env req pf with h | h <;> rw [Op.apply, h]
      exacts [ih, createHandle_rid_range _ _ _ ih]
    | detach env handle => rw [Op.apply, detach_rid]; exact ih
    | convert env toLocal deviceReset => rw [Op.apply, convert_rid]; exact ih

/-! ### The search for an auto-assigned handle -/

/-- What the resource-id search of `QueuePairEntryCreate` does for `VMCI_INVALID_HANDLE` from
the counter value `c0`: it needs no more than `ridSpace` probes; it ends at the first free id
of the cyclic order from `c0` and leaves the counter at the next id, or, with every
non-reserved id taken, fails with the counter back at `c0`; and it leaves the counter, and
the resource id it hands out, outside the reserved range. -/
def CyclicSearch (head : List QueuePairEntry) (contextID c0 : VMCIId) : Prop :=
  (∀ fuel, ridSpace ≤ fuel →
    ridSearch head contextID c0 fuel c0 = createHandle head c0 contextID vmciInvalidHandle) ∧
  ((∃ r, vmciReservedResourceIdMax < r ∧ queuePairListFindEntry head ⟨contextID, r⟩ = none) →
    ∃ k < ridSpace, queuePairListFindEntry head ⟨contextID, cyclicRID c0 k⟩ = none ∧
      (∀ j < k, queuePairListFindEntry head ⟨contextID, cyclicRID c0 j⟩ ≠ none) ∧
      createHandle head c0 contextID vmciInvalidHandle =
        (some ⟨contextID, cyclicRID c0 k⟩, cyclicRID c0 (k + 1))) ∧
  ((∀ r, vmciReservedResourceIdMax < r → queuePairListFindEntry head ⟨contextID, r⟩ ≠ none) →
    createHandle head c0 contextID vmciInvalidHandle = (none, c0)) ∧
  vmciReservedResourceIdMax < (createHandle head c0 contextID vmciInvalidHandle).2 ∧
  ∀ h, (createHandle head c0 contextID vmciInvalidHandle).1 = some h →
    vmciReservedResourceIdMax < h.resource

/-- From every counter value outside the reserved range the search behaves as
`CyclicSearch` says, and every run keeps the counter there, so the assertion
`oldRID > VMCI_RESERVED_RESOURCE_ID_MAX` holds at every create. -/
theorem rid_search_cyclic (head : List QueuePairEntry) (contextID c0 : VMCIId)
    (hc0 : vmciReservedResourceIdMax < c0) :
    CyclicSearch head contextID c0 ∧
      ∀ (P : State → Op → Prop) s, ReachableBy P s → vmciReservedResourceIdMax < s.queuePairRID := by
  have hch : createHandle head c0 contextID vmciInvalidHandle =
      ridSearch head contextID c0 ridSpace c0 := if_pos rfl
  refine ⟨?_, fun _ _ => rid_range_of_reachableBy⟩
  rcases ridSearch_cases head contextID hc0 with
    ⟨k, hk, hf, hmin, hrun⟩ | ⟨hall, hrun⟩
  · rw [CyclicSearch, hch, hrun _ hk]
    exact ⟨fun fuel hfuel => hrun fuel (by omega), fun _ => ⟨k, hk, hf, hmin, rfl⟩,
      fun hall => absurd hf (hall _ (cyclicRID_range c0 k)), cyclicRID_range c0 _,
      fun _ hh => Option.some.inj hh ▸ cyclicRID_range c0 k⟩
  · rw [CyclicSearch, hch, hrun _ le_rfl]
    refine ⟨hrun, fun ⟨r, hr, hf⟩ => ?_, fun _ => rfl, hc0, fun _ hh => Option.noConfusion hh⟩
    obtain ⟨k, hk, rfl⟩ := exists_cyclicRID hc0 hr
    exact absurd hf (hall k hk)

/-- A search across the wrap: from `0xFFFFFFFE`, with `5:0xFFFFFFFE`, `5:0xFFFFFFFF` and
`5:1024` taken, the search wraps to `VMCI_RESERVED_RESOURCE_ID_MAX + 1` and settles on
`5:1025`. -/
theorem rid_search_cyclic_wrap :
    vmciReservedResourceIdMax < 0xFFFFFFFE ∧
      createHandle [cycleEntry 0xFFFFFFFE, cycleEntry 0xFFFFFFFF, cycleEntry 1024] 0xFFFFFFFE 5
        vmciInvalidHandle = (some ⟨5, 1025⟩, 1026) ∧
      CyclicSearch [cycleEntry 0xFFFFFFFE, cycleEntry 0xFFFFFFFF, cycleEntry 1024] 5 0xFFFFFFFE ∧
      ∀ (P : State → Op → Prop) s, ReachableBy P s → vmciReservedResourceIdMax < s.queuePairRID :=
  ⟨by decide, by decide,
    rid_search_cyclic [cycleEntry 0xFFFFFFFE, cycleEntry 0xFFFFFFFF, cycleEntry 1024] 5 0xFFFFFFFE
      (by decide)⟩

/-- The search hands out `VMCI_INVALID_HANDLE` exactly when the context id is
`VMCI_INVALID_ID` and every id before `0xFFFFFFFF` in the cyclic order from `c0` is taken:
`QueuePairList_FindEntry` never finds the sentinel, so the search stops there. -/
theorem createHandle_sentinel_iff (head : List QueuePairEntry) (contextID : VMCIId) {c0 : VMCIId}
    (hc0 : vmciReservedResourceIdMax < c0) :
    (createHandle head c0 contextID vmciInvalidHandle).1 = some vmciInvalidHandle ↔
      contextID = vmciInvalidId ∧ ∃ k < ridSpace, cyclicRID c0 k = vmciInvalidId ∧
        ∀ j < k, queuePairListFindEntry head ⟨contextID, cyclicRID c0 j⟩ ≠ none := by
  have hch : createHandle head c0 contextID vmciInvalidHandle =
      ridSearch head contextID c0 ridSpace c0 := if_pos rfl
  rw [hch]
  rcases ridSearch_cases head contextID hc0 with ⟨k, hk, hf, hmin, hrun⟩ | ⟨hall, hrun⟩
  · rw [hrun _ hk]
    constructor
    · intro h
      obtain ⟨hc, hr⟩ := VMCIHandle.mk.inj (Option.some.inj h)
      exact ⟨hc, k, hk, hr, hmin⟩
    · rintro ⟨rfl, k', hk', hr, hmin'⟩
      have hfree : queuePairListFindEntry head ⟨vmciInvalidId, cyclicRID c0 k'⟩ = none := by
        rw [hr]; exact if_pos rfl
      have hkk : k = k' := by
        rcases Nat.lt_trichotomy k k' with h | h | h
        · exact absurd hf (hmin' k h)
        · exact h
        · exact absurd hfree (hmin k' h)
      subst hkk
      rw [hr]; rfl
  · rw [hrun _ le_rfl]
    refine ⟨Option.noConfusion, ?_⟩
    rintro ⟨rfl, k, hk, hr, -⟩
    exact absurd (by rw [hr]; exact if_pos rfl) (hall k hk)

/-- With `VMCI_INVALID_ID:0xFFFFFFFE` taken, a search from `0xFFFFFFFE` in that context
reaches the sentinel at its second probe. -/
theorem createHandle_sentinel_late :
    vmciReservedResourceIdMax < 0xFFFFFFFE ∧
      (createHandle [{ cycleEntry 0 with handle := ⟨vmciInvalidId, 0xFFFFFFFE⟩ }] 0xFFFFFFFE
        vmciInvalidId vmciInvalidHandle).1 = some vmciInvalidHandle ∧
      ((createHandle [{ cycleEntry 0 with handle := ⟨vmciInvalidId, 0xFFFFFFFE⟩ }] 0xFFFFFFFE
          vmciInvalidId vmciInvalidHandle).1 = some vmciInvalidHandle ↔
        vmciInvalidId = vmciInvalidId ∧ ∃ k < ridSpace, cyclicRID 0xFFFFFFFE k = vmciInvalidId ∧
          ∀ j < k, queuePairListFindEntry [{ cycleEntry 0 with handle := ⟨vmciInvalidId, 0xFFFFFFFE⟩ }]
            ⟨vmciInvalidId, cyclicRID 0xFFFFFFFE j⟩ ≠ none) :=
  ⟨by decide, by decide,
    createHandle_sentinel_iff [{ cycleEntry 0 with handle := ⟨vmciInvalidId, 0xFFFFFFFE⟩ }]
      vmciInvalidId (by decide)⟩

/-- `VMCI_INVALID_HANDLE` as the handle of a live queue pair. With the counter at
`0xFFFFFFFF` and `VMCI_GetContextID` answering `VMCI_INVALID_ID`, whatever the list holds,
the create settles on the sentinel and returns an entry carrying it. Create and detach
cycles bring the counter there from `VMCIQueuePair_Init`; an alloc then succeeds and
leaves the entry in the list, and `VMCIQueuePair_Detach` refuses its handle. -/
theorem sentinel_handle_created :
    (∀ head hibernateFailure peer flags produceSize consumeSize produceQ consumeQ,
      ∃ e, queuePairEntryCreate head 0xFFFFFFFF vmciInvalidId true hibernateFailure
          vmciInvalidHandle peer flags produceSize consumeSize produceQ consumeQ = (some e, initialRID) ∧
        e.handle = vmciInvalidHandle) ∧
    Reachable { initState with queuePairRID := 0xFFFFFFFF } ∧
    (vmciQueuePairAlloc { initState with queuePairRID := 0xFFFFFFFF }
        ⟨false, vmciInvalidId, 0, some 1, some 2, true, false, some 3, 0, true, 0, 0⟩
        ⟨some vmciInvalidHandle, true, true, 4096, 4096, vmciInvalidId, 0⟩).result = vmciSuccess ∧
    (vmciQueuePairAlloc { initState with queuePairRID := 0xFFFFFFFF }
        ⟨false, vmciInvalidId, 0, some 1, some 2, true, false, some 3, 0, true, 0, 0⟩
        ⟨some vmciInvalidHandle, true, true, 4096, 4096, vmciInvalidId, 0⟩).state.head.map (·.handle) =
      [vmciInvalidHandle] ∧
    ∀ env, (vmciQueuePairDetach (vmciQueuePairAlloc { initState with queuePairRID := 0xFFFFFFFF }
        ⟨false, vmciInvalidId, 0, some 1, some 2, true, false, some 3, 0, true, 0, 0⟩
        ⟨some vmciInvalidHandle, true, true, 4096, 4096, vmciInvalidId, 0⟩).state env
          vmciInvalidHandle).result = vmciErrorInvalidArgs := by
  refine ⟨fun head hf peer flags ps cs pq cq => ?_, ?_, by decide, by decide, fun _ => rfl⟩
  · have hc : createHandle head 0xFFFFFFFF vmciInvalidId vmciInvalidHandle =
        (some vmciInvalidHandle, initialRID) := by
      rw [createHandle, if_pos rfl, show ridSpace = ridSpace - 1 + 1 from rfl]
      exact ridSearch_first (if_pos rfl)
    simp only [queuePairEntryCreate, hc]
    exact ⟨_, rfl, rfl⟩
  · obtain ⟨ha, hr⟩ := run_cycles (fun _ _ => True) (fun _ => trivial) (fun _ _ => trivial)
      (0xFFFFFFFF - 1024) initState (by simp [initState, vmciQueuePairInit])
    have h := (ReachableBy.init.run ha).mono fun _ _ _ => trivial
    rwa [hr, show initState.queuePairRID = initialRID from rfl, cycles_reach_last] at h

/-! ### Round the counter twice -/

/-- The answers to a create while `VMCI_GetContextID` answers `VMCI_INVALID_ID`, every
other collaborator succeeding. -/
def sentinelAllocEnv : AllocEnv :=
  ⟨false, vmciInvalidId, 0, some 1, some 2, true, false, some 3, 0, true, 0, 0⟩

/-- A non-local queue pair of one page each way, its handle to be assigned. -/
def sentinelRequest : AllocRequest :=
  ⟨some vmciInvalidHandle, true, true, 4096, 4096, vmciInvalidId, 0⟩

/-- The entry that create appends with the counter at `0xFFFFFFFF`. -/
def sentinelEntry : QueuePairEntry :=
  ⟨vmciInvalidHandle, vmciInvalidId, 0, 4096, 4096, 4, some 3, 1, 2, 1, false⟩

/-- The globals once cycles have taken the counter round again after that create: the
list holds the sentinel entry and the counter is back at `0xFFFFFFFF`. -/
def sentinelState : State := ⟨[sentinelEntry], false, [], 0xFFFFFFFF⟩

theorem sentinel_create :
    (Op.alloc sentinelAllocEnv sentinelRequest vmciNoPrivilegeFlags).apply
        { initState with queuePairRID := 0xFFFFFFFF } =
      { sentinelState with queuePairRID := initialRID } := by
  decide

/-- Cycles take the counter from `initialRID` to `0xFFFFFFFF`, whatever the list holds
outside context 5. -/
theorem cycles_round (P : State → Op → Prop)
    (hP : ∀ s, P s (.alloc cycleAllocEnv cycleRequest vmciNoPrivilegeFlags))
    (hD : ∀ s rid, P s (.detach ⟨5, 0, 0⟩ ⟨5, rid⟩)) {s : State}
    (hc : ∀ x ∈ s.head, x.handle.context ≠ 5) (hr : s.queuePairRID = initialRID) :
    Admits (fun s op => P s op ∧ sentDatagrams (op.calls s) = []) s (cycles (0xFFFFFFFF - 1024) initialRID) ∧
      Op.run s (cycles (0xFFFFFFFF - 1024) initialRID) = { s with queuePairRID := 0xFFFFFFFF } := by
  have h := run_cycles P hP hD (0xFFFFFFFF - 1024) s hc
  rwa [hr, cycles_reach_last] at h

/-- Cycles to `0xFFFFFFFF`, the create of the sentinel entry, and cycles round again reach
`sentinelState` by calls `P` admits. -/
theorem sentinelState_reachableBy (P : State → Op → Prop)
    (hP : ∀ s, P s (.alloc cycleAllocEnv cycleRequest vmciNoPrivilegeFlags))
    (hD : ∀ s rid, P s (.detach ⟨5, 0, 0⟩ ⟨5, rid⟩))
    (hS : ∀ s, P s (.alloc sentinelAllocEnv sentinelRequest vmciNoPrivilegeFlags)) :
    ReachableBy P sentinelState := by
  obtain ⟨ha1, hr1⟩ := cycles_round P hP hD (s := initState) (by simp [initState, vmciQueuePairInit]) rfl
  have h1 := (ReachableBy.init.run (ha1.mono fun _ _ h => h.1)).step _ (hS _)
  rw [hr1, sentinel_create] at h1
  obtain ⟨ha2, hr2⟩ := cycles_round P hP hD (s := { sentinelState with queuePairRID := initialRID })
    (by decide) rfl
  have h2 := h1.run (ha2.mono fun _ _ h => h.1)
  rwa [hr2] at h2

end VMCIQueuePair
