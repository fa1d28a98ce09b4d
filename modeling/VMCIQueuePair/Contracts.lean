import VMCIQueuePair.Counter
import VMCIQueuePair.Safety

/-! Contracts of single calls, from any state. A failed `VMCIQueuePair_Alloc` changes
nothing but the resource-id counter and releases nothing of an entry it found. Along
every run in which `VMCI_GetContextID` never answers `VMCI_INVALID_ID`, a successful one
is exactly one of a create and a local attach; once the counter has gone round twice
with that answer, a create gets the sentinel handle a second time and is neither. A
`VMCIQueuePair_Detach` of a valid handle either fails and changes nothing, or drops the
found entry's reference count by one, unlinking and destroying it exactly when the
count reaches zero, and succeeds only for a local entry, a datagram answered with
success, or a hibernate-failed entry the device no longer knows. -/

namespace VMCIQueuePair

/-! ### Failed allocations -/

/-- A failed attach sends at most the attach notification. -/
theorem allocAttach_error_calls {s : State} {env : AllocEnv} {handle : VMCIHandle}
    {produceSize consumeSize : UInt64} {flags : UInt32} {e : QueuePairEntry}
    (hr : (allocAttach s env handle produceSize consumeSize flags e).result < vmciSuccess) :
    (allocAttach s env handle produceSize consumeSize flags e).calls ⊆
      [queuePairNotifyPeerLocal true handle env.contextID env.attachResult] := by
  unfold allocAttach allocError at hr ⊢
  split_ifs at hr ⊢ <;> simp_all [allocOut]

/-- A failure after the handle was found sends only the attach notification. -/
theorem allocHelper_found_error_calls {s : State} {env : AllocEnv} {handle : VMCIHandle}
    {produceSize consumeSize : UInt64} {peer : VMCIId} {flags : UInt32} {e : QueuePairEntry}
    (hf : queuePairListFindEntry s.head handle = some e)
    (hr : (vmciQueuePairAllocHelper s env handle produceSize consumeSize peer flags).result < vmciSuccess) :
    (vmciQueuePairAllocHelper s env handle produceSize consumeSize peer flags).calls ⊆
      [queuePairNotifyPeerLocal true handle env.contextID env.attachResult] := by
  unfold vmciQueuePairAllocHelper allocError at hr ⊢
  split_ifs at hr ⊢
  · exact List.nil_subset _
  · exact List.nil_subset _
  · simp only [hf] at hr ⊢
    exact allocAttach_error_calls hr

theorem allocPriv_found_error_calls {s : State} {env : AllocEnv} {req : AllocRequest}
    {privFlags : UInt32} {e : QueuePairEntry}
    (hf : queuePairListFindEntry s.head (req.handle.getD vmciInvalidHandle) = some e)
    (hr : (vmciQueuePairAllocPriv s env req privFlags).result < vmciSuccess) :
    (vmciQueuePairAllocPriv s env req privFlags).calls ⊆
      [queuePairNotifyPeerLocal true (req.handle.getD vmciInvalidHandle) env.contextID
        env.attachResult] := by
  unfold vmciQueuePairAllocPriv allocError at hr ⊢
  rcases req with ⟨_ | h, pq, cq, ps, cs, peer, flags⟩
  · split_ifs <;> exact List.nil_subset _
  · dsimp only [Option.getD_some] at hr hf ⊢
    split_ifs at hr ⊢
    · exact List.nil_subset _
    · exact allocHelper_found_error_calls hf hr
    · exact List.nil_subset _

/-- A failed allocation: the globals are as before but for the counter, nothing is
written back, and no call releases anything of the entry found for the handle. -/
def AllocFailureClean (s : State) (req : AllocRequest) (o : AllocOut) : Prop :=
  o.state = { s with queuePairRID := o.state.queuePairRID } ∧ o.out = none ∧
    ∀ e, queuePairListFindEntry s.head (req.handle.getD vmciInvalidHandle) = some e →
      ∀ c ∈ o.calls, c ∉ queuePairEntryDestroy e

theorem alloc_error_clean (s : State) (env : AllocEnv) (req : AllocRequest)
    (hr : (vmciQueuePairAlloc s env req).result < vmciSuccess) :
    AllocFailureClean s req (vmciQueuePairAlloc s env req) := by
  unfold vmciQueuePairAlloc at hr ⊢
  have hc := fun e (hf : queuePairListFindEntry s.head (req.handle.getD vmciInvalidHandle) = some e) =>
    allocPriv_found_error_calls hf hr
  have hs := allocPriv_spec s env req vmciNoPrivilegeFlags
  generalize vmciQueuePairAllocPriv s env req vmciNoPrivilegeFlags = o at hs hr hc ⊢
  cases hs with
  | error =>
    refine ⟨rfl, rfl, fun e hf c hm hd => ?_⟩
    have := List.mem_singleton.1 (hc e hf hm)
    subst this
    simp [queuePairEntryDestroy, queuePairNotifyPeerLocal] at hd
  | attach => exact absurd hr (lt_irrefl _)
  | create => exact absurd hr (lt_irrefl _)

/-- Two failures from states of `sampleRun`: an attach to the local pair `5:1024`, found
at one reference, whose attach notification fails; and a local create of `5:3000` whose
peer is neither `VMCI_INVALID_ID` nor the caller's context, refused after its queues and
entry were made. -/
theorem alloc_error_clean_cases :
    (vmciQueuePairAlloc (Op.run initState (sampleRun.take 1))
        ⟨false, 5, -1, none, none, true, false, none, 0, true, 0, 0⟩
        ⟨some ⟨5, 1024⟩, true, true, 4096, 4096, vmciInvalidId, vmciQPFlagLocal⟩).result < vmciSuccess ∧
      (queuePairListFindEntry (Op.run initState (sampleRun.take 1)).head ⟨5, 1024⟩).isSome ∧
      (vmciQueuePairAlloc (Op.run initState (sampleRun.take 1))
        ⟨false, 5, -1, none, none, true, false, none, 0, true, 0, 0⟩
        ⟨some ⟨5, 1024⟩, true, true, 4096, 4096, vmciInvalidId, vmciQPFlagLocal⟩).calls =
        [queuePairNotifyPeerLocal true ⟨5, 1024⟩ 5 (-1)] ∧
      AllocFailureClean (Op.run initState (sampleRun.take 1))
        ⟨some ⟨5, 1024⟩, true, true, 4096, 4096, vmciInvalidId, vmciQPFlagLocal⟩
        (vmciQueuePairAlloc (Op.run initState (sampleRun.take 1))
          ⟨false, 5, -1, none, none, true, false, none, 0, true, 0, 0⟩
          ⟨some ⟨5, 1024⟩, true, true, 4096, 4096, vmciInvalidId, vmciQPFlagLocal⟩) ∧
    (vmciQueuePairAlloc (Op.run initState sampleRun)
        ⟨false, 5, 0, some 7, some 8, true, false, some 9, 0, true, 0, 0⟩
        ⟨some ⟨5, 3000⟩, true, true, 4096, 4096, 7, vmciQPFlagLocal⟩).result = vmciErrorNoAccess ∧
      AllocFailureClean (Op.run initState sampleRun)
        ⟨some ⟨5, 3000⟩, true, true, 4096, 4096, 7, vmciQPFlagLocal⟩
        (vmciQueuePairAlloc (Op.run initState sampleRun)
          ⟨false, 5, 0, some 7, some 8, true, false, some 9, 0, true, 0, 0⟩
          ⟨some ⟨5, 3000⟩, true, true, 4096, 4096, 7, vmciQPFlagLocal⟩) :=
  ⟨by decide, by decide, by decide, alloc_error_clean _ _ _ (by decide), by decide,
    alloc_error_clean _ _ _ (by decide)⟩

/-! ### Successful allocations -/

/-- A create for the request: no entry had the handle, the hibernate flag allowed the
call, and the list gained one entry `e` holding the returned handle and queues: the
handle asked for when valid, else one of the caller's context that no entry had; the
requested peer, flags and sizes and one reference. A local `e` is the caller's, has a
valid peer, is not attach-only, and has had its queue headers initialised. -/
def AllocCreated (s : State) (env : AllocEnv) (handle : VMCIHandle)
    (produceSize consumeSize : UInt64) (peer : VMCIId) (flags : UInt32) (o : AllocOut) : Prop :=
  (∀ x ∈ s.head, x.handle ≠ handle) ∧ (s.hibernate = false ∨ isLocal flags = true) ∧
    ∃ e, o.state = { s with head := s.head ++ [e], queuePairRID := o.state.queuePairRID } ∧
      o.out = some (e.handle, e.produceQ, e.consumeQ) ∧
      (handle ≠ vmciInvalidHandle → e.handle = handle) ∧
      (handle = vmciInvalidHandle →
        e.handle.context = env.contextID ∧ ∀ x ∈ s.head, x.handle ≠ e.handle) ∧
      e.peer = peer ∧ e.flags = flags ∧ e.produceSize = produceSize ∧
      e.consumeSize = consumeSize ∧ e.refCount = 1 ∧
      (isLocal flags = true → e.handle.context = env.contextID ∧
        (peer = vmciInvalidId ∨ peer = env.contextID) ∧ flags &&& vmciQPFlagAttachOnly = 0 ∧
        Call.initQueueHeader e.produceQ e.handle ∈ o.calls ∧
        Call.initQueueHeader e.consumeQ e.handle ∈ o.calls)

/-- A local attach for the request: the list held, at `pre ++ e :: post`, a local entry
`e` with the handle and one reference, the sizes swapped and the flags asked for less
attach-only; it now holds two references and nothing else changed, the attach
notification went out, and the returned queues are `e`'s consume and produce queues. -/
def AllocAttached (s : State) (env : AllocEnv) (handle : VMCIHandle)
    (produceSize consumeSize : UInt64) (flags : UInt32) (o : AllocOut) : Prop :=
  ∃ pre e post, s.head = pre ++ e :: post ∧ e.handle = handle ∧ isLocal e.flags = true ∧
    e.refCount = 1 ∧ e.produceSize = consumeSize ∧ e.consumeSize = produceSize ∧
    e.flags = flags &&& ~~~vmciQPFlagAttachOnly ∧
    o.state = { s with head := pre ++ { e with refCount := 2 } :: post } ∧
    queuePairNotifyPeerLocal true handle env.contextID env.attachResult ∈ o.calls ∧
    o.out = some (handle, e.consumeQ, e.produceQ)

theorem AllocCreated.not_attached {s : State} {env : AllocEnv} {handle : VMCIHandle}
    {produceSize consumeSize : UInt64} {peer : VMCIId} {flags : UInt32} {o : AllocOut}
    (hc : AllocCreated s env handle produceSize consumeSize peer flags o) :
    ¬AllocAttached s env handle produceSize consumeSize flags o := by
  rintro ⟨pre, e, post, hs, he, -⟩
  exact hc.1 e (hs ▸ List.mem_append_right _ (List.mem_cons_self _ _)) he

section Outcome

variable {s : State} {env : AllocEnv} {handle : VMCIHandle} {produceSize consumeSize : UInt64}
  {peer : VMCIId} {flags : UInt32} {o : AllocOut}

theorem AllocCreated.xor (hc : AllocCreated s env handle produceSize consumeSize peer flags o) :
    Xor' (AllocCreated s env handle produceSize consumeSize peer flags o)
      (AllocAttached s env handle produceSize consumeSize flags o) :=
  .inl ⟨hc, hc.not_attached⟩

theorem AllocAttached.xor (ha : AllocAttached s env handle produceSize consumeSize flags o) :
    Xor' (AllocCreated s env handle produceSize consumeSize peer flags o)
      (AllocAttached s env handle produceSize consumeSize flags o) :=
  .inr ⟨ha, fun hc => hc.not_attached ha⟩

end Outcome

/-- An entry of `s` that holds a reference and at most one holds exactly one. -/
theorem refCount_eq_one {e : QueuePairEntry} (h0 : 0 < e.refCount) (h1 : e.refCount ≤ 1) :
    e.refCount = 1 := by
  have h0' : 0 < e.refCount.toNat := h0
  have h1' : e.refCount.toNat ≤ 1 := h1
  exact UInt32.toNat.inj (show e.refCount.toNat = 1 by omega)

theorem alloc_success_cases (s : State) (env : AllocEnv) (req : AllocRequest)
    (hrc : ∀ e ∈ s.head, 0 < e.refCount) (hn : NoSentinel s)
    (hr : (vmciQueuePairAlloc s env req).result = vmciSuccess) :
    Xor' (AllocCreated s env (req.handle.getD vmciInvalidHandle) req.produceSize req.consumeSize
        req.peer req.flags (vmciQueuePairAlloc s env req))
      (AllocAttached s env (req.handle.getD vmciInvalidHandle) req.produceSize req.consumeSize
        req.flags (vmciQueuePairAlloc s env req)) := by
  unfold vmciQueuePairAlloc at hr ⊢
  have hs := allocPriv_spec s env req vmciNoPrivilegeFlags
  generalize vmciQueuePairAllocPriv s env req vmciNoPrivilegeFlags = o at hs hr ⊢
  generalize req.handle.getD vmciInvalidHandle = handle at hs ⊢
  cases hs with
  | error _ _ _ hneg => exact absurd (hr ▸ hneg) (lt_irrefl _)
  | attach e hf hl hle hps hcs hfl _ =>
    obtain ⟨-, he, pre, post, hs, hpre⟩ := findEntry_eq_some hf
    have h1 := refCount_eq_one (hrc e (findEntry_mem hf)) hle
    refine AllocAttached.xor ⟨pre, e, post, hs, he, hl, h1, hps, hcs, hfl, ?_, by simp, by rw [he]⟩
    rw [hs, setEntry_split handle e _ pre post he hpre, h1]
    rfl
  | create e rid hf hh hc _ _ hpeer hfl hps hcs h1 _ _ _ hloc _ =>
    have hfresh := createHandle_fresh_of_noSentinel hn hc hf
    refine AllocCreated.xor ⟨fun x hx => ?_, hh, e, rfl, rfl, (createHandle_some hc).1,
      fun hv => ⟨((createHandle_some hc).2 hv).2, hfresh⟩, hpeer, hfl, hps, hcs, h1,
      fun hl => ⟨(hloc hl).1, (hloc hl).2.1, (hloc hl).2.2, ?_⟩⟩
    · rcases findEntry_eq_none hf with rfl | hne
      · exact hn x hx
      · exact hne x hx
    · simp [createCalls, hfl, hl]

/-- Along every run in which `VMCI_GetContextID` never answers `VMCI_INVALID_ID`, a
successful `VMCIQueuePair_Alloc` is exactly one of a create and a local attach. -/
theorem alloc_success_of_reachable {s : State} (hs : ReachableBy ValidContexts s) (env : AllocEnv)
    (req : AllocRequest) (hr : (vmciQueuePairAlloc s env req).result = vmciSuccess) :
    Xor' (AllocCreated s env (req.handle.getD vmciInvalidHandle) req.produceSize req.consumeSize
        req.peer req.flags (vmciQueuePairAlloc s env req))
      (AllocAttached s env (req.handle.getD vmciInvalidHandle) req.produceSize req.consumeSize
        req.flags (vmciQueuePairAlloc s env req)) := by
  refine alloc_success_cases s env req (fun e he => ?_) (noSentinel_of_reachableBy hs) hr
  rcases ((inv_of_reachableBy hs).refCount e he).1 with h | h <;> rw [h] <;> decide

/-- After `sampleRun`, a local create of `5:3000` succeeds as a create. -/
theorem alloc_success_sample :
    ReachableBy ValidContexts (Op.run initState sampleRun) ∧
      (vmciQueuePairAlloc (Op.run initState sampleRun)
        ⟨false, 5, 0, some 7, some 8, true, false, some 9, 0, true, 0, 0⟩
        ⟨some ⟨5, 3000⟩, true, true, 4096, 4096, vmciInvalidId, vmciQPFlagLocal⟩).result = vmciSuccess ∧
      AllocCreated (Op.run initState sampleRun) ⟨false, 5, 0, some 7, some 8, true, false, some 9, 0, true, 0, 0⟩
        ⟨5, 3000⟩ 4096 4096 vmciInvalidId vmciQPFlagLocal
        (vmciQueuePairAlloc (Op.run initState sampleRun)
          ⟨false, 5, 0, some 7, some 8, true, false, some 9, 0, true, 0, 0⟩
          ⟨some ⟨5, 3000⟩, true, true, 4096, 4096, vmciInvalidId, vmciQPFlagLocal⟩) := by
  have h5 : (5 : VMCIId) ≠ vmciInvalidId := by decide
  have hs : ReachableBy ValidContexts (Op.run initState sampleRun) :=
    ReachableBy.init.run ⟨h5, h5, h5, h5, trivial⟩
  have hr : (vmciQueuePairAlloc (Op.run initState sampleRun)
      ⟨false, 5, 0, some 7, some 8, true, false, some 9, 0, true, 0, 0⟩
      ⟨some ⟨5, 3000⟩, true, true, 4096, 4096, vmciInvalidId, vmciQPFlagLocal⟩).result = vmciSuccess := by
    decide
  refine ⟨hs, hr, ?_⟩
  rcases alloc_success_of_reachable hs _ _ hr with ⟨hc, -⟩ | ⟨⟨pre, e, post, hh, he, -⟩, -⟩
  · exact hc
  · have : e.handle ∈ (Op.run initState sampleRun).head.map (·.handle) :=
      List.mem_map_of_mem _ (hh ▸ List.mem_append_right pre (List.mem_cons_self e post))
    rw [he] at this
    exact absurd this (by decide)

/-- The sentinel handle handed out a second time. From `sentinelState`, reachable from
`VMCIQueuePair_Init`, the create gets `VMCI_INVALID_HANDLE`, which the list's entry
already carries: the alloc succeeds, the list holds two entries with that handle, and the
call is neither a create for an absent handle nor a local attach. -/
theorem alloc_sentinel_neither :
    Reachable sentinelState ∧
      (vmciQueuePairAlloc sentinelState sentinelAllocEnv sentinelRequest).result = vmciSuccess ∧
      (vmciQueuePairAlloc sentinelState sentinelAllocEnv sentinelRequest).state.head.map (·.handle) =
        [vmciInvalidHandle, vmciInvalidHandle] ∧
      ¬Xor' (AllocCreated sentinelState sentinelAllocEnv (sentinelRequest.handle.getD vmciInvalidHandle)
          sentinelRequest.produceSize sentinelRequest.consumeSize sentinelRequest.peer sentinelRequest.flags
          (vmciQueuePairAlloc sentinelState sentinelAllocEnv sentinelRequest))
        (AllocAttached sentinelState sentinelAllocEnv (sentinelRequest.handle.getD vmciInvalidHandle)
          sentinelRequest.produceSize sentinelRequest.consumeSize sentinelRequest.flags
          (vmciQueuePairAlloc sentinelState sentinelAllocEnv sentinelRequest)) := by
  refine ⟨sentinelState_reachableBy _ (fun _ => trivial) (fun _ _ => trivial) (fun _ => trivial),
    by decide, by decide, ?_⟩
  rintro (⟨hc, -⟩ | ⟨⟨pre, e, post, hs, -, hl, -⟩, -⟩)
  · exact hc.1 sentinelEntry (List.mem_singleton_self _) rfl
  · have he := hs ▸ List.mem_append_right pre (List.mem_cons_self e post)
    rw [List.mem_singleton.1 he] at hl
    exact absurd hl (by decide)

/-! ### Detach -/

/-- What a successful detach does to the entry `e` found, at its place `pre ++ e :: post`
in the list: when its count reaches zero it is unlinked and its PPN set and queues are
released; otherwise it is written back with the count one lower and nothing released. -/
def DetachRelease (s : State) (e : QueuePairEntry) (o : DetachOut) : Prop :=
  ∃ pre post, s.head = pre ++ e :: post ∧
    (e.refCount - 1 = 0 →
      o.state.head = pre ++ post ∧ ∃ cs, o.calls = cs ++ queuePairEntryDestroy e) ∧
    (e.refCount - 1 ≠ 0 →
      (∃ b, o.state.head =
        pre ++ { e with refCount := e.refCount - 1, hibernateFailure := b } :: post) ∧
      ∀ c ∈ o.calls, c ∉ queuePairEntryDestroy e)

theorem detachOut_release {s : State} {handle : VMCIHandle} {e : QueuePairEntry} {b : Bool}
    {result : Int} {failed : List VMCIHandle} {calls : List Call}
    (hf : queuePairListFindEntry s.head handle = some e) (hr : vmciSuccess ≤ result)
    (hc : ∀ c ∈ calls, c ∉ queuePairEntryDestroy e) :
    DetachRelease s e (detachOut s handle result { e with hibernateFailure := b } failed calls) := by
  obtain ⟨pre, post, hs, hset, hrm⟩ :=
    findEntry_split hf { e with refCount := e.refCount - 1, hibernateFailure := b }
  refine ⟨pre, post, hs, fun h0 => ?_, fun h0 => ?_⟩
  · simp only [detachOut, ge_iff_le, hr, ite_true, h0, hrm]
    exact ⟨trivial, calls, rfl⟩
  · simp only [detachOut, ge_iff_le, hr, ite_true, h0, ite_false, hset]
    exact ⟨⟨b, rfl⟩, hc⟩

/-- Why a detach of the entry `e` succeeds: `e` is local, and if both ends were attached
the peer-detach notification went out and succeeded; or the detach datagram for `e`
succeeded; or `e` is hibernate-failed and the datagram answered not found. -/
def DetachCause (env : DetachEnv) (h : VMCIHandle) (e : QueuePairEntry) (calls : List Call) :
    Prop :=
  isLocal e.flags = true ∧ (e.refCount = 2 → vmciSuccess ≤ env.notifyResult ∧
      queuePairNotifyPeerLocal false h env.contextID env.notifyResult ∈ calls) ∨
    isLocal e.flags = false ∧ vmciSuccess ≤ env.detachResult ∧
      vmciQueuePairDetachHyperCall h env.detachResult ∈ calls ∨
    isLocal e.flags = false ∧ e.hibernateFailure = true ∧ env.detachResult = vmciErrorNotFound ∧
      vmciQueuePairDetachHyperCall h env.detachResult ∈ calls

/-- The contract of `VMCIQueuePair_Detach` for the handle `h`: not found and nothing
changed when no entry has it; otherwise a failure changes nothing, and a success
releases one reference of the entry found, for one of the causes above. -/
def DetachContract (s : State) (env : DetachEnv) (h : VMCIHandle) (o : DetachOut) : Prop :=
  ((∀ x ∈ s.head, x.handle ≠ h) → o.result = vmciErrorNotFound ∧ o.state = s ∧ o.calls = []) ∧
    ∀ e, queuePairListFindEntry s.head h = some e →
      (o.result < vmciSuccess → o.state = s) ∧
      (vmciSuccess ≤ o.result → DetachRelease s e o ∧ DetachCause env h e o.calls)

theorem detach_contract (s : State) (env : DetachEnv) (h : VMCIHandle)
    (hv : h ≠ vmciInvalidHandle) : DetachContract s env h (vmciQueuePairDetach s env h) := by
  simp only [vmciQueuePairDetach, hv, ite_false]
  refine ⟨fun hn => by simp [vmciQueuePairDetachHelper, findEntry_of_valid hv hn], fun e hf => ?_⟩
  simp only [vmciQueuePairDetachHelper, hf, detachOut_result]
  have hb := detachBranch_spec s env h e
  generalize detachBranch s env h e = b at hb ⊢
  refine ⟨fun hr => ?_, fun hr => ?_⟩
  · obtain ⟨h1, h2⟩ := hb.error hr
    rw [h1, h2, detachOut_error hf hr]
  have hc : ∀ c ∈ b.2.2.2, c ∉ queuePairEntryDestroy e := by
    cases hb <;> simp [queuePairEntryDestroy, queuePairNotifyPeerLocal, vmciQueuePairDetachHyperCall]
  cases hb with
  | localNotify hl _ =>
    exact ⟨detachOut_release hf hr hc, .inl ⟨hl, fun _ => ⟨hr, mem_detachOut_calls (by simp)⟩⟩⟩
  | localLast hl h1 =>
    exact ⟨detachOut_release hf hr hc, .inl ⟨hl, fun h2 => absurd (h2 ▸ h1) (by decide)⟩⟩
  | remote hl _ =>
    exact ⟨detachOut_release hf hr hc, .inr (.inl ⟨hl, hr, mem_detachOut_calls (by simp)⟩)⟩
  | remoteUnmark hl hhf hd =>
    refine ⟨detachOut_release hf hr hc, .inr ?_⟩
    rcases hd with hd | hd
    · exact .inl ⟨hl, hd ▸ le_rfl, mem_detachOut_calls (by simp)⟩
    · exact .inr ⟨hl, hhf, hd, mem_detachOut_calls (by simp)⟩

/-- After `sampleRun`, detaching the local pair `5:1024` at two references sends the
peer-detach notification and succeeds; detaching the hibernate-failed `5:2000` succeeds on
a `VMCI_ERROR_NOT_FOUND` answer and unlinks it. -/
theorem detach_contract_sample :
    (⟨5, 1024⟩ : VMCIHandle) ≠ vmciInvalidHandle ∧
      (vmciQueuePairDetach (Op.run initState sampleRun) ⟨5, 0, 0⟩ ⟨5, 1024⟩).result = vmciSuccess ∧
      DetachContract (Op.run initState sampleRun) ⟨5, 0, 0⟩ ⟨5, 1024⟩
        (vmciQueuePairDetach (Op.run initState sampleRun) ⟨5, 0, 0⟩ ⟨5, 1024⟩) ∧
    (⟨5, 2000⟩ : VMCIHandle) ≠ vmciInvalidHandle ∧
      (vmciQueuePairDetach (Op.run initState sampleRun) ⟨5, 0, vmciErrorNotFound⟩ ⟨5, 2000⟩).result =
        vmciSuccess ∧
      DetachContract (Op.run initState sampleRun) ⟨5, 0, vmciErrorNotFound⟩ ⟨5, 2000⟩
        (vmciQueuePairDetach (Op.run initState sampleRun) ⟨5, 0, vmciErrorNotFound⟩ ⟨5, 2000⟩) :=
  ⟨by decide, by decide, detach_contract _ _ _ (by decide), by decide, by decide,
    detach_contract _ _ _ (by decide)⟩

end VMCIQueuePair
