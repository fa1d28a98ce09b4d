import VMCIQueuePair.Accounting
import VMCIQueuePair.FailedList

/-! A queue pair's life: a successful `VMCIQueuePair_AllocPriv` followed by a successful
`VMCIQueuePair_Detach` of the handle it returned. From any reachable state the pair
undoes itself: a local attach takes the second reference and the detach gives it back,
and a create appends the entry that the detach, taking its only reference, unlinks and
destroys. The globals come back but for the resource-id counter, and the ledger of
queues and PPN sets comes back to where it was. A non-local create is made only while
the flag is clear, when the failed-handle list is empty, so the detach's unmark, if it
runs, changes nothing. The header pages are written once, at the pair's birth: of all
the calls of every entry point, only a local create calls `VMCIQueueHeader_Init`, on the
two queues it has just allocated. -/

namespace VMCIQueuePair

theorem freshAllocs_right {r r' : Resources} {l : List Call} (l' : List Call)
    (h : FreshAllocs r (l ++ l')) (hrun : r.run l = some r') : FreshAllocs r' l' := by
  induction l generalizing r with
  | nil => cases hrun; exact h
  | cons c cs ih =>
    obtain ⟨r1, hc, hrun⟩ := Resources.run_cons_eq_some.1 hrun
    exact ih (h.2.2 r1 hc) hrun

/-! ### The detach of an entry found -/

theorem detach_invalid_result (t : State) (denv : DetachEnv) :
    (vmciQueuePairDetach t denv vmciInvalidHandle).result = vmciErrorInvalidArgs := by
  simp [vmciQueuePairDetach]

/-- A detach of a handle `FindEntry` resolves runs the branch and the `out:` label on the
entry found. -/
theorem detach_found {t : State} (denv : DetachEnv) {h : VMCIHandle} {e : QueuePairEntry}
    (hf : queuePairListFindEntry t.head h = some e) :
    vmciQueuePairDetach t denv h = detachOut t h (detachBranch t denv h e).1
      (detachBranch t denv h e).2.1 (detachBranch t denv h e).2.2.1 (detachBranch t denv h e).2.2.2 := by
  simp [vmciQueuePairDetach, (findEntry_eq_some hf).1, vmciQueuePairDetachHelper, hf]

/-- `out:` after a success that drops the last reference: unlink, then destroy. -/
theorem detachOut_of_last {t : State} {h : VMCIHandle} {e1 : QueuePairEntry} {result : Int}
    {failed : List VMCIHandle} {calls : List Call} (hr : vmciSuccess ≤ result)
    (h0 : e1.refCount - 1 = 0) :
    detachOut t h result e1 failed calls =
      ⟨result, { t with head := queuePairListRemoveEntry h t.head, hibernateFailedList := failed },
        calls ++ queuePairEntryDestroy { e1 with refCount := e1.refCount - 1 }⟩ := by
  simp [detachOut, hr, h0]

/-- `out:` after a success that leaves a reference: the entry written back, one lower. -/
theorem detachOut_of_keep {t : State} {h : VMCIHandle} {e1 : QueuePairEntry} {result : Int}
    {failed : List VMCIHandle} {calls : List Call} (hr : vmciSuccess ≤ result)
    (h1 : e1.refCount - 1 ≠ 0) :
    detachOut t h result e1 failed calls =
      ⟨result, { t with head := setEntry h { e1 with refCount := e1.refCount - 1 } t.head
                        hibernateFailedList := failed }, calls⟩ := by
  simp [detachOut, hr, h1]

/-- `out:` after a failure: the entry written back as the branch left it. -/
theorem detachOut_of_error {t : State} {h : VMCIHandle} {e1 : QueuePairEntry} {result : Int}
    {failed : List VMCIHandle} {calls : List Call} (hr : result < vmciSuccess) :
    detachOut t h result e1 failed calls =
      ⟨result, { t with head := setEntry h e1 t.head, hibernateFailedList := failed }, calls⟩ := by
  simp [detachOut, not_le.2 hr]

theorem findEntry_middle {pre post : List QueuePairEntry} {x : QueuePairEntry} {h : VMCIHandle}
    (hv : h ≠ vmciInvalidHandle) (hx : x.handle = h) (hpre : ∀ y ∈ pre, y.handle ≠ h) :
    queuePairListFindEntry (pre ++ x :: post) h = some x := by
  simp only [queuePairListFindEntry, hv, ite_false]
  rw [List.find?_append, List.find?_eq_none.2 fun y hy => by simpa using hpre y hy]
  simp [hx]

/-! ### Alloc, then detach -/

/-- From a state satisfying `Inv` whose failed-handle list is empty while the flag is
clear, a successful alloc and a successful detach of its handle leave the globals as
they were but for the counter. -/
theorem detach_after_alloc {s : State} (hi : Inv s)
    (hw : s.hibernate = false → s.hibernateFailedList = []) (env : AllocEnv) (req : AllocRequest)
    (pf : UInt32) (denv : DetachEnv) {h : VMCIHandle} {pq cq : Queue}
    (hout : (vmciQueuePairAllocPriv s env req pf).out = some (h, pq, cq))
    (hok : vmciSuccess ≤ (vmciQueuePairDetach (vmciQueuePairAllocPriv s env req pf).state denv h).result) :
    (vmciQueuePairDetach (vmciQueuePairAllocPriv s env req pf).state denv h).state =
      { s with queuePairRID := (vmciQueuePairAllocPriv s env req pf).state.queuePairRID } := by
  have hs := allocPriv_spec s env req pf
  generalize vmciQueuePairAllocPriv s env req pf = o at hs hout hok ⊢
  cases hs with
  | error => cases hout
  | attach e hf hl hr =>
    cases hout
    obtain ⟨hv, he, pre, post, hsplit, hpre⟩ := findEntry_eq_some hf
    have h1 := (hi.refCount e (findEntry_mem hf)).eq_one_of_le hr
    rw [hsplit, setEntry_split _ e _ pre post he hpre] at hok ⊢
    rw [detach_found denv (findEntry_middle (he ▸ hv) rfl (he ▸ hpre))] at hok ⊢
    have hb := detachBranch_spec { s with head := pre ++ { e with refCount := e.refCount + 1 } :: post }
      denv e.handle { e with refCount := e.refCount + 1 }
    generalize detachBranch _ denv e.handle _ = b at hb hok ⊢
    rw [detachOut_result] at hok
    cases hb with
    | localNotify =>
      -- the second reference goes back: the entry is again `e`, with its one reference
      rw [detachOut_of_keep hok (by simp [h1])]
      dsimp only
      rw [setEntry_split e.handle { e with refCount := e.refCount + 1 } _ pre post rfl (he ▸ hpre)]
      have hrc : e.refCount + 1 - 1 = e.refCount := by rw [h1]; decide
      simp only [hrc]
    | localLast _ h2 => simp [h1] at h2
    | remote hl' | remoteUnmark hl' => simp [hl] at hl'
  | create e rid hf hh hc _ _ _ hfl _ _ hr1 =>
    cases hout
    have hv : e.handle ≠ vmciInvalidHandle := by
      rintro hv; rw [hv, detach_invalid_result] at hok; exact absurd hok (by decide)
    have hpre : ∀ x ∈ s.head, x.handle ≠ e.handle := fun x hx =>
      (createHandle_fresh hc hf x hx).resolve_right hv
    rw [detach_found denv (findEntry_append_new (findEntry_of_valid hv hpre) hv rfl)] at hok ⊢
    have hb := detachBranch_spec { s with head := s.head ++ [e], queuePairRID := rid } denv e.handle e
    generalize detachBranch _ denv e.handle e = b at hb hok ⊢
    rw [detachOut_result] at hok
    -- the only reference goes, and an unmark finds the list empty
    have hb1 : b.2.1.refCount = 1 ∧ b.2.2.1 = s.hibernateFailedList := by
      cases hb with
      | localNotify _ h2 => exact absurd (hr1 ▸ h2) (by decide)
      | localLast | remote => exact ⟨hr1, rfl⟩
      | remoteUnmark hl =>
        have h0 := hw (hh.resolve_right (by rw [← hfl]; simp [hl]))
        exact ⟨hr1, by simp [h0]⟩
    rw [detachOut_of_last hok (by rw [hb1.1]; rfl), hb1.2]
    dsimp only
    rw [removeEntry_split e.handle e s.head [] rfl hpre, List.append_nil]

/-- Over every run, a successful alloc followed by a successful detach of the handle it
returned leaves the globals as they were but for the resource-id counter; and, the
allocators answering fresh resources, its calls and the detach's replay the ledger of
queues and PPN sets back to where it was. -/
theorem detach_undoes_alloc {P : State → Op → Prop} {s : State} (hs : ReachableBy P s)
    (env : AllocEnv) (req : AllocRequest) (pf : UInt32) (denv : DetachEnv) {h : VMCIHandle}
    {pq cq : Queue} (hout : (vmciQueuePairAllocPriv s env req pf).out = some (h, pq, cq))
    (hok : vmciSuccess ≤ (vmciQueuePairDetach (vmciQueuePairAllocPriv s env req pf).state denv h).result) :
    (vmciQueuePairDetach (vmciQueuePairAllocPriv s env req pf).state denv h).state =
        { s with queuePairRID := (vmciQueuePairAllocPriv s env req pf).state.queuePairRID } ∧
      ∀ r, Tracked s.head r →
        FreshAllocs r ((vmciQueuePairAllocPriv s env req pf).calls ++
          (vmciQueuePairDetach (vmciQueuePairAllocPriv s env req pf).state denv h).calls) →
        r.run ((vmciQueuePairAllocPriv s env req pf).calls ++
          (vmciQueuePairDetach (vmciQueuePairAllocPriv s env req pf).state denv h).calls) = some r := by
  have hstate := detach_after_alloc (inv_of_reachableBy hs) (failed_nil_of_awake hs) env req pf denv
    hout hok
  refine ⟨hstate, fun r ht hf => ?_⟩
  obtain ⟨r1, hrun1, ht1, -⟩ := accounted_alloc ht env req pf (freshAllocs_left _ hf)
  obtain ⟨r2, hrun2, ht2, -⟩ := accounted_detach ht1 denv h (freshAllocs_right _ hf hrun1)
  rw [Resources.run_append, hrun1, Option.some_bind, hrun2, ht2.eq, ht.eq, hstate]

/-- A local create with an auto-assigned handle, detached again. -/
theorem detach_undoes_alloc_local :
    ReachableBy (fun _ _ => True) initState ∧
      (vmciQueuePairAllocPriv initState ⟨false, 5, 0, some 1, some 2, true, false, some 3, 0, true, 0, 0⟩
        ⟨some vmciInvalidHandle, true, true, 4096, 4096, vmciInvalidId, vmciQPFlagLocal⟩ 0).out =
        some (⟨5, 1024⟩, 1, 2) ∧
      vmciSuccess ≤ (vmciQueuePairDetach (vmciQueuePairAllocPriv initState
        ⟨false, 5, 0, some 1, some 2, true, false, some 3, 0, true, 0, 0⟩
        ⟨some vmciInvalidHandle, true, true, 4096, 4096, vmciInvalidId, vmciQPFlagLocal⟩ 0).state
        ⟨5, 0, 0⟩ ⟨5, 1024⟩).result ∧
      (vmciQueuePairDetach (vmciQueuePairAllocPriv initState
          ⟨false, 5, 0, some 1, some 2, true, false, some 3, 0, true, 0, 0⟩
          ⟨some vmciInvalidHandle, true, true, 4096, 4096, vmciInvalidId, vmciQPFlagLocal⟩ 0).state
          ⟨5, 0, 0⟩ ⟨5, 1024⟩).state =
        { initState with queuePairRID := (vmciQueuePairAllocPriv initState
          ⟨false, 5, 0, some 1, some 2, true, false, some 3, 0, true, 0, 0⟩
          ⟨some vmciInvalidHandle, true, true, 4096, 4096, vmciInvalidId, vmciQPFlagLocal⟩ 0).state.queuePairRID } :=
  ⟨.init, by decide, by decide, (@detach_undoes_alloc (fun _ _ => True) _ .init
    ⟨false, 5, 0, some 1, some 2, true, false, some 3, 0, true, 0, 0⟩
    ⟨some vmciInvalidHandle, true, true, 4096, 4096, vmciInvalidId, vmciQPFlagLocal⟩ 0 ⟨5, 0, 0⟩
    ⟨5, 1024⟩ 1 2 (by decide) (by decide)).1⟩

/-! ### Header pages -/

/-- The queue and the handle of a `VMCIQueueHeader_Init` call. -/
@[simp] def Call.header? : Call → Option (Queue × VMCIHandle)
  | .initQueueHeader q h => some (q, h)
  | _ => none

/-- The header pages `calls` initialise, in order. -/
def queueHeaders (calls : List Call) : List (Queue × VMCIHandle) :=
  calls.filterMap Call.header?

@[simp] theorem queueHeaders_nil : queueHeaders [] = [] := rfl

@[simp] theorem queueHeaders_append (l l' : List Call) :
    queueHeaders (l ++ l') = queueHeaders l ++ queueHeaders l' :=
  List.filterMap_append l l' _

@[simp] theorem queueHeaders_cons (c : Call) (l : List Call) :
    queueHeaders (c :: l) = c.header?.toList ++ queueHeaders l := by
  cases c <;> rfl

@[simp] theorem queueHeaders_ppnSet (p : Option PPNSet) :
    queueHeaders (p.map Call.allocPPNSet).toList = [] := by
  cases p <;> rfl

@[simp] theorem queueHeaders_hyperCall (env : AllocEnv) (e : QueuePairEntry) :
    queueHeaders (vmciQueuePairAllocHyperCall env e).2 = [] := by
  unfold vmciQueuePairAllocHyperCall
  split_ifs <;> rfl

@[simp] theorem queueHeaders_destroy (e : QueuePairEntry) :
    queueHeaders (queuePairEntryDestroy e) = [] := rfl

theorem queueHeaders_createCalls (env : AllocEnv) (e : QueuePairEntry) :
    queueHeaders (createCalls env e) =
      if isLocal e.flags then [(e.produceQ, e.handle), (e.consumeQ, e.handle)] else [] := by
  by_cases hl : isLocal e.flags = true <;> simp [createCalls, hl]

section Failures

variable {s : State} {env : AllocEnv} {handle : VMCIHandle} {produceSize consumeSize : UInt64}
  {peer : VMCIId} {flags : UInt32}

/-! Every failure of the alloc path writes no header page. -/

theorem allocAttach_headers (e : QueuePairEntry)
    (hr : (allocAttach s env handle produceSize consumeSize flags e).result < vmciSuccess) :
    queueHeaders (allocAttach s env handle produceSize consumeSize flags e).calls = [] := by
  revert hr
  unfold allocAttach allocError allocOut
  split_ifs <;> intro hr <;> first | rfl | exact absurd hr (lt_irrefl _)

theorem allocInsert_headers (e : QueuePairEntry) {calls : List Call} (hc : queueHeaders calls = [])
    (hr : (allocInsert s env e calls).result < vmciSuccess) :
    queueHeaders (allocInsert s env e calls).calls = [] := by
  revert hr
  unfold allocInsert allocError allocOut
  dsimp only
  split_ifs <;> intro hr <;> first
    | exact absurd hr (lt_irrefl _)
    | simp only [queueHeaders_append, hc, queueHeaders_hyperCall, queueHeaders_destroy, List.append_nil]

theorem allocCreate_headers
    (hr : (allocCreate s env handle produceSize consumeSize peer flags).result < vmciSuccess) :
    queueHeaders (allocCreate s env handle produceSize consumeSize peer flags).calls = [] := by
  revert hr
  unfold allocCreate allocError
  rcases env.produceQ with _ | pq
  · intro; rfl
  rcases env.consumeQ with _ | cq
  · intro; rfl
  dsimp only
  rcases queuePairEntryCreate s.head s.queuePairRID env.contextID env.entryMem
    env.hibernateFailure handle peer flags produceSize consumeSize pq cq with ⟨_ | e, rid⟩
  · intro; rfl
  rcases env.ppnSet with _ | p <;> dsimp only
  · split_ifs
    · intro; simp [queuePairEntryDestroy]
    · exact allocInsert_headers _ rfl
  · exact allocInsert_headers _ rfl

theorem allocPriv_headers (req : AllocRequest) (pf : UInt32)
    (hr : (vmciQueuePairAllocPriv s env req pf).result < vmciSuccess) :
    queueHeaders (vmciQueuePairAllocPriv s env req pf).calls = [] := by
  revert hr
  unfold vmciQueuePairAllocPriv vmciQueuePairAllocHelper allocError
  rcases req with ⟨_ | h, pq, cq, ps, cs, peer, flags⟩
  · split_ifs <;> intro <;> rfl
  · dsimp only
    split_ifs
    any_goals intro; rfl
    rcases queuePairListFindEntry s.head h with _ | e
    · exact allocCreate_headers
    · exact allocAttach_headers _

end Failures

/-! Neither a detach nor a conversion writes a header page. -/

@[simp] theorem queueHeaders_detachOut (s : State) (h : VMCIHandle) (result : Int)
    (e : QueuePairEntry) (failed : List VMCIHandle) (calls : List Call) :
    queueHeaders (detachOut s h result e failed calls).calls = queueHeaders calls := by
  unfold detachOut; dsimp only; split_ifs <;> simp [queueHeaders_destroy]

theorem detach_headers (s : State) (env : DetachEnv) (handle : VMCIHandle) :
    queueHeaders (vmciQueuePairDetach s env handle).calls = [] := by
  unfold vmciQueuePairDetach vmciQueuePairDetachHelper
  split_ifs
  · rfl
  split
  · rfl
  · rw [queueHeaders_detachOut]
    unfold detachBranch
    dsimp only
    split_ifs <;> rfl

theorem convertToLocal_headers (contextID : VMCIId) :
    ∀ (env : Nat → ConvertEnv) (failed : List VMCIHandle) (es : List QueuePairEntry),
      queueHeaders (convertToLocal contextID env failed es).2.2 = []
  | _, _, [] => rfl
  | env, failed, e :: es => by
    have he : queueHeaders (convertEntry contextID (env 0) failed e).2.2 = [] := by
      unfold convertEntry
      dsimp only
      split_ifs <;> rfl
    simp only [convertToLocal, queueHeaders_append, he, convertToLocal_headers, List.append_nil]

theorem convert_headers (s : State) (env : ConvertOpEnv) (toLocal deviceReset : Bool) :
    queueHeaders (vmciQueuePairConvert s env toLocal deviceReset).2 = [] := by
  unfold vmciQueuePairConvert
  split_ifs
  · exact convertToLocal_headers _ _ _ _
  · simp [queueHeaders, List.filterMap_map, Function.comp_def, queuePairNotifyPeerLocal]
  · rfl

/-- A call after which the list has gained one local entry is a create, and it
initialised the headers of that entry's two queues and no others. -/
theorem headers_of_append {s : State} (op : Op) {e : QueuePairEntry}
    (he : (op.apply s).head = s.head ++ [e]) (hl : isLocal e.flags = true) :
    queueHeaders (op.calls s) = [(e.produceQ, e.handle), (e.consumeQ, e.handle)] := by
  have hlen : ¬(op.apply s).head.length ≤ s.head.length := by simp [he]
  rcases op with ⟨env, req, pf⟩ | ⟨env, handle⟩ | ⟨env, toLocal, deviceReset⟩
  · have hspec := allocPriv_spec s env req pf
    simp only [Op.calls, Op.apply] at he hlen ⊢
    generalize vmciQueuePairAllocPriv s env req pf = o at he hlen hspec ⊢
    cases hspec with
    | error => exact absurd le_rfl hlen
    | attach e' hf =>
      refine absurd ?_ hlen
      have h := congrArg List.length
        (setEntry_map_handle { e' with refCount := e'.refCount + 1 } (findEntry_eq_some hf).2.1 s.head)
      rw [List.length_map, List.length_map] at h
      exact h.le
    | create e' rid =>
      obtain rfl := List.singleton_inj.1 (List.append_cancel_left he)
      simp [queueHeaders_createCalls, hl]
  · refine absurd ?_ hlen
    simpa using (detach_handles_sublist s env handle).length_le
  · refine absurd ?_ hlen
    simpa using (congrArg List.length (convert_handles s env toLocal deviceReset)).le

/-- Over every run, `VMCIQueueHeader_Init` is called only by a create of a local queue
pair, and every such create calls it exactly twice: once for its produce queue and once
for its consume queue, with its handle. Never by an attach (the entry found has its one
reference), a failure, a detach or a conversion; and, the allocators answering fresh
queues, the two queues are distinct and no entry held either before. -/
theorem header_init_at_create {P : State → Op → Prop} {s : State} (hs : ReachableBy P s)
    (op : Op) :
    (queueHeaders (op.calls s) = [] ∨
      ∃ e : QueuePairEntry, (op.apply s).head = s.head ++ [e] ∧ isLocal e.flags = true ∧
        queueHeaders (op.calls s) = [(e.produceQ, e.handle), (e.consumeQ, e.handle)] ∧
        ∀ r, Tracked s.head r → FreshAllocs r (op.calls s) →
          e.produceQ ∉ entryQueues s.head ∧ e.consumeQ ∉ entryQueues s.head ∧
            e.produceQ ≠ e.consumeQ) ∧
      ∀ e : QueuePairEntry, (op.apply s).head = s.head ++ [e] → isLocal e.flags = true →
        queueHeaders (op.calls s) = [(e.produceQ, e.handle), (e.consumeQ, e.handle)] := by
  refine ⟨?_, fun e he hl => headers_of_append op he hl⟩
  rcases op with ⟨env, req, pf⟩ | ⟨env, handle⟩ | ⟨env, toLocal, deviceReset⟩
  · have hfail := @allocPriv_headers s env req pf
    have hspec := allocPriv_spec s env req pf
    simp only [Op.calls, Op.apply]
    generalize vmciQueuePairAllocPriv s env req pf = o at hfail hspec ⊢
    cases hspec with
    | error _ _ _ hr => exact .inl (hfail hr)
    | attach e hf _ hr =>
      -- the entry found has its one reference, so the attach takes the second
      have h1 := ((inv_of_reachableBy hs).refCount e (findEntry_mem hf)).eq_one_of_le hr
      exact .inl (by simp [h1, queuePairNotifyPeerLocal])
    | create e rid =>
      by_cases hl : isLocal e.flags = true
      · refine .inr ⟨e, rfl, hl, by simp [queueHeaders_createCalls, hl], fun r ht hf => ?_⟩
        have hpq : e.produceQ ∉ r.queues := hf.1 _ rfl
        have hcq : e.consumeQ ∉ e.produceQ ::ₘ r.queues := (hf.2.2 _ rfl).1 _ rfl
        rw [ht.eq] at hpq hcq
        exact ⟨hpq, fun h => hcq (Multiset.mem_cons_of_mem h),
          fun h => hcq (h ▸ Multiset.mem_cons_self _ _)⟩
      · exact .inl (by simp [queueHeaders_createCalls, hl])
  · exact .inl (detach_headers s env handle)
  · exact .inl (convert_headers s env toLocal deviceReset)

/-- After `sampleRun`, the local create of `5:3000` writes its two header pages. -/
theorem header_init_at_create_sample :
    Reachable (Op.run initState sampleRun) ∧
      queueHeaders ((Op.alloc ⟨false, 5, 0, some 7, some 8, true, false, some 9, 0, true, 0, 0⟩
          ⟨some ⟨5, 3000⟩, true, true, 4096, 4096, vmciInvalidId, vmciQPFlagLocal⟩ 0).calls
            (Op.run initState sampleRun)) = [(7, ⟨5, 3000⟩), (8, ⟨5, 3000⟩)] ∧
      ((queueHeaders ((Op.alloc ⟨false, 5, 0, some 7, some 8, true, false, some 9, 0, true, 0, 0⟩
          ⟨some ⟨5, 3000⟩, true, true, 4096, 4096, vmciInvalidId, vmciQPFlagLocal⟩ 0).calls
            (Op.run initState sampleRun)) = [] ∨
        ∃ e : QueuePairEntry, ((Op.alloc ⟨false, 5, 0, some 7, some 8, true, false, some 9, 0, true, 0, 0⟩
            ⟨some ⟨5, 3000⟩, true, true, 4096, 4096, vmciInvalidId, vmciQPFlagLocal⟩ 0).apply
              (Op.run initState sampleRun)).head = (Op.run initState sampleRun).head ++ [e] ∧
          isLocal e.flags = true ∧
          queueHeaders ((Op.alloc ⟨false, 5, 0, some 7, some 8, true, false, some 9, 0, true, 0, 0⟩
            ⟨some ⟨5, 3000⟩, true, true, 4096, 4096, vmciInvalidId, vmciQPFlagLocal⟩ 0).calls
              (Op.run initState sampleRun)) = [(e.produceQ, e.handle), (e.consumeQ, e.handle)] ∧
          ∀ r, Tracked (Op.run initState sampleRun).head r →
            FreshAllocs r ((Op.alloc ⟨false, 5, 0, some 7, some 8, true, false, some 9, 0, true, 0, 0⟩
              ⟨some ⟨5, 3000⟩, true, true, 4096, 4096, vmciInvalidId, vmciQPFlagLocal⟩ 0).calls
                (Op.run initState sampleRun)) →
            e.produceQ ∉ entryQueues (Op.run initState sampleRun).head ∧
              e.consumeQ ∉ entryQueues (Op.run initState sampleRun).head ∧ e.produceQ ≠ e.consumeQ) ∧
        ∀ e : QueuePairEntry, ((Op.alloc ⟨false, 5, 0, some 7, some 8, true, false, some 9, 0, true, 0, 0⟩
            ⟨some ⟨5, 3000⟩, true, true, 4096, 4096, vmciInvalidId, vmciQPFlagLocal⟩ 0).apply
              (Op.run initState sampleRun)).head = (Op.run initState sampleRun).head ++ [e] →
          isLocal e.flags = true →
          queueHeaders ((Op.alloc ⟨false, 5, 0, some 7, some 8, true, false, some 9, 0, true, 0, 0⟩
            ⟨some ⟨5, 3000⟩, true, true, 4096, 4096, vmciInvalidId, vmciQPFlagLocal⟩ 0).calls
              (Op.run initState sampleRun)) = [(e.produceQ, e.handle), (e.consumeQ, e.handle)]) :=
  have hs : Reachable (Op.run initState sampleRun) :=
    ReachableBy.init.run ⟨trivial, trivial, trivial, trivial, trivial⟩
  ⟨hs, by decide, header_init_at_create hs _⟩

end VMCIQueuePair
