import VMCIQueuePair.Run

/-! What `Inv` gives about the driver. The reference count of every entry is 1 or 2,
and 2 only for a local entry, so the assertions on the count in
`VMCIQueuePairAllocHelper` and `VMCIQueuePairDetachHelper` hold and a successful
detach of a non-local entry unlinks it. Only `VMCIQueuePair_Convert` writes the
`hibernate` flag: the sweep sets it and the wake-up clears it. While it is set, no call
creates a non-local queue pair, and every non-local entry is marked hibernate-failed
and recorded. When `VMCI_GetContextID` never answers `VMCI_INVALID_ID`, no two entries
share a handle. -/

namespace VMCIQueuePair

/-! ### Reference counts -/

/-- A successful detach of a non-local entry holding one reference unlinks it. -/
theorem detach_remote_unlinks {s : State} {env : DetachEnv} {handle : VMCIHandle}
    {e : QueuePairEntry} (hf : queuePairListFindEntry s.head handle = some e)
    (hl : isLocal e.flags = false) (h1 : e.refCount = 1)
    (hr : vmciSuccess ≤ (vmciQueuePairDetach s env handle).result) :
    (vmciQueuePairDetach s env handle).state.head = queuePairListRemoveEntry handle s.head := by
  have hv := (findEntry_eq_some hf).1
  simp only [vmciQueuePairDetach, hv, ite_false, vmciQueuePairDetachHelper, hf] at hr ⊢
  have hb := detachBranch_spec s env handle e
  generalize detachBranch s env handle e = b at hb hr ⊢
  cases hb with
  | localNotify hl' | localLast hl' => simp [hl] at hl'
  | remote | remoteUnmark =>
    simp only [detachOut] at hr ⊢
    split_ifs at hr ⊢ <;> simp_all

/-- The reference counts of a state: 1 or 2 for every entry, 2 only when local; the
entry any call finds holds a reference, exactly one when not local; and a successful
detach of a non-local entry unlinks it. -/
def RefCountBound (s : State) : Prop :=
  (∀ e ∈ s.head, (e.refCount = 1 ∨ e.refCount = 2) ∧ (e.refCount = 2 → isLocal e.flags = true)) ∧
    (∀ handle e, queuePairListFindEntry s.head handle = some e →
      0 < e.refCount ∧ (isLocal e.flags = false → e.refCount = 1)) ∧
    (∀ env handle e, queuePairListFindEntry s.head handle = some e → isLocal e.flags = false →
      vmciSuccess ≤ (vmciQueuePairDetach s env handle).result →
      (vmciQueuePairDetach s env handle).state.head = queuePairListRemoveEntry handle s.head)

theorem refCount_bound {s : State} (hs : Reachable s) : RefCountBound s := by
  have hi := inv_of_reachableBy hs
  have found : ∀ handle e, queuePairListFindEntry s.head handle = some e → RefCountOk e :=
    fun _ e hf => hi.refCount e (findEntry_mem hf)
  refine ⟨hi.refCount, fun handle e hf => ⟨?_, (found handle e hf).eq_one_of_remote⟩,
    fun env handle e hf hl => detach_remote_unlinks hf hl ((found handle e hf).eq_one_of_remote hl)⟩
  rcases (found handle e hf).1 with h | h <;> rw [h] <;> decide

/-- `sampleRun` ends with a local pair at two references and a non-local one at one. -/
theorem refCount_bound_sample :
    Reachable (Op.run initState sampleRun) ∧
      (Op.run initState sampleRun).head.map (fun e => (e.handle, isLocal e.flags, e.refCount)) =
        [(⟨5, 1024⟩, true, 2), (⟨5, 2000⟩, false, 1)] ∧
      RefCountBound (Op.run initState sampleRun) :=
  have hs : Reachable (Op.run initState sampleRun) :=
    ReachableBy.init.run ⟨trivial, trivial, trivial, trivial, trivial⟩
  ⟨hs, by decide, refCount_bound hs⟩

/-! ### Handles -/

/-- The context ids `VMCI_GetContextID` answers during the call are not `VMCI_INVALID_ID`. -/
def ValidContexts : State → Op → Prop
  | _, .alloc env _ _ => env.contextID ≠ vmciInvalidId
  | _, .detach env _ => env.contextID ≠ vmciInvalidId
  | _, .convert env _ _ => env.contextID ≠ vmciInvalidId

/-- No entry carries the sentinel handle. -/
def NoSentinel (s : State) : Prop := ∀ e ∈ s.head, e.handle ≠ vmciInvalidHandle

/-- Without the sentinel in the list, the handle a create settles on is carried by no
entry. -/
theorem createHandle_fresh_of_noSentinel {s : State} {queuePairRID contextID rid : VMCIId}
    {handle h : VMCIHandle} (hn : NoSentinel s)
    (hc : createHandle s.head queuePairRID contextID handle = (some h, rid))
    (hf : queuePairListFindEntry s.head handle = none) : ∀ x ∈ s.head, x.handle ≠ h :=
  fun x hx => (createHandle_fresh hc hf x hx).elim id fun he => he ▸ hn x hx

theorem noSentinel_of_sublist {s s' : State} (h : NoSentinel s)
    (hsub : (s'.head.map (·.handle)).Sublist (s.head.map (·.handle))) : NoSentinel s' :=
  fun x hx hxv => by
    obtain ⟨y, hy, hyx⟩ := List.mem_map.1 (hsub.subset (List.mem_map_of_mem (·.handle) hx))
    exact h y hy (hyx.trans hxv)

theorem noSentinel_alloc {s : State} (h : NoSentinel s) {env : AllocEnv} (hctx : env.contextID ≠ vmciInvalidId)
    (req : AllocRequest) (pf : UInt32) : NoSentinel (vmciQueuePairAllocPriv s env req pf).state := by
  have hs := allocPriv_spec s env req pf
  generalize vmciQueuePairAllocPriv s env req pf = o at hs ⊢
  cases hs with
  | error => exact h
  | attach e hf =>
    obtain ⟨hv, he, -⟩ := findEntry_eq_some hf
    intro x hx
    rcases mem_setEntry hx with rfl | hx
    · exact he ▸ hv
    · exact h x hx
  | create e rid _ _ hc =>
    intro x hx
    rcases List.mem_append.1 hx with hx | hx
    · exact h x hx
    · rw [List.mem_singleton.1 hx]; exact createHandle_valid hc hctx

theorem noSentinel_of_reachableBy {s : State} (hs : ReachableBy ValidContexts s) : NoSentinel s := by
  induction hs with
  | init => simp [NoSentinel, initState, vmciQueuePairInit]
  | step op _ hp ih =>
    cases op with
    | alloc env req pf => exact noSentinel_alloc ih hp req pf
    | detach env handle => exact noSentinel_of_sublist ih (detach_handles_sublist _ env handle)
    | convert env toLocal deviceReset =>
      exact noSentinel_of_sublist ih (by rw [Op.apply, convert_handles])

/-- Handles in a state: no two entries share one, so the entry `FindEntry` returns is
the only one with its handle, and a successful create from the state returns a handle
no entry of the state carries. -/
def HandlesDistinct (s : State) : Prop :=
  (s.head.map (·.handle)).Nodup ∧
    (∀ h e, queuePairListFindEntry s.head h = some e → ∀ x ∈ s.head, x.handle = h → x = e) ∧
    (∀ env req pf h pq cq, env.contextID ≠ vmciInvalidId →
      (vmciQueuePairAllocPriv s env req pf).out = some (h, pq, cq) →
      queuePairListFindEntry s.head (req.handle.getD vmciInvalidHandle) = none →
      ∀ x ∈ s.head, x.handle ≠ h)

/-- Without the sentinel, the valid handles are all the handles. -/
theorem handles_nodup {s : State} (hu : (validHandles s.head).Nodup) (hv : NoSentinel s) :
    (s.head.map (·.handle)).Nodup := by
  rwa [validHandles, List.filter_eq_self.2 fun h hm => by
    obtain ⟨x, hx, rfl⟩ := List.mem_map.1 hm
    simpa using hv x hx] at hu

theorem handles_distinct {s : State} (hs : ReachableBy ValidContexts s) : HandlesDistinct s := by
  have hn := handles_nodup (inv_of_reachableBy hs).unique (noSentinel_of_reachableBy hs)
  refine ⟨hn, fun h e hf x hx hxh => List.inj_on_of_nodup_map hn hx (findEntry_mem hf)
    (hxh.trans (findEntry_eq_some hf).2.1.symm), fun env req pf h pq cq hctx hout hf => ?_⟩
  have hspec := allocPriv_spec s env req pf
  generalize vmciQueuePairAllocPriv s env req pf = o at hspec hout
  cases hspec with
  | error => cases hout
  | attach e hf' => simp [hf] at hf'
  | create e rid _ _ hc =>
    cases hout
    intro x hx
    exact ((createHandle_fresh hc hf) x hx).resolve_right (createHandle_valid hc hctx)

/-- The two entries of `sampleRun`, one with an auto-assigned handle. -/
theorem handles_distinct_sample :
    ReachableBy ValidContexts (Op.run initState sampleRun) ∧
      (Op.run initState sampleRun).head.map (·.handle) = [⟨5, 1024⟩, ⟨5, 2000⟩] ∧
      HandlesDistinct (Op.run initState sampleRun) :=
  have h5 : (5 : VMCIId) ≠ vmciInvalidId := by decide
  have hs : ReachableBy ValidContexts (Op.run initState sampleRun) :=
    ReachableBy.init.run ⟨h5, h5, h5, h5, trivial⟩
  ⟨hs, by decide, handles_distinct hs⟩

/-! ### Hibernation -/

theorem allocPriv_globals (s : State) (env : AllocEnv) (req : AllocRequest) (pf : UInt32) :
    (vmciQueuePairAllocPriv s env req pf).state.hibernate = s.hibernate ∧
      (vmciQueuePairAllocPriv s env req pf).state.hibernateFailedList = s.hibernateFailedList := by
  have hs := allocPriv_spec s env req pf
  generalize vmciQueuePairAllocPriv s env req pf = o at hs ⊢
  cases hs <;> exact ⟨rfl, rfl⟩

/-- A detach keeps the flag and at most takes its handle out of the failed-handle list. -/
theorem detach_globals (s : State) (env : DetachEnv) (handle : VMCIHandle) :
    (vmciQueuePairDetach s env handle).state.hibernate = s.hibernate ∧
      (vmciQueuePairDetach s env handle).state.hibernateFailedList.Sublist s.hibernateFailedList := by
  unfold vmciQueuePairDetach vmciQueuePairDetachHelper
  split_ifs
  · exact ⟨rfl, .refl _⟩
  rcases queuePairListFindEntry s.head handle with _ | e
  · exact ⟨rfl, .refl _⟩
  dsimp only
  have hb := detachBranch_spec s env handle e
  generalize detachBranch s env handle e = b at hb ⊢
  have hsub : b.2.2.1.Sublist s.hibernateFailedList := by
    cases hb
    case remoteUnmark => exact List.erase_sublist _ _
    all_goals exact .refl _
  unfold detachOut; dsimp only; split_ifs <;> exact ⟨rfl, hsub⟩

/-- Hibernation in a state: of the calls from it, only `VMCIQueuePair_Convert` writes the
flag, `Convert(TRUE)` setting it and `Convert(FALSE)` clearing it, so it stays set from
the end of a sweep to the next wake-up; while it is set every non-local entry is marked
hibernate-failed with its handle recorded, and an allocation adds no non-local entry. -/
def HibernationMarked (s : State) : Prop :=
  (∀ env req pf, (vmciQueuePairAllocPriv s env req pf).state.hibernate = s.hibernate) ∧
    (∀ env handle, (vmciQueuePairDetach s env handle).state.hibernate = s.hibernate) ∧
    (∀ env deviceReset, (vmciQueuePairConvert s env true deviceReset).1.hibernate = true) ∧
    (∀ env deviceReset, (vmciQueuePairConvert s env false deviceReset).1.hibernate = false) ∧
    (s.hibernate = true → ∀ e ∈ s.head, isLocal e.flags = false →
      e.hibernateFailure = true ∧ e.handle ∈ s.hibernateFailedList) ∧
    (s.hibernate = true → ∀ env req pf, ∀ x ∈ (vmciQueuePairAllocPriv s env req pf).state.head,
      isLocal x.flags = false → x ∈ s.head)

theorem hibernation_marked {s : State} (hs : Reachable s) : HibernationMarked s := by
  refine ⟨fun env req pf => (allocPriv_globals s env req pf).1,
    fun env handle => (detach_globals s env handle).1, fun _ _ => rfl, fun _ _ => rfl,
    (inv_of_reachableBy hs).hibernate, fun hh env req pf x hx hxl => ?_⟩
  have hspec := allocPriv_spec s env req pf
  generalize vmciQueuePairAllocPriv s env req pf = o at hspec hx
  cases hspec with
  | error => exact hx
  | attach e _ hl =>
    rcases mem_setEntry hx with rfl | hx
    · simp [hl] at hxl
    · exact hx
  | create e rid _ hg _ _ _ _ hfl =>
    rcases List.mem_append.1 hx with hx | hx
    · exact hx
    · rw [List.mem_singleton.1 hx, hfl] at hxl
      simp_all

/-- After the sweep of `sampleRun` the flag is set and the non-local pair, whose conversion
failed, is marked and recorded. -/
theorem hibernation_marked_sample :
    Reachable (Op.run initState sampleRun) ∧ (Op.run initState sampleRun).hibernate = true ∧
      (Op.run initState sampleRun).head.map (fun e => (e.handle, isLocal e.flags, e.hibernateFailure)) =
        [(⟨5, 1024⟩, true, false), (⟨5, 2000⟩, false, true)] ∧
      (Op.run initState sampleRun).hibernateFailedList = [⟨5, 2000⟩] ∧
      HibernationMarked (Op.run initState sampleRun) :=
  have hs : Reachable (Op.run initState sampleRun) :=
    ReachableBy.init.run ⟨trivial, trivial, trivial, trivial, trivial⟩
  ⟨hs, by decide, by decide, by decide, hibernation_marked hs⟩

end VMCIQueuePair
