import Mathlib.Data.Finset.Basic
import VMCIQueuePair.Counter
import VMCIQueuePair.Safety

/-! The device's side of the queue pairs. The device holds the set of handles this guest
is attached to: an alloc datagram it answers with success adds the handle, a detach
datagram it answers with success removes it, a failed datagram changes nothing, and a
device reset, which happens only while the guest hibernates, forgets them all. It
answers a detach with `VMCI_ERROR_NOT_FOUND` only for a handle it does not hold.

When `VMCI_PopulatePPNList` answers `VMCI_SUCCESS` or an error code, the list and the
device agree in every reachable state: each held handle is that of a non-local entry,
and each non-local entry not marked hibernate-failed is held. No datagram is ever sent
for a local entry. When moreover `VMCI_GetContextID` never answers `VMCI_INVALID_ID`, no
alloc datagram names a held handle and every detach datagram names a held handle or a
hibernate-failed entry. Once the counter has gone round twice while `VMCI_GetContextID`
answers `VMCI_INVALID_ID`, a create sends the alloc datagram for the sentinel handle a
second time, and the device already holds it. -/

namespace VMCIQueuePair

/-- The handles the device holds after it answers one datagram. -/
def deviceStep (S : Finset VMCIHandle) : Datagram × Int → Finset VMCIHandle
  | (.queuePairAlloc h _ _ _ _ _ _, r) => if vmciSuccess ≤ r then insert h S else S
  | (.queuePairDetach h, r) => if vmciSuccess ≤ r then S.erase h else S

/-- The handles the device holds after the datagrams among `calls`. -/
def deviceRun (S : Finset VMCIHandle) (calls : List Call) : Finset VMCIHandle :=
  (sentDatagrams calls).foldl deviceStep S

/-- The device answers a detach with `VMCI_ERROR_NOT_FOUND` only for a handle it does
not hold when it answers. -/
def DetachAnswersOk : Finset VMCIHandle → List (Datagram × Int) → Prop
  | _, [] => True
  | S, d :: ds => (∀ h, d = (.queuePairDetach h, vmciErrorNotFound) → h ∉ S) ∧
      DetachAnswersOk (deviceStep S d) ds

/-- The device's answer to one datagram is one `DetachAnswersOk` allows from `S`. -/
def answerOk (S : Finset VMCIHandle) : Datagram × Int → Bool
  | (.queuePairDetach h, r) => !(r == vmciErrorNotFound && decide (h ∈ S))
  | _ => true

/-- `DetachAnswersOk` as a check, so that it can be decided on given datagrams. -/
def detachAnswersOkB : Finset VMCIHandle → List (Datagram × Int) → Bool
  | _, [] => true
  | S, d :: ds => answerOk S d && detachAnswersOkB (deviceStep S d) ds

theorem detachAnswersOk_iff (S : Finset VMCIHandle) (ds : List (Datagram × Int)) :
    DetachAnswersOk S ds ↔ detachAnswersOkB S ds = true := by
  induction ds generalizing S with
  | nil => simp [DetachAnswersOk, detachAnswersOkB]
  | cons d ds ih =>
    have hd : answerOk S d = true ↔ ∀ h, d = (.queuePairDetach h, vmciErrorNotFound) → h ∉ S := by
      obtain ⟨_ | h, r⟩ := d
      · simp [answerOk]
      · by_cases hr : r = vmciErrorNotFound <;> simp [answerOk, hr]
    rw [DetachAnswersOk, detachAnswersOkB, Bool.and_eq_true, hd, ih]

instance (S : Finset VMCIHandle) (ds : List (Datagram × Int)) : Decidable (DetachAnswersOk S ds) :=
  decidable_of_iff _ (detachAnswersOk_iff S ds).symm

/-- `VMCI_PopulatePPNList` answers `VMCI_SUCCESS` or an error code. -/
def PopulateOk : State → Op → Prop
  | _, .alloc env _ _ => env.populateResult ≤ vmciSuccess
  | _, _ => True

/-- The driver's globals and the handles the device holds for the guest. -/
structure World where
  state : State
  attached : Finset VMCIHandle

/-- The worlds reached from `VMCIQueuePair_Init`, the device holding nothing: by calls
that `P` admits and the device answers consistently, and by device resets while the
`hibernate` flag is set. -/
inductive WorldReachable (P : State → Op → Prop) : World → Prop
  | init : WorldReachable P ⟨initState, ∅⟩
  | call {w : World} (op : Op) : WorldReachable P w → P w.state op →
      DetachAnswersOk w.attached (sentDatagrams (op.calls w.state)) →
      WorldReachable P ⟨op.apply w.state, deviceRun w.attached (op.calls w.state)⟩
  | reset {w : World} : WorldReachable P w → w.state.hibernate = true →
      WorldReachable P ⟨w.state, ∅⟩

theorem WorldReachable.reachableBy {P : State → Op → Prop} {w : World}
    (h : WorldReachable P w) : ReachableBy P w.state := by
  induction h with
  | init => exact .init
  | call op _ hp _ ih => exact ih.step op hp
  | reset _ _ ih => exact ih

/-! ### The device's answers -/

theorem deviceStep_fail {S : Finset VMCIHandle} {d : Datagram × Int} (h : d.2 < vmciSuccess) :
    deviceStep S d = S := by
  obtain ⟨_ | _, r⟩ := d <;> simp [deviceStep, not_le.2 h]

@[simp] theorem deviceRun_append (S : Finset VMCIHandle) (l l' : List Call) :
    deviceRun S (l ++ l') = deviceRun (deviceRun S l) l' := by
  simp [deviceRun, List.foldl_append]

theorem deviceRun_quiet {S : Finset VMCIHandle} {calls : List Call}
    (h : sentDatagrams calls = []) : deviceRun S calls = S := by
  simp [deviceRun, h]

/-- Calls that send no datagram leave the device as it was. -/
theorem WorldReachable.run_quiet {P : State → Op → Prop} {w : World} (hw : WorldReachable P w) :
    ∀ {ops : List Op}, Admits (fun s op => P s op ∧ sentDatagrams (op.calls s) = []) w.state ops →
      WorldReachable P ⟨Op.run w.state ops, w.attached⟩
  | [], _ => hw
  | op :: _, ⟨⟨hp, hq⟩, hops⟩ => by
    have hw' := hw.call op hp (by rw [hq]; trivial)
    rw [deviceRun_quiet hq] at hw'
    exact hw'.run_quiet hops

/-- A call, with the device's holdings after it written out. -/
theorem WorldReachable.call_to {P : State → Op → Prop} {w : World} (hw : WorldReachable P w) (op : Op)
    (hp : P w.state op) (hd : DetachAnswersOk w.attached (sentDatagrams (op.calls w.state)))
    {S : Finset VMCIHandle} (hS : deviceRun w.attached (op.calls w.state) = S) :
    WorldReachable P ⟨op.apply w.state, S⟩ :=
  hS ▸ hw.call op hp hd

theorem deviceRun_single {S : Finset VMCIHandle} {calls : List Call} {d : Datagram × Int}
    (h : sentDatagrams calls = [d]) : deviceRun S calls = deviceStep S d := by
  simp [deviceRun, h]

/-! ### Agreement of the list and the device -/

/-- The list and the device agree: each held handle is that of a non-local entry, and
each non-local entry not marked hibernate-failed is held. -/
structure Agree (head : List QueuePairEntry) (S : Finset VMCIHandle) : Prop where
  owner : ∀ h ∈ S, ∃ e ∈ head, e.handle = h ∧ isLocal e.flags = false
  attached : ∀ e ∈ head, isLocal e.flags = false → e.hibernateFailure = false → e.handle ∈ S

theorem agree_init : Agree initState.head ∅ :=
  ⟨by simp, by simp [initState, vmciQueuePairInit]⟩

/-- Rewriting or unlinking a local entry, or adding local entries, keeps the agreement. -/
theorem Agree.of_local {pre post head : List QueuePairEntry} {e : QueuePairEntry}
    {S : Finset VMCIHandle} (ha : Agree (pre ++ e :: post) S) (hl : isLocal e.flags = true)
    (hsub : ∀ x ∈ pre ++ post, x ∈ head)
    (hnew : ∀ y ∈ head, y ∈ pre ++ post ∨ isLocal y.flags = true) : Agree head S := by
  refine ⟨fun h hh => ?_, fun y hy hyl hyf => ?_⟩
  · obtain ⟨x, hx, hxh, hxl⟩ := ha.owner h hh
    have hne : x ≠ e := fun hxe => by simp [hxe, hl] at hxl
    exact ⟨x, hsub x (List.mem_append.2 ((List.mem_append.1 hx).imp_right (List.mem_of_ne_of_mem hne))),
      hxh, hxl⟩
  · rcases hnew y hy with hy | hy
    · exact ha.attached y (((List.sublist_cons_self e post).append_left pre).subset hy) hyl hyf
    · simp [hy] at hyl

/-- Unlinking the non-local entry found for `h` while the device drops `h`. -/
theorem Agree.of_remove {head : List QueuePairEntry} {S : Finset VMCIHandle} {h : VMCIHandle}
    {e : QueuePairEntry} (ha : Agree head S) (hu : (validHandles head).Nodup)
    (hf : queuePairListFindEntry head h = some e) :
    Agree (queuePairListRemoveEntry h head) (S.erase h) := by
  refine ⟨fun h' hh => ?_, fun y hy hyl hyf => ?_⟩
  · obtain ⟨hne, hh⟩ := Finset.mem_erase.1 hh
    obtain ⟨x, hx, hxh, hxl⟩ := ha.owner h' hh
    exact ⟨x, mem_removeEntry_of_ne hx (hxh ▸ hne), hxh, hxl⟩
  · exact Finset.mem_erase.2 ⟨removeEntry_handle_ne hu hf y hy,
      ha.attached y ((removeEntry_sublist h head).subset hy) hyl hyf⟩

/-- Appending an entry, which the device holds when it is not local. -/
theorem Agree.of_append {head : List QueuePairEntry} {S S' : Finset VMCIHandle}
    {e : QueuePairEntry} (ha : Agree head S) (hS : S ⊆ S')
    (hS' : ∀ h ∈ S', h ∈ S ∨ (h = e.handle ∧ isLocal e.flags = false))
    (he : isLocal e.flags = false → e.handle ∈ S') : Agree (head ++ [e]) S' := by
  refine ⟨fun h hh => ?_, fun y hy hyl hyf => ?_⟩
  · rcases hS' h hh with hh | ⟨rfl, hl⟩
    · obtain ⟨x, hx, hxh, hxl⟩ := ha.owner h hh
      exact ⟨x, List.mem_append_left _ hx, hxh, hxl⟩
    · exact ⟨e, by simp, rfl, hl⟩
  · rcases List.mem_append.1 hy with hy | hy
    · exact hS (ha.attached y hy hyl hyf)
    · rw [List.mem_singleton.1 hy] at hyl ⊢
      exact he hyl

/-- While the guest hibernates every non-local entry is marked, so a device that holds
nothing agrees with the list. -/
theorem agree_reset {s : State} (hi : Inv s) (hh : s.hibernate = true) : Agree s.head ∅ :=
  ⟨by simp, fun e he hl hf => by simp [(hi.hibernate hh e he hl).1] at hf⟩

/-! ### Each call keeps the agreement -/

theorem agree_alloc {s : State} {S : Finset VMCIHandle} (ha : Agree s.head S) (env : AllocEnv)
    (req : AllocRequest) (pf : UInt32) (hp : env.populateResult ≤ vmciSuccess) :
    Agree (vmciQueuePairAllocPriv s env req pf).state.head
      (deviceRun S (vmciQueuePairAllocPriv s env req pf).calls) := by
  have hs := allocPriv_spec s env req pf
  generalize vmciQueuePairAllocPriv s env req pf = o at hs ⊢
  cases hs with
  | error _ _ _ _ hd =>
    rcases hd with hd | ⟨e, r, hd, hr, -⟩
    · rwa [deviceRun_quiet hd]
    · rwa [deviceRun_single hd, deviceStep_fail hr]
  | attach e hf hl =>
    obtain ⟨-, he, pre, post, hs, hpre⟩ := findEntry_eq_some hf
    rw [deviceRun_quiet (by split <;> simp [queuePairNotifyPeerLocal])]
    dsimp only
    rw [hs] at ha ⊢
    rw [setEntry_split _ e _ pre post he hpre]
    refine ha.of_local hl (fun x hx => ?_) fun y hy => ?_
    · exact ((List.sublist_cons_self _ post).append_left pre).subset hx
    · simp only [List.mem_append, List.mem_cons] at hy ⊢
      rcases hy with hy | rfl | hy
      · exact .inl (.inl hy)
      · exact .inr hl
      · exact .inl (.inr hy)
  | create e rid _ _ _ _ _ _ hfl _ _ _ _ _ _ _ hok =>
    have hd : deviceRun S (createCalls env e) = if isLocal e.flags then S else insert e.handle S := by
      by_cases hl : isLocal e.flags = true
      · simp [deviceRun, sentDatagrams_createCalls, hl]
      · simp only [Bool.not_eq_true] at hl
        have hok := hok (hfl ▸ hl)
        simp [deviceRun, sentDatagrams_createCalls, hl, allocHyperCall_sent hp hok, allocMsg,
          deviceStep, hok]
    rw [hd]
    split_ifs with hl
    · exact ha.of_append subset_rfl (fun _ hh => .inl hh) fun h => by simp [hl] at h
    · refine ha.of_append (Finset.subset_insert _ _) (fun h hh => ?_) fun _ => Finset.mem_insert_self _ _
      rcases Finset.mem_insert.1 hh with rfl | hh
      · exact .inr ⟨rfl, by simpa using hl⟩
      · exact .inl hh

@[simp] theorem sentDatagrams_detachOut (s : State) (h : VMCIHandle) (result : Int)
    (e : QueuePairEntry) (failed : List VMCIHandle) (calls : List Call) :
    sentDatagrams (detachOut s h result e failed calls).calls = sentDatagrams calls := by
  unfold detachOut; dsimp only; split_ifs <;> simp

/-- The `out:` label rewrites or unlinks the entry found and keeps the others in place. -/
theorem detachOut_head {s : State} {h : VMCIHandle} {e e1 : QueuePairEntry} {result : Int}
    {failed : List VMCIHandle} {calls : List Call} {pre post : List QueuePairEntry}
    (hs : s.head = pre ++ e :: post) (he : e.handle = h) (hpre : ∀ x ∈ pre, x.handle ≠ h) :
    (∀ x ∈ pre ++ post, x ∈ (detachOut s h result e1 failed calls).state.head) ∧
      ∀ y ∈ (detachOut s h result e1 failed calls).state.head, y ∈ pre ++ post ∨ y.flags = e1.flags := by
  have hset : ∀ e', ∃ e'' : QueuePairEntry, e''.flags = e'.flags ∧
      setEntry h e' s.head = pre ++ e'' :: post :=
    fun e' => ⟨e', rfl, by rw [hs, setEntry_split h e e' pre post he hpre]⟩
  unfold detachOut
  dsimp only
  split_ifs
  · rw [hs, removeEntry_split h e pre post he hpre]
    exact ⟨fun _ => id, fun _ => .inl⟩
  all_goals
    obtain ⟨e'', hfl, hset⟩ := hset _
    rw [hset]
    refine ⟨fun x hx => ?_, fun y hy => ?_⟩
    · exact ((List.sublist_cons_self _ post).append_left pre).subset hx
    · simp only [List.mem_append, List.mem_cons] at hy ⊢
      rcases hy with hy | rfl | hy
      · exact .inl (.inl hy)
      · exact .inr hfl
      · exact .inl (.inr hy)

/-- A successful detach of an entry whose last reference it drops unlinks it. -/
theorem detachOut_last {s : State} {h : VMCIHandle} {e1 : QueuePairEntry} {result : Int}
    {failed : List VMCIHandle} {calls : List Call} (hr : vmciSuccess ≤ result)
    (h1 : e1.refCount = 1) :
    (detachOut s h result e1 failed calls).state.head = queuePairListRemoveEntry h s.head := by
  simp [detachOut, hr, h1]

theorem agree_detach {s : State} {S : Finset VMCIHandle} (ha : Agree s.head S) (hi : Inv s)
    (env : DetachEnv) (h : VMCIHandle)
    (hd : DetachAnswersOk S (sentDatagrams (vmciQueuePairDetach s env h).calls)) :
    Agree (vmciQueuePairDetach s env h).state.head
      (deviceRun S (vmciQueuePairDetach s env h).calls) := by
  unfold vmciQueuePairDetach vmciQueuePairDetachHelper at hd ⊢
  split_ifs at hd ⊢
  · exact ha
  rcases hf : queuePairListFindEntry s.head h with _ | e
  · exact ha
  rw [hf] at hd
  dsimp only at hd ⊢
  obtain ⟨-, he, pre, post, hs, hpre⟩ := findEntry_eq_some hf
  have hok := hi.refCount e (findEntry_mem hf)
  have hb := detachBranch_spec s env h e
  generalize detachBranch s env h e = b at hb hd ⊢
  simp only [deviceRun, sentDatagrams_detachOut] at hd ⊢
  cases hb with
  | localNotify hl | localLast hl =>
    simp only [sentDatagrams_cons, Call.datagram?, queuePairNotifyPeerLocal, Option.toList,
      sentDatagrams_nil, List.nil_append, List.foldl_nil]
    rw [hs] at ha
    exact ha.of_local hl (detachOut_head hs he hpre).1 fun y hy =>
      ((detachOut_head hs he hpre).2 y hy).imp_right fun hfl => by rw [hfl]; exact hl
  | remote hl =>
    simp only [vmciQueuePairDetachHyperCall, sentDatagrams_cons, Call.datagram?, Option.toList,
      sentDatagrams_nil, List.append_nil, List.foldl_cons, List.foldl_nil, deviceStep]
    split_ifs with hr
    · rw [detachOut_last hr (hok.eq_one_of_remote hl)]
      exact ha.of_remove hi.unique hf
    · rwa [detachOut_error hf (not_le.1 hr)]
  | remoteUnmark hl _ hdr =>
    simp only [vmciQueuePairDetachHyperCall, sentDatagrams_cons, Call.datagram?, Option.toList,
      sentDatagrams_nil, List.append_nil, List.foldl_cons, List.foldl_nil, deviceStep,
      DetachAnswersOk] at hd ⊢
    rw [detachOut_last le_rfl (show ({ e with hibernateFailure := false } : QueuePairEntry).refCount = 1
      from hok.eq_one_of_remote hl)]
    have hS : (if vmciSuccess ≤ env.detachResult then S.erase h else S) = S.erase h := by
      rcases hdr with hdr | hdr
      · simp [hdr]
      · rw [hdr, if_neg (by decide), Finset.erase_eq_of_not_mem (hd.1 h (by rw [hdr]))]
    rw [hS]
    exact ha.of_remove hi.unique hf

/-! ### The hibernation sweep -/

/-- Converting one entry sends at most the detach datagram of a non-local entry, and the
device drops the entry's handle exactly when the entry becomes local. -/
theorem convertEntry_device (contextID : VMCIId) (env : ConvertEnv) (failed : List VMCIHandle)
    (e : QueuePairEntry) :
    (sentDatagrams (convertEntry contextID env failed e).2.2 = [] ∨
      isLocal e.flags = false ∧ sentDatagrams (convertEntry contextID env failed e).2.2 =
        [(.queuePairDetach e.handle, env.detachResult)]) ∧
    ∀ S, deviceRun S (convertEntry contextID env failed e).2.2 =
      if isLocal e.flags = false ∧ isLocal (convertEntry contextID env failed e).1.flags = true
      then S.erase e.handle else S := by
  unfold convertEntry vmciQPMarkHibernateFailed vmciHandleArrayAppendEntry
  by_cases hl : isLocal e.flags = true
  · simp [hl, deviceRun]
  simp only [Bool.not_eq_true] at hl
  by_cases h1 : env.consumeResult ≠ vmciSuccess
  · simp [hl, h1, deviceRun]
  by_cases h2 : env.produceResult ≠ vmciSuccess
  · simp [hl, h1, h2, deviceRun]
  by_cases h3 : env.detachResult < vmciSuccess
  · simp [hl, h1, h2, h3, deviceRun, deviceStep, vmciQueuePairDetachHyperCall, not_le.2 h3]
  · simp [hl, h1, h2, h3, deviceRun, deviceStep, vmciQueuePairDetachHyperCall,
      queuePairNotifyPeerLocal, isLocal_or_local, not_lt.1 h3]

theorem forall₂_exists_right {α β : Type} {R : α → β → Prop} {l : List α} {l' : List β}
    (h : List.Forall₂ R l l') : ∀ x ∈ l, ∃ x' ∈ l', R x x' := by
  induction h with
  | nil => simp
  | cons hab _ ih =>
    intro x hx
    rcases List.mem_cons.1 hx with rfl | hx
    · exact ⟨_, List.mem_cons_self _ _, hab⟩
    · obtain ⟨x', hx', hxx⟩ := ih x hx
      exact ⟨x', List.mem_cons_of_mem _ hx', hxx⟩

/-- A handle the device still holds after the sweep it held before, and no non-local
entry with that handle was converted. -/
theorem convertToLocal_held (contextID : VMCIId) (h : VMCIHandle) :
    ∀ (env : Nat → ConvertEnv) (failed : List VMCIHandle) (es : List QueuePairEntry)
      (S : Finset VMCIHandle), h ∈ deviceRun S (convertToLocal contextID env failed es).2.2 →
      h ∈ S ∧ List.Forall₂ (fun x x' => ConvertStep x x' ∧
        (x.handle = h → isLocal x.flags = false → isLocal x'.flags = false))
        es (convertToLocal contextID env failed es).1
  | _, _, [], _, hh => ⟨hh, .nil⟩
  | env, failed, e :: es, S, hh => by
    simp only [convertToLocal, deviceRun_append] at hh ⊢
    obtain ⟨hh, hrest⟩ := convertToLocal_held contextID h _ _ es _ hh
    rw [(convertEntry_device contextID (env 0) failed e).2] at hh
    refine ⟨?_, .cons ⟨convertEntry_step contextID (env 0) failed e, fun he hl => ?_⟩ hrest⟩
    · split_ifs at hh
      · exact (Finset.mem_erase.1 hh).2
      · exact hh
    · split_ifs at hh with hc
      · exact absurd he.symm (Finset.mem_erase.1 hh).1
      · simpa [hl] using hc

@[simp] theorem sentDatagrams_notify (handles : List VMCIHandle) (contextID : VMCIId)
    (result : Int) :
    sentDatagrams (handles.map fun h => queuePairNotifyPeerLocal false h contextID result) = [] := by
  induction handles with
  | nil => rfl
  | cons _ _ ih => rw [List.map_cons, sentDatagrams_cons, ih]; rfl

theorem agree_convert {s : State} {S : Finset VMCIHandle} (ha : Agree s.head S)
    (env : ConvertOpEnv) (toLocal deviceReset : Bool) :
    Agree (vmciQueuePairConvert s env toLocal deviceReset).1.head
      (deviceRun S (vmciQueuePairConvert s env toLocal deviceReset).2) := by
  unfold vmciQueuePairConvert
  split_ifs
  · have h2 := convertToLocal_forall₂ env.contextID env.entry s.hibernateFailedList s.head
    refine ⟨fun h hh => ?_, fun y hy hyl hyf => ?_⟩
    · obtain ⟨hS, hkeep⟩ := convertToLocal_held env.contextID h env.entry s.hibernateFailedList
        s.head S hh
      obtain ⟨x, hx, rfl, hxl⟩ := ha.owner h hS
      obtain ⟨x', hx', hstep, hk⟩ := forall₂_exists_right hkeep x hx
      exact ⟨x', hx', hstep.handle_eq, hk rfl hxl⟩
    · obtain ⟨x, -, hxy⟩ := forall₂_exists_left h2 y hy
      simp [hxy.marked hyl] at hyf
  all_goals
    rw [deviceRun_quiet (by first | rfl | exact sentDatagrams_notify _ _ _)]
    exact ha

/-! ### Every reachable world -/

theorem agree_of_worldReachable {P : State → Op → Prop} (hP : ∀ s op, P s op → PopulateOk s op)
    {w : World} (hw : WorldReachable P w) : Agree w.state.head w.attached := by
  induction hw with
  | init => exact agree_init
  | call op hw hp hd ih =>
    have hi := inv_of_reachableBy hw.reachableBy
    cases op with
    | alloc env req pf => exact agree_alloc ih env req pf (hP _ _ hp)
    | detach env h => exact agree_detach ih hi env h hd
    | convert env toLocal deviceReset => exact agree_convert ih env toLocal deviceReset
  | reset hw hh _ => exact agree_reset (inv_of_reachableBy hw.reachableBy) hh

/-! ### The datagrams the guest sends -/

/-- A datagram sent for a non-local entry of `s`: an alloc message whose flags lack
`VMCI_QPFLAG_LOCAL`, or the detach of the handle of a non-local entry. -/
def NonLocalDatagram (s : State) : Datagram → Prop
  | .queuePairAlloc _ _ flags _ _ _ _ => isLocal flags = false
  | .queuePairDetach h => ∃ e ∈ s.head, e.handle = h ∧ isLocal e.flags = false

/-- A datagram as the device expects it when it is sent: an alloc for a handle it does
not hold, a detach for a handle it holds or for a hibernate-failed entry of `s`. -/
def DatagramAgrees (s : State) (S : Finset VMCIHandle) : Datagram → Prop
  | .queuePairAlloc h _ _ _ _ _ _ => h ∉ S
  | .queuePairDetach h => h ∈ S ∨ ∃ e ∈ s.head, e.handle = h ∧ e.hibernateFailure = true

/-- Each datagram agrees with what the device holds when it is sent. -/
def SentAgree (s : State) : Finset VMCIHandle → List (Datagram × Int) → Prop
  | _, [] => True
  | S, d :: ds => DatagramAgrees s S d.1 ∧ SentAgree s (deviceStep S d) ds

theorem sentAgree_append (s : State) (ds ds' : List (Datagram × Int)) :
    ∀ S, SentAgree s S (ds ++ ds') ↔ SentAgree s S ds ∧ SentAgree s (ds.foldl deviceStep S) ds' := by
  induction ds with
  | nil => simp [SentAgree]
  | cons d ds ih => simp [SentAgree, ih, and_assoc]

/-- An alloc message for a handle no entry carries agrees with the device. -/
theorem sentAgree_alloc {s : State} {S : Finset VMCIHandle} {e : QueuePairEntry} {r : Int}
    (ha : Agree s.head S) (hfresh : ∀ x ∈ s.head, x.handle ≠ e.handle) :
    SentAgree s S [(allocMsg e, r)] :=
  ⟨fun hh => by
    obtain ⟨x, hx, hxh, -⟩ := ha.owner e.handle hh
    exact hfresh x hx hxh, trivial⟩

/-- The detach datagram of a non-local entry agrees with the device. -/
theorem sentAgree_detach {s : State} {S : Finset VMCIHandle} {e : QueuePairEntry} {r : Int}
    (ha : Agree s.head S) (he : e ∈ s.head) (hl : isLocal e.flags = false) :
    SentAgree s S [(.queuePairDetach e.handle, r)] := by
  refine ⟨?_, trivial⟩
  cases hf : e.hibernateFailure
  · exact .inl (ha.attached e he hl hf)
  · exact .inr ⟨e, he, rfl, hf⟩

theorem convertToLocal_sentAgree (s : State) (contextID : VMCIId) :
    ∀ (env : Nat → ConvertEnv) (failed : List VMCIHandle) (es : List QueuePairEntry)
      (S : Finset VMCIHandle), (∀ x ∈ es, x ∈ s.head) →
      (∀ x ∈ es, isLocal x.flags = false → x.hibernateFailure = false → x.handle ∈ S) →
      (es.map (·.handle)).Nodup →
      SentAgree s S (sentDatagrams (convertToLocal contextID env failed es).2.2)
  | _, _, [], _, _, _, _ => trivial
  | env, failed, e :: es, S, hmem, hatt, hnd => by
    simp only [convertToLocal, sentDatagrams_append]
    rw [sentAgree_append]
    obtain ⟨hsent, hdev⟩ := convertEntry_device contextID (env 0) failed e
    have he := hmem e (List.mem_cons_self _ _)
    refine ⟨?_, convertToLocal_sentAgree s contextID _ _ es _
      (fun x hx => hmem x (List.mem_cons_of_mem _ hx)) (fun x hx hl hf => ?_)
      (List.nodup_cons.1 hnd).2⟩
    · rcases hsent with h | ⟨hl, h⟩
      · rw [h]; trivial
      · rw [h]
        refine ⟨?_, trivial⟩
        cases hf : e.hibernateFailure
        · exact .inl (hatt e (List.mem_cons_self _ _) hl hf)
        · exact .inr ⟨e, he, rfl, hf⟩
    · have hne : x.handle ≠ e.handle := fun hxe =>
        (List.nodup_cons.1 hnd).1 (List.mem_map.2 ⟨x, hx, hxe⟩)
      have hx := hatt x (List.mem_cons_of_mem _ hx) hl hf
      change x.handle ∈ deviceRun S (convertEntry contextID (env 0) failed e).2.2
      rw [hdev S]
      split_ifs
      · exact Finset.mem_erase.2 ⟨hne, hx⟩
      · exact hx

theorem convertToLocal_sent (contextID : VMCIId) :
    ∀ (env : Nat → ConvertEnv) (failed : List VMCIHandle) (es : List QueuePairEntry),
      ∀ d ∈ sentDatagrams (convertToLocal contextID env failed es).2.2,
        ∃ x ∈ es, d.1 = .queuePairDetach x.handle ∧ isLocal x.flags = false
  | _, _, [] => by simp [convertToLocal]
  | env, failed, e :: es => by
    intro d hd
    simp only [convertToLocal, sentDatagrams_append, List.mem_append] at hd
    rcases hd with hd | hd
    · rcases (convertEntry_device contextID (env 0) failed e).1 with h | ⟨hl, h⟩
      · simp [h] at hd
      · rw [h, List.mem_singleton] at hd
        exact ⟨e, List.mem_cons_self _ _, by rw [hd], hl⟩
    · obtain ⟨x, hx, hdx, hl⟩ := convertToLocal_sent contextID _ _ es d hd
      exact ⟨x, List.mem_cons_of_mem _ hx, hdx, hl⟩

/-- What the datagrams `ds` of a call from `s` satisfy: none is for a local entry, and,
when the list agrees with the device, carries no sentinel handle and has distinct
handles, each agrees with the device when it is sent. -/
def DatagramsOk (s : State) (S : Finset VMCIHandle) (ds : List (Datagram × Int)) : Prop :=
  (∀ d ∈ ds, NonLocalDatagram s d.1) ∧
    (Agree s.head S → NoSentinel s → (s.head.map (·.handle)).Nodup → SentAgree s S ds)

theorem datagramsOk_nil (s : State) (S : Finset VMCIHandle) : DatagramsOk s S [] :=
  ⟨nofun, fun _ _ _ => trivial⟩

/-- The alloc datagram of a non-local create. -/
theorem datagramsOk_alloc {s : State} {S : Finset VMCIHandle} {e : QueuePairEntry} {r : Int}
    {handle : VMCIHandle} {contextID rid : VMCIId} (hl : isLocal e.flags = false)
    (hf : queuePairListFindEntry s.head handle = none)
    (hc : createHandle s.head s.queuePairRID contextID handle = (some e.handle, rid)) :
    DatagramsOk s S [(allocMsg e, r)] :=
  ⟨by simpa [allocMsg, NonLocalDatagram] using hl, fun ha hn _ =>
    sentAgree_alloc ha (createHandle_fresh_of_noSentinel hn hc hf)⟩

theorem alloc_datagrams (s : State) (S : Finset VMCIHandle) (env : AllocEnv) (req : AllocRequest)
    (pf : UInt32) : DatagramsOk s S (sentDatagrams (vmciQueuePairAllocPriv s env req pf).calls) := by
  have hs := allocPriv_spec s env req pf
  generalize vmciQueuePairAllocPriv s env req pf = o at hs ⊢
  cases hs with
  | error _ _ _ _ hd =>
    rcases hd with hd | ⟨e, r, hd, -, hl, hf, hc⟩ <;> rw [hd]
    · exact datagramsOk_nil s S
    · exact datagramsOk_alloc hl hf hc
  | attach => split <;> simpa [queuePairNotifyPeerLocal] using datagramsOk_nil s S
  | create e rid hf _ hc =>
    dsimp only
    rw [sentDatagrams_createCalls]
    split_ifs with hl
    · exact datagramsOk_nil s S
    · rcases allocHyperCall_datagrams env e with hd | hd <;> rw [hd]
      · exact datagramsOk_nil s S
      · exact datagramsOk_alloc (by simpa using hl) hf hc

theorem detach_datagrams (s : State) (S : Finset VMCIHandle) (env : DetachEnv) (h : VMCIHandle) :
    DatagramsOk s S (sentDatagrams (vmciQueuePairDetach s env h).calls) := by
  unfold vmciQueuePairDetach vmciQueuePairDetachHelper
  split_ifs
  · exact datagramsOk_nil s S
  rcases hf : queuePairListFindEntry s.head h with _ | e
  · exact datagramsOk_nil s S
  dsimp only
  obtain ⟨-, he, -⟩ := findEntry_eq_some hf
  have hm := findEntry_mem hf
  have hb := detachBranch_spec s env h e
  generalize detachBranch s env h e = b at hb ⊢
  rw [sentDatagrams_detachOut]
  cases hb with
  | localNotify | localLast => simpa [queuePairNotifyPeerLocal] using datagramsOk_nil s S
  | remote hl | remoteUnmark hl =>
    simp only [vmciQueuePairDetachHyperCall, sentDatagrams_cons, Call.datagram?,
      Option.toList, sentDatagrams_nil, List.append_nil, ← he]
    exact ⟨by simpa [NonLocalDatagram] using ⟨e, hm, rfl, hl⟩, fun ha _ _ =>
      sentAgree_detach ha hm hl⟩

theorem convert_datagrams (s : State) (S : Finset VMCIHandle) (env : ConvertOpEnv)
    (toLocal deviceReset : Bool) :
    DatagramsOk s S (sentDatagrams (vmciQueuePairConvert s env toLocal deviceReset).2) := by
  unfold vmciQueuePairConvert
  split_ifs
  · refine ⟨fun d hd => ?_, fun ha _ hnd => convertToLocal_sentAgree s _ _ _ _ S
      (fun _ => id) ha.attached hnd⟩
    obtain ⟨x, hx, hdx, hl⟩ := convertToLocal_sent _ _ _ _ d hd
    rw [hdx]
    exact ⟨x, hx, rfl, hl⟩
  all_goals
    rw [show sentDatagrams _ = [] by first | rfl | exact sentDatagrams_notify _ _ _]
    exact datagramsOk_nil s S

/-- What one call of the driver sends: from any state, only datagrams for non-local
entries; from a state the device agrees with, whose handles are distinct and not the
sentinel, only datagrams that agree with the device. -/
theorem call_datagrams (s : State) (S : Finset VMCIHandle) :
    ∀ op : Op, DatagramsOk s S (sentDatagrams (op.calls s))
  | .alloc env req pf => alloc_datagrams s S env req pf
  | .detach env h => detach_datagrams s S env h
  | .convert env toLocal deviceReset => convert_datagrams s S env toLocal deviceReset

/-! ### The agreement in every reachable world -/

/-- A world where the list and the device agree and no call sends a datagram for a local
entry. -/
def DeviceAgrees (w : World) : Prop :=
  Agree w.state.head w.attached ∧
    ∀ op : Op, ∀ d ∈ sentDatagrams (op.calls w.state), NonLocalDatagram w.state d.1

theorem device_agreement {P : State → Op → Prop} (hP : ∀ s op, P s op → PopulateOk s op)
    {w : World} (hw : WorldReachable P w) :
    DeviceAgrees w ∧ ((∀ s op, P s op → ValidContexts s op) →
      ∀ op : Op, SentAgree w.state w.attached (sentDatagrams (op.calls w.state))) := by
  have ha := agree_of_worldReachable hP hw
  refine ⟨⟨ha, fun op => (call_datagrams w.state w.attached op).1⟩, fun hV op => ?_⟩
  have hs := hw.reachableBy.mono hV
  exact (call_datagrams w.state w.attached op).2 ha (noSentinel_of_reachableBy hs)
    (handles_nodup (inv_of_reachableBy hs).unique (noSentinel_of_reachableBy hs))

/-- After `sampleRun` the device holds the non-local pair `5:2000`, whose conversion
failed. -/
theorem sampleWorld_reachable :
    WorldReachable (fun s op => ValidContexts s op ∧ PopulateOk s op)
      ⟨Op.run initState sampleRun, {⟨5, 2000⟩}⟩ :=
  have h5 : (5 : VMCIId) ≠ vmciInvalidId := by decide
  (((WorldReachable.init (P := fun s op => ValidContexts s op ∧ PopulateOk s op)
    |>.call sampleRun[0] ⟨h5, le_rfl⟩ (by decide)).call sampleRun[1] ⟨h5, le_rfl⟩ (by decide)).call
    sampleRun[2] ⟨h5, le_rfl⟩ (by decide)).call_to sampleRun[3] ⟨h5, trivial⟩ (by decide) (by decide)

theorem device_agreement_sample :
    WorldReachable (fun s op => ValidContexts s op ∧ PopulateOk s op)
        ⟨Op.run initState sampleRun, {⟨5, 2000⟩}⟩ ∧
      DeviceAgrees ⟨Op.run initState sampleRun, {⟨5, 2000⟩}⟩ ∧
      ∀ op : Op, SentAgree (Op.run initState sampleRun) {⟨5, 2000⟩}
        (sentDatagrams (op.calls (Op.run initState sampleRun))) :=
  have h := device_agreement (fun _ _ h => h.2) sampleWorld_reachable
  ⟨sampleWorld_reachable, h.1, h.2 fun _ _ h => h.1⟩

/-- The world of `sentinelState`: the first create of the sentinel entry had its alloc
datagram accepted, so the device holds `VMCI_INVALID_HANDLE`. -/
theorem sentinelWorld_reachable : WorldReachable PopulateOk ⟨sentinelState, {vmciInvalidHandle}⟩ := by
  have hP : ∀ s, PopulateOk s (.alloc cycleAllocEnv cycleRequest vmciNoPrivilegeFlags) :=
    fun _ => show cycleAllocEnv.populateResult ≤ vmciSuccess by decide
  obtain ⟨ha1, hr1⟩ := cycles_round PopulateOk hP (fun _ _ => trivial) (s := initState)
    (by simp [initState, vmciQueuePairInit]) rfl
  have w1 := WorldReachable.init.run_quiet ha1
  rw [hr1] at w1
  have w2 := w1.call_to (.alloc sentinelAllocEnv sentinelRequest vmciNoPrivilegeFlags)
    (show (0 : Int) ≤ 0 from le_rfl) (by decide) (S := {vmciInvalidHandle}) (by decide)
  rw [sentinel_create] at w2
  obtain ⟨ha2, hr2⟩ := cycles_round PopulateOk hP (fun _ _ => trivial)
    (s := { sentinelState with queuePairRID := initialRID }) (by decide) rfl
  have w3 := w2.run_quiet ha2
  rwa [hr2] at w3

/-- An alloc datagram for a handle the device holds. From the world of `sentinelState`,
reached while `VMCI_PopulatePPNList` answers `VMCI_SUCCESS`, the create that gets the
sentinel handle a second time sends the alloc datagram for `VMCI_INVALID_HANDLE`. -/
theorem sentinel_alloc_datagram_held :
    WorldReachable PopulateOk ⟨sentinelState, {vmciInvalidHandle}⟩ ∧
      sentDatagrams ((Op.alloc sentinelAllocEnv sentinelRequest vmciNoPrivilegeFlags).calls sentinelState) =
        [(.queuePairAlloc vmciInvalidHandle vmciInvalidId 0 4096 4096 4 (some 3), 0)] ∧
      ¬SentAgree sentinelState {vmciInvalidHandle}
        (sentDatagrams ((Op.alloc sentinelAllocEnv sentinelRequest vmciNoPrivilegeFlags).calls sentinelState)) := by
  have hd : sentDatagrams ((Op.alloc sentinelAllocEnv sentinelRequest vmciNoPrivilegeFlags).calls
      sentinelState) = [(.queuePairAlloc vmciInvalidHandle vmciInvalidId 0 4096 4096 4 (some 3), 0)] := by
    decide
  refine ⟨sentinelWorld_reachable, hd, fun h => ?_⟩
  rw [hd] at h
  simp [SentAgree, DatagramAgrees] at h

/-! ### Exit -/

/-- `VMCIQueuePair_Exit` sends the detach datagram of each non-local entry, in list
order. -/
theorem sentDatagrams_exit (s : State) (detachResult : Int) :
    sentDatagrams (vmciQueuePairExit s detachResult).2 =
      ((s.head.filter (!isLocal ·.flags)).map (·.handle)).map
        fun h => (.queuePairDetach h, detachResult) := by
  unfold vmciQueuePairExit
  dsimp only
  induction s.head with
  | nil => rfl
  | cons e l ih =>
    rw [List.flatMap_cons, sentDatagrams_append, sentDatagrams_append, ih]
    cases hl : isLocal e.flags <;> simp [hl, queuePairEntryDestroy, vmciQueuePairDetachHyperCall]

/-- Detach datagrams the device accepts drop their handles. -/
theorem deviceStep_detaches (S : Finset VMCIHandle) {r : Int} (hr : vmciSuccess ≤ r) (l : List VMCIHandle) :
    (l.map fun h => ((.queuePairDetach h : Datagram), r)).foldl deviceStep S = S \ l.toFinset := by
  induction l generalizing S with
  | nil => simp
  | cons h l ih =>
    rw [List.map_cons, List.foldl_cons, ih, List.toFinset_cons, Finset.sdiff_insert]
    simp [deviceStep, hr, Finset.erase_sdiff_comm]

/-- Refused detach datagrams change nothing. -/
theorem deviceStep_refused (S : Finset VMCIHandle) {r : Int} (hr : r < vmciSuccess) (l : List VMCIHandle) :
    (l.map fun h => ((.queuePairDetach h : Datagram), r)).foldl deviceStep S = S := by
  induction l with
  | nil => rfl
  | cons h l ih => rw [List.map_cons, List.foldl_cons, deviceStep_fail hr, ih]

/-- `VMCIQueuePair_Exit` ignores the answers to its detach datagrams. Over every run where
`VMCI_PopulatePPNList` answers `VMCI_SUCCESS` or an error code, a device that accepts
them is left holding none of the guest's handles, and one that refuses them keeps every
handle it held. -/
theorem exit_releases_device {P : State → Op → Prop} (hP : ∀ s op, P s op → PopulateOk s op)
    {w : World} (hw : WorldReachable P w) (detachResult : Int) :
    deviceRun w.attached (vmciQueuePairExit w.state detachResult).2 =
      if vmciSuccess ≤ detachResult then ∅ else w.attached := by
  have ha := agree_of_worldReachable hP hw
  rw [deviceRun, sentDatagrams_exit]
  split_ifs with hr
  · rw [deviceStep_detaches _ hr, Finset.sdiff_eq_empty_iff_subset]
    intro h hh
    obtain ⟨e, he, rfl, hl⟩ := ha.owner h hh
    simp only [List.mem_toFinset, List.mem_map, List.mem_filter]
    exact ⟨e, ⟨he, by simp [hl]⟩, rfl⟩
  · exact deviceStep_refused _ (not_le.1 hr) _

/-- After `sampleRun`, an exit whose detach datagram the device accepts leaves it holding
nothing, and one it refuses leaves it holding `5:2000`. -/
theorem exit_releases_device_sample :
    WorldReachable (fun s op => ValidContexts s op ∧ PopulateOk s op)
        ⟨Op.run initState sampleRun, {⟨5, 2000⟩}⟩ ∧
      deviceRun {⟨5, 2000⟩} (vmciQueuePairExit (Op.run initState sampleRun) 0).2 = ∅ ∧
      deviceRun {⟨5, 2000⟩} (vmciQueuePairExit (Op.run initState sampleRun) (-1)).2 = {⟨5, 2000⟩} :=
  ⟨sampleWorld_reachable, exit_releases_device (fun _ _ h => h.2) sampleWorld_reachable 0,
    exit_releases_device (fun _ _ h => h.2) sampleWorld_reachable (-1)⟩

end VMCIQueuePair
