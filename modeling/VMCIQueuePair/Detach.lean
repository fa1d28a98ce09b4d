import VMCIQueuePair.Alloc

/-! `VMCIQueuePair_Detach` and `VMCIQueuePairDetachHelper`. `detachBranch` is the code
before the `out:` label for the entry found: a local entry notifies its peer when both
ends are attached; a non-local entry sends the detach datagram, and a hibernate-failed
one takes `VMCI_ERROR_NOT_FOUND` for success and, on exactly `VMCI_SUCCESS`, leaves the
failed-handle list. `detachOut` is the `out:` label: on a result `≥ VMCI_SUCCESS` the
reference count drops, and at zero the entry is unlinked and, after the unlock,
destroyed. -/

namespace VMCIQueuePair

/-- What the collaborators of `VMCIQueuePairDetachHelper` answer during one call. -/
structure DetachEnv where
  contextID : VMCIId
  notifyResult : Int
  detachResult : Int
  deriving DecidableEq, Repr

/-- What a detach returns: its result, the globals after it, and its calls. -/
structure DetachOut where
  result : Int
  state : State
  calls : List Call
  deriving DecidableEq, Repr

/-- `VMCIQueuePairDetachHyperCall`. -/
def vmciQueuePairDetachHyperCall (handle : VMCIHandle) (result : Int) : Call :=
  .sendDatagram (.queuePairDetach handle) result

/-- `VMCIQPUnmarkHibernateFailed`. -/
def vmciQPUnmarkHibernateFailed (e : QueuePairEntry) (failed : List VMCIHandle) :
    QueuePairEntry × List VMCIHandle :=
  ({ e with hibernateFailure := false }, vmciHandleArrayRemoveEntry failed e.handle)

/-- The code before `out:`: the result, the entry and the failed-handle list after it,
and the calls made. -/
def detachBranch (s : State) (env : DetachEnv) (handle : VMCIHandle) (e : QueuePairEntry) :
    Int × QueuePairEntry × List VMCIHandle × List Call :=
  if isLocal e.flags then
    if e.refCount > 1 then
      (env.notifyResult, e, s.hibernateFailedList,
        [queuePairNotifyPeerLocal false handle env.contextID env.notifyResult])
    else (vmciSuccess, e, s.hibernateFailedList, [])
  else
    let dg := vmciQueuePairDetachHyperCall handle env.detachResult
    if e.hibernateFailure then
      let result := if env.detachResult = vmciErrorNotFound then vmciSuccess else env.detachResult
      if result = vmciSuccess then
        let u := vmciQPUnmarkHibernateFailed e s.hibernateFailedList
        (result, u.1, u.2, [dg])
      else (result, e, s.hibernateFailedList, [dg])
    else (env.detachResult, e, s.hibernateFailedList, [dg])

/-- The `out:` label, with the entry `e` as the branch left it. -/
def detachOut (s : State) (handle : VMCIHandle) (result : Int) (e : QueuePairEntry)
    (failed : List VMCIHandle) (calls : List Call) : DetachOut :=
  if result ≥ vmciSuccess then
    let e' := { e with refCount := e.refCount - 1 }
    if e'.refCount = 0 then
      ⟨result, { s with
          head := queuePairListRemoveEntry handle s.head
          hibernateFailedList := failed }, calls ++ queuePairEntryDestroy e'⟩
    else ⟨result, { s with head := setEntry handle e' s.head, hibernateFailedList := failed }, calls⟩
  else ⟨result, { s with head := setEntry handle e s.head, hibernateFailedList := failed }, calls⟩

/-- `VMCIQueuePairDetachHelper`. -/
def vmciQueuePairDetachHelper (s : State) (env : DetachEnv) (handle : VMCIHandle) : DetachOut :=
  match queuePairListFindEntry s.head handle with
  | none => ⟨vmciErrorNotFound, s, []⟩
  | some e =>
    let b := detachBranch s env handle e
    detachOut s handle b.1 b.2.1 b.2.2.1 b.2.2.2

/-- `VMCIQueuePair_Detach`. -/
def vmciQueuePairDetach (s : State) (env : DetachEnv) (handle : VMCIHandle) : DetachOut :=
  if handle = vmciInvalidHandle then ⟨vmciErrorInvalidArgs, s, []⟩
  else vmciQueuePairDetachHelper s env handle

@[simp] theorem detachOut_result (s : State) (handle : VMCIHandle) (result : Int)
    (e : QueuePairEntry) (failed : List VMCIHandle) (calls : List Call) :
    (detachOut s handle result e failed calls).result = result := by
  unfold detachOut; dsimp only; split_ifs <;> rfl

theorem mem_detachOut_calls {s : State} {handle : VMCIHandle} {result : Int}
    {e : QueuePairEntry} {failed : List VMCIHandle} {calls : List Call} {c : Call}
    (hc : c ∈ calls) : c ∈ (detachOut s handle result e failed calls).calls := by
  unfold detachOut; dsimp only; split_ifs <;> simp [hc]

/-! ### What one call can do -/

/-- Everything the code before `out:` can do with the entry `e` found: notify the peer
of a local entry attached at both ends, pass the last reference of a local entry, send
the detach datagram for a non-local entry, or, for a hibernate-failed one answered
`VMCI_SUCCESS` or `VMCI_ERROR_NOT_FOUND`, also unmark it. -/
inductive DetachBranchSpec (s : State) (env : DetachEnv) (handle : VMCIHandle)
    (e : QueuePairEntry) : Int × QueuePairEntry × List VMCIHandle × List Call → Prop
  | localNotify : isLocal e.flags = true → 1 < e.refCount →
      DetachBranchSpec s env handle e (env.notifyResult, e, s.hibernateFailedList,
        [queuePairNotifyPeerLocal false handle env.contextID env.notifyResult])
  | localLast : isLocal e.flags = true → e.refCount ≤ 1 →
      DetachBranchSpec s env handle e (vmciSuccess, e, s.hibernateFailedList, [])
  | remote : isLocal e.flags = false →
      ¬(e.hibernateFailure = true ∧
        (env.detachResult = vmciSuccess ∨ env.detachResult = vmciErrorNotFound)) →
      DetachBranchSpec s env handle e (env.detachResult, e, s.hibernateFailedList,
        [vmciQueuePairDetachHyperCall handle env.detachResult])
  | remoteUnmark : isLocal e.flags = false → e.hibernateFailure = true →
      (env.detachResult = vmciSuccess ∨ env.detachResult = vmciErrorNotFound) →
      DetachBranchSpec s env handle e (vmciSuccess, { e with hibernateFailure := false },
        s.hibernateFailedList.erase e.handle, [vmciQueuePairDetachHyperCall handle env.detachResult])

theorem detachBranch_spec (s : State) (env : DetachEnv) (handle : VMCIHandle) (e : QueuePairEntry) :
    DetachBranchSpec s env handle e (detachBranch s env handle e) := by
  unfold detachBranch
  by_cases hl : isLocal e.flags = true
  · simp only [hl, ite_true]
    split_ifs with hr
    · exact .localNotify hl hr
    · exact .localLast hl (UInt32.not_lt.1 hr)
  · simp only [Bool.not_eq_true] at hl
    simp only [hl, Bool.false_eq_true, ite_false]
    by_cases hf : e.hibernateFailure = true
    · by_cases hd : env.detachResult = vmciSuccess ∨ env.detachResult = vmciErrorNotFound
      · have : (if env.detachResult = vmciErrorNotFound then vmciSuccess else env.detachResult) =
            vmciSuccess := by rcases hd with hd | hd <;> simp [hd]
        simpa [hf, this, vmciQPUnmarkHibernateFailed, vmciHandleArrayRemoveEntry] using
          @DetachBranchSpec.remoteUnmark s env handle e hl hf hd
      · have hn : env.detachResult ≠ vmciErrorNotFound := fun h => hd (.inr h)
        have hs : env.detachResult ≠ vmciSuccess := fun h => hd (.inl h)
        simpa [hf, hn, hs] using @DetachBranchSpec.remote s env handle e hl (by simp [hd])
    · simpa [hf] using @DetachBranchSpec.remote s env handle e hl (by simp [hf])

/-- A branch that fails leaves the entry and the failed-handle list as they were. -/
theorem DetachBranchSpec.error {s : State} {env : DetachEnv} {handle : VMCIHandle}
    {e : QueuePairEntry} {b : Int × QueuePairEntry × List VMCIHandle × List Call}
    (hb : DetachBranchSpec s env handle e b) (hr : b.1 < vmciSuccess) :
    b.2.1 = e ∧ b.2.2.1 = s.hibernateFailedList := by
  cases hb <;> first | exact ⟨rfl, rfl⟩ | exact (lt_irrefl _ hr).elim

/-- A failed detach writes the entry found back unchanged. -/
theorem detachOut_error {s : State} {handle : VMCIHandle} {e : QueuePairEntry} {result : Int}
    {calls : List Call} (hf : queuePairListFindEntry s.head handle = some e)
    (hr : result < vmciSuccess) :
    detachOut s handle result e s.hibernateFailedList calls = ⟨result, s, calls⟩ := by
  obtain ⟨pre, post, hs, hset, -⟩ := findEntry_split hf e
  simp only [detachOut, not_le.2 hr, ite_false, hset, ← hs]

end VMCIQueuePair
