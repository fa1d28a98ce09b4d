import VMCIQueuePair.Safety

/-! The failed-handle list across hibernation cycles. `VMCIQueuePairDetachHelper` takes
a handle out of `hibernateFailedList` only when the detach datagram answers exactly
`VMCI_SUCCESS` (or `VMCI_ERROR_NOT_FOUND`), but unlinks and destroys the entry on any
result `≥ VMCI_SUCCESS`. A positive answer therefore leaves the handle of a destroyed
queue pair in the list, and the wake-up `VMCIQueuePair_Convert(FALSE, TRUE)` later
sends a peer-detach event for it, also when a new queue pair has taken the handle. -/

namespace VMCIQueuePair

/-- `VMCIQueuePair_Convert(TRUE, ·)` is called only while the `hibernate` flag is 0. -/
def ConvertWhenAwake : State → Op → Prop
  | s, .convert _ true _ => s.hibernate = false
  | _, _ => True

/-- The failed-handle list as the hibernation code expects it: empty while awake,
without repetition, and each handle that of a live non-local hibernate-failed entry. -/
def FailedListOk (s : State) : Prop :=
  (s.hibernate = false → s.hibernateFailedList = []) ∧ s.hibernateFailedList.Nodup ∧
    ∀ h ∈ s.hibernateFailedList, ∃ e ∈ s.head,
      e.handle = h ∧ isLocal e.flags = false ∧ e.hibernateFailure = true

instance (s : State) : Decidable (FailedListOk s) :=
  inferInstanceAs (Decidable (_ ∧ _ ∧ ∀ h ∈ s.hibernateFailedList, ∃ e ∈ s.head, _))

/-- A non-local queue pair `5:2000` is created; a hibernation fails to convert its
consume queue, so it is marked hibernate-failed; its detach datagram is answered with
the positive code 3, so it is destroyed; and a local queue pair is created under the
same handle. -/
def staleHandleRun : List Op :=
  [.alloc ⟨false, 5, 0, some 1, some 2, true, false, some 3, 0, true, 0, 0⟩
      ⟨some ⟨5, 2000⟩, true, true, 4096, 4096, vmciInvalidId, 0⟩ vmciNoPrivilegeFlags,
    .convert ⟨5, fun _ => ⟨-1, 0, 0, 0, 0, 0, 0, 0⟩, 0⟩ true false,
    .detach ⟨5, 0, 3⟩ ⟨5, 2000⟩,
    .alloc ⟨false, 5, 0, some 4, some 5, true, false, some 6, 0, true, 0, 0⟩
      ⟨some ⟨5, 2000⟩, true, true, 4096, 4096, vmciInvalidId, vmciQPFlagLocal⟩
      vmciNoPrivilegeFlags]

/-- After the detach the list still holds the handle of the destroyed queue pair; after
the new create it names the local queue pair now using the handle, and the wake-up
conversion sends that queue pair's peer a detach event. -/
theorem failed_list_keeps_destroyed_handle :
    ReachableBy ConvertWhenAwake (Op.run initState staleHandleRun) ∧
      ¬FailedListOk (Op.run initState (staleHandleRun.take 3)) ∧
      (Op.run initState (staleHandleRun.take 3)).head = [] ∧
      (Op.run initState staleHandleRun).hibernateFailedList = [⟨5, 2000⟩] ∧
      (Op.run initState staleHandleRun).head.map (fun e => (e.handle, isLocal e.flags)) =
        [(⟨5, 2000⟩, true)] ∧
      (vmciQueuePairConvert (Op.run initState staleHandleRun) ⟨5, fun _ => ⟨0, 0, 0, 0, 0, 0, 0, 0⟩, 0⟩
        false true).2 = [queuePairNotifyPeerLocal false ⟨5, 2000⟩ 5 0] :=
  ⟨ReachableBy.init.run ⟨trivial, rfl, trivial, trivial, trivial⟩,
    by decide, by decide, by decide, by decide, by decide⟩

/-! ### The list over every run -/

/-- The calls the list lock serializes against each other: `VMCIQueuePair_AllocPriv` and
`VMCIQueuePair_Detach`, not `VMCIQueuePair_Convert`. -/
def NoConvert : State → Op → Prop
  | _, .convert _ _ _ => False
  | _, _ => True

theorem noConvert_globals {s : State} : ∀ {op : Op}, NoConvert s op →
    (op.apply s).hibernate = s.hibernate ∧ (op.apply s).hibernateFailedList.Sublist s.hibernateFailedList
  | .alloc env req pf, _ => by
    obtain ⟨h1, h2⟩ := allocPriv_globals s env req pf
    exact ⟨h1, by rw [Op.apply, h2]⟩
  | .detach env handle, _ => detach_globals s env handle

theorem noConvert_run_globals : ∀ {s : State} {ops : List Op}, Admits NoConvert s ops →
    (Op.run s ops).hibernate = s.hibernate ∧
      (Op.run s ops).hibernateFailedList.Sublist s.hibernateFailedList
  | _, [], _ => ⟨rfl, .refl _⟩
  | _, _ :: _, ⟨hp, h⟩ =>
    have h1 := noConvert_globals hp
    have h2 := noConvert_run_globals h
    ⟨h2.1.trans h1.1, h2.2.trans h1.2⟩

/-- Only the sweep appends to the failed-handle list, and it sets the flag; the wake-up,
the only call that clears the flag, empties the list. -/
theorem failed_nil_of_awake {P : State → Op → Prop} {s : State} (h : ReachableBy P s) :
    s.hibernate = false → s.hibernateFailedList = [] := by
  induction h with
  | init => intro; rfl
  | step op _ _ ih =>
    cases op with
    | convert env toLocal deviceReset => cases toLocal <;> simp [Op.apply, vmciQueuePairConvert]
    | alloc env req pf =>
      obtain ⟨h1, h2⟩ := @noConvert_globals _ (.alloc env req pf) trivial
      exact fun hw => List.eq_nil_of_sublist_nil (ih (h1 ▸ hw) ▸ h2)
    | detach env handle =>
      obtain ⟨h1, h2⟩ := @noConvert_globals _ (.detach env handle) trivial
      exact fun hw => List.eq_nil_of_sublist_nil (ih (h1 ▸ hw) ▸ h2)

theorem convert_toLocal_failed (s : State) (env : ConvertOpEnv) (deviceReset : Bool) :
    (vmciQueuePairConvert s env true deviceReset).1.hibernateFailedList = s.hibernateFailedList ++
      ((vmciQueuePairConvert s env true deviceReset).1.head.filter (!isLocal ·.flags)).map (·.handle) :=
  convertToLocal_failed _ _ _ _

/-- A hibernation cycle from any reachable state with the flag clear: the list is empty;
the sweep `VMCIQueuePair_Convert(TRUE, ·)` fills it with the handles of the entries it
leaves non-local; allocs and detaches while the guest hibernates only take handles out;
and the wake-up `VMCIQueuePair_Convert(FALSE, TRUE)` sends one peer-detach event for each
handle left. The source keeps the list as a set (`VMCIHandleArray`), so the events are
stated up to order. -/
theorem hibernation_cycle {P : State → Op → Prop} {s : State} (hs : ReachableBy P s)
    (hw : s.hibernate = false) (env : ConvertOpEnv) (deviceReset : Bool) (ops : List Op)
    (wake : ConvertOpEnv) (hops : Admits NoConvert (vmciQueuePairConvert s env true deviceReset).1 ops) :
    s.hibernateFailedList = [] ∧
      ∃ l : List VMCIHandle, l.Subperm (((vmciQueuePairConvert s env true deviceReset).1.head.filter
          (!isLocal ·.flags)).map (·.handle)) ∧
        (vmciQueuePairConvert (Op.run (vmciQueuePairConvert s env true deviceReset).1 ops) wake false
          true).2 = l.map fun h => queuePairNotifyPeerLocal false h wake.contextID wake.wakeResult := by
  have h0 := failed_nil_of_awake hs hw
  have hsub := (noConvert_run_globals hops).2
  rw [convert_toLocal_failed, h0, List.nil_append] at hsub
  exact ⟨h0, _, (List.reverse_perm _).subperm.trans hsub.subperm, rfl⟩

/-- The cycle of `staleHandleRun`: the sweep marks `5:2000`, the detach answered with 3
leaves it in the list, and the wake-up sends its peer the detach event. -/
theorem hibernation_cycle_stale :
    ReachableBy (fun _ _ => True) (Op.run initState (staleHandleRun.take 1)) ∧
      (Op.run initState (staleHandleRun.take 1)).hibernate = false ∧
      Admits NoConvert (vmciQueuePairConvert (Op.run initState (staleHandleRun.take 1))
        ⟨5, fun _ => ⟨-1, 0, 0, 0, 0, 0, 0, 0⟩, 0⟩ true false).1 [.detach ⟨5, 0, 3⟩ ⟨5, 2000⟩] ∧
      (vmciQueuePairConvert (Op.run (vmciQueuePairConvert (Op.run initState (staleHandleRun.take 1))
          ⟨5, fun _ => ⟨-1, 0, 0, 0, 0, 0, 0, 0⟩, 0⟩ true false).1 [.detach ⟨5, 0, 3⟩ ⟨5, 2000⟩])
          ⟨5, fun _ => ⟨0, 0, 0, 0, 0, 0, 0, 0⟩, 0⟩ false true).2 =
        [queuePairNotifyPeerLocal false ⟨5, 2000⟩ 5 0] ∧
      (Op.run initState (staleHandleRun.take 1)).hibernateFailedList = [] ∧
      ∃ l : List VMCIHandle, l.Subperm (((vmciQueuePairConvert (Op.run initState (staleHandleRun.take 1))
          ⟨5, fun _ => ⟨-1, 0, 0, 0, 0, 0, 0, 0⟩, 0⟩ true false).1.head.filter
          (!isLocal ·.flags)).map (·.handle)) ∧
        (vmciQueuePairConvert (Op.run (vmciQueuePairConvert (Op.run initState (staleHandleRun.take 1))
          ⟨5, fun _ => ⟨-1, 0, 0, 0, 0, 0, 0, 0⟩, 0⟩ true false).1 [.detach ⟨5, 0, 3⟩ ⟨5, 2000⟩])
          ⟨5, fun _ => ⟨0, 0, 0, 0, 0, 0, 0, 0⟩, 0⟩ false true).2 =
          l.map fun h => queuePairNotifyPeerLocal false h 5 0 :=
  have hs : ReachableBy (fun _ _ => True) (Op.run initState (staleHandleRun.take 1)) :=
    ReachableBy.init.run ⟨trivial, trivial⟩
  ⟨hs, by decide, ⟨trivial, trivial⟩, by decide,
    hibernation_cycle hs (by decide) _ false [.detach ⟨5, 0, 3⟩ ⟨5, 2000⟩] _ ⟨trivial, trivial⟩⟩

end VMCIQueuePair
