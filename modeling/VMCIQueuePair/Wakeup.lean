import VMCIQueuePair.FailedList

/-! The wake-up `VMCIQueuePair_Convert(FALSE, deviceReset)` running beside the calls the
list lock serializes. The wake-up does not take the list lock: it drains
`hibernateFailedList` under `hibernateFailedListLock`, then writes the `hibernate` flag
with `Atomic_Write`. Meanwhile another thread may be inside `VMCIQueuePair_AllocPriv`,
which reads the flag once under the list lock and never touches the failed-handle list,
or inside `VMCIQueuePairDetachHelper`, which touches the list only in
`VMCIQPUnmarkHibernateFailed`, under the list's own lock, between `FindEntry` and the
`out:` label.

`lockStep` is the list-lock thread as a machine: an alloc is one step and a detach three
(`FindEntry` and the branch; the unmark; the `out:` label with the destroy after the
unlock). A detach's writes to the entry are made under the list lock, where the wake-up
neither reads nor writes, and the machine makes them at the `out:` step. Run alone, the
machine makes the atomic calls of the model one at a time (`lockFinish_idle`).

Every interleaving of the two threads puts the drain after some `p` steps of the
list-lock thread and the flag write after some `q`. When between the two no alloc starts,
as when the thread only detaches, or no unmark takes a handle out of the list, as when
the two are adjacent, the end is that of the calls made one at a time with the whole
wake-up between two of them (`wake_linearizable`). Every step commutes with the drain up
to the handles the drain finds, and every step but an alloc's with the flag write; a
drain between a detach's `FindEntry` and its unmark is the drain before the detach, one
between its unmark and its `out:` label the drain after it. `VMCIQueuePair_Convert(TRUE, ·)`, which also appends to
the list under the list lock, is left out: the sweep and the wake-up are both made on
the power-state path, one after the other. -/

namespace VMCIQueuePair

/-! ### The calls the list lock serializes -/

/-- A call made under the list lock: `VMCIQueuePair_AllocPriv` or `VMCIQueuePair_Detach`. -/
inductive LockOp where
  | alloc (env : AllocEnv) (req : AllocRequest) (privFlags : UInt32)
  | detach (env : DetachEnv) (handle : VMCIHandle)

/-- What a call returns to its caller: its result, what an alloc writes to `*handle`,
`*produceQ` and `*consumeQ`, and the calls it made. -/
structure Reply where
  result : Int
  out : Option (VMCIHandle × Queue × Queue)
  calls : List Call
  deriving DecidableEq, Repr

/-- The call made alone: the globals after it and its reply. -/
def LockOp.exec : LockOp → State → State × Reply
  | .alloc env req pf, s =>
    let o := vmciQueuePairAllocPriv s env req pf
    (o.state, ⟨o.result, o.out, o.calls⟩)
  | .detach env handle, s =>
    let o := vmciQueuePairDetach s env handle
    (o.state, ⟨o.result, none, o.calls⟩)

/-- The calls made one at a time: the globals after them and their replies. -/
def lockSerial (s : State) : List LockOp → State × List Reply
  | [] => (s, [])
  | op :: ops => ((lockSerial (op.exec s).1 ops).1, (op.exec s).2 :: (lockSerial (op.exec s).1 ops).2)

/-! ### The steps of a detach -/

/-- What a detach keeps between its steps: the entry found with the branch's result, entry
and calls; `none` when the handle is invalid or no entry has it. -/
abbrev DetachFound := Option (QueuePairEntry × Int × QueuePairEntry × List Call)

/-- The first step of a detach, under the list lock: `FindEntry` and the code before
`out:`, but for the unmark's removal from the failed-handle list. -/
def detachFind (s : State) (env : DetachEnv) (handle : VMCIHandle) : DetachFound :=
  if handle = vmciInvalidHandle then none
  else (queuePairListFindEntry s.head handle).map fun e =>
    ((e, (detachBranch s env handle e).1, (detachBranch s env handle e).2.1,
      (detachBranch s env handle e).2.2.2))

/-- Whether the code before `out:` calls `VMCIQPUnmarkHibernateFailed` for the entry found:
a non-local, hibernate-failed entry whose detach datagram answered `VMCI_SUCCESS` or
`VMCI_ERROR_NOT_FOUND`. -/
def detachUnmarks (env : DetachEnv) (e : QueuePairEntry) : Bool :=
  !isLocal e.flags && e.hibernateFailure &&
    (env.detachResult == vmciSuccess || env.detachResult == vmciErrorNotFound)

/-- The second step: `VMCIHandleArray_RemoveEntry` under `hibernateFailedListLock`, on the
failed-handle list as it is then. -/
def detachUnmark (s : State) (env : DetachEnv) : DetachFound → State
  | some (e, _) =>
    if detachUnmarks env e then
      { s with hibernateFailedList := vmciHandleArrayRemoveEntry s.hibernateFailedList e.handle }
    else s
  | none => s

/-- The third step: the `out:` label, and the destroy after the unlock. -/
def detachRelease (s : State) (handle : VMCIHandle) : DetachFound → DetachOut
  | some (_, result, e', calls) => detachOut s handle result e' s.hibernateFailedList calls
  | none => ⟨if handle = vmciInvalidHandle then vmciErrorInvalidArgs else vmciErrorNotFound, s, []⟩

/-- The failed-handle list the branch leaves: the unmark's removal or the list as it was. -/
theorem detachBranch_failed (s : State) (env : DetachEnv) (handle : VMCIHandle) (e : QueuePairEntry) :
    (detachBranch s env handle e).2.2.1 =
      if detachUnmarks env e then s.hibernateFailedList.erase e.handle else s.hibernateFailedList := by
  have hb := detachBranch_spec s env handle e
  generalize detachBranch s env handle e = b at hb ⊢
  cases hb with
  | localNotify hl | localLast hl => simp [detachUnmarks, hl]
  | remote hl hn =>
    have hn' : ¬(e.hibernateFailure = true ∧
        (env.detachResult = vmciSuccess ∨ env.detachResult = vmciErrorNotFound)) := hn
    simp only [detachUnmarks, hl, Bool.not_false, Bool.true_and, Bool.and_eq_true, Bool.or_eq_true,
      beq_iff_eq, hn', if_false]
  | remoteUnmark hl hf hd => simp [detachUnmarks, hl, hf, hd]

/-- The branch's result, entry and calls do not read the globals: only the failed-handle
list it leaves does. -/
theorem detachBranch_indep (s t : State) (env : DetachEnv) (handle : VMCIHandle) (e : QueuePairEntry) :
    (detachBranch s env handle e).1 = (detachBranch t env handle e).1 ∧
      (detachBranch s env handle e).2.1 = (detachBranch t env handle e).2.1 ∧
      (detachBranch s env handle e).2.2.2 = (detachBranch t env handle e).2.2.2 := by
  unfold detachBranch; dsimp only; split_ifs <;> exact ⟨rfl, rfl, rfl⟩

/-- The three steps made one after the other are `VMCIQueuePair_Detach`. -/
theorem detach_steps (s : State) (env : DetachEnv) (handle : VMCIHandle) :
    detachRelease (detachUnmark s env (detachFind s env handle)) handle (detachFind s env handle) =
      vmciQueuePairDetach s env handle := by
  unfold detachFind vmciQueuePairDetach vmciQueuePairDetachHelper
  split_ifs with hv
  · simp [detachUnmark, detachRelease, hv]
  rcases hf : queuePairListFindEntry s.head handle with _ | e
  · simp [detachUnmark, detachRelease, hv]
  simp only [Option.map_some', detachUnmark, detachRelease, detachBranch_failed]
  split_ifs <;> rfl

/-! ### Frames: what the wake-up writes, the other calls do not read -/

section Frame

variable (f : List VMCIHandle) {s : State} {env : AllocEnv} {handle : VMCIHandle}
  {produceSize consumeSize : UInt64} {peer : VMCIId} {flags : UInt32}

/-- The call's output with `hibernateFailedList := f` in its globals. -/
def AllocOut.withFailed (o : AllocOut) : AllocOut :=
  { o with state := { o.state with hibernateFailedList := f } }

theorem allocAttach_withFailed (e : QueuePairEntry) :
    allocAttach { s with hibernateFailedList := f } env handle produceSize consumeSize flags e =
      (allocAttach s env handle produceSize consumeSize flags e).withFailed f := by
  unfold allocAttach; split_ifs <;> rfl

theorem allocInsert_withFailed (e : QueuePairEntry) (calls : List Call) :
    allocInsert { s with hibernateFailedList := f } env e calls = (allocInsert s env e calls).withFailed f := by
  unfold allocInsert; dsimp only; split_ifs <;> rfl

theorem allocCreate_withFailed :
    allocCreate { s with hibernateFailedList := f } env handle produceSize consumeSize peer flags =
      (allocCreate s env handle produceSize consumeSize peer flags).withFailed f := by
  unfold allocCreate
  rcases env.produceQ with _ | pq
  · rfl
  rcases env.consumeQ with _ | cq
  · rfl
  dsimp only
  split
  · rfl
  · rename_i rid _
    rcases env.ppnSet with _ | p <;> dsimp only
    · split_ifs
      · rfl
      · exact allocInsert_withFailed (s := { s with queuePairRID := rid }) f _ _
    · exact allocInsert_withFailed (s := { s with queuePairRID := rid }) f _ _

theorem allocPriv_withFailed (s : State) (env : AllocEnv) (req : AllocRequest) (pf : UInt32) :
    vmciQueuePairAllocPriv { s with hibernateFailedList := f } env req pf =
      (vmciQueuePairAllocPriv s env req pf).withFailed f := by
  unfold vmciQueuePairAllocPriv vmciQueuePairAllocHelper
  rcases req with ⟨_ | h, pq, cq, ps, cs, peer, flags⟩
  · split_ifs <;> rfl
  · dsimp only
    split_ifs
    · rfl
    · rfl
    · rfl
    · split
      · exact allocAttach_withFailed f _
      · exact allocCreate_withFailed f
    · rfl

end Frame

/-! ### The list-lock thread -/

/-- Where the list-lock thread is: before its next call, or inside a detach after its
first step (`unmark`) or its second (`out`). -/
inductive LockPc where
  | idle
  | unmark (env : DetachEnv) (handle : VMCIHandle) (found : DetachFound)
  | out (handle : VMCIHandle) (found : DetachFound)

/-- The thread's configuration: the globals, where it is, the calls still to make, and the
replies of those made. -/
structure LockCfg where
  state : State
  pc : LockPc
  todo : List LockOp
  replies : List Reply

/-- One step of the thread; once it is done it stays put. -/
def lockStep (c : LockCfg) : LockCfg :=
  match c.pc, c.todo with
  | .idle, [] => c
  | .idle, .alloc env req pf :: ops =>
    ⟨((LockOp.alloc env req pf).exec c.state).1, .idle, ops,
      c.replies ++ [((LockOp.alloc env req pf).exec c.state).2]⟩
  | .idle, .detach env handle :: ops =>
    ⟨c.state, .unmark env handle (detachFind c.state env handle), ops, c.replies⟩
  | .unmark env handle found, ops => ⟨detachUnmark c.state env found, .out handle found, ops, c.replies⟩
  | .out handle found, ops =>
    ⟨(detachRelease c.state handle found).state, .idle, ops, c.replies ++
      [⟨(detachRelease c.state handle found).result, none, (detachRelease c.state handle found).calls⟩]⟩

def lockRun : Nat → LockCfg → LockCfg
  | 0, c => c
  | n + 1, c => lockRun n (lockStep c)

def LockOp.width : LockOp → Nat
  | .alloc .. => 1
  | .detach .. => 3

def LockPc.left : LockPc → Nat
  | .idle => 0
  | .unmark .. => 2
  | .out .. => 1

/-- The steps the calls take. -/
def lockSteps : List LockOp → Nat
  | [] => 0
  | op :: ops => op.width + lockSteps ops

/-- The steps the thread has left. -/
def LockCfg.left (c : LockCfg) : Nat := c.pc.left + lockSteps c.todo

/-- The thread run to its end. -/
def lockFinish (c : LockCfg) : LockCfg := lockRun c.left c

/-- The next step starts an alloc, the one call that reads the `hibernate` flag. -/
def LockCfg.allocNext (c : LockCfg) : Bool :=
  match c.pc, c.todo with
  | .idle, .alloc .. :: _ => true
  | _, _ => false

/-- No alloc starts in the thread's next `n` steps. -/
def AllocFree (c : LockCfg) : Nat → Prop
  | 0 => True
  | n + 1 => c.allocNext = false ∧ AllocFree (lockStep c) n

theorem lockRun_add (m n : Nat) (c : LockCfg) : lockRun (m + n) c = lockRun n (lockRun m c) := by
  induction m generalizing c with
  | zero => rw [Nat.zero_add]; rfl
  | succ m ih => rw [Nat.succ_add]; exact ih _

theorem lockStep_left (c : LockCfg) : (lockStep c).left = c.left - 1 := by
  rcases c with ⟨s, _ | _ | _, _ | ⟨_ | _, ops⟩, rs⟩ <;>
    simp [lockStep, LockCfg.left, LockPc.left, LockOp.width, lockSteps]

theorem lockStep_of_left {c : LockCfg} (h : c.left = 0) : lockStep c = c := by
  rcases c with ⟨s, _ | _ | _, _ | ⟨_ | _, ops⟩, rs⟩ <;>
    first | rfl | simp [LockCfg.left, LockPc.left, LockOp.width, lockSteps] at h

theorem lockFinish_step (c : LockCfg) : lockFinish (lockStep c) = lockFinish c := by
  rcases hc : c.left with _ | n
  · rw [lockStep_of_left hc]
  · rw [lockFinish, lockStep_left, hc, lockFinish, hc]; rfl

theorem lockFinish_run (n : Nat) (c : LockCfg) : lockFinish (lockRun n c) = lockFinish c := by
  induction n generalizing c with
  | zero => rfl
  | succ n ih => exact (ih _).trans (lockFinish_step c)

/-- A call run through its steps, alone, is the call made at once. -/
theorem lockRun_width (s : State) (op : LockOp) (ops : List LockOp) (rs : List Reply) :
    lockRun op.width ⟨s, .idle, op :: ops, rs⟩ = ⟨(op.exec s).1, .idle, ops, rs ++ [(op.exec s).2]⟩ := by
  cases op with
  | alloc => rfl
  | detach env handle =>
    have h3 : lockRun 3 ⟨s, .idle, .detach env handle :: ops, rs⟩ =
        ⟨(detachRelease (detachUnmark s env (detachFind s env handle)) handle
          (detachFind s env handle)).state, .idle, ops, rs ++
          [⟨(detachRelease (detachUnmark s env (detachFind s env handle)) handle
            (detachFind s env handle)).result, none,
            (detachRelease (detachUnmark s env (detachFind s env handle)) handle
              (detachFind s env handle)).calls⟩]⟩ := rfl
    rw [detach_steps] at h3
    exact h3

/-- Run alone to its end, the thread makes its calls one at a time. -/
theorem lockFinish_idle (s : State) (ops : List LockOp) (rs : List Reply) :
    lockFinish ⟨s, .idle, ops, rs⟩ = ⟨(lockSerial s ops).1, .idle, [], rs ++ (lockSerial s ops).2⟩ := by
  induction ops generalizing s rs with
  | nil => simp [lockFinish, LockCfg.left, LockPc.left, lockSteps, lockSerial, lockRun]
  | cons op ops ih =>
    rw [← lockFinish_run op.width, lockRun_width, ih]
    simp [lockSerial]

/-! ### The wake-up -/

/-- The first step of `VMCIQueuePair_Convert(FALSE, deviceReset)`: the drain of the
failed-handle list under `hibernateFailedListLock`, with a peer-detach event per handle,
last first, on a device reset. -/
def wakeDrain (s : State) (env : ConvertOpEnv) (deviceReset : Bool) : State × List Call :=
  ({ s with hibernateFailedList := [] },
    if deviceReset then
      s.hibernateFailedList.reverse.map fun h => queuePairNotifyPeerLocal false h env.contextID env.wakeResult
    else [])

/-- The second: `Atomic_Write(&queuePairList.hibernate, 0)`. -/
def wakeClear (s : State) : State := { s with hibernate := false }

/-- The two steps made one after the other are the wake-up. -/
theorem convert_wake (s : State) (env : ConvertOpEnv) (deviceReset : Bool) :
    vmciQueuePairConvert s env false deviceReset =
      (wakeClear (wakeDrain s env deviceReset).1, (wakeDrain s env deviceReset).2) := rfl

def LockCfg.drained (c : LockCfg) : LockCfg :=
  { c with state := { c.state with hibernateFailedList := [] } }

def LockCfg.cleared (c : LockCfg) : LockCfg := { c with state := wakeClear c.state }

/-- The thread with the drain after `p` of its steps and the flag write after `q`; every
interleaving of the two threads is one of these. The globals at the end, the replies of
the calls in order, and the wake-up's calls. -/
def wakeInterleaved (s : State) (ops : List LockOp) (env : ConvertOpEnv) (deviceReset : Bool)
    (p q : Nat) : State × List Reply × List Call :=
  let c1 := lockRun p ⟨s, .idle, ops, []⟩
  let d := wakeDrain c1.state env deviceReset
  let c2 := lockRun (q - p) { c1 with state := d.1 }
  let c3 := lockFinish { c2 with state := wakeClear c2.state }
  (c3.state, c3.replies, d.2)

/-- The calls made one at a time, with the whole wake-up after the first `k`. -/
def wakeSerial (s : State) (ops : List LockOp) (env : ConvertOpEnv) (deviceReset : Bool) (k : Nat) :
    State × List Reply × List Call :=
  let a := lockSerial s (ops.take k)
  let w := vmciQueuePairConvert a.1 env false deviceReset
  let b := lockSerial w.1 (ops.drop k)
  (b.1, a.2 ++ b.2, w.2)

/-! ### What commutes with the wake-up -/

/-- A detach's first step does not read the failed-handle list. -/
theorem detachFind_setFailed (s : State) (f : List VMCIHandle) (env : DetachEnv) (handle : VMCIHandle) :
    detachFind { s with hibernateFailedList := f } env handle = detachFind s env handle := by
  unfold detachFind
  split_ifs
  · rfl
  · cases queuePairListFindEntry s.head handle with
    | none => rfl
    | some e =>
      obtain ⟨h1, h2, h3⟩ := detachBranch_indep { s with hibernateFailedList := f } s env handle e
      simp only [Option.map_some', h1, h2, h3]

/-- Every step of the thread commutes with the drain: only the unmark touches the list,
and on a drained list it leaves it drained. -/
theorem lockStep_drained (c : LockCfg) : lockStep c.drained = (lockStep c).drained := by
  rcases c with ⟨s, _ | ⟨env, h, _ | ⟨e, _⟩⟩ | ⟨h, _ | ⟨_, r, e', cs⟩⟩, todo, rs⟩
  · rcases todo with _ | ⟨_ | _, ops⟩
    · rfl
    · simp only [lockStep, LockCfg.drained, LockOp.exec, allocPriv_withFailed]; rfl
    · simp only [lockStep, LockCfg.drained, detachFind_setFailed]
  · rfl
  · simp only [lockStep, LockCfg.drained, detachUnmark]; split_ifs <;> rfl
  · rfl
  · simp only [lockStep, LockCfg.drained, detachRelease]
    unfold detachOut; dsimp only; split_ifs <;> rfl

/-- Every step but an alloc's commutes with the flag write: no other call reads the flag,
and none writes it. -/
theorem lockStep_cleared {c : LockCfg} (ha : c.allocNext = false) :
    lockStep c.cleared = (lockStep c).cleared := by
  rcases c with ⟨s, _ | ⟨env, h, _ | ⟨e, _⟩⟩ | ⟨h, _ | ⟨_, r, e', cs⟩⟩, todo, rs⟩
  · rcases todo with _ | ⟨_ | _, ops⟩
    · rfl
    · cases ha
    · rfl
  · rfl
  · simp only [lockStep, LockCfg.cleared, wakeClear, detachUnmark]; split_ifs <;> rfl
  · rfl
  · simp only [lockStep, LockCfg.cleared, wakeClear, detachRelease]
    unfold detachOut; dsimp only; split_ifs <;> rfl

theorem lockRun_drained (n : Nat) (c : LockCfg) : lockRun n c.drained = (lockRun n c).drained := by
  induction n generalizing c with
  | zero => rfl
  | succ n ih => exact (congrArg (lockRun n) (lockStep_drained c)).trans (ih _)

theorem allocFree_drained {c : LockCfg} : ∀ {n : Nat}, AllocFree c n → AllocFree c.drained n
  | 0, _ => trivial
  | _ + 1, ⟨ha, h⟩ => ⟨ha, (lockStep_drained c).symm ▸ allocFree_drained h⟩

theorem lockRun_cleared {c : LockCfg} : ∀ {n : Nat}, AllocFree c n →
    lockRun n c.cleared = (lockRun n c).cleared
  | 0, _ => rfl
  | _ + 1, ⟨ha, h⟩ => (congrArg (lockRun _) (lockStep_cleared ha)).trans (lockRun_cleared h)

/-! ### Linearizability -/

/-- A whole wake-up made just before a step that is not an alloc's, or just after it,
leads to the same end. -/
theorem lockFinish_wake_step {c : LockCfg} (ha : c.allocNext = false) :
    lockFinish (lockStep c).drained.cleared = lockFinish c.drained.cleared := by
  rw [← lockStep_drained, ← lockStep_cleared (c := c.drained) ha, lockFinish_step]

theorem lockRun_of_left {c : LockCfg} (h : c.left = 0) : ∀ n, lockRun n c = c
  | 0 => rfl
  | n + 1 => by rw [lockRun, lockStep_of_left h, lockRun_of_left h n]

theorem detachRelease_failed (s : State) (handle : VMCIHandle) (found : DetachFound) :
    (detachRelease s handle found).state.hibernateFailedList = s.hibernateFailedList := by
  rcases found with _ | ⟨_, r, e', cs⟩
  · rfl
  · unfold detachRelease detachOut; dsimp only; split_ifs <;> rfl

/-- The configuration after the first `k` calls, made one at a time. -/
def LockCfg.after (s : State) (ops : List LockOp) (rs : List Reply) (k : Nat) : LockCfg :=
  ⟨(lockSerial s (ops.take k)).1, .idle, ops.drop k, rs ++ (lockSerial s (ops.take k)).2⟩

/-- Stopped after any `p` of its steps, with the whole wake-up made there, the thread ends
as with the wake-up made between two of its calls, and the drain finds the same list:
before a detach whose unmark had not run, after one whose unmark had. -/
theorem wake_point (s : State) (ops : List LockOp) (rs : List Reply) (p : Nat) :
    ∃ k ≤ ops.length,
      lockFinish (lockRun p ⟨s, .idle, ops, rs⟩).drained.cleared =
        lockFinish (LockCfg.after s ops rs k).drained.cleared ∧
      (lockRun p ⟨s, .idle, ops, rs⟩).state.hibernateFailedList =
        (LockCfg.after s ops rs k).state.hibernateFailedList := by
  induction ops generalizing s rs p with
  | nil =>
    refine ⟨0, le_rfl, ?_⟩
    rw [lockRun_of_left (c := ⟨s, .idle, [], rs⟩) rfl]
    simp [LockCfg.after, lockSerial]
  | cons op ops ih =>
    by_cases hp : op.width ≤ p
    · -- the whole call ran before the drain
      obtain ⟨k, hk, h1, h2⟩ := ih (op.exec s).1 (rs ++ [(op.exec s).2]) (p - op.width)
      have hrun : lockRun p ⟨s, .idle, op :: ops, rs⟩ =
          lockRun (p - op.width) ⟨(op.exec s).1, .idle, ops, rs ++ [(op.exec s).2]⟩ := by
        rw [← lockRun_width, ← lockRun_add, Nat.add_sub_cancel' hp]
      have hafter : LockCfg.after s (op :: ops) rs (k + 1) =
          LockCfg.after (op.exec s).1 ops (rs ++ [(op.exec s).2]) k := by
        simp [LockCfg.after, lockSerial]
      exact ⟨k + 1, Nat.succ_le_succ hk, by rw [hrun, hafter, h1], by rw [hrun, hafter, h2]⟩
    · have h0 : LockCfg.after s (op :: ops) rs 0 = ⟨s, .idle, op :: ops, rs⟩ := by
        simp [LockCfg.after, lockSerial]
      cases op with
      | alloc =>
        obtain rfl : p = 0 := by simp only [LockOp.width] at hp; omega
        exact ⟨0, Nat.zero_le _, by rw [h0]; rfl, by rw [h0]; rfl⟩
      | detach env h =>
        simp only [LockOp.width, not_le] at hp
        rcases (by omega : p = 0 ∨ p = 1 ∨ p = 2) with rfl | rfl | rfl
        · exact ⟨0, Nat.zero_le _, by rw [h0]; rfl, by rw [h0]; rfl⟩
        · -- the drain before the unmark: the wake-up before the detach
          exact ⟨0, Nat.zero_le _, by rw [h0]; exact lockFinish_wake_step rfl, by rw [h0]; rfl⟩
        · -- the drain after the unmark: the wake-up after the detach
          have h3 := lockRun_width s (.detach env h) ops rs
          have h1 : LockCfg.after s (.detach env h :: ops) rs 1 =
              ⟨((LockOp.detach env h).exec s).1, .idle, ops, rs ++ [((LockOp.detach env h).exec s).2]⟩ := by
            simp [LockCfg.after, lockSerial]
          refine ⟨1, Nat.succ_le_succ (Nat.zero_le _), ?_, ?_⟩
          · rw [h1, ← h3]
            exact (lockFinish_wake_step (c := lockRun 2 ⟨s, .idle, .detach env h :: ops, rs⟩) rfl).symm
          · rw [h1, ← h3]
            exact (detachRelease_failed _ _ _).symm

/-- The whole wake-up made after `n` steps of the thread is the wake-up made between two
of its calls. -/
theorem wake_at (s : State) (ops : List LockOp) (env : ConvertOpEnv) (deviceReset : Bool) (n : Nat) :
    ∃ k ≤ ops.length,
      ((lockFinish (lockRun n ⟨s, .idle, ops, []⟩).drained.cleared).state,
        (lockFinish (lockRun n ⟨s, .idle, ops, []⟩).drained.cleared).replies,
        (wakeDrain (lockRun n ⟨s, .idle, ops, []⟩).state env deviceReset).2) =
      wakeSerial s ops env deviceReset k := by
  obtain ⟨k, hk, h1, h2⟩ := wake_point s ops [] n
  refine ⟨k, hk, ?_⟩
  have hd : (wakeDrain (lockRun n ⟨s, .idle, ops, []⟩).state env deviceReset).2 =
      (wakeDrain (LockCfg.after s ops [] k).state env deviceReset).2 := by
    simp only [wakeDrain, h2]
  have hw : (LockCfg.after s ops [] k).drained.cleared =
      ⟨(vmciQueuePairConvert (lockSerial s (ops.take k)).1 env false deviceReset).1, .idle, ops.drop k,
        [] ++ (lockSerial s (ops.take k)).2⟩ := by
    rw [convert_wake]; rfl
  rw [h1, hd, hw, lockFinish_idle]
  rfl

/-- Every interleaving of the wake-up with the calls the list lock serializes ends as the
calls made one at a time with the whole wake-up between two of them, with the same
globals, the same reply to every call and the same events from the wake-up, when between
the drain and the flag write either no alloc starts or no unmark takes a handle out of
the list. The whole wake-up then sits at the drain, or at the flag write. -/
theorem wake_linearizable (s : State) (ops : List LockOp) (env : ConvertOpEnv) (deviceReset : Bool)
    {p q : Nat} (hw : AllocFree (lockRun p ⟨s, .idle, ops, []⟩) (q - p) ∨
      (lockRun q ⟨s, .idle, ops, []⟩).state.hibernateFailedList =
        (lockRun p ⟨s, .idle, ops, []⟩).state.hibernateFailedList) :
    ∃ k ≤ ops.length, wakeInterleaved s ops env deviceReset p q = wakeSerial s ops env deviceReset k := by
  have hi : wakeInterleaved s ops env deviceReset p q =
      ((lockFinish (lockRun (q - p) (lockRun p ⟨s, .idle, ops, []⟩).drained).cleared).state,
        (lockFinish (lockRun (q - p) (lockRun p ⟨s, .idle, ops, []⟩).drained).cleared).replies,
        (wakeDrain (lockRun p ⟨s, .idle, ops, []⟩).state env deviceReset).2) := rfl
  -- no alloc in between: the flag write moves back to the drain
  have hdrain : AllocFree (lockRun p ⟨s, .idle, ops, []⟩) (q - p) →
      ∃ k ≤ ops.length, wakeInterleaved s ops env deviceReset p q = wakeSerial s ops env deviceReset k :=
    fun ha => by
      rw [hi, ← lockRun_cleared (allocFree_drained ha), lockFinish_run]
      exact wake_at s ops env deviceReset p
  rcases hw with ha | hf
  · exact hdrain ha
  by_cases hpq : p ≤ q
  · -- the list unchanged in between: the drain moves forward to the flag write
    rw [hi, lockRun_drained, ← lockRun_add, Nat.add_sub_cancel' hpq]
    have hd : (wakeDrain (lockRun p ⟨s, .idle, ops, []⟩).state env deviceReset).2 =
        (wakeDrain (lockRun q ⟨s, .idle, ops, []⟩).state env deviceReset).2 := by
      simp only [wakeDrain, hf]
    rw [hd]
    exact wake_at s ops env deviceReset q
  · exact hdrain (by rw [Nat.sub_eq_zero_of_le (Nat.le_of_lt (not_le.1 hpq))]; trivial)

/-- A hibernate-failed queue pair detached while the wake-up runs, the drain falling
between the detach's `FindEntry` and its unmark. -/
theorem wake_linearizable_stale :
    AllocFree (lockRun 1 ⟨Op.run initState (staleHandleRun.take 2), .idle,
      [.detach ⟨5, 0, 0⟩ ⟨5, 2000⟩], []⟩) (3 - 1) ∧
      ∃ k ≤ [LockOp.detach ⟨5, 0, 0⟩ ⟨5, 2000⟩].length,
        wakeInterleaved (Op.run initState (staleHandleRun.take 2)) [.detach ⟨5, 0, 0⟩ ⟨5, 2000⟩]
            ⟨5, fun _ => ⟨0, 0, 0, 0, 0, 0, 0, 0⟩, 0⟩ true 1 3 =
          wakeSerial (Op.run initState (staleHandleRun.take 2)) [.detach ⟨5, 0, 0⟩ ⟨5, 2000⟩]
            ⟨5, fun _ => ⟨0, 0, 0, 0, 0, 0, 0, 0⟩, 0⟩ true k :=
  ⟨⟨rfl, rfl, trivial⟩, wake_linearizable _ _ _ _ (.inl ⟨rfl, rfl, trivial⟩)⟩

end VMCIQueuePair
