import VMCIQueuePair.Detach

/-! `VMCIQueuePair_Convert`. With `toLocal` it sweeps the list under the list lock: each
non-local entry is converted under its queue mutex (`convertEntry`), consume queue
first, then produce queue, then the detach datagram; any failure reverts what was
installed, releases the mutex and marks the entry hibernate-failed. After the sweep
the `hibernate` flag is set. Without `toLocal` it drains `hibernateFailedList` from the
tail, notifying each handle's local peer on a device reset, and clears the flag. -/

namespace VMCIQueuePair

/-- What the collaborators answer while one entry is converted: the results of the two
`VMCI_ConvertToLocalQueue` calls with the buffer each returns and the one it installs,
the detach datagram's result, and the detach event's. -/
structure ConvertEnv where
  consumeResult : Int
  oldConsume : Buffer
  freshConsume : Buffer
  produceResult : Int
  oldProduce : Buffer
  freshProduce : Buffer
  detachResult : Int
  notifyResult : Int
  deriving DecidableEq, Repr

/-- What the collaborators answer during one `VMCIQueuePair_Convert`: the context id, the
answers for the entry at each list position, and the wake-up events' result. -/
structure ConvertOpEnv where
  contextID : VMCIId
  entry : Nat → ConvertEnv
  wakeResult : Int

/-- `VMCIQPMarkHibernateFailed`. -/
def vmciQPMarkHibernateFailed (e : QueuePairEntry) (failed : List VMCIHandle) :
    QueuePairEntry × List VMCIHandle :=
  ({ e with hibernateFailure := true }, vmciHandleArrayAppendEntry failed e.handle)

/-- The body of the `toLocal` sweep for one entry: the entry after it, the failed-handle
list after it, and its calls. -/
def convertEntry (contextID : VMCIId) (env : ConvertEnv) (failed : List VMCIHandle)
    (e : QueuePairEntry) : QueuePairEntry × List VMCIHandle × List Call :=
  if isLocal e.flags then (e, failed, [])
  else
    let mark := vmciQPMarkHibernateFailed e failed
    let acquire := Call.acquireQueueMutex e.produceQ
    let release := Call.releaseQueueMutex e.produceQ
    let cons := Call.convertToLocalQueue e.consumeQ env.consumeResult env.oldConsume env.freshConsume
    let prod := Call.convertToLocalQueue e.produceQ env.produceResult env.oldProduce env.freshProduce
    let revertCons := Call.revertToNonLocalQueue e.consumeQ env.oldConsume
    let revertProd := Call.revertToNonLocalQueue e.produceQ env.oldProduce
    let detach := vmciQueuePairDetachHyperCall e.handle env.detachResult
    if env.consumeResult ≠ vmciSuccess then (mark.1, mark.2, [acquire, cons, release])
    else if env.produceResult ≠ vmciSuccess then
      (mark.1, mark.2, [acquire, cons, prod, revertCons, release])
    else if env.detachResult < vmciSuccess then
      (mark.1, mark.2, [acquire, cons, prod, detach, revertCons, revertProd, release])
    else ({ e with flags := e.flags ||| vmciQPFlagLocal }, failed,
      [acquire, cons, prod, detach, release, .freeQueueBuffer env.oldProduce,
        .freeQueueBuffer env.oldConsume,
        queuePairNotifyPeerLocal false e.handle contextID env.notifyResult])

/-- The `toLocal` sweep over the list; `env i` answers for the entry at position `i`. -/
def convertToLocal (contextID : VMCIId) :
    (Nat → ConvertEnv) → List VMCIHandle → List QueuePairEntry →
      List QueuePairEntry × List VMCIHandle × List Call
  | _, failed, [] => ([], failed, [])
  | env, failed, e :: es =>
    let r := convertEntry contextID (env 0) failed e
    let rs := convertToLocal contextID (fun i => env (i + 1)) r.2.1 es
    (r.1 :: rs.1, rs.2.1, r.2.2 ++ rs.2.2)

/-- `VMCIQueuePair_Convert`. The wake-up loop removes the tail of the handle array until
it is empty, so it visits the failed handles last first. -/
def vmciQueuePairConvert (s : State) (env : ConvertOpEnv) (toLocal deviceReset : Bool) :
    State × List Call :=
  if toLocal then
    let r := convertToLocal env.contextID env.entry s.hibernateFailedList s.head
    ({ s with head := r.1, hibernateFailedList := r.2.1, hibernate := true }, r.2.2)
  else
    ({ s with hibernateFailedList := [], hibernate := false },
      if deviceReset then
        s.hibernateFailedList.reverse.map fun h =>
          queuePairNotifyPeerLocal false h env.contextID env.wakeResult
      else [])

/-! ### What the sweep does to each entry -/

/-- The sweep leaves a local entry alone, and either converts a non-local one (sets
`LOCAL`) or marks it hibernate-failed. -/
def ConvertStep (e e' : QueuePairEntry) : Prop :=
  (isLocal e.flags = true ∧ e' = e) ∨
    (isLocal e.flags = false ∧
      (e' = { e with flags := e.flags ||| vmciQPFlagLocal } ∨ e' = { e with hibernateFailure := true }))

/-- One entry's outcome, with what it appends to the failed-handle list. -/
theorem convertEntry_cases (contextID : VMCIId) (env : ConvertEnv) (failed : List VMCIHandle)
    (e : QueuePairEntry) :
    (isLocal e.flags = true ∧ (convertEntry contextID env failed e).1 = e ∧
        (convertEntry contextID env failed e).2.1 = failed) ∨
      (isLocal e.flags = false ∧
        (convertEntry contextID env failed e).1 = { e with flags := e.flags ||| vmciQPFlagLocal } ∧
        (convertEntry contextID env failed e).2.1 = failed) ∨
      (isLocal e.flags = false ∧
        (convertEntry contextID env failed e).1 = { e with hibernateFailure := true } ∧
        (convertEntry contextID env failed e).2.1 = failed ++ [e.handle]) := by
  unfold convertEntry vmciQPMarkHibernateFailed vmciHandleArrayAppendEntry
  by_cases hl : isLocal e.flags = true
  · simp [hl]
  · simp only [Bool.not_eq_true] at hl
    simp only [hl, Bool.false_eq_true, ite_false]
    split_ifs <;> simp

theorem convertEntry_step (contextID : VMCIId) (env : ConvertEnv) (failed : List VMCIHandle)
    (e : QueuePairEntry) : ConvertStep e (convertEntry contextID env failed e).1 := by
  rcases convertEntry_cases contextID env failed e with ⟨hl, he, -⟩ | ⟨hl, he, -⟩ | ⟨hl, he, -⟩
  · exact .inl ⟨hl, he⟩
  · exact .inr ⟨hl, .inl he⟩
  · exact .inr ⟨hl, .inr he⟩

theorem convertToLocal_forall₂ (contextID : VMCIId) :
    ∀ (env : Nat → ConvertEnv) (failed : List VMCIHandle) (es : List QueuePairEntry),
      List.Forall₂ ConvertStep es (convertToLocal contextID env failed es).1
  | _, _, [] => .nil
  | env, failed, e :: es =>
    .cons (convertEntry_step contextID (env 0) failed e) (convertToLocal_forall₂ contextID _ _ es)

/-- The sweep appends to the failed-handle list the handles of the entries it leaves
non-local, in list order. -/
theorem convertToLocal_failed (contextID : VMCIId) :
    ∀ (env : Nat → ConvertEnv) (failed : List VMCIHandle) (es : List QueuePairEntry),
      (convertToLocal contextID env failed es).2.1 = failed ++
        ((convertToLocal contextID env failed es).1.filter (!isLocal ·.flags)).map (·.handle)
  | _, failed, [] => by simp [convertToLocal]
  | env, failed, e :: es => by
    simp only [convertToLocal]
    rw [convertToLocal_failed contextID _ _ es]
    rcases convertEntry_cases contextID (env 0) failed e with ⟨hl, he, hf⟩ | ⟨-, he, hf⟩ | ⟨hl, he, hf⟩
    · simp [he, hf, hl]
    · simp [he, hf, isLocal_or_local]
    · simp [he, hf, hl]

/-! ### Init and Exit -/

/-- The value the static `queuePairRID` starts from when the module is loaded. -/
def initialRID : VMCIId := vmciReservedResourceIdMax + 1

/-- `VMCIQueuePair_Init`: an empty list, `hibernate` 0 and an empty failed-handle array.
The static counter of `QueuePairEntryCreate` keeps its value. -/
def vmciQueuePairInit (s : State) : State :=
  { s with head := [], hibernate := false, hibernateFailedList := [] }

/-- The globals when the module is first initialized. -/
def initState : State := vmciQueuePairInit ⟨[], false, [], initialRID⟩

/-- `VMCIQueuePair_Exit`: every entry is unlinked and destroyed with its reference count
forced to 0, after a detach datagram (whose result is ignored) for a non-local one. The
failed-handle array is destroyed. -/
def vmciQueuePairExit (s : State) (detachResult : Int) : State × List Call :=
  ({ s with head := [], hibernate := false, hibernateFailedList := [] },
    s.head.flatMap fun e =>
      (if isLocal e.flags then [] else [vmciQueuePairDetachHyperCall e.handle detachResult]) ++
        queuePairEntryDestroy { e with refCount := 0 })

end VMCIQueuePair
