import Mathlib.Data.Multiset.Nodup
import VMCIQueuePair.Run

/-! The queues and PPN sets over whole runs. Replayed over the calls of a run from
`VMCIQueuePair_Init`, the ledger of `Resources` stays the list's: each entry's produce
and consume queue and its PPN set, nothing twice (`Tracked`). Every call, its
allocators answering fresh resources, releases only what is allocated and nothing an
entry left in the list holds (`Accounted`); `VMCIQueuePair_Exit` releases everything. -/

namespace VMCIQueuePair

/-- The produce and consume queues of the entries. -/
def entryQueues (head : List QueuePairEntry) : Multiset Queue :=
  ((head.flatMap fun e => [e.produceQ, e.consumeQ] : List Queue) : Multiset Queue)

/-- The PPN sets the entries hold. -/
def entryPPNSets (head : List QueuePairEntry) : Multiset PPNSet :=
  ((head.filterMap (·.ppnSet) : List PPNSet) : Multiset PPNSet)

/-- What the list holds, as a ledger. -/
def listResources (head : List QueuePairEntry) : Resources :=
  ⟨entryQueues head, entryPPNSets head⟩

/-- What is allocated is what the list holds, and nothing twice: two distinct queues per
entry, no queue or PPN set of two entries. -/
structure Tracked (head : List QueuePairEntry) (r : Resources) : Prop where
  eq : r = listResources head
  queues_nodup : r.queues.Nodup
  ppnSets_nodup : r.ppnSets.Nodup

/-- The call releases a queue or the PPN set of `e`. -/
def Releases (c : Call) (e : QueuePairEntry) : Prop :=
  match c with
  | .freeQueue q => q = e.produceQ ∨ q = e.consumeQ
  | .freePPNSet (some p) => e.ppnSet = some p
  | _ => False

/-- Replayed from `r`, the calls release only what is allocated and leave allocated
exactly what `head` holds; none of them releases what an entry of `head` holds. -/
def Accounted (r : Resources) (calls : List Call) (head : List QueuePairEntry) : Prop :=
  ∃ r', r.run calls = some r' ∧ Tracked head r' ∧ ∀ c ∈ calls, ∀ e ∈ head, ¬Releases c e

/-! ### The list's ledger -/

@[simp] theorem entryQueues_nil : entryQueues [] = 0 := rfl

@[simp] theorem entryQueues_cons (e : QueuePairEntry) (l : List QueuePairEntry) :
    entryQueues (e :: l) = e.produceQ ::ₘ e.consumeQ ::ₘ entryQueues l := rfl

@[simp] theorem entryPPNSets_nil : entryPPNSets [] = 0 := rfl

@[simp] theorem entryPPNSets_cons (e : QueuePairEntry) (l : List QueuePairEntry) :
    entryPPNSets (e :: l) = (e.ppnSet.toList : Multiset PPNSet) + entryPPNSets l := by
  cases h : e.ppnSet <;> simp [entryPPNSets, h]

@[simp] theorem entryQueues_append (l l' : List QueuePairEntry) :
    entryQueues (l ++ l') = entryQueues l + entryQueues l' := by
  simp [entryQueues]

@[simp] theorem entryPPNSets_append (l l' : List QueuePairEntry) :
    entryPPNSets (l ++ l') = entryPPNSets l + entryPPNSets l' := by
  simp [entryPPNSets]

/-- An entry's resources, taken out of the middle of the list. -/
theorem listResources_middle (pre post : List QueuePairEntry) (e : QueuePairEntry) :
    listResources (pre ++ e :: post) =
      ⟨e.produceQ ::ₘ e.consumeQ ::ₘ entryQueues (pre ++ post),
        (e.ppnSet.toList : Multiset PPNSet) + entryPPNSets (pre ++ post)⟩ := by
  simp only [listResources, entryQueues_append, entryQueues_cons, Multiset.add_cons,
    entryPPNSets_append, entryPPNSets_cons, add_left_comm]

/-- A write through the pointer `FindEntry` returned, keeping the entry's queues and PPN
set, keeps the ledger. -/
theorem listResources_setEntry {head : List QueuePairEntry} {h : VMCIHandle} {e : QueuePairEntry}
    (hf : queuePairListFindEntry head h = some e) (e' : QueuePairEntry)
    (hq : e'.produceQ = e.produceQ ∧ e'.consumeQ = e.consumeQ ∧ e'.ppnSet = e.ppnSet) :
    listResources (setEntry h e' head) = listResources head := by
  obtain ⟨pre, post, rfl, hset, -⟩ := findEntry_split hf e'
  rw [hset, listResources_middle, listResources_middle, hq.1, hq.2.1, hq.2.2]

theorem listResources_forall₂ {l l' : List QueuePairEntry} (h : List.Forall₂ ConvertStep l l') :
    listResources l' = listResources l := by
  induction h with
  | nil => rfl
  | cons hab _ ih =>
    simp only [listResources, Resources.mk.injEq] at ih ⊢
    rcases hab with ⟨-, rfl⟩ | ⟨-, rfl | rfl⟩ <;> simp [ih]

theorem releases_frees {c : Call} {e : QueuePairEntry} {head : List QueuePairEntry} (he : e ∈ head)
    (hr : Releases c e) : Frees (listResources head) c := by
  match c, hr with
  | .freeQueue _, hr =>
    simp only [Frees, listResources, entryQueues, Multiset.mem_coe, List.mem_flatMap]
    exact ⟨e, he, by rcases hr with rfl | rfl <;> simp⟩
  | .freePPNSet (some _), hr =>
    simp only [Frees, listResources, entryPPNSets, Multiset.mem_coe, List.mem_filterMap]
    exact ⟨e, he, hr⟩

theorem Quiet.not_releases {c : Call} (hq : Quiet c) (e : QueuePairEntry) : ¬Releases c e :=
  fun hr => (hq _).2 (releases_frees (List.mem_singleton_self e) hr)

/-- Calls that leave the ledger alone account for a list it tracks. -/
theorem accounted_quiet {r : Resources} {calls : List Call} {head : List QueuePairEntry}
    (ht : Tracked head r) (hq : ∀ c ∈ calls, Quiet c) : Accounted r calls head :=
  ⟨r, run_quiet hq r, ht, fun c hc e _ => (hq c hc).not_releases e⟩

/-- A replay from a ledger with nothing twice that ends at the list's ledger, allocators
answering fresh resources and no call releasing what an entry holds, accounts for the
list. -/
theorem accounted_of_run {r : Resources} {calls : List Call} {head : List QueuePairEntry}
    (hq : r.queues.Nodup) (hp : r.ppnSets.Nodup) (hf : FreshAllocs r calls)
    (hrun : r.run calls = some (listResources head))
    (hrel : ∀ c ∈ calls, ∀ e ∈ head, ¬Releases c e) : Accounted r calls head :=
  have hn := Resources.run_nodup hf hrun hq hp
  ⟨_, hrun, ⟨rfl, hn.1, hn.2⟩, hrel⟩

/-- `QueuePairEntryDestroy` gives back the entry's queues and PPN set. -/
theorem run_destroy (e : QueuePairEntry) (Q : Multiset Queue) (P : Multiset PPNSet) :
    (⟨e.produceQ ::ₘ e.consumeQ ::ₘ Q, (e.ppnSet.toList : Multiset PPNSet) + P⟩ : Resources).run
      (queuePairEntryDestroy e) = some ⟨Q, P⟩ := by
  cases h : e.ppnSet <;> simp [queuePairEntryDestroy, Resources.run, Resources.call, h]

/-- What `QueuePairEntryDestroy` releases is held by no other entry. -/
theorem destroy_not_frees {e : QueuePairEntry} {Q : Multiset Queue} {P : Multiset PPNSet}
    (hq : (e.produceQ ::ₘ e.consumeQ ::ₘ Q).Nodup) (hp : ((e.ppnSet.toList : Multiset PPNSet) + P).Nodup) :
    ∀ c ∈ queuePairEntryDestroy e, ¬Frees ⟨Q, P⟩ c := by
  obtain ⟨hpq, hcq, -⟩ : e.produceQ ∉ e.consumeQ ::ₘ Q ∧ e.consumeQ ∉ Q ∧ Q.Nodup := by
    simpa using hq
  simp only [queuePairEntryDestroy, List.mem_cons, List.not_mem_nil, or_false]
  rintro c (rfl | rfl | rfl)
  · cases h : e.ppnSet with
    | none => exact id
    | some p => exact (by simpa [h] using hp : p ∉ P ∧ P.Nodup).1
  · exact fun h => hpq (Multiset.mem_cons_of_mem h)
  · exact hcq

/-! ### Each call -/

theorem run_createCalls (env : AllocEnv) (e : QueuePairEntry) (r : Resources) :
    r.run (createCalls env e) =
      some ⟨e.consumeQ ::ₘ e.produceQ ::ₘ r.queues, (e.ppnSet.toList : Multiset PPNSet) + r.ppnSets⟩ := by
  by_cases hl : isLocal e.flags = true <;> cases hp : e.ppnSet <;>
    simp [createCalls, hl, hp, Resources.run_append, Resources.run, Resources.call,
      run_quiet (allocHyperCall_quiet env e)]

theorem createCalls_not_releases (env : AllocEnv) (e e' : QueuePairEntry) :
    ∀ c ∈ createCalls env e, ¬Releases c e' := by
  intro c hc
  simp only [createCalls, List.mem_append, List.mem_cons, List.not_mem_nil, or_false] at hc
  rcases hc with ((((rfl | rfl) | hp) | hc) | rfl) | hc
  · exact id
  · exact id
  · cases h : e.ppnSet <;> simp [h] at hp; subst hp; exact id
  · split_ifs at hc
    · simp at hc
    · exact (allocHyperCall_quiet env e c hc).not_releases e'
  · exact id
  · split_ifs at hc <;> simp at hc; rcases hc with rfl | rfl <;> exact id

theorem accounted_alloc {s : State} {r : Resources} (ht : Tracked s.head r) (env : AllocEnv)
    (req : AllocRequest) (pf : UInt32) (hf : FreshAllocs r (vmciQueuePairAllocPriv s env req pf).calls) :
    Accounted r (vmciQueuePairAllocPriv s env req pf).calls
      (vmciQueuePairAllocPriv s env req pf).state.head := by
  have hs := allocPriv_spec s env req pf
  generalize vmciQueuePairAllocPriv s env req pf = o at hs hf ⊢
  cases hs with
  | error _ _ _ _ _ hb =>
    obtain ⟨hrun, hnf⟩ := hb r hf
    exact ⟨r, hrun, ht, fun c hc e he hr => hnf c hc (ht.eq ▸ releases_frees he hr)⟩
  | attach e hfind =>
    refine accounted_quiet ⟨?_, ht.2, ht.3⟩ fun c hc => ?_
    · exact ht.eq.trans
        (listResources_setEntry hfind { e with refCount := e.refCount + 1 } ⟨rfl, rfl, rfl⟩).symm
    · exact quiet_of_all (by split_ifs <;> rfl) c hc
  | create e =>
    refine accounted_of_run ht.2 ht.3 hf ?_ fun c hc x _ => createCalls_not_releases env e x c hc
    rw [run_createCalls, ht.eq, listResources_middle s.head [] e]
    simp [listResources, Multiset.cons_swap]

/-- The code before `out:` keeps the entry's queues and PPN set and makes only quiet
calls. -/
theorem DetachBranchSpec.resources {s : State} {env : DetachEnv} {handle : VMCIHandle}
    {e : QueuePairEntry} {b : Int × QueuePairEntry × List VMCIHandle × List Call}
    (hb : DetachBranchSpec s env handle e b) :
    (b.2.1.produceQ = e.produceQ ∧ b.2.1.consumeQ = e.consumeQ ∧ b.2.1.ppnSet = e.ppnSet) ∧
      ∀ c ∈ b.2.2.2, Quiet c := by
  cases hb <;> exact ⟨⟨rfl, rfl, rfl⟩, quiet_of_all rfl⟩

theorem accounted_detach {s : State} {r : Resources} (ht : Tracked s.head r) (env : DetachEnv)
    (handle : VMCIHandle) (hf : FreshAllocs r (vmciQueuePairDetach s env handle).calls) :
    Accounted r (vmciQueuePairDetach s env handle).calls (vmciQueuePairDetach s env handle).state.head := by
  unfold vmciQueuePairDetach vmciQueuePairDetachHelper at hf ⊢
  split_ifs at hf ⊢
  · exact accounted_quiet ht nofun
  rcases hfind : queuePairListFindEntry s.head handle with _ | e
  · exact accounted_quiet ht nofun
  simp only [hfind] at hf ⊢
  obtain ⟨⟨hpq, hcq, hp⟩, hq⟩ := (detachBranch_spec s env handle e).resources
  generalize detachBranch s env handle e = b at hpq hcq hp hq hf ⊢
  obtain ⟨pre, post, hs, -, hrem⟩ := findEntry_split hfind e
  have hset : ∀ e' : QueuePairEntry, e'.produceQ = e.produceQ → e'.consumeQ = e.consumeQ →
      e'.ppnSet = e.ppnSet → Tracked (setEntry handle e' s.head) r := fun e' h1 h2 h3 =>
    ⟨ht.eq.trans (listResources_setEntry hfind e' ⟨h1, h2, h3⟩).symm, ht.2, ht.3⟩
  unfold detachOut at hf ⊢
  dsimp only at hf ⊢
  split_ifs at hf ⊢
  · obtain ⟨heq, hnq, hnp⟩ := ht
    rw [hs, listResources_middle] at heq
    subst heq
    have hd : queuePairEntryDestroy { b.2.1 with refCount := b.2.1.refCount - 1 } =
        queuePairEntryDestroy e := by simp [queuePairEntryDestroy, hpq, hcq, hp]
    refine accounted_of_run hnq hnp hf ?_ fun c hc x hx hr => ?_
    · rw [hd, Resources.run_append, run_quiet hq, Option.some_bind, hrem, run_destroy]; rfl
    · rw [hrem] at hx
      rcases List.mem_append.1 hc with hc | hc
      · exact (hq c hc).not_releases x hr
      · exact destroy_not_frees hnq hnp c (hd ▸ hc) (releases_frees hx hr)
  · exact accounted_quiet (hset _ hpq hcq hp) hq
  · exact accounted_quiet (hset _ hpq hcq hp) hq

theorem convertEntry_quiet (contextID : VMCIId) (env : ConvertEnv) (failed : List VMCIHandle)
    (e : QueuePairEntry) : ∀ c ∈ (convertEntry contextID env failed e).2.2, Quiet c := by
  refine quiet_of_all ?_
  unfold convertEntry
  dsimp only
  split_ifs <;> rfl

theorem convertToLocal_quiet (contextID : VMCIId) :
    ∀ (env : Nat → ConvertEnv) (failed : List VMCIHandle) (es : List QueuePairEntry),
      ∀ c ∈ (convertToLocal contextID env failed es).2.2, Quiet c
  | _, _, [] => nofun
  | env, failed, e :: es => fun c hc =>
    (List.mem_append.1 hc).elim (convertEntry_quiet contextID (env 0) failed e c)
      (convertToLocal_quiet contextID _ _ es c)

theorem accounted_convert {s : State} {r : Resources} (ht : Tracked s.head r) (env : ConvertOpEnv)
    (toLocal deviceReset : Bool) :
    Accounted r (vmciQueuePairConvert s env toLocal deviceReset).2
      (vmciQueuePairConvert s env toLocal deviceReset).1.head := by
  unfold vmciQueuePairConvert
  split_ifs
  · refine accounted_quiet ⟨?_, ht.2, ht.3⟩ (convertToLocal_quiet _ _ _ _)
    exact ht.eq.trans (listResources_forall₂ (convertToLocal_forall₂ _ _ _ _)).symm
  · exact accounted_quiet ht (quiet_of_all (by simp [queuePairNotifyPeerLocal, Call.isResource]))
  · exact accounted_quiet ht nofun

/-- `VMCIQueuePair_Exit` releases the list's ledger, each entry's resources once. -/
theorem run_exit (s : State) (detachResult : Int) :
    (listResources s.head).run (vmciQueuePairExit s detachResult).2 = some ⟨0, 0⟩ := by
  unfold vmciQueuePairExit
  dsimp only
  generalize s.head = l
  induction l with
  | nil => rfl
  | cons e l ih =>
    have hq : ∀ c ∈ (if isLocal e.flags then [] else
        [vmciQueuePairDetachHyperCall e.handle detachResult]), Quiet c :=
      quiet_of_all (by split_ifs <;> rfl)
    rw [List.flatMap_cons, Resources.run_append, Resources.run_append, run_quiet hq,
      Option.some_bind]
    simp only [listResources, entryQueues_cons, entryPPNSets_cons]
    rw [show queuePairEntryDestroy { e with refCount := 0 } = queuePairEntryDestroy e from rfl,
      run_destroy, Option.some_bind]
    exact ih

/-- `VMCIQueuePair_Exit` unlinks each entry before it destroys it; what the destroy
releases, no entry still in the list holds. -/
theorem exit_destroy_unheld {head pre post : List QueuePairEntry} {r : Resources}
    {e : QueuePairEntry} (ht : Tracked head r) (hs : head = pre ++ e :: post) :
    ∀ c ∈ queuePairEntryDestroy { e with refCount := 0 }, ∀ x ∈ post, ¬Releases c x := by
  obtain ⟨rfl, hq, hp⟩ := ht
  subst hs
  simp only [listResources, entryQueues_append, entryPPNSets_append, entryQueues_cons,
    entryPPNSets_cons] at hq hp
  exact fun c hc x hx hr => destroy_not_frees (Multiset.nodup_add.1 hq).2.1
    (Multiset.nodup_add.1 hp).2.1 c hc (releases_frees hx hr)

/-! ### Runs -/

/-- The states and ledgers of the runs from `VMCIQueuePair_Init`: any calls with any
answers, the allocators answering fresh resources, the ledger replayed over the calls. -/
inductive LedgerReachable : State → Resources → Prop
  | init : LedgerReachable initState ⟨0, 0⟩
  | step {s : State} {r r' : Resources} (op : Op) : LedgerReachable s r →
      FreshAllocs r (op.calls s) → r.run (op.calls s) = some r' → LedgerReachable (op.apply s) r'

theorem accounted_op {s : State} {r : Resources} (ht : Tracked s.head r) :
    ∀ op : Op, FreshAllocs r (op.calls s) → Accounted r (op.calls s) (op.apply s).head
  | .alloc env req pf, hf => accounted_alloc ht env req pf hf
  | .detach env handle, hf => accounted_detach ht env handle hf
  | .convert env toLocal deviceReset, _ => accounted_convert ht env toLocal deviceReset

theorem tracked_of_ledgerReachable {s : State} {r : Resources} (h : LedgerReachable s r) :
    Tracked s.head r := by
  induction h with
  | init => exact ⟨rfl, Multiset.nodup_zero, Multiset.nodup_zero⟩
  | step op _ hf hrun ih =>
    obtain ⟨r', hrun', ht, -⟩ := accounted_op ih op hf
    exact Option.some_injective _ (hrun.symm.trans hrun') ▸ ht

/-- Over every run, the ledger is the list's, with nothing twice; the next call, whatever
it is and whatever its collaborators answer, releases only what is allocated, each
once, and nothing an entry left in the list holds; and `VMCIQueuePair_Exit` releases
all that is allocated, each entry's resources after it left the list and held by no
entry still in it. -/
theorem resources_tracked {s : State} {r : Resources} (h : LedgerReachable s r) :
    Tracked s.head r ∧
      (∀ op : Op, FreshAllocs r (op.calls s) → Accounted r (op.calls s) (op.apply s).head) ∧
      (∀ detachResult : Int, r.run (vmciQueuePairExit s detachResult).2 = some ⟨0, 0⟩) ∧
      ∀ pre e post, s.head = pre ++ e :: post →
        ∀ c ∈ queuePairEntryDestroy { e with refCount := 0 }, ∀ x ∈ post, ¬Releases c x :=
  have ht := tracked_of_ledgerReachable h
  ⟨ht, accounted_op ht, fun dr => ht.eq ▸ run_exit s dr, fun _ _ _ => exit_destroy_unheld ht⟩

/-- The ledger replayed along calls that each answer fresh resources and bring it to
what the list holds. -/
theorem LedgerReachable.run {s : State} (h : LedgerReachable s (listResources s.head)) :
    ∀ {ops : List Op}, Admits (fun s op => FreshAllocs (listResources s.head) (op.calls s) ∧
        (listResources s.head).run (op.calls s) = some (listResources (op.apply s).head)) s ops →
      LedgerReachable (Op.run s ops) (listResources (Op.run s ops).head)
  | [], _ => h
  | op :: _, ⟨⟨hf, hr⟩, hops⟩ => (h.step op hf hr).run hops

/-- Along `sampleRun` the ledger holds the four queues and two PPN sets of its two
entries. -/
theorem resources_tracked_sample :
    LedgerReachable (Op.run initState sampleRun) (listResources (Op.run initState sampleRun).head) ∧
      listResources (Op.run initState sampleRun).head = ⟨{1, 2, 4, 5}, {3, 6}⟩ ∧
      Tracked (Op.run initState sampleRun).head (listResources (Op.run initState sampleRun).head) ∧
      (∀ op : Op, FreshAllocs (listResources (Op.run initState sampleRun).head)
          (op.calls (Op.run initState sampleRun)) →
        Accounted (listResources (Op.run initState sampleRun).head) (op.calls (Op.run initState sampleRun))
          (op.apply (Op.run initState sampleRun)).head) ∧
      (∀ detachResult : Int, (listResources (Op.run initState sampleRun).head).run
          (vmciQueuePairExit (Op.run initState sampleRun) detachResult).2 = some ⟨0, 0⟩) ∧
      ∀ pre e post, (Op.run initState sampleRun).head = pre ++ e :: post →
        ∀ c ∈ queuePairEntryDestroy { e with refCount := 0 }, ∀ x ∈ post, ¬Releases c x :=
  have h : LedgerReachable (Op.run initState sampleRun) (listResources (Op.run initState sampleRun).head) :=
    LedgerReachable.init.run
      ⟨⟨by decide, rfl.trans (congrArg some (by decide))⟩, ⟨by decide, rfl.trans (congrArg some (by decide))⟩,
        ⟨by decide, rfl.trans (congrArg some (by decide))⟩, ⟨by decide, rfl.trans (congrArg some (by decide))⟩,
        trivial⟩
  ⟨h, by decide, resources_tracked h⟩

end VMCIQueuePair
