import Mathlib.Data.Multiset.Basic
import VMCIQueuePair.EntryCreate

/-! The ledger of the queues `VMCI_AllocQueue` returns and the PPN sets
`VMCI_AllocPPNSet` fills, from their allocation to their release by `VMCI_FreeQueue`
and `VMCI_FreePPNSet`. A list of calls is replayed on the ledger; the replay fails at
a release of what is not allocated. `Balanced` calls release exactly what they
allocated, as the error exits of `VMCIQueuePairAllocHelper` do: the queues alone, or
the queues and the PPN set through `QueuePairEntryDestroy`. -/

namespace VMCIQueuePair

/-- The queues and PPN sets allocated and not yet released. -/
structure Resources where
  queues : Multiset Queue
  ppnSets : Multiset PPNSet

instance : DecidableEq Resources := fun a b =>
  decidable_of_iff (a.queues = b.queues ∧ a.ppnSets = b.ppnSets)
    ⟨fun ⟨h1, h2⟩ => by cases a; cases b; congr, fun h => h ▸ ⟨rfl, rfl⟩⟩

/-- One call's effect on the ledger; `none` when it releases what is not allocated.
`VMCI_FreePPNSet` of a set never filled releases nothing. -/
def Resources.call (r : Resources) : Call → Option Resources
  | .allocQueue q => some ⟨q ::ₘ r.queues, r.ppnSets⟩
  | .freeQueue q => if q ∈ r.queues then some ⟨r.queues.erase q, r.ppnSets⟩ else none
  | .allocPPNSet p => some ⟨r.queues, p ::ₘ r.ppnSets⟩
  | .freePPNSet (some p) => if p ∈ r.ppnSets then some ⟨r.queues, r.ppnSets.erase p⟩ else none
  | _ => some r

/-- The calls replayed in order; `none` once one releases what is not allocated. -/
def Resources.run (r : Resources) : List Call → Option Resources
  | [] => some r
  | c :: cs => (r.call c).bind fun r' => r'.run cs

/-- `VMCI_AllocQueue` and `VMCI_AllocPPNSet` return what is not allocated when they are
called. -/
def FreshAllocs : Resources → List Call → Prop
  | _, [] => True
  | r, c :: cs => (∀ q, c = .allocQueue q → q ∉ r.queues) ∧
      (∀ p, c = .allocPPNSet p → p ∉ r.ppnSets) ∧ ∀ r', r.call c = some r' → FreshAllocs r' cs

/-- The call, if it is an allocator, answered what is not allocated in `r`. -/
def Call.freshIn (r : Resources) : Call → Bool
  | .allocQueue q => decide (q ∉ r.queues)
  | .allocPPNSet p => decide (p ∉ r.ppnSets)
  | _ => true

/-- `FreshAllocs` as a check, so that it can be decided on given calls. -/
def freshAllocsB : Resources → List Call → Bool
  | _, [] => true
  | r, c :: cs => c.freshIn r && (r.call c).all fun r' => freshAllocsB r' cs

theorem freshAllocs_iff (r : Resources) (calls : List Call) :
    FreshAllocs r calls ↔ freshAllocsB r calls = true := by
  induction calls generalizing r with
  | nil => simp [FreshAllocs, freshAllocsB]
  | cons c cs ih =>
    have hhead : c.freshIn r = true ↔
        (∀ q, c = .allocQueue q → q ∉ r.queues) ∧ (∀ p, c = .allocPPNSet p → p ∉ r.ppnSets) := by
      cases c <;> simp [Call.freshIn]
    have hnext : (r.call c).all (fun r' => freshAllocsB r' cs) = true ↔
        ∀ r', r.call c = some r' → FreshAllocs r' cs := by
      cases r.call c <;> simp [ih]
    rw [FreshAllocs, freshAllocsB, Bool.and_eq_true, hhead, hnext, and_assoc]

instance (r : Resources) (calls : List Call) : Decidable (FreshAllocs r calls) :=
  decidable_of_iff _ (freshAllocs_iff r calls).symm

/-- The call releases a queue or a PPN set allocated in `r`. -/
def Frees (r : Resources) : Call → Prop
  | .freeQueue q => q ∈ r.queues
  | .freePPNSet (some p) => p ∈ r.ppnSets
  | _ => False

/-- A call that leaves the ledger alone. -/
def Quiet (c : Call) : Prop := ∀ r : Resources, r.call c = some r ∧ ¬Frees r c

/-- The calls release exactly what they allocate: from any ledger, allocators answering
fresh resources, they come back to it and release nothing allocated before them. -/
def Balanced (calls : List Call) : Prop :=
  ∀ r, FreshAllocs r calls → r.run calls = some r ∧ ∀ c ∈ calls, ¬Frees r c

/-! ### Replays -/

@[simp] theorem Resources.run_nil (r : Resources) : r.run [] = some r := rfl

theorem Resources.run_append (r : Resources) (l l' : List Call) :
    r.run (l ++ l') = (r.run l).bind fun r' => r'.run l' := by
  induction l generalizing r with
  | nil => rfl
  | cons c cs ih =>
    simp only [List.cons_append, Resources.run]
    cases r.call c <;> simp [ih]

theorem Resources.run_cons_eq_some {r r' : Resources} {c : Call} {cs : List Call} :
    r.run (c :: cs) = some r' ↔ ∃ r1, r.call c = some r1 ∧ r1.run cs = some r' :=
  Option.bind_eq_some

theorem freshAllocs_left {r : Resources} {l : List Call} (l' : List Call)
    (h : FreshAllocs r (l ++ l')) : FreshAllocs r l := by
  induction l generalizing r with
  | nil => trivial
  | cons c cs ih => exact ⟨h.1, h.2.1, fun r' hc => ih (h.2.2 r' hc)⟩

/-- Whether the call allocates or releases a queue or a PPN set. -/
def Call.isResource : Call → Bool
  | .allocQueue _ | .freeQueue _ | .allocPPNSet _ | .freePPNSet _ => true
  | _ => false

theorem Quiet.of_isResource {c : Call} (h : c.isResource = false) : Quiet c := by
  cases c <;> first | exact fun _ => ⟨rfl, id⟩ | cases h

/-- Calls none of which allocates or releases a queue or a PPN set leave the ledger alone. -/
theorem quiet_of_all {calls : List Call} (h : (calls.all fun c => !c.isResource) = true) :
    ∀ c ∈ calls, Quiet c :=
  fun c hc => Quiet.of_isResource (by simpa using List.all_eq_true.1 h c hc)

theorem run_quiet {calls : List Call} (h : ∀ c ∈ calls, Quiet c) (r : Resources) :
    r.run calls = some r := by
  induction calls with
  | nil => rfl
  | cons c cs ih =>
    simp only [Resources.run, ((h c (List.mem_cons_self _ _)) r).1, Option.some_bind]
    exact ih fun c hc => h c (List.mem_cons_of_mem _ hc)

/-- Allocators answering fresh resources, a call allocates nothing twice. -/
theorem Resources.call_nodup {r r' : Resources} {c : Call}
    (hfq : ∀ q, c = .allocQueue q → q ∉ r.queues) (hfp : ∀ p, c = .allocPPNSet p → p ∉ r.ppnSets)
    (hc : r.call c = some r') (hq : r.queues.Nodup) (hp : r.ppnSets.Nodup) :
    r'.queues.Nodup ∧ r'.ppnSets.Nodup := by
  cases c with
  | allocQueue q => cases hc; exact ⟨Multiset.nodup_cons.2 ⟨hfq q rfl, hq⟩, hp⟩
  | freeQueue q =>
    simp only [Resources.call] at hc
    split_ifs at hc
    cases hc; exact ⟨hq.erase q, hp⟩
  | allocPPNSet p => cases hc; exact ⟨hq, Multiset.nodup_cons.2 ⟨hfp p rfl, hp⟩⟩
  | freePPNSet p =>
    rcases p with _ | p
    · cases hc; exact ⟨hq, hp⟩
    · simp only [Resources.call] at hc
      split_ifs at hc
      cases hc; exact ⟨hq, hp.erase p⟩
  | _ => cases hc; exact ⟨hq, hp⟩

theorem Resources.run_nodup {r r' : Resources} {calls : List Call} (hf : FreshAllocs r calls)
    (hrun : r.run calls = some r') (hq : r.queues.Nodup) (hp : r.ppnSets.Nodup) :
    r'.queues.Nodup ∧ r'.ppnSets.Nodup := by
  induction calls generalizing r with
  | nil => cases hrun; exact ⟨hq, hp⟩
  | cons c cs ih =>
    obtain ⟨r1, hc, hrun⟩ := Resources.run_cons_eq_some.1 hrun
    have h1 := Resources.call_nodup hf.1 hf.2.1 hc hq hp
    exact ih (hf.2.2 r1 hc) hrun h1.1 h1.2

/-! ### Balanced calls -/

theorem balanced_of_quiet {calls : List Call} (h : ∀ c ∈ calls, Quiet c) : Balanced calls :=
  fun r _ => ⟨run_quiet h r, fun c hc => (h c hc r).2⟩

theorem balanced_nil : Balanced [] := balanced_of_quiet nofun

/-- Releasing is monotone in the ledger: what `r` releases, a larger ledger releases. -/
theorem Frees.mono {r r' : Resources} (hq : r.queues ≤ r'.queues) (hp : r.ppnSets ≤ r'.ppnSets) :
    ∀ {c : Call}, Frees r c → Frees r' c
  | .freeQueue _, h => Multiset.mem_of_le hq h
  | .freePPNSet (some _), h => Multiset.mem_of_le hp h

/-- The pair of queues of a create around balanced calls. -/
theorem balanced_queues (pq cq : Queue) {inner : List Call} (hi : Balanced inner) :
    Balanced ([.allocQueue pq, .allocQueue cq] ++ inner ++ [.freeQueue pq, .freeQueue cq]) := by
  rintro ⟨Q, P⟩ ⟨hpq, -, hf⟩
  obtain ⟨hcq, -, hf⟩ := hf _ rfl
  have hf : FreshAllocs ⟨cq ::ₘ pq ::ₘ Q, P⟩ (inner ++ _) := hf _ rfl
  have hpq : pq ∉ Q := hpq pq rfl
  have hcq : cq ∉ pq ::ₘ Q := hcq cq rfl
  have hne : cq ≠ pq := fun h => hcq (h ▸ Multiset.mem_cons_self _ _)
  obtain ⟨hrun, hnf⟩ := hi _ (freshAllocs_left _ hf)
  refine ⟨?_, fun c hc => ?_⟩
  · simp [Resources.run, Resources.call, Resources.run_append, hrun,
      Multiset.erase_cons_tail _ hne, hne]
  · simp only [List.cons_append, List.nil_append, List.mem_cons, List.mem_append,
      List.not_mem_nil, or_false] at hc
    rcases hc with rfl | rfl | hc | rfl | rfl
    · exact id
    · exact id
    · have hQ : Q ≤ cq ::ₘ pq ::ₘ Q :=
        (Multiset.le_cons_self _ _).trans (Multiset.le_cons_self _ _)
      exact fun h => hnf c hc (Frees.mono (r := ⟨Q, P⟩) hQ (le_refl P) h)
    · exact hpq
    · exact fun h => hcq (Multiset.mem_cons_of_mem h)


theorem balanced_allocFree (q : Queue) : Balanced [.allocQueue q, .freeQueue q] := by
  rintro ⟨Q, P⟩ ⟨hq, -, -⟩
  exact ⟨by simp [Resources.run, Resources.call], by simpa [Frees] using hq q rfl⟩

/-- The PPN set of a create around balanced calls. -/
theorem balanced_ppnSet (p : PPNSet) {inner : List Call} (hi : Balanced inner) :
    Balanced ([.allocPPNSet p] ++ inner ++ [.freePPNSet (some p)]) := by
  rintro ⟨Q, P⟩ ⟨-, hp, hf⟩
  have hp : p ∉ P := hp p rfl
  have hf : FreshAllocs ⟨Q, p ::ₘ P⟩ (inner ++ _) := hf _ rfl
  obtain ⟨hrun, hnf⟩ := hi _ (freshAllocs_left _ hf)
  refine ⟨by simp [Resources.run, Resources.call, Resources.run_append, hrun], fun c hc => ?_⟩
  simp only [List.singleton_append, List.mem_cons, List.mem_append, List.not_mem_nil,
    or_false] at hc
  rcases hc with (rfl | hc) | rfl
  · exact id
  · exact fun h => hnf c hc (Frees.mono (r := ⟨Q, P⟩) (le_refl Q) (Multiset.le_cons_self _ _) h)
  · exact hp

/-- A create that fails once its entry exists: the queues, the PPN set if one was
filled, quiet calls, then `QueuePairEntryDestroy`. -/
theorem balanced_create (e : QueuePairEntry) {mid : List Call} (hm : ∀ c ∈ mid, Quiet c) :
    Balanced ([.allocQueue e.produceQ, .allocQueue e.consumeQ] ++
      (e.ppnSet.map Call.allocPPNSet).toList ++ mid ++ queuePairEntryDestroy e) := by
  cases hp : e.ppnSet with
  | none =>
    have hq : ∀ c ∈ mid ++ [.freePPNSet none], Quiet c := fun c hc =>
      (List.mem_append.1 hc).elim (hm c) fun h => List.mem_singleton.1 h ▸ fun _ => ⟨rfl, id⟩
    simpa [queuePairEntryDestroy, hp] using
      balanced_queues e.produceQ e.consumeQ (balanced_of_quiet hq)
  | some p =>
    simpa [queuePairEntryDestroy, hp] using
      balanced_queues e.produceQ e.consumeQ (balanced_ppnSet p (balanced_of_quiet hm))

end VMCIQueuePair
