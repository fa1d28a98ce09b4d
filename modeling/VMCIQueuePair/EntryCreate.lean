import VMCIQueuePair.QueuePairList

/-! `QueuePairEntryCreate` and `QueuePairEntryDestroy`. For the sentinel handle the
create searches a free resource id with the static counter `queuePairRID`: it probes
`(contextID, queuePairRID)`, advances the counter (skipping the reserved ids when it
wraps) and stops at the first free handle, or when the counter is back at its starting
value. The search is bounded by `ridSpace`, the number of non-reserved ids: from a
counter outside the reserved range it never needs more probes. The counter walks the
non-reserved ids in the cyclic order `cyclicRID`, so the search ends at the first free id
of that order (`ridSearch_cases`). -/

namespace VMCIQueuePair

/-- `queuePairRID++`, then back to `VMCI_RESERVED_RESOURCE_ID_MAX + 1` if it wrapped. -/
def nextRID (rid : VMCIId) : VMCIId :=
  if rid + 1 = 0 then vmciReservedResourceIdMax + 1 else rid + 1

/-- The number of resource ids above `VMCI_RESERVED_RESOURCE_ID_MAX`. -/
def ridSpace : Nat := 0xFFFFFFFF - 1023

/-- The do-while loop of `QueuePairEntryCreate`, from counter `rid` with `fuel` probes
left. Returns the free handle, if one was found, and the counter after the loop. -/
def ridSearch (head : List QueuePairEntry) (contextID oldRID : VMCIId) :
    Nat → VMCIId → Option VMCIHandle × VMCIId
  | 0, rid => (none, rid)
  | fuel + 1, rid =>
    match queuePairListFindEntry head ⟨contextID, rid⟩ with
    | none => (some ⟨contextID, rid⟩, nextRID rid)
    | some _ =>
      if nextRID rid = oldRID then (none, nextRID rid)
      else ridSearch head contextID oldRID fuel (nextRID rid)

/-- The handle `QueuePairEntryCreate` settles on: the one asked for, or the result of the
search for the sentinel; with the counter after it. -/
def createHandle (head : List QueuePairEntry) (queuePairRID contextID : VMCIId)
    (handle : VMCIHandle) : Option VMCIHandle × VMCIId :=
  if handle = vmciInvalidHandle then ridSearch head contextID queuePairRID ridSpace queuePairRID
  else (some handle, queuePairRID)

/-- `QueuePairEntryCreate`, with what `VMCI_GetContextID` returns, whether
`VMCI_AllocKernelMem` succeeds, and the `hibernateFailure` byte the fresh memory holds
(the code never initializes it). Returns the entry, if any, and the new counter. -/
def queuePairEntryCreate (head : List QueuePairEntry) (queuePairRID contextID : VMCIId)
    (memOk hibernateFailure : Bool) (handle : VMCIHandle) (peer : VMCIId) (flags : UInt32)
    (produceSize consumeSize : UInt64) (produceQ consumeQ : Queue) :
    Option QueuePairEntry × VMCIId :=
  let numPPNs := ceiling produceSize pageSize + ceiling consumeSize pageSize + 2
  let found := createHandle head queuePairRID contextID handle
  match found.1, memOk with
  | some h, true =>
    (some { handle := h, peer, flags, produceSize, consumeSize, numPPNs, ppnSet := none,
            produceQ, consumeQ, refCount := 0, hibernateFailure }, found.2)
  | _, _ => (none, found.2)

/-- `QueuePairEntryDestroy`: releases the PPN set and both queues. -/
def queuePairEntryDestroy (e : QueuePairEntry) : List Call :=
  [.freePPNSet e.ppnSet, .freeQueue e.produceQ, .freeQueue e.consumeQ]

/-! ### The resource-id search -/

/-- Below `0xFFFFFFFF` the counter steps by one. -/
theorem nextRID_toNat {rid : VMCIId} (h : rid.toNat < 0xFFFFFFFF) :
    (nextRID rid).toNat = rid.toNat + 1 := by
  have h1 : (rid + 1).toNat = rid.toNat + 1 := by
    show (rid.toBitVec + 1#32).toNat = rid.toBitVec.toNat + 1
    rw [BitVec.toNat_add]
    have : rid.toBitVec.toNat = rid.toNat := rfl
    simp only [BitVec.toNat_ofNat]
    omega
  have h0 : rid + 1 ≠ 0 := fun h0 => by
    have := congrArg UInt32.toNat h0
    rw [h1] at this
    exact absurd this (by simp)
  simp [nextRID, h0, h1]

theorem nextRID_iterate :
    ∀ (k : Nat) (rid : VMCIId), rid.toNat + k ≤ 0xFFFFFFFF → (nextRID^[k] rid).toNat = rid.toNat + k
  | 0, _, _ => rfl
  | k + 1, rid, h => by
    rw [Function.iterate_succ_apply, nextRID_iterate k _ (by rw [nextRID_toNat (by omega)]; omega),
      nextRID_toNat (by omega)]
    omega

@[simp] theorem vmciReservedResourceIdMax_toNat : vmciReservedResourceIdMax.toNat = 1023 := rfl

/-- At `0xFFFFFFFF` the counter wraps to `VMCI_RESERVED_RESOURCE_ID_MAX + 1`. -/
theorem nextRID_last : (nextRID 0xFFFFFFFF).toNat = 1024 := rfl

/-- A first probe at a free handle ends the search. -/
theorem ridSearch_first {head : List QueuePairEntry} {contextID oldRID rid : VMCIId} {fuel : Nat}
    (h : queuePairListFindEntry head ⟨contextID, rid⟩ = none) :
    ridSearch head contextID oldRID (fuel + 1) rid = (some ⟨contextID, rid⟩, nextRID rid) := by
  simp [ridSearch, h]

/-- A handle the search returns is free in the list and carries the caller's context. -/
theorem ridSearch_free {head : List QueuePairEntry} {contextID oldRID rid rid' : VMCIId}
    {fuel : Nat} {h : VMCIHandle} (hs : ridSearch head contextID oldRID fuel rid = (some h, rid')) :
    queuePairListFindEntry head h = none ∧ h.context = contextID := by
  induction fuel generalizing rid with
  | zero => simp [ridSearch] at hs
  | succ n ih =>
    simp only [ridSearch] at hs
    split at hs
    · cases hs; exact ⟨‹_›, rfl⟩
    · split at hs
      · cases hs
      · exact ih hs

theorem createHandle_some {head : List QueuePairEntry} {queuePairRID contextID rid' : VMCIId}
    {handle h : VMCIHandle} (hc : createHandle head queuePairRID contextID handle = (some h, rid')) :
    (handle ≠ vmciInvalidHandle → h = handle) ∧
      (handle = vmciInvalidHandle → queuePairListFindEntry head h = none ∧ h.context = contextID) := by
  unfold createHandle at hc
  split at hc
  · exact ⟨fun hv => absurd ‹_› hv, fun _ => ridSearch_free hc⟩
  · cases hc; exact ⟨fun _ => rfl, fun hv => absurd hv ‹_›⟩

/-- The handle a create settles on, when `FindEntry` found nothing for the request, is
carried by no entry of the list, or is the sentinel. -/
theorem createHandle_fresh {head : List QueuePairEntry} {queuePairRID contextID rid' : VMCIId}
    {handle h : VMCIHandle} (hc : createHandle head queuePairRID contextID handle = (some h, rid'))
    (hf : queuePairListFindEntry head handle = none) :
    ∀ x ∈ head, x.handle ≠ h ∨ h = vmciInvalidHandle := by
  obtain ⟨h1, h2⟩ := createHandle_some hc
  intro x hx
  by_cases hv : handle = vmciInvalidHandle
  · rcases findEntry_eq_none (h2 hv).1 with hi | hn
    · exact .inr hi
    · exact .inl (hn x hx)
  · rcases findEntry_eq_none hf with hi | hn
    · exact absurd hi hv
    · exact .inl (h1 hv ▸ hn x hx)

/-- With a valid context id, a create never settles on the sentinel handle. -/
theorem createHandle_valid {head : List QueuePairEntry} {queuePairRID contextID rid' : VMCIId}
    {handle h : VMCIHandle} (hc : createHandle head queuePairRID contextID handle = (some h, rid'))
    (hctx : contextID ≠ vmciInvalidId) : h ≠ vmciInvalidHandle := by
  obtain ⟨h1, h2⟩ := createHandle_some hc
  by_cases hv : handle = vmciInvalidHandle
  · exact fun he => hctx ((h2 hv).2.symm.trans (congrArg VMCIHandle.context he))
  · exact (h1 hv).symm ▸ hv

/-- What a successful create returns: the requested fields, reference count 0, a zeroed
PPN set, and the handle `createHandle` settled on. -/
theorem entryCreate_some {head : List QueuePairEntry} {queuePairRID contextID rid' : VMCIId}
    {memOk hf : Bool} {handle : VMCIHandle} {peer : VMCIId} {flags : UInt32}
    {produceSize consumeSize : UInt64} {produceQ consumeQ : Queue} {e : QueuePairEntry}
    (hc : queuePairEntryCreate head queuePairRID contextID memOk hf handle peer flags
      produceSize consumeSize produceQ consumeQ = (some e, rid')) :
    e.peer = peer ∧ e.flags = flags ∧ e.produceSize = produceSize ∧
      e.consumeSize = consumeSize ∧ e.produceQ = produceQ ∧ e.consumeQ = consumeQ ∧
      e.refCount = 0 ∧ e.ppnSet = none ∧ e.hibernateFailure = hf ∧
      e.numPPNs = ceiling produceSize pageSize + ceiling consumeSize pageSize + 2 ∧
      createHandle head queuePairRID contextID handle = (some e.handle, rid') := by
  cases hch : createHandle head queuePairRID contextID handle with
  | mk o r =>
    simp only [queuePairEntryCreate, hch] at hc
    rcases o with _ | h <;> cases memOk <;>
      simp only [Prod.mk.injEq, Option.some.injEq, reduceCtorEq, false_and] at hc
    obtain ⟨rfl, rfl⟩ := hc
    exact ⟨rfl, rfl, rfl, rfl, rfl, rfl, rfl, rfl, rfl, rfl, rfl⟩

/-- A create leaves the counter where the search for its handle left it. -/
theorem entryCreate_rid (head : List QueuePairEntry) (queuePairRID contextID : VMCIId)
    (memOk hibernateFailure : Bool) (handle : VMCIHandle) (peer : VMCIId) (flags : UInt32)
    (produceSize consumeSize : UInt64) (produceQ consumeQ : Queue) :
    (queuePairEntryCreate head queuePairRID contextID memOk hibernateFailure handle peer flags
      produceSize consumeSize produceQ consumeQ).2 = (createHandle head queuePairRID contextID handle).2 := by
  unfold queuePairEntryCreate; dsimp only; split <;> rfl

/-! ### The cyclic order of the non-reserved ids -/

/-- The `k`-th id of the cyclic order of the non-reserved ids from `c0`: `c0, c0 + 1, …,
0xFFFFFFFF, VMCI_RESERVED_RESOURCE_ID_MAX + 1, …, c0 - 1`, then round again. -/
def cyclicRID (c0 : VMCIId) (k : Nat) : VMCIId :=
  UInt32.ofNat (vmciReservedResourceIdMax.toNat + 1 +
    (c0.toNat - (vmciReservedResourceIdMax.toNat + 1) + k) % ridSpace)

theorem cyclicRID_toNat (c0 : VMCIId) (k : Nat) :
    (cyclicRID c0 k).toNat = 1024 + (c0.toNat - 1024 + k) % ridSpace :=
  UInt32.toNat_ofNat_of_lt (by simp only [vmciReservedResourceIdMax_toNat, ridSpace, UInt32.size]; omega)

theorem cyclicRID_range (c0 : VMCIId) (k : Nat) : vmciReservedResourceIdMax < cyclicRID c0 k :=
  show 1023 < (cyclicRID c0 k).toNat by rw [cyclicRID_toNat]; omega

theorem nextRID_cyclicRID (c0 : VMCIId) (k : Nat) :
    nextRID (cyclicRID c0 k) = cyclicRID c0 (k + 1) := by
  have h := cyclicRID_toNat c0 k
  have h1 := cyclicRID_toNat c0 (k + 1)
  unfold ridSpace at h h1
  by_cases hl : (cyclicRID c0 k).toNat < 0xFFFFFFFF
  · exact UInt32.toNat.inj (by rw [nextRID_toNat hl]; omega)
  · have hw : cyclicRID c0 k = 0xFFFFFFFF := UInt32.toNat.inj (by
      have := (cyclicRID c0 k).toNat_lt_size; show _ = 4294967295; omega)
    rw [hw]
    exact UInt32.toNat.inj (by rw [h1, nextRID_last]; omega)

section Cycle

variable {c0 : VMCIId} (hc0 : vmciReservedResourceIdMax < c0)
include hc0

/-- The order starts at `c0` and is back at `c0` exactly after whole rounds. -/
theorem cyclicRID_eq_start_iff (k : Nat) : cyclicRID c0 k = c0 ↔ k % ridSpace = 0 := by
  have h0 : 1023 < c0.toNat := hc0
  have h := cyclicRID_toNat c0 k
  have hl := c0.toNat_lt_size
  simp only [UInt32.size, ridSpace] at h hl ⊢
  constructor
  · intro he; rw [he] at h; omega
  · intro hk; exact UInt32.toNat.inj (by omega)

theorem cyclicRID_zero : cyclicRID c0 0 = c0 := (cyclicRID_eq_start_iff hc0 0).2 rfl

theorem cyclicRID_ne_start {k : Nat} (h0 : 0 < k) (hk : k < ridSpace) : cyclicRID c0 k ≠ c0 :=
  fun h => absurd ((cyclicRID_eq_start_iff hc0 k).1 h) (by rw [Nat.mod_eq_of_lt hk]; omega)

/-- Every non-reserved id comes up in the first round. -/
theorem exists_cyclicRID {r : VMCIId} (hr : vmciReservedResourceIdMax < r) :
    ∃ k < ridSpace, cyclicRID c0 k = r := by
  have h0 : 1023 < c0.toNat := hc0
  have h1 : 1023 < r.toNat := hr
  have hl := c0.toNat_lt_size
  have hl' := r.toNat_lt_size
  refine ⟨(r.toNat + ridSpace - c0.toNat) % ridSpace, Nat.mod_lt _ (by decide),
    UInt32.toNat.inj ?_⟩
  rw [cyclicRID_toNat]
  simp only [UInt32.size, ridSpace] at hl hl' ⊢
  omega

end Cycle

/-! ### The search in cyclic order -/

/-- A probe at a taken handle advances the counter, and stops only back at `oldRID`. -/
theorem ridSearch_taken {head : List QueuePairEntry} {contextID oldRID rid : VMCIId} {fuel : Nat}
    (h : queuePairListFindEntry head ⟨contextID, rid⟩ ≠ none) :
    ridSearch head contextID oldRID (fuel + 1) rid =
      if nextRID rid = oldRID then (none, nextRID rid)
      else ridSearch head contextID oldRID fuel (nextRID rid) := by
  obtain ⟨e, he⟩ := Option.ne_none_iff_exists'.1 h
  simp only [ridSearch, he]

section Search

variable {head : List QueuePairEntry} {contextID c0 : VMCIId} (hc0 : vmciReservedResourceIdMax < c0)
include hc0

/-- From the `k`-th id of the order, the search ends at the first free id `j` at or after
it, provided `fuel` covers the probes up to `j`. -/
theorem ridSearch_finds {j : Nat} (hj : j < ridSpace)
    (hf : queuePairListFindEntry head ⟨contextID, cyclicRID c0 j⟩ = none) :
    ∀ fuel k, k ≤ j → j - k < fuel →
      (∀ i, k ≤ i → i < j → queuePairListFindEntry head ⟨contextID, cyclicRID c0 i⟩ ≠ none) →
      ridSearch head contextID c0 fuel (cyclicRID c0 k) =
        (some ⟨contextID, cyclicRID c0 j⟩, cyclicRID c0 (j + 1))
  | 0, _, _, hfuel, _ => absurd hfuel (Nat.not_lt_zero _)
  | fuel + 1, k, hk, hfuel, ht => by
    by_cases hkj : k = j
    · subst hkj; rw [ridSearch_first hf, nextRID_cyclicRID]
    · rw [ridSearch_taken (ht k le_rfl (by omega)), nextRID_cyclicRID,
        if_neg (cyclicRID_ne_start hc0 (by omega) (by omega))]
      exact ridSearch_finds hj hf fuel (k + 1) (by omega) (by omega) fun i hi => ht i (by omega)

/-- From the `k`-th id of the order, with every later id of the round taken, the search
ends back at `c0` with none, provided `fuel` covers the rest of the round. -/
theorem ridSearch_exhausts :
    ∀ fuel k, k < ridSpace → ridSpace - k ≤ fuel →
      (∀ i, k ≤ i → i < ridSpace → queuePairListFindEntry head ⟨contextID, cyclicRID c0 i⟩ ≠ none) →
      ridSearch head contextID c0 fuel (cyclicRID c0 k) = (none, c0)
  | 0, _, hk, hfuel, _ => absurd hfuel (by omega)
  | fuel + 1, k, hk, hfuel, ht => by
    rw [ridSearch_taken (ht k le_rfl hk), nextRID_cyclicRID]
    by_cases hlast : k + 1 = ridSpace
    · have hs := (cyclicRID_eq_start_iff hc0 (k + 1)).2 (by rw [hlast, Nat.mod_self])
      rw [if_pos hs, hs]
    · rw [if_neg (cyclicRID_ne_start hc0 (by omega) (by omega))]
      exact ridSearch_exhausts fuel (k + 1) (by omega) (by omega) fun i hi => ht i (by omega)

end Search

/-- The search from `c0` with at least `ridSpace` probes: it ends at the first free id of the
cyclic order, after as many probes as it took to reach it, and leaves the counter at the next
id; or it finds the whole round taken and leaves the counter back at `c0`. -/
theorem ridSearch_cases (head : List QueuePairEntry) (contextID : VMCIId) {c0 : VMCIId}
    (hc0 : vmciReservedResourceIdMax < c0) :
    (∃ k < ridSpace, queuePairListFindEntry head ⟨contextID, cyclicRID c0 k⟩ = none ∧
      (∀ j < k, queuePairListFindEntry head ⟨contextID, cyclicRID c0 j⟩ ≠ none) ∧
      ∀ fuel, k < fuel → ridSearch head contextID c0 fuel c0 =
        (some ⟨contextID, cyclicRID c0 k⟩, cyclicRID c0 (k + 1))) ∨
    ((∀ k < ridSpace, queuePairListFindEntry head ⟨contextID, cyclicRID c0 k⟩ ≠ none) ∧
      ∀ fuel, ridSpace ≤ fuel → ridSearch head contextID c0 fuel c0 = (none, c0)) := by
  classical
  by_cases hex : ∃ k, k < ridSpace ∧ queuePairListFindEntry head ⟨contextID, cyclicRID c0 k⟩ = none
  · obtain ⟨hk, hf⟩ := Nat.find_spec hex
    have hmin : ∀ j < Nat.find hex, queuePairListFindEntry head ⟨contextID, cyclicRID c0 j⟩ ≠ none :=
      fun j hj hf' => Nat.find_min hex hj ⟨by omega, hf'⟩
    refine .inl ⟨Nat.find hex, hk, hf, hmin, fun fuel hfuel => ?_⟩
    have := ridSearch_finds hc0 hk hf fuel 0 (Nat.zero_le _) (by omega) fun i _ hi => hmin i hi
    rwa [cyclicRID_zero hc0] at this
  · push_neg at hex
    refine .inr ⟨hex, fun fuel hfuel => ?_⟩
    have := ridSearch_exhausts hc0 fuel 0 (by decide) (by omega) fun i _ hi => hex i hi
    rwa [cyclicRID_zero hc0] at this

/-- From a counter outside the reserved range, a create leaves it outside. -/
theorem createHandle_rid_range (head : List QueuePairEntry) {c0 : VMCIId} (contextID : VMCIId)
    (handle : VMCIHandle) (hc0 : vmciReservedResourceIdMax < c0) :
    vmciReservedResourceIdMax < (createHandle head c0 contextID handle).2 := by
  unfold createHandle
  split_ifs
  · rcases ridSearch_cases head contextID hc0 with ⟨k, hk, -, -, h⟩ | ⟨-, h⟩
    · rw [h _ hk]; exact cyclicRID_range c0 _
    · rw [h _ le_rfl]; exact hc0
  · exact hc0

end VMCIQueuePair
