import VMCIQueuePair.Commute

/-! The queue-pair list as a table of handles. What a caller can observe of the list is
what `QueuePairList_FindEntry` returns: for each handle, whether the pair is local and how
many references it has (`table`). The abstract table moves by `TableStep`: a call
changes nothing, creates an absent valid handle with one reference, attaches to a local
pair with one reference, gives back one of a local pair's two references, removes a pair
at its last reference, or converts non-local pairs to local ones, each keeping its
references. From every reachable state every entry point is one such step of the table
the list implements (`table_refines`); an entry whose handle is the invalid one, which
the resource-id search can create, is out of `FindEntry`'s reach, and its create is a
step that changes nothing. The abstract table keeps its own invariant, one reference or
two on a local pair (`TableStep.ok`), and through the refinement so does the list in
every reachable state (`tableOk_of_reachableBy`). -/

namespace VMCIQueuePair

/-! ### The abstract table -/

/-- What the table holds for one handle: whether the pair is local, and its references. -/
structure Slot where
  isLocal : Bool
  refs : Nat
  deriving DecidableEq, Repr

/-- A slot's conversion: kept as it is, or a non-local pair made local with its
references. -/
def Converts (a b : Option Slot) : Prop :=
  b = a ∨ ∃ r, a = some ⟨false, r⟩ ∧ b = some ⟨true, r⟩

/-- What one call may do to the table. -/
inductive TableStep (T : VMCIHandle → Option Slot) : (VMCIHandle → Option Slot) → Prop
  | skip : TableStep T T
  | create (h : VMCIHandle) (l : Bool) : h ≠ vmciInvalidHandle → T h = none →
      TableStep T (Function.update T h (some ⟨l, 1⟩))
  | attach (h : VMCIHandle) : T h = some ⟨true, 1⟩ →
      TableStep T (Function.update T h (some ⟨true, 2⟩))
  | release (h : VMCIHandle) : T h = some ⟨true, 2⟩ →
      TableStep T (Function.update T h (some ⟨true, 1⟩))
  | remove (h : VMCIHandle) (l : Bool) : T h = some ⟨l, 1⟩ → TableStep T (Function.update T h none)
  | convert (T' : VMCIHandle → Option Slot) : (∀ h, Converts (T h) (T' h)) → TableStep T T'

/-- One reference, or two on a local pair. -/
def Slot.Ok (sl : Slot) : Prop := sl.refs = 1 ∨ sl.refs = 2 ∧ sl.isLocal = true

/-- No slot for the invalid handle, and every slot `Ok`. -/
def TableOk (T : VMCIHandle → Option Slot) : Prop :=
  T vmciInvalidHandle = none ∧ ∀ h sl, T h = some sl → sl.Ok

theorem TableOk.update {T : VMCIHandle → Option Slot} (hT : TableOk T) {h : VMCIHandle}
    (hv : h ≠ vmciInvalidHandle) {o : Option Slot} (ho : ∀ sl, o = some sl → sl.Ok) :
    TableOk (Function.update T h o) := by
  refine ⟨by rw [Function.update_noteq hv.symm, hT.1], fun h' sl hs => ?_⟩
  by_cases hh : h' = h
  · subst hh; exact ho sl (by simpa using hs)
  · exact hT.2 h' sl (by rwa [Function.update_noteq hh] at hs)

theorem TableOk.valid {T : VMCIHandle → Option Slot} (hT : TableOk T) {h : VMCIHandle}
    {sl : Slot} (hs : T h = some sl) : h ≠ vmciInvalidHandle := by
  rintro rfl; simp [hT.1] at hs

/-- Every step of the abstract table keeps it `TableOk`. -/
theorem TableStep.ok {T T' : VMCIHandle → Option Slot} (hs : TableStep T T') (hT : TableOk T) :
    TableOk T' := by
  cases hs with
  | skip => exact hT
  | create h l hv _ => exact hT.update hv (by rintro _ ⟨⟩; exact .inl rfl)
  | attach h hh => exact hT.update (hT.valid hh) (by rintro _ ⟨⟩; exact .inr ⟨rfl, rfl⟩)
  | release h hh => exact hT.update (hT.valid hh) (by rintro _ ⟨⟩; exact .inl rfl)
  | remove h l hh => exact hT.update (hT.valid hh) nofun
  | convert T' hc =>
    refine ⟨?_, fun h sl hs => ?_⟩
    · rcases hc vmciInvalidHandle with he | ⟨r, hr, -⟩
      · rw [he, hT.1]
      · simp [hT.1] at hr
    · rcases hc h with he | ⟨r, hr, h'⟩
      · exact hT.2 h sl (he ▸ hs)
      · -- a non-local pair has one reference, and keeps it as a local one
        rw [h'] at hs
        cases hs
        rcases hT.2 h _ hr with h1 | ⟨-, ⟨⟩⟩
        exact .inl h1

/-! ### The table the list implements -/

/-- The slot of an entry. -/
def entrySlot (e : QueuePairEntry) : Slot := ⟨isLocal e.flags, e.refCount.toNat⟩

/-- For each handle, the slot of the entry `QueuePairList_FindEntry` returns. -/
def table (head : List QueuePairEntry) (h : VMCIHandle) : Option Slot :=
  (queuePairListFindEntry head h).map entrySlot

theorem table_of_find {head : List QueuePairEntry} {h : VMCIHandle} {e : QueuePairEntry}
    (hf : queuePairListFindEntry head h = some e) : table head h = some (entrySlot e) := by
  simp [table, hf]

/-- Writing the entry `FindEntry` finds writes its slot. -/
theorem table_setEntry {head : List QueuePairEntry} {h : VMCIHandle} {e : QueuePairEntry}
    (hf : queuePairListFindEntry head h = some e) (e' : QueuePairEntry) (he' : e'.handle = h) :
    table (setEntry h e' head) = Function.update (table head) h (some (entrySlot e')) := by
  funext h'
  by_cases hh : h' = h
  · subst hh
    obtain ⟨hv, he, pre, post, rfl, hpre⟩ := findEntry_eq_some hf
    rw [Function.update_same, setEntry_split _ e e' pre post he hpre]
    exact table_of_find (findEntry_middle hv he' hpre)
  · rw [Function.update_noteq hh, table, table, (ListWrite.set e' he').findEntry_of_ne (Ne.symm hh)]

/-- With the valid handles distinct, unlinking the entry `FindEntry` finds empties its
slot. -/
theorem table_removeEntry {head : List QueuePairEntry} {h : VMCIHandle} {e : QueuePairEntry}
    (hu : (validHandles head).Nodup) (hf : queuePairListFindEntry head h = some e) :
    table (queuePairListRemoveEntry h head) = Function.update (table head) h none := by
  funext h'
  by_cases hh : h' = h
  · subst hh
    rw [Function.update_same, table,
      findEntry_of_valid (findEntry_eq_some hf).1 (removeEntry_handle_ne hu hf)]
    rfl
  · rw [Function.update_noteq hh, table, table, ListWrite.remove.findEntry_of_ne (Ne.symm hh)]

theorem findEntry_append_of_ne (head : List QueuePairEntry) {e : QueuePairEntry} {h : VMCIHandle}
    (hne : e.handle ≠ h) : queuePairListFindEntry (head ++ [e]) h = queuePairListFindEntry head h := by
  unfold queuePairListFindEntry
  split_ifs
  · rfl
  · simp [List.find?_append, hne]

/-- Appending an entry of a valid handle no entry has fills its slot. -/
theorem table_append {head : List QueuePairEntry} {e : QueuePairEntry}
    (hv : e.handle ≠ vmciInvalidHandle) (hn : ∀ x ∈ head, x.handle ≠ e.handle) :
    table (head ++ [e]) = Function.update (table head) e.handle (some (entrySlot e)) := by
  funext h'
  by_cases hh : h' = e.handle
  · subst hh
    rw [Function.update_same]
    exact table_of_find (findEntry_append_new (findEntry_of_valid hv hn) hv rfl)
  · rw [Function.update_noteq hh, table, table, findEntry_append_of_ne _ (Ne.symm hh)]

/-- An entry of the invalid handle is out of `FindEntry`'s reach. -/
theorem table_append_invalid (head : List QueuePairEntry) {e : QueuePairEntry}
    (hv : e.handle = vmciInvalidHandle) : table (head ++ [e]) = table head := by
  funext h'
  by_cases hh : h' = vmciInvalidHandle
  · simp [table, queuePairListFindEntry, hh]
  · rw [table, table, findEntry_append_of_ne _ (hv ▸ Ne.symm hh)]

theorem findEntry_cons_self {x : QueuePairEntry} {h : VMCIHandle} (l : List QueuePairEntry)
    (hv : h ≠ vmciInvalidHandle) (hx : x.handle = h) : queuePairListFindEntry (x :: l) h = some x := by
  simp [queuePairListFindEntry, hv, hx]

theorem ConvertStep.converts {e e' : QueuePairEntry} (hs : ConvertStep e e') :
    Converts (some (entrySlot e)) (some (entrySlot e')) := by
  rcases hs with ⟨-, rfl⟩ | ⟨hl, rfl | rfl⟩
  · exact .inl rfl
  · exact .inr ⟨e.refCount.toNat, by simp [entrySlot, hl], by simp [entrySlot, isLocal_or_local]⟩
  · exact .inl rfl

/-- The sweep converts each slot. -/
theorem table_forall₂ {l l' : List QueuePairEntry} (h2 : List.Forall₂ ConvertStep l l')
    (h : VMCIHandle) : Converts (table l h) (table l' h) := by
  induction h2 with
  | nil => exact .inl rfl
  | @cons e e' l l' hs _ ih =>
    by_cases hx : e.handle = h
    · by_cases hv : h = vmciInvalidHandle
      · exact .inl (by simp [table, queuePairListFindEntry, hv])
      · rw [table_of_find (findEntry_cons_self l hv hx),
          table_of_find (findEntry_cons_self l' hv (hs.handle_eq.trans hx))]
        exact hs.converts
    · rwa [table, table, findEntry_cons_of_ne _ hx, findEntry_cons_of_ne _ (hs.handle_eq ▸ hx)]

/-! ### Each entry point is a step of the table -/

theorem alloc_tableStep {s : State} (hi : Inv s) (env : AllocEnv) (req : AllocRequest)
    (pf : UInt32) : TableStep (table s.head) (table (vmciQueuePairAllocPriv s env req pf).state.head) := by
  have hspec := allocPriv_spec s env req pf
  generalize vmciQueuePairAllocPriv s env req pf = o at hspec ⊢
  cases hspec with
  | error => exact .skip
  | attach e hf hl hr =>
    dsimp only
    have h1 := (hi.refCount e (findEntry_mem hf)).eq_one_of_le hr
    have hslot : entrySlot { e with refCount := e.refCount + 1 } = ⟨true, 2⟩ := by
      simp only [entrySlot, hl, h1]; rfl
    rw [table_setEntry hf { e with refCount := e.refCount + 1 } (findEntry_eq_some hf).2.1, hslot]
    exact .attach _ (by rw [table_of_find hf]; simp only [entrySlot, hl, h1]; rfl)
  | create e rid hf _ hc _ _ _ _ _ _ hr1 =>
    dsimp only
    by_cases hv : e.handle = vmciInvalidHandle
    · rw [table_append_invalid _ hv]; exact .skip
    · have hn := fun x hx => (createHandle_fresh hc hf x hx).resolve_right hv
      rw [table_append hv hn, show entrySlot e = ⟨isLocal e.flags, 1⟩ by simp [entrySlot, hr1]]
      exact .create _ _ hv (by simp [table, findEntry_of_valid hv hn])

/-- The branch before `out:` keeps the entry's flags, references and handle. -/
theorem detachBranch_entry (s : State) (env : DetachEnv) (handle : VMCIHandle) (e : QueuePairEntry) :
    (detachBranch s env handle e).2.1.flags = e.flags ∧
      (detachBranch s env handle e).2.1.refCount = e.refCount ∧
      (detachBranch s env handle e).2.1.handle = e.handle := by
  unfold detachBranch; dsimp only; split_ifs <;> exact ⟨rfl, rfl, rfl⟩

theorem detach_tableStep {s : State} (hi : Inv s) (env : DetachEnv) (handle : VMCIHandle) :
    TableStep (table s.head) (table (vmciQueuePairDetach s env handle).state.head) := by
  by_cases hv : handle = vmciInvalidHandle
  · simp only [vmciQueuePairDetach, hv, ite_true]; exact .skip
  rcases hf : queuePairListFindEntry s.head handle with _ | e
  · simp only [vmciQueuePairDetach, hv, ite_false, vmciQueuePairDetachHelper, hf]; exact .skip
  rw [detach_found env hf]
  obtain ⟨hfl, hrc, hh⟩ := detachBranch_entry s env handle e
  generalize detachBranch s env handle e = b at hfl hrc hh ⊢
  obtain ⟨r, e1, failed, calls⟩ := b
  have he := (findEntry_eq_some hf).2.1
  have hok := hi.refCount e (findEntry_mem hf)
  dsimp only at hfl hrc hh ⊢
  by_cases hr : vmciSuccess ≤ r
  · by_cases h0 : e1.refCount - 1 = 0
    · -- the last reference: the pair had one
      have h1 : e.refCount = 1 := hok.1.resolve_right fun h2 => by rw [hrc, h2] at h0; exact absurd h0 (by decide)
      rw [detachOut_of_last hr h0, table_removeEntry hi.unique hf]
      exact .remove _ (isLocal e.flags) (by rw [table_of_find hf]; simp only [entrySlot, h1]; rfl)
    · -- one of two references: the pair is local
      have h2 : e.refCount = 2 := hok.1.resolve_left fun h1 => by rw [hrc, h1] at h0; exact h0 rfl
      have hl := hok.2 h2
      rw [detachOut_of_keep hr h0, table_setEntry hf { e1 with refCount := e1.refCount - 1 } (hh.trans he)]
      have hslot : entrySlot { e1 with refCount := e1.refCount - 1 } = ⟨true, 1⟩ := by
        simp only [entrySlot, hfl, hrc, hl, h2]; rfl
      rw [hslot]
      exact .release _ (by rw [table_of_find hf]; simp only [entrySlot, hl, h2]; rfl)
  · rw [detachOut_of_error (not_le.1 hr), table_setEntry hf _ (hh.trans he),
      show entrySlot e1 = entrySlot e by simp only [entrySlot, hfl, hrc], ← table_of_find hf,
      Function.update_eq_self]
    exact .skip

theorem convert_tableStep (s : State) (env : ConvertOpEnv) (toLocal deviceReset : Bool) :
    TableStep (table s.head) (table (vmciQueuePairConvert s env toLocal deviceReset).1.head) := by
  unfold vmciQueuePairConvert
  split_ifs
  · exact .convert _ (table_forall₂ (convertToLocal_forall₂ _ _ _ _))
  all_goals exact .skip

/-- From every reachable state, every entry point changes the table of handles by one
step of the abstract table. -/
theorem table_refines {P : State → Op → Prop} {s : State} (hs : ReachableBy P s) :
    ∀ op : Op, TableStep (table s.head) (table (op.apply s).head)
  | .alloc env req pf => alloc_tableStep (inv_of_reachableBy hs) env req pf
  | .detach env handle => detach_tableStep (inv_of_reachableBy hs) env handle
  | .convert env toLocal deviceReset => convert_tableStep s env toLocal deviceReset

/-- The abstract table's invariant, carried to the list by `table_refines`: in every
reachable state the table the list implements has no slot for the invalid handle, and in
each slot one reference, or two on a local pair. -/
theorem tableOk_of_reachableBy {P : State → Op → Prop} {s : State} (hs : ReachableBy P s) :
    TableOk (table s.head) := by
  induction hs with
  | init => exact ⟨rfl, fun _ _ h => by simp [table, initState, vmciQueuePairInit, queuePairListFindEntry] at h⟩
  | step op hs _ ih => exact (table_refines hs op).ok ih

/-- After `sampleRun` the table has the local pair at two references and the non-local
one at one. -/
theorem tableOk_sample :
    Reachable (Op.run initState sampleRun) ∧
      table (Op.run initState sampleRun).head ⟨5, 1024⟩ = some ⟨true, 2⟩ ∧
      table (Op.run initState sampleRun).head ⟨5, 2000⟩ = some ⟨false, 1⟩ ∧
      TableOk (table (Op.run initState sampleRun).head) :=
  have hs : Reachable (Op.run initState sampleRun) :=
    ReachableBy.init.run ⟨trivial, trivial, trivial, trivial, trivial⟩
  ⟨hs, by decide, by decide, tableOk_of_reachableBy hs⟩

/-- The local create of `detach_undoes_alloc_local`, a step of the table. -/
theorem table_refines_local :
    ReachableBy (fun _ _ => True) initState ∧
      TableStep (table initState.head)
        (table ((Op.alloc ⟨false, 5, 0, some 1, some 2, true, false, some 3, 0, true, 0, 0⟩
          ⟨some vmciInvalidHandle, true, true, 4096, 4096, vmciInvalidId, vmciQPFlagLocal⟩ 0).apply
            initState).head) :=
  ⟨.init, @table_refines (fun _ _ => True) _ .init _⟩

end VMCIQueuePair
