import VMCIQueuePair.Convert

/-! Runs of the driver. A run starts at `VMCIQueuePair_Init` and makes any sequence of
calls to `VMCIQueuePair_AllocPriv` (hence `VMCIQueuePair_Alloc`),
`VMCIQueuePair_Detach` and `VMCIQueuePair_Convert`, each with any answers from the
collaborators. `Inv` is what every reachable state satisfies: every entry holds one or
two references, two only when local; the handles other than the sentinel are distinct;
and while the `hibernate` flag is set, every non-local entry is marked hibernate-failed
and its handle is in `hibernateFailedList`. Each operation keeps `Inv`
(`inv_alloc`, `inv_detach`, `inv_convert`), so every run does. -/

namespace VMCIQueuePair

/-- One call of the driver's entry points, with its collaborators' answers. -/
inductive Op where
  | alloc (env : AllocEnv) (req : AllocRequest) (privFlags : UInt32)
  | detach (env : DetachEnv) (handle : VMCIHandle)
  | convert (env : ConvertOpEnv) (toLocal deviceReset : Bool)

/-- The globals after the call. -/
def Op.apply : Op → State → State
  | .alloc env req privFlags, s => (vmciQueuePairAllocPriv s env req privFlags).state
  | .detach env handle, s => (vmciQueuePairDetach s env handle).state
  | .convert env toLocal deviceReset, s => (vmciQueuePairConvert s env toLocal deviceReset).1

/-- The calls the call makes. -/
def Op.calls : Op → State → List Call
  | .alloc env req privFlags, s => (vmciQueuePairAllocPriv s env req privFlags).calls
  | .detach env handle, s => (vmciQueuePairDetach s env handle).calls
  | .convert env toLocal deviceReset, s => (vmciQueuePairConvert s env toLocal deviceReset).2

/-- The states reached from `VMCIQueuePair_Init` by calls that `P` admits. -/
inductive ReachableBy (P : State → Op → Prop) : State → Prop
  | init : ReachableBy P initState
  | step {s : State} (op : Op) : ReachableBy P s → P s op → ReachableBy P (op.apply s)

/-- The states reached by any calls with any answers. -/
def Reachable : State → Prop := ReachableBy fun _ _ => True

/-! ### The invariant -/

def RefCountOk (e : QueuePairEntry) : Prop :=
  (e.refCount = 1 ∨ e.refCount = 2) ∧ (e.refCount = 2 → isLocal e.flags = true)

def HibernateOk (s : State) : Prop :=
  s.hibernate = true → ∀ e ∈ s.head, isLocal e.flags = false →
    e.hibernateFailure = true ∧ e.handle ∈ s.hibernateFailedList

structure Inv (s : State) : Prop where
  refCount : ∀ e ∈ s.head, RefCountOk e
  unique : (validHandles s.head).Nodup
  hibernate : HibernateOk s

theorem RefCountOk.eq_one_of_le {e : QueuePairEntry} (h : RefCountOk e) (h1 : e.refCount ≤ 1) :
    e.refCount = 1 :=
  h.1.resolve_right fun h2 => absurd (h2 ▸ h1) (by decide)

theorem RefCountOk.eq_one_of_remote {e : QueuePairEntry} (h : RefCountOk e)
    (hl : isLocal e.flags = false) : e.refCount = 1 :=
  h.1.resolve_right fun h2 => by simp [h.2 h2] at hl

theorem inv_init : Inv initState := ⟨by simp [initState, vmciQueuePairInit], by
  simp [initState, vmciQueuePairInit, validHandles], fun h => by simp [initState, vmciQueuePairInit] at h⟩

/-! ### Alloc -/

theorem inv_alloc {s : State} (hi : Inv s) (env : AllocEnv) (req : AllocRequest) (pf : UInt32) :
    Inv (vmciQueuePairAllocPriv s env req pf).state := by
  have hs := allocPriv_spec s env req pf
  generalize vmciQueuePairAllocPriv s env req pf = o at hs ⊢
  cases hs with
  | error => exact ⟨hi.1, hi.2, hi.3⟩
  | attach e hf hl hr =>
    obtain ⟨-, he, -⟩ := findEntry_eq_some hf
    have h1 := (hi.refCount e (findEntry_mem hf)).eq_one_of_le hr
    refine ⟨fun x hx => ?_, by
      dsimp only; rw [validHandles_setEntry { e with refCount := e.refCount + 1 } he]
      exact hi.unique,
      fun hh x hx hxl => ?_⟩
    · rcases mem_setEntry hx with rfl | hx
      · exact ⟨.inr (by rw [h1]; rfl), fun _ => hl⟩
      · exact hi.refCount x hx
    · rcases mem_setEntry hx with rfl | hx
      · simp [hl] at hxl
      · exact hi.hibernate hh x hx hxl
  | create e rid hf hh hc _ _ _ hfl _ _ hr1 =>
    refine ⟨fun x hx => ?_, validHandles_append_nodup hi.unique (createHandle_fresh hc hf),
      fun hs x hx hxl => ?_⟩
    · rcases List.mem_append.1 hx with hx | hx
      · exact hi.refCount x hx
      · rw [List.mem_singleton.1 hx]
        exact ⟨.inl hr1, fun h2 => absurd (hr1.symm.trans h2) (by decide)⟩
    · rcases List.mem_append.1 hx with hx | hx
      · exact hi.hibernate hs x hx hxl
      · rw [List.mem_singleton.1 hx, hfl] at hxl
        simp_all

/-! ### Detach -/

/-- The `out:` label keeps `Inv` after a successful branch that left the entry's count,
flags and handle alone and, for a non-local entry only, took its handle out of the
failed-handle list. -/
theorem inv_detachOut {s : State} {handle : VMCIHandle} {e e1 : QueuePairEntry} {result : Int}
    {failed : List VMCIHandle} {calls : List Call} (hi : Inv s)
    (hf : queuePairListFindEntry s.head handle = some e) (hres : vmciSuccess ≤ result)
    (hrc : e1.refCount = e.refCount) (hfl : e1.flags = e.flags) (hh : e1.handle = e.handle)
    (hfailed : failed = s.hibernateFailedList ∨
      (isLocal e.flags = false ∧ failed = s.hibernateFailedList.erase e.handle)) :
    Inv (detachOut s handle result e1 failed calls).state := by
  obtain ⟨-, he, -⟩ := findEntry_eq_some hf
  have hok := hi.refCount e (findEntry_mem hf)
  simp only [detachOut, if_pos hres]
  split_ifs with h0
  · have hsub := (removeEntry_sublist handle s.head).subset
    refine ⟨fun x hx => hi.refCount x (hsub hx),
      hi.unique.sublist (validHandles_removeEntry handle s.head), fun hs x hx hxl => ?_⟩
    obtain ⟨h1, h2⟩ := hi.hibernate hs x (hsub hx) hxl
    refine ⟨h1, ?_⟩
    rcases hfailed with rfl | ⟨-, rfl⟩
    · exact h2
    · exact (List.mem_erase_of_ne (he ▸ removeEntry_handle_ne hi.unique hf x hx)).2 h2
  · have h2 : e.refCount = 2 := hok.1.resolve_left fun h1 => h0 (by rw [hrc, h1]; rfl)
    have hl := hok.2 h2
    obtain rfl : failed = s.hibernateFailedList := hfailed.resolve_right (by simp [hl])
    refine ⟨fun x hx => ?_, by
      dsimp only; rw [validHandles_setEntry { e1 with refCount := e1.refCount - 1 } (hh.trans he)]
      exact hi.unique, fun hs x hx hxl => ?_⟩
    · have h1 : e1.refCount - 1 = 1 := by rw [hrc, h2]; rfl
      rcases mem_setEntry hx with rfl | hx
      · exact ⟨.inl h1, fun h => absurd (h1.symm.trans h) (by decide)⟩
      · exact hi.refCount x hx
    · rcases mem_setEntry hx with rfl | hx
      · simp [hfl, hl] at hxl
      · exact hi.hibernate hs x hx hxl

theorem inv_detach {s : State} (hi : Inv s) (env : DetachEnv) (handle : VMCIHandle) :
    Inv (vmciQueuePairDetach s env handle).state := by
  unfold vmciQueuePairDetach vmciQueuePairDetachHelper
  split_ifs
  · exact hi
  rcases hf : queuePairListFindEntry s.head handle with _ | e
  · exact hi
  dsimp only
  have hb := detachBranch_spec s env handle e
  generalize detachBranch s env handle e = b at hb ⊢
  by_cases hr : b.1 < vmciSuccess
  · obtain ⟨h1, h2⟩ := hb.error hr
    rw [h1, h2, detachOut_error hf hr]
    exact hi
  · have hres := not_lt.1 hr
    cases hb with
    | localNotify | localLast | remote => exact inv_detachOut hi hf hres rfl rfl rfl (.inl rfl)
    | remoteUnmark hl => exact inv_detachOut hi hf hres rfl rfl rfl (.inr ⟨hl, rfl⟩)

/-- A detach only unlinks or rewrites entries in place: the handles after it are a
sublist of those before. -/
theorem detach_handles_sublist (s : State) (env : DetachEnv) (handle : VMCIHandle) :
    ((vmciQueuePairDetach s env handle).state.head.map (·.handle)).Sublist (s.head.map (·.handle)) := by
  unfold vmciQueuePairDetach vmciQueuePairDetachHelper
  split_ifs
  · exact .refl _
  rcases hf : queuePairListFindEntry s.head handle with _ | e
  · exact .refl _
  obtain ⟨-, he, -⟩ := findEntry_eq_some hf
  dsimp only
  have hb := detachBranch_spec s env handle e
  generalize detachBranch s env handle e = b at hb ⊢
  have hh : b.2.1.handle = handle := by cases hb <;> exact he
  simp only [detachOut]
  split_ifs
  · exact (removeEntry_sublist handle s.head).map _
  · dsimp only
    rw [setEntry_map_handle { b.2.1 with refCount := b.2.1.refCount - 1 } hh]
  · dsimp only
    rw [setEntry_map_handle _ hh]

/-! ### Convert -/

theorem ConvertStep.handle_eq {e e' : QueuePairEntry} (h : ConvertStep e e') : e'.handle = e.handle := by
  rcases h with ⟨-, rfl⟩ | ⟨-, rfl | rfl⟩ <;> rfl

theorem ConvertStep.refCountOk {e e' : QueuePairEntry} (h : ConvertStep e e') (hok : RefCountOk e) :
    RefCountOk e' := by
  rcases h with ⟨-, rfl⟩ | ⟨hl, rfl | rfl⟩
  · exact hok
  · exact ⟨hok.1, fun _ => isLocal_or_local _⟩
  · exact ⟨hok.1, fun h2 => absurd (hok.eq_one_of_remote hl ▸ h2) (by decide)⟩

/-- An entry the sweep leaves non-local was marked hibernate-failed. -/
theorem ConvertStep.marked {e e' : QueuePairEntry} (h : ConvertStep e e')
    (hl : isLocal e'.flags = false) : e'.hibernateFailure = true := by
  rcases h with ⟨hl', rfl⟩ | ⟨-, rfl | rfl⟩
  · simp [hl'] at hl
  · simp [isLocal_or_local] at hl
  · rfl

theorem forall₂_exists_left {l l' : List QueuePairEntry} (h : List.Forall₂ ConvertStep l l') :
    ∀ x' ∈ l', ∃ x ∈ l, ConvertStep x x' := by
  induction h with
  | nil => simp
  | cons hab _ ih =>
    intro x' hx'
    rcases List.mem_cons.1 hx' with rfl | hx'
    · exact ⟨_, List.mem_cons_self _ _, hab⟩
    · obtain ⟨x, hx, hxx⟩ := ih x' hx'
      exact ⟨x, List.mem_cons_of_mem _ hx, hxx⟩

theorem forall₂_map_handle {l l' : List QueuePairEntry} (h : List.Forall₂ ConvertStep l l') :
    l'.map (·.handle) = l.map (·.handle) := by
  induction h with
  | nil => rfl
  | cons hab _ ih => simp [hab.handle_eq, ih]

theorem inv_convert {s : State} (hi : Inv s) (env : ConvertOpEnv) (toLocal deviceReset : Bool) :
    Inv (vmciQueuePairConvert s env toLocal deviceReset).1 := by
  unfold vmciQueuePairConvert
  split_ifs
  · have h2 := convertToLocal_forall₂ env.contextID env.entry s.hibernateFailedList s.head
    have hfl := convertToLocal_failed env.contextID env.entry s.hibernateFailedList s.head
    generalize convertToLocal env.contextID env.entry s.hibernateFailedList s.head = r at h2 hfl ⊢
    refine ⟨fun x hx => ?_, ?_, fun _ x hx hxl => ⟨?_, ?_⟩⟩
    · obtain ⟨y, hy, hyx⟩ := forall₂_exists_left h2 x hx
      exact hyx.refCountOk (hi.refCount y hy)
    · simpa only [validHandles, forall₂_map_handle h2] using hi.unique
    · obtain ⟨y, -, hyx⟩ := forall₂_exists_left h2 x hx
      exact hyx.marked hxl
    · dsimp only
      rw [hfl]
      exact List.mem_append_right _ (List.mem_map_of_mem _ (List.mem_filter.2 ⟨hx, by simp [hxl]⟩))
  all_goals exact ⟨hi.1, hi.2, fun h => by simp at h⟩

theorem convert_handles (s : State) (env : ConvertOpEnv) (toLocal deviceReset : Bool) :
    (vmciQueuePairConvert s env toLocal deviceReset).1.head.map (·.handle) = s.head.map (·.handle) := by
  unfold vmciQueuePairConvert
  split_ifs
  · exact forall₂_map_handle (convertToLocal_forall₂ _ _ _ _)
  all_goals rfl

/-! ### Runs -/

theorem inv_apply {s : State} (hi : Inv s) : ∀ op : Op, Inv (op.apply s)
  | .alloc env req pf => inv_alloc hi env req pf
  | .detach env handle => inv_detach hi env handle
  | .convert env toLocal deviceReset => inv_convert hi env toLocal deviceReset

theorem ReachableBy.mono {P Q : State → Op → Prop} (hPQ : ∀ s op, P s op → Q s op) {s : State}
    (h : ReachableBy P s) : ReachableBy Q s := by
  induction h with
  | init => exact .init
  | step op _ hp ih => exact ih.step op (hPQ _ op hp)

/-- The globals after the calls `ops`, in order. -/
def Op.run (s : State) (ops : List Op) : State := ops.foldl (fun s op => op.apply s) s

@[simp] theorem Op.run_nil (s : State) : Op.run s [] = s := rfl

@[simp] theorem Op.run_cons (s : State) (op : Op) (ops : List Op) :
    Op.run s (op :: ops) = Op.run (op.apply s) ops := rfl

theorem Op.run_append (s : State) (ops ops' : List Op) :
    Op.run s (ops ++ ops') = Op.run (Op.run s ops) ops' :=
  List.foldl_append _ _ _ _

/-- `P` admits each call of `ops` at the state it is made in. -/
def Admits (P : State → Op → Prop) : State → List Op → Prop
  | _, [] => True
  | s, op :: ops => P s op ∧ Admits P (op.apply s) ops

theorem admits_append {P : State → Op → Prop} :
    ∀ {s : State} {ops : List Op} (ops' : List Op), Admits P s ops →
      Admits P (Op.run s ops) ops' → Admits P s (ops ++ ops')
  | _, [], _, _, h' => h'
  | _, _ :: _, ops', ⟨hp, h⟩, h' => ⟨hp, admits_append ops' h h'⟩

theorem Admits.mono {P Q : State → Op → Prop} (hPQ : ∀ s op, P s op → Q s op) :
    ∀ {s : State} {ops : List Op}, Admits P s ops → Admits Q s ops
  | _, [], _ => trivial
  | _, _ :: _, ⟨hp, h⟩ => ⟨hPQ _ _ hp, h.mono hPQ⟩

theorem ReachableBy.run {P : State → Op → Prop} {s : State} (h : ReachableBy P s) :
    ∀ {ops : List Op}, Admits P s ops → ReachableBy P (Op.run s ops)
  | [], _ => h
  | op :: _, ⟨hp, hops⟩ => (h.step op hp).run hops

/-- Every state any run reaches satisfies `Inv`. -/
theorem inv_of_reachableBy {P : State → Op → Prop} {s : State} (h : ReachableBy P s) : Inv s := by
  induction h with
  | init => exact inv_init
  | step op _ _ ih => exact inv_apply ih op

/-- The run the instances of the theorems below are taken at: a local queue pair created
under an auto-assigned handle (`5:1024`) and attached to, a non-local one created under
`5:2000`, and a `Convert(TRUE)` sweep in which `VMCI_ConvertToLocalQueue` fails on every
consume queue, so that the non-local pair is marked hibernate-failed. -/
def sampleRun : List Op :=
  [.alloc ⟨false, 5, 0, some 1, some 2, true, false, some 3, 0, true, 0, 0⟩
      ⟨some vmciInvalidHandle, true, true, 4096, 4096, vmciInvalidId, vmciQPFlagLocal⟩
      vmciNoPrivilegeFlags,
    .alloc ⟨false, 5, 0, none, none, true, false, none, 0, true, 0, 0⟩
      ⟨some ⟨5, 1024⟩, true, true, 4096, 4096, vmciInvalidId, vmciQPFlagLocal⟩ vmciNoPrivilegeFlags,
    .alloc ⟨false, 5, 0, some 4, some 5, true, false, some 6, 0, true, 0, 0⟩
      ⟨some ⟨5, 2000⟩, true, true, 4096, 4096, vmciInvalidId, 0⟩ vmciNoPrivilegeFlags,
    .convert ⟨5, fun _ => ⟨-1, 0, 0, 0, 0, 0, 0, 0⟩, 0⟩ true false]

end VMCIQueuePair
