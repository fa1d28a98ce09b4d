import VMCIQueuePair.Basic

/-! The queue-pair list (`QueuePairList_*`) and the handle array that records the queue
pairs whose hibernation conversion failed. The list holds its entries by value: an
entry pointer that `QueuePairList_FindEntry` returns designates the first entry with
its handle, so writing through that pointer or unlinking it is a write or an unlink of
the first entry with that handle. -/

namespace VMCIQueuePair

/-- `QueuePairList_FindEntry`: the first entry with this handle, never for the
sentinel handle. -/
def queuePairListFindEntry (head : List QueuePairEntry) (handle : VMCIHandle) :
    Option QueuePairEntry :=
  if handle = vmciInvalidHandle then none else head.find? (·.handle == handle)

/-- `QueuePairList_AddEntry`: `LIST_QUEUE` appends at the tail. -/
def queuePairListAddEntry (head : List QueuePairEntry) (e : QueuePairEntry) :
    List QueuePairEntry :=
  head ++ [e]

/-- A write through the pointer to the first entry with handle `h`. -/
def setEntry (h : VMCIHandle) (e' : QueuePairEntry) : List QueuePairEntry → List QueuePairEntry
  | [] => []
  | e :: es => if e.handle = h then e' :: es else e :: setEntry h e' es

/-- `QueuePairList_RemoveEntry` of the first entry with handle `h`. -/
def queuePairListRemoveEntry (h : VMCIHandle) : List QueuePairEntry → List QueuePairEntry
  | [] => []
  | e :: es => if e.handle = h then es else e :: queuePairListRemoveEntry h es

/-- Modelled from the spec: `VMCIHandleArray_AppendEntry` (`vmci_handle_array.h`, not
under src/) adds a handle to the failed-handle set; it appends at the end. -/
def vmciHandleArrayAppendEntry (l : List VMCIHandle) (h : VMCIHandle) : List VMCIHandle :=
  l ++ [h]

/-- Modelled from the spec: `VMCIHandleArray_RemoveEntry` (`vmci_handle_array.h`, not
under src/) takes one occurrence of the handle out of the failed-handle set. The spec
fixes the set and not the order of the handles left, so results that depend on that
order are stated up to it (`SameUpToOrder`, `hibernation_cycle`). -/
def vmciHandleArrayRemoveEntry (l : List VMCIHandle) (h : VMCIHandle) : List VMCIHandle :=
  l.erase h

/-! ### Lookup -/

theorem findEntry_eq_some {head : List QueuePairEntry} {h : VMCIHandle} {e : QueuePairEntry}
    (hf : queuePairListFindEntry head h = some e) :
    h ≠ vmciInvalidHandle ∧ e.handle = h ∧
      ∃ pre post, head = pre ++ e :: post ∧ ∀ x ∈ pre, x.handle ≠ h := by
  unfold queuePairListFindEntry at hf
  split at hf
  · cases hf
  · obtain ⟨he, pre, post, rfl, hpre⟩ := List.find?_eq_some.1 hf
    exact ⟨‹_›, by simpa using he, pre, post, rfl, fun x hx => by simpa using hpre x hx⟩

theorem findEntry_mem {head : List QueuePairEntry} {h : VMCIHandle} {e : QueuePairEntry}
    (hf : queuePairListFindEntry head h = some e) : e ∈ head := by
  obtain ⟨-, -, pre, post, rfl, -⟩ := findEntry_eq_some hf
  simp

theorem findEntry_eq_none {head : List QueuePairEntry} {h : VMCIHandle}
    (hf : queuePairListFindEntry head h = none) :
    h = vmciInvalidHandle ∨ ∀ x ∈ head, x.handle ≠ h := by
  unfold queuePairListFindEntry at hf
  split at hf
  · exact .inl ‹_›
  · exact .inr fun x hx => by simpa using List.find?_eq_none.1 hf x hx

theorem findEntry_of_valid {head : List QueuePairEntry} {h : VMCIHandle}
    (hv : h ≠ vmciInvalidHandle) (hn : ∀ x ∈ head, x.handle ≠ h) :
    queuePairListFindEntry head h = none := by
  simpa [queuePairListFindEntry, hv] using hn

/-- An entry appended with a handle no earlier entry carries is the one found. -/
theorem findEntry_append_new {head : List QueuePairEntry} {h : VMCIHandle} {e : QueuePairEntry}
    (hf : queuePairListFindEntry head h = none) (hv : h ≠ vmciInvalidHandle) (he : e.handle = h) :
    queuePairListFindEntry (head ++ [e]) h = some e := by
  simp only [queuePairListFindEntry, hv, ite_false] at hf ⊢
  simp [List.find?_append, hf, he]

/-! ### Writes and unlinks -/

theorem setEntry_split (h : VMCIHandle) (e e' : QueuePairEntry) (pre post : List QueuePairEntry)
    (he : e.handle = h) (hpre : ∀ x ∈ pre, x.handle ≠ h) :
    setEntry h e' (pre ++ e :: post) = pre ++ e' :: post := by
  induction pre with
  | nil => simp [setEntry, he]
  | cons x xs ih =>
    simp only [List.forall_mem_cons] at hpre
    simp [setEntry, hpre.1, ih hpre.2]

theorem removeEntry_split (h : VMCIHandle) (e : QueuePairEntry) (pre post : List QueuePairEntry)
    (he : e.handle = h) (hpre : ∀ x ∈ pre, x.handle ≠ h) :
    queuePairListRemoveEntry h (pre ++ e :: post) = pre ++ post := by
  induction pre with
  | nil => simp [queuePairListRemoveEntry, he]
  | cons x xs ih =>
    simp only [List.forall_mem_cons] at hpre
    simp [queuePairListRemoveEntry, hpre.1, ih hpre.2]

/-- What `FindEntry` returned is what a write or an unlink acts on. -/
theorem findEntry_split {head : List QueuePairEntry} {h : VMCIHandle} {e : QueuePairEntry}
    (hf : queuePairListFindEntry head h = some e) (e' : QueuePairEntry) :
    ∃ pre post, head = pre ++ e :: post ∧ setEntry h e' head = pre ++ e' :: post ∧
      queuePairListRemoveEntry h head = pre ++ post := by
  obtain ⟨-, he, pre, post, rfl, hpre⟩ := findEntry_eq_some hf
  exact ⟨pre, post, rfl, setEntry_split h e e' pre post he hpre,
    removeEntry_split h e pre post he hpre⟩

theorem mem_setEntry {h : VMCIHandle} {e' x : QueuePairEntry} :
    ∀ {l : List QueuePairEntry}, x ∈ setEntry h e' l → x = e' ∨ x ∈ l
  | [], hx => by simp [setEntry] at hx
  | e :: es, hx => by
    unfold setEntry at hx
    split at hx
    · rcases List.mem_cons.1 hx with rfl | hx
      · exact .inl rfl
      · exact .inr (List.mem_cons_of_mem _ hx)
    · rcases List.mem_cons.1 hx with rfl | hx
      · exact .inr (List.mem_cons_self _ _)
      · exact (mem_setEntry hx).imp_right (List.mem_cons_of_mem _)

theorem removeEntry_sublist (h : VMCIHandle) :
    ∀ l : List QueuePairEntry, (queuePairListRemoveEntry h l).Sublist l
  | [] => .slnil
  | e :: es => by
    unfold queuePairListRemoveEntry
    split
    · exact .cons _ (.refl _)
    · exact (removeEntry_sublist h es).cons₂ _

theorem mem_removeEntry_of_ne {h : VMCIHandle} {x : QueuePairEntry} :
    ∀ {l : List QueuePairEntry}, x ∈ l → x.handle ≠ h → x ∈ queuePairListRemoveEntry h l
  | e :: es, hx, hne => by
    unfold queuePairListRemoveEntry
    rcases List.mem_cons.1 hx with rfl | hx
    · simp [hne]
    · split
      · exact hx
      · exact List.mem_cons_of_mem _ (mem_removeEntry_of_ne hx hne)

theorem setEntry_map_handle {h : VMCIHandle} (e' : QueuePairEntry) (he : e'.handle = h) :
    ∀ l : List QueuePairEntry, (setEntry h e' l).map (·.handle) = l.map (·.handle)
  | [] => rfl
  | e :: es => by
    unfold setEntry
    split
    · simp [he, *]
    · simp [setEntry_map_handle e' he es]

/-! ### Handles -/

/-- The handles of the list's entries other than the sentinel. -/
def validHandles (head : List QueuePairEntry) : List VMCIHandle :=
  (head.map (·.handle)).filter (· != vmciInvalidHandle)

theorem validHandles_setEntry {h : VMCIHandle} (e' : QueuePairEntry) (he : e'.handle = h)
    (l : List QueuePairEntry) : validHandles (setEntry h e' l) = validHandles l := by
  simp only [validHandles, setEntry_map_handle e' he]

theorem validHandles_removeEntry (h : VMCIHandle) (l : List QueuePairEntry) :
    (validHandles (queuePairListRemoveEntry h l)).Sublist (validHandles l) :=
  ((removeEntry_sublist h l).map _).filter _

/-- Appending an entry whose handle no entry carries keeps the valid handles distinct. -/
theorem validHandles_append_nodup {l : List QueuePairEntry} {e : QueuePairEntry}
    (hl : (validHandles l).Nodup) (he : ∀ x ∈ l, x.handle ≠ e.handle ∨ e.handle = vmciInvalidHandle) :
    (validHandles (l ++ [e])).Nodup := by
  by_cases hv : e.handle = vmciInvalidHandle
  · simpa [validHandles, List.filter_append, hv] using hl
  · simp only [validHandles, List.map_append, List.filter_append, List.map_cons,
      List.map_nil, List.filter_cons, List.filter_nil, bne_iff_ne, ne_eq, hv,
      not_false_eq_true, decide_True, ite_true] at hl ⊢
    refine List.nodup_append.2 ⟨hl, List.nodup_singleton _, List.disjoint_singleton.2 fun hm => ?_⟩
    obtain ⟨x, hx, hxe⟩ := List.mem_map.1 (List.mem_filter.1 hm).1
    exact (he x hx).elim (· hxe) hv

/-- Past the entry `FindEntry` returned, no entry carries its handle when the valid
handles are distinct: unlinking it leaves no entry with that handle. -/
theorem removeEntry_handle_ne {head : List QueuePairEntry} {h : VMCIHandle} {e : QueuePairEntry}
    (hu : (validHandles head).Nodup) (hf : queuePairListFindEntry head h = some e) :
    ∀ x ∈ queuePairListRemoveEntry h head, x.handle ≠ h := by
  obtain ⟨hv, he, pre, post, rfl, hpre⟩ := findEntry_eq_some hf
  rw [removeEntry_split h e pre post he hpre]
  intro x hx hxh
  rcases List.mem_append.1 hx with hx | hx
  · exact hpre x hx hxh
  · simp only [validHandles, List.map_append, List.map_cons, List.filter_append,
      List.filter_cons, he, bne_iff_ne, ne_eq, hv, not_false_eq_true, decide_True,
      ite_true] at hu
    have hm : h ∈ (post.map (·.handle)).filter (· != vmciInvalidHandle) :=
      List.mem_filter.2 ⟨List.mem_map.2 ⟨x, hx, hxh⟩, by simpa using hv⟩
    exact (List.nodup_cons.1 (List.nodup_append.1 hu).2.1).1 hm

end VMCIQueuePair
