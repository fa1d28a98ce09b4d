import VMCIQueuePair.Lifecycle
import VMCIQueuePair.Wakeup

/-! Detaches of distinct handles, in any order. A detach reads the list only through
`FindEntry` of its own handle, and writes only the first entry with that handle
(`ListWrite`) and, through its unmark, that handle in the failed-handle list
(`detach_effect`). Writes at distinct handles commute and leave `FindEntry` of the other
handle alone, so two detaches of distinct handles commute (`detach_detach`), and the list
lock may grant any number of them in any order: each caller gets the reply it would get
alone, and the globals end the same but for the order of the failed-handle list, a set
in the source (`detaches_any_order`). -/

namespace VMCIQueuePair

/-! ### Writes of the list at one handle -/

/-- The writes a call makes to the list at handle `h`: none, the write of an entry with
handle `h` in place of the first entry with `h`, or the unlink of that entry. -/
inductive ListWrite (h : VMCIHandle) : (List QueuePairEntry → List QueuePairEntry) → Prop
  | keep : ListWrite h id
  | set (e : QueuePairEntry) : e.handle = h → ListWrite h (setEntry h e)
  | remove : ListWrite h (queuePairListRemoveEntry h)

theorem findEntry_cons_of_ne {x : QueuePairEntry} {h : VMCIHandle} (l : List QueuePairEntry)
    (hx : x.handle ≠ h) : queuePairListFindEntry (x :: l) h = queuePairListFindEntry l h := by
  unfold queuePairListFindEntry; split_ifs <;> simp [hx]

theorem findEntry_cons_of_eq {x : QueuePairEntry} {h : VMCIHandle} (l l' : List QueuePairEntry)
    (hx : x.handle = h) : queuePairListFindEntry (x :: l) h = queuePairListFindEntry (x :: l') h := by
  unfold queuePairListFindEntry; split_ifs <;> simp [hx]

/-- A write at `h` leaves `FindEntry` of every other handle as it was. -/
theorem ListWrite.findEntry_of_ne {h h' : VMCIHandle} {f : List QueuePairEntry → List QueuePairEntry}
    (hw : ListWrite h f) (hne : h ≠ h') (l : List QueuePairEntry) :
    queuePairListFindEntry (f l) h' = queuePairListFindEntry l h' := by
  induction l with
  | nil => cases hw <;> rfl
  | cons x l ih =>
    by_cases hx : x.handle = h
    · have hx' : x.handle ≠ h' := hx ▸ hne
      cases hw with
      | keep => rfl
      | set e he =>
        rw [setEntry, if_pos hx, findEntry_cons_of_ne _ (he ▸ hne), findEntry_cons_of_ne _ hx']
      | remove => rw [queuePairListRemoveEntry, if_pos hx, findEntry_cons_of_ne _ hx']
    · by_cases hx' : x.handle = h'
      · cases hw with
        | keep => rfl
        | set e he => rw [setEntry, if_neg hx, findEntry_cons_of_eq _ l hx']
        | remove => rw [queuePairListRemoveEntry, if_neg hx, findEntry_cons_of_eq _ l hx']
      · cases hw with
        | keep => rfl
        | set e he => rw [setEntry, if_neg hx, findEntry_cons_of_ne _ hx', findEntry_cons_of_ne _ hx', ← ih]
        | remove =>
          rw [queuePairListRemoveEntry, if_neg hx, findEntry_cons_of_ne _ hx', findEntry_cons_of_ne _ hx', ← ih]

theorem setEntry_comm {h h' : VMCIHandle} {e e' : QueuePairEntry} (he : e.handle = h)
    (he' : e'.handle = h') (hne : h ≠ h') (l : List QueuePairEntry) :
    setEntry h e (setEntry h' e' l) = setEntry h' e' (setEntry h e l) := by
  induction l with
  | nil => rfl
  | cons x l ih =>
    by_cases hx : x.handle = h
    · have hx' : x.handle ≠ h' := hx ▸ hne
      simp [setEntry, hx, hx', he, hne]
    · by_cases hx' : x.handle = h'
      · simp [setEntry, hx, hx', he', hne.symm]
      · simp [setEntry, hx, hx', ih]

theorem setEntry_removeEntry {h h' : VMCIHandle} {e : QueuePairEntry} (he : e.handle = h)
    (hne : h ≠ h') (l : List QueuePairEntry) :
    setEntry h e (queuePairListRemoveEntry h' l) = queuePairListRemoveEntry h' (setEntry h e l) := by
  induction l with
  | nil => rfl
  | cons x l ih =>
    by_cases hx : x.handle = h
    · have hx' : x.handle ≠ h' := hx ▸ hne
      simp [setEntry, queuePairListRemoveEntry, hx, hx', he, hne]
    · by_cases hx' : x.handle = h'
      · simp [setEntry, queuePairListRemoveEntry, hx, hx', hne.symm]
      · simp [setEntry, queuePairListRemoveEntry, hx, hx', ih]

theorem removeEntry_comm {h h' : VMCIHandle} (hne : h ≠ h') (l : List QueuePairEntry) :
    queuePairListRemoveEntry h (queuePairListRemoveEntry h' l) =
      queuePairListRemoveEntry h' (queuePairListRemoveEntry h l) := by
  induction l with
  | nil => rfl
  | cons x l ih =>
    by_cases hx : x.handle = h
    · have hx' : x.handle ≠ h' := hx ▸ hne
      simp [queuePairListRemoveEntry, hx, hx', hne]
    · by_cases hx' : x.handle = h'
      · simp [queuePairListRemoveEntry, hx, hx', hne.symm]
      · simp [queuePairListRemoveEntry, hx, hx', ih]

/-- Writes at distinct handles commute. -/
theorem ListWrite.comm {h h' : VMCIHandle} {f g : List QueuePairEntry → List QueuePairEntry}
    (hf : ListWrite h f) (hg : ListWrite h' g) (hne : h ≠ h') (l : List QueuePairEntry) :
    f (g l) = g (f l) := by
  cases hf with
  | keep => rfl
  | set e he =>
    cases hg with
    | keep => rfl
    | set e' he' => exact setEntry_comm he he' hne l
    | remove => exact setEntry_removeEntry he hne l
  | remove =>
    cases hg with
    | keep => rfl
    | set e' he' => exact (setEntry_removeEntry he' hne.symm l).symm
    | remove => exact removeEntry_comm hne l

/-! ### What a detach does -/

/-- What a detach of `h` does from any globals whose list gives `o` for `h`: its result
and calls, a write of the list at `h`, and whether its unmark takes `h` out of the
failed-handle list, all fixed by `o`. -/
theorem detach_effect (env : DetachEnv) (h : VMCIHandle) (o : Option QueuePairEntry) :
    ∃ (r : Int) (f : List QueuePairEntry → List QueuePairEntry) (u : Bool) (calls : List Call),
      ListWrite h f ∧ ∀ t : State, queuePairListFindEntry t.head h = o →
        vmciQueuePairDetach t env h =
          ⟨r, { t with
                head := f t.head
                hibernateFailedList :=
                  if u then t.hibernateFailedList.erase h else t.hibernateFailedList }, calls⟩ := by
  by_cases hv : h = vmciInvalidHandle
  · exact ⟨vmciErrorInvalidArgs, id, false, [], .keep, fun t _ => by simp [vmciQueuePairDetach, hv]⟩
  rcases o with _ | e
  · exact ⟨vmciErrorNotFound, id, false, [], .keep, fun t ht => by
      simp [vmciQueuePairDetach, vmciQueuePairDetachHelper, hv, ht]⟩
  by_cases he : e.handle = h
  swap
  · exact ⟨0, id, false, [], .keep, fun t ht => absurd (findEntry_eq_some ht).2.1 he⟩
  -- the branch at any globals: its result, entry and calls are those at the empty ones
  have hb := detachBranch_spec ⟨[], false, [], 0⟩ env h e
  generalize hb0 : detachBranch ⟨[], false, [], 0⟩ env h e = b at hb
  have hbt : ∀ t : State, detachBranch t env h e = (b.1, b.2.1, if detachUnmarks env e then
      t.hibernateFailedList.erase h else t.hibernateFailedList, b.2.2.2) := fun t => by
    obtain ⟨h1, h2, h3⟩ := detachBranch_indep t ⟨[], false, [], 0⟩ env h e
    rw [hb0] at h1 h2 h3
    exact Prod.ext h1 (Prod.ext h2 (Prod.ext (by rw [detachBranch_failed, he]) h3))
  have hh : b.2.1.handle = h := by cases hb <;> exact he
  have hu : detachUnmarks env e = true → b.1 = vmciSuccess := by
    cases hb with
    | remoteUnmark => exact fun _ => rfl
    | localNotify hl | localLast hl => simp [detachUnmarks, hl]
    | remote hl hn =>
      intro h'
      simp only [detachUnmarks, hl, Bool.not_false, Bool.true_and, Bool.and_eq_true, Bool.or_eq_true,
        beq_iff_eq] at h'
      exact absurd h' hn
  by_cases hr : vmciSuccess ≤ b.1
  · by_cases h0 : b.2.1.refCount - 1 = 0
    · exact ⟨b.1, queuePairListRemoveEntry h, detachUnmarks env e,
        b.2.2.2 ++ queuePairEntryDestroy { b.2.1 with refCount := b.2.1.refCount - 1 }, .remove,
        fun t ht => by rw [detach_found env ht, hbt t, detachOut_of_last hr h0]⟩
    · exact ⟨b.1, setEntry h { b.2.1 with refCount := b.2.1.refCount - 1 }, detachUnmarks env e,
        b.2.2.2, .set _ hh, fun t ht => by rw [detach_found env ht, hbt t, detachOut_of_keep hr h0]⟩
  · have hu' : detachUnmarks env e = false := Bool.eq_false_iff.2 fun h' => hr (hu h' ▸ le_rfl)
    refine ⟨b.1, setEntry h b.2.1, false, b.2.2.2, .set _ hh, fun t ht => ?_⟩
    rw [detach_found env ht, hbt t, detachOut_of_error (not_le.1 hr), hu']

/-! ### Globals up to the order of the failed-handle list -/

/-- Globals that differ at most in the order of the failed-handle list, which the source
keeps as a set (`VMCIHandleArray`). -/
def SameUpToOrder (s t : State) : Prop :=
  s.head = t.head ∧ s.hibernate = t.hibernate ∧ s.queuePairRID = t.queuePairRID ∧
    s.hibernateFailedList.Perm t.hibernateFailedList

theorem SameUpToOrder.refl (s : State) : SameUpToOrder s s := ⟨rfl, rfl, rfl, .refl _⟩

theorem SameUpToOrder.trans {s t u : State} (h : SameUpToOrder s t) (h' : SameUpToOrder t u) :
    SameUpToOrder s u :=
  ⟨h.1.trans h'.1, h.2.1.trans h'.2.1, h.2.2.1.trans h'.2.2.1, h.2.2.2.trans h'.2.2.2⟩

/-- A detach reads neither the order of the failed-handle list nor anything but its
list entry for the handle: from globals that agree up to that order it makes the same
reply and ends in globals that again agree up to it. -/
theorem detach_sameUpToOrder {s t : State} (h : SameUpToOrder s t) (env : DetachEnv)
    (handle : VMCIHandle) :
    (vmciQueuePairDetach s env handle).result = (vmciQueuePairDetach t env handle).result ∧
      (vmciQueuePairDetach s env handle).calls = (vmciQueuePairDetach t env handle).calls ∧
      SameUpToOrder (vmciQueuePairDetach s env handle).state (vmciQueuePairDetach t env handle).state := by
  obtain ⟨r, f, u, calls, -, hd⟩ := detach_effect env handle (queuePairListFindEntry s.head handle)
  rw [hd s rfl, hd t (h.1 ▸ rfl)]
  refine ⟨rfl, rfl, congrArg f h.1, h.2.1, h.2.2.1, ?_⟩
  cases u
  · exact h.2.2.2
  · exact h.2.2.2.erase handle

theorem lockSerial_detaches_sameUpToOrder (ds : List (DetachEnv × VMCIHandle)) :
    ∀ {s t : State}, SameUpToOrder s t →
      SameUpToOrder (lockSerial s (ds.map fun d => .detach d.1 d.2)).1
        (lockSerial t (ds.map fun d => .detach d.1 d.2)).1 := by
  induction ds with
  | nil => exact id
  | cons d ds ih => exact fun h => ih (detach_sameUpToOrder h d.1 d.2).2.2

/-! ### Detaches of distinct handles -/

/-- Two detaches of distinct handles: each gets, after the other, the reply it gets alone,
and the two orders end in the same globals up to the order of the failed-handle list. -/
theorem detach_detach {h1 h2 : VMCIHandle} (hne : h1 ≠ h2) (s : State) (env1 env2 : DetachEnv) :
    (vmciQueuePairDetach (vmciQueuePairDetach s env1 h1).state env2 h2).result =
        (vmciQueuePairDetach s env2 h2).result ∧
      (vmciQueuePairDetach (vmciQueuePairDetach s env1 h1).state env2 h2).calls =
        (vmciQueuePairDetach s env2 h2).calls ∧
      SameUpToOrder (vmciQueuePairDetach (vmciQueuePairDetach s env1 h1).state env2 h2).state
        (vmciQueuePairDetach (vmciQueuePairDetach s env2 h2).state env1 h1).state := by
  obtain ⟨r1, f1, u1, c1, hw1, hd1⟩ := detach_effect env1 h1 (queuePairListFindEntry s.head h1)
  obtain ⟨r2, f2, u2, c2, hw2, hd2⟩ := detach_effect env2 h2 (queuePairListFindEntry s.head h2)
  rw [hd1 s rfl, hd2 s rfl, hd2 _ (by exact hw1.findEntry_of_ne hne s.head),
    hd1 _ (by exact hw2.findEntry_of_ne hne.symm s.head)]
  refine ⟨rfl, rfl, (hw1.comm hw2 hne s.head).symm, rfl, rfl, ?_⟩
  cases u1 <;> cases u2 <;> simp [List.erase_comm]

/-- Detaches of distinct handles, made one at a time: each gets the reply it gets alone
from where they all started, and every order of them ends in the same globals but for
the order of the failed-handle list. So the list lock may grant concurrent detaches of
distinct handles in any order. -/
theorem detaches_any_order (s : State) (ds : List (DetachEnv × VMCIHandle))
    (hd : (ds.map Prod.snd).Nodup) :
    (lockSerial s (ds.map fun d => .detach d.1 d.2)).2 =
        ds.map (fun d => ((LockOp.detach d.1 d.2).exec s).2) ∧
      ∀ ds' : List (DetachEnv × VMCIHandle), ds'.Perm ds →
        SameUpToOrder (lockSerial s (ds'.map fun d => .detach d.1 d.2)).1
          (lockSerial s (ds.map fun d => .detach d.1 d.2)).1 := by
  refine ⟨?_, fun ds' hp => ?_⟩
  · induction ds generalizing s with
    | nil => rfl
    | cons d ds ih =>
      obtain ⟨hnot, hd⟩ := List.nodup_cons.1 hd
      simp only [List.map_cons, lockSerial, List.cons.injEq, true_and]
      rw [ih _ hd]
      refine List.map_congr_left fun d' hd' => ?_
      have hne : d.2 ≠ d'.2 := fun h => hnot (h ▸ List.mem_map_of_mem _ hd')
      obtain ⟨h1, h2, -⟩ := detach_detach hne s d.1 d'.1
      simp only [LockOp.exec, h1, h2]
  · induction hp generalizing s with
    | nil => exact .refl _
    | cons d _ ih => exact ih _ (List.nodup_cons.1 hd).2
    | swap d d' l =>
      have hne : d'.2 ≠ d.2 := fun h => (List.nodup_cons.1 hd).1 (by simp [h])
      exact lockSerial_detaches_sameUpToOrder l (detach_detach hne s d'.1 d.1).2.2
    | trans _ h23 ih12 ih23 => exact (ih12 s ((h23.map Prod.snd).nodup_iff.2 hd)).trans (ih23 s hd)

/-- The detach of the hibernate-failed queue pair and of a handle no entry has. -/
theorem detaches_any_order_stale :
    ([((⟨5, 0, 0⟩ : DetachEnv), (⟨5, 2000⟩ : VMCIHandle)), (⟨5, 0, 0⟩, ⟨5, 1⟩)].map Prod.snd).Nodup ∧
      (lockSerial (Op.run initState (staleHandleRun.take 2))
          ([((⟨5, 0, 0⟩ : DetachEnv), (⟨5, 2000⟩ : VMCIHandle)), (⟨5, 0, 0⟩, ⟨5, 1⟩)].map
            fun d => .detach d.1 d.2)).2 =
        [((⟨5, 0, 0⟩ : DetachEnv), (⟨5, 2000⟩ : VMCIHandle)), (⟨5, 0, 0⟩, ⟨5, 1⟩)].map
          (fun d => ((LockOp.detach d.1 d.2).exec (Op.run initState (staleHandleRun.take 2))).2) ∧
      ∀ ds' : List (DetachEnv × VMCIHandle),
        ds'.Perm [((⟨5, 0, 0⟩ : DetachEnv), (⟨5, 2000⟩ : VMCIHandle)), (⟨5, 0, 0⟩, ⟨5, 1⟩)] →
        SameUpToOrder (lockSerial (Op.run initState (staleHandleRun.take 2)) (ds'.map fun d => .detach d.1 d.2)).1
          (lockSerial (Op.run initState (staleHandleRun.take 2))
            ([((⟨5, 0, 0⟩ : DetachEnv), (⟨5, 2000⟩ : VMCIHandle)), (⟨5, 0, 0⟩, ⟨5, 1⟩)].map
              fun d => .detach d.1 d.2)).1 :=
  ⟨by decide, detaches_any_order _ _ (by decide)⟩

end VMCIQueuePair
