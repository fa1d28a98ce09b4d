import VMCIQueuePair.Convert

/-! The page counts of a queue pair. `VMCIQueuePairAllocHelper` computes
`numProducePages` and `numConsumePages` as `CEILING(size, PAGE_SIZE) + 1`, and
`QueuePairEntryCreate` computes `numPPNs` as the two ceilings plus the two header pages,
all in `uint64`. `CEILING(x, y)` is `(x + y - 1) / y`, so for the `PAGE_SIZE - 1` largest
sizes the sum wraps and the ceiling is `0`; everywhere else the counts are exact, and the
sum of the two never wraps. `VMCIQueuePairAlloc_HyperCall` refuses a `numPPNs` of at most
`2`, which an admitted request reaches exactly when each size is `0` or wraps
(`page_counts_exact`). -/

namespace VMCIQueuePair

/-- `numProducePages` and `numConsumePages` of `VMCIQueuePairAllocHelper`, for `size` the
produce or the consume size: the queue's pages and its header page. The helper passes them
to `VMCI_AllocPPNSet`, whose answer the model takes from `AllocEnv`. -/
def numQueuePages (size : UInt64) : UInt64 := ceiling size pageSize + 1

/-- `uint64` addition is addition modulo `2^64`. -/
theorem toNat_add_uint64 (a b : UInt64) : (a + b).toNat = (a.toNat + b.toNat) % 2 ^ 64 :=
  BitVec.toNat_add _ _

/-- `CEILING(x, PAGE_SIZE)` reduces `x + PAGE_SIZE - 1` modulo `2^64` before dividing. -/
theorem ceiling_pageSize_toNat (x : UInt64) :
    (ceiling x pageSize).toNat = (x.toNat + 4095) % 2 ^ 64 / 4096 := by
  have hx : x.toBitVec.toNat = x.toNat := rfl
  show ((x.toBitVec + 4096#64 - 1#64) / 4096#64).toNat = _
  rw [BitVec.toNat_udiv, BitVec.toNat_sub, BitVec.toNat_add]
  simp only [BitVec.toNat_ofNat, hx, Nat.reducePow, Nat.reduceMod]
  omega

/-- A page count is at most `2^52`. -/
theorem ceiling_pageSize_le (x : UInt64) : (ceiling x pageSize).toNat ≤ 2 ^ 52 := by
  rw [ceiling_pageSize_toNat]; omega

/-- A queue's page count is `⌈size / PAGE_SIZE⌉ + 1` when `size + PAGE_SIZE - 1` does not
wrap, and a single page when it does. -/
theorem numQueuePages_toNat (size : UInt64) :
    (numQueuePages size).toNat =
      if size.toNat + 4095 < 2 ^ 64 then (size.toNat + 4095) / 4096 + 1 else 1 := by
  have hl : size.toNat < 2 ^ 64 := size.toNat_lt_size
  rw [numQueuePages, toNat_add_uint64, show (1 : UInt64).toNat = 1 from rfl, ceiling_pageSize_toNat]
  split_ifs with hs
  · rw [Nat.mod_eq_of_lt hs, Nat.mod_eq_of_lt (by omega)]
  · rw [Nat.mod_eq_of_lt (by omega)]; omega

/-- `numPPNs` of `QueuePairEntryCreate` is the sum of the two page counts, and the sum
does not wrap. -/
theorem numPPNs_eq (produceSize consumeSize : UInt64) :
    ceiling produceSize pageSize + ceiling consumeSize pageSize + 2 =
        numQueuePages produceSize + numQueuePages consumeSize ∧
      (ceiling produceSize pageSize + ceiling consumeSize pageSize + 2).toNat =
        (ceiling produceSize pageSize).toNat + (ceiling consumeSize pageSize).toNat + 2 := by
  have hp := ceiling_pageSize_le produceSize
  have hc := ceiling_pageSize_le consumeSize
  refine ⟨(add_add_add_comm (ceiling produceSize pageSize) 1 (ceiling consumeSize pageSize) 1).symm, ?_⟩
  rw [toNat_add_uint64, toNat_add_uint64]
  show (_ % _ + 2) % _ = _
  omega

/-- The `numPPNs <= 2` guard of `VMCIQueuePairAlloc_HyperCall` fires exactly when each size
is `0` or one whose ceiling wraps. -/
theorem numPPNs_le_two_iff (produceSize consumeSize : UInt64) :
    ceiling produceSize pageSize + ceiling consumeSize pageSize + 2 ≤ 2 ↔
      (produceSize.toNat = 0 ∨ 2 ^ 64 ≤ produceSize.toNat + 4095) ∧
        (consumeSize.toNat = 0 ∨ 2 ^ 64 ≤ consumeSize.toNat + 4095) := by
  have h := (numPPNs_eq produceSize consumeSize).2
  have hp := ceiling_pageSize_toNat produceSize
  have hc := ceiling_pageSize_toNat consumeSize
  have hpl := produceSize.toNat_lt_size
  have hcl := consumeSize.toNat_lt_size
  show (_ : UInt64).toNat ≤ 2 ↔ _
  rw [h]
  simp only [UInt64.size] at hpl hcl
  omega

/-- The page counts of every create: each queue's count is `⌈size / PAGE_SIZE⌉ + 1`
unless `size + PAGE_SIZE - 1` wraps, when it is a single page; the entry's `numPPNs` is the
sum of the two counts and does not wrap; and the hypercall's guard `numPPNs <= 2` fires
exactly when each size is `0` or wraps. -/
theorem page_counts_exact {head : List QueuePairEntry} {queuePairRID contextID rid' : VMCIId}
    {memOk hf : Bool} {handle : VMCIHandle} {peer : VMCIId} {flags : UInt32}
    {produceSize consumeSize : UInt64} {produceQ consumeQ : Queue} {e : QueuePairEntry}
    (hc : queuePairEntryCreate head queuePairRID contextID memOk hf handle peer flags
      produceSize consumeSize produceQ consumeQ = (some e, rid')) :
    (numQueuePages produceSize).toNat =
        (if produceSize.toNat + 4095 < 2 ^ 64 then (produceSize.toNat + 4095) / 4096 + 1 else 1) ∧
      (numQueuePages consumeSize).toNat =
        (if consumeSize.toNat + 4095 < 2 ^ 64 then (consumeSize.toNat + 4095) / 4096 + 1 else 1) ∧
      e.numPPNs = numQueuePages produceSize + numQueuePages consumeSize ∧
      e.numPPNs.toNat = (ceiling produceSize pageSize).toNat + (ceiling consumeSize pageSize).toNat + 2 ∧
      (e.numPPNs ≤ 2 ↔ (produceSize.toNat = 0 ∨ 2 ^ 64 ≤ produceSize.toNat + 4095) ∧
        (consumeSize.toNat = 0 ∨ 2 ^ 64 ≤ consumeSize.toNat + 4095)) := by
  obtain ⟨-, -, -, -, -, -, -, -, -, hn, -⟩ := entryCreate_some hc
  rw [hn]
  exact ⟨numQueuePages_toNat _, numQueuePages_toNat _, (numPPNs_eq _ _).1, (numPPNs_eq _ _).2,
    numPPNs_le_two_iff _ _⟩

/-- The create of the largest produce size beside a one-page consume queue: one produce
page, and `numPPNs = 3`. -/
theorem page_counts_exact_wrap :
    queuePairEntryCreate [] initialRID 5 true false vmciInvalidHandle vmciInvalidId 0
        0xFFFFFFFFFFFFFFFF 4096 1 2 =
      (some ⟨⟨5, 1024⟩, vmciInvalidId, 0, 0xFFFFFFFFFFFFFFFF, 4096, 3, none, 1, 2, 0, false⟩, 1025) ∧
    (numQueuePages 0xFFFFFFFFFFFFFFFF).toNat =
        (if (0xFFFFFFFFFFFFFFFF : UInt64).toNat + 4095 < 2 ^ 64 then
          ((0xFFFFFFFFFFFFFFFF : UInt64).toNat + 4095) / 4096 + 1 else 1) ∧
      (numQueuePages 4096).toNat =
        (if (4096 : UInt64).toNat + 4095 < 2 ^ 64 then ((4096 : UInt64).toNat + 4095) / 4096 + 1 else 1) ∧
      (3 : UInt64) = numQueuePages 0xFFFFFFFFFFFFFFFF + numQueuePages 4096 ∧
      (3 : UInt64).toNat = (ceiling 0xFFFFFFFFFFFFFFFF pageSize).toNat + (ceiling 4096 pageSize).toNat + 2 ∧
      ((3 : UInt64) ≤ 2 ↔ ((0xFFFFFFFFFFFFFFFF : UInt64).toNat = 0 ∨
          2 ^ 64 ≤ (0xFFFFFFFFFFFFFFFF : UInt64).toNat + 4095) ∧
        ((4096 : UInt64).toNat = 0 ∨ 2 ^ 64 ≤ (4096 : UInt64).toNat + 4095)) :=
  have hc : queuePairEntryCreate [] initialRID 5 true false vmciInvalidHandle vmciInvalidId 0
      0xFFFFFFFFFFFFFFFF 4096 1 2 =
        (some ⟨⟨5, 1024⟩, vmciInvalidId, 0, 0xFFFFFFFFFFFFFFFF, 4096, 3, none, 1, 2, 0, false⟩, 1025) := by
    decide
  ⟨hc, page_counts_exact hc⟩

/-- The largest produce size, admitted with an empty consume queue, gets one produce page
where `⌈size / PAGE_SIZE⌉ + 1 = 2^52 + 1`, and `numPPNs = 2`: every collaborator succeeds,
yet `VMCIQueuePair_Alloc` fails with `VMCI_ERROR_INVALID_ARGS` from the hypercall's guard,
before any datagram. With a one-page consume queue instead, `numPPNs = 3` and the create
succeeds, recording the produce size beside three pages. -/
theorem page_counts_wrap :
    AllocRequest.Admitted ⟨some vmciInvalidHandle, true, true, 0xFFFFFFFFFFFFFFFF, 0, vmciInvalidId, 0⟩ ∧
    (numQueuePages 0xFFFFFFFFFFFFFFFF).toNat = 1 ∧
    ((0xFFFFFFFFFFFFFFFF : UInt64).toNat + 4095) / 4096 + 1 = 2 ^ 52 + 1 ∧
    vmciQueuePairAlloc initState ⟨false, 5, 0, some 1, some 2, true, false, some 3, 0, true, 0, 0⟩
        ⟨some vmciInvalidHandle, true, true, 0xFFFFFFFFFFFFFFFF, 0, vmciInvalidId, 0⟩ =
      ⟨vmciErrorInvalidArgs, none, { initState with queuePairRID := initialRID + 1 },
        [.allocQueue 1, .allocQueue 2, .allocPPNSet 3, .freePPNSet (some 3), .freeQueue 1,
          .freeQueue 2]⟩ ∧
    (vmciQueuePairAlloc initState ⟨false, 5, 0, some 1, some 2, true, false, some 3, 0, true, 0, 0⟩
        ⟨some vmciInvalidHandle, true, true, 0xFFFFFFFFFFFFFFFF, 4096, vmciInvalidId, 0⟩).result =
      vmciSuccess ∧
    (vmciQueuePairAlloc initState ⟨false, 5, 0, some 1, some 2, true, false, some 3, 0, true, 0, 0⟩
        ⟨some vmciInvalidHandle, true, true, 0xFFFFFFFFFFFFFFFF, 4096, vmciInvalidId, 0⟩).state.head.map
        (fun e => (e.produceSize, e.consumeSize, e.numPPNs)) = [(0xFFFFFFFFFFFFFFFF, 4096, 3)] :=
  ⟨by decide, rfl, rfl, by decide, by decide, by decide⟩

end VMCIQueuePair
