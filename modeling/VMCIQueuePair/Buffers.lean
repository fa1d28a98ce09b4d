import VMCIQueuePair.Accounting

/-! The buffers behind the queues during the `toLocal` sweep of `VMCIQueuePair_Convert`.
`VMCI_ConvertToLocalQueue` installs a fresh local buffer in a queue and hands back the
one it held; `VMCI_RevertToNonLocalQueue` puts that one back and releases what the
queue holds; `VMCI_FreeQueueBuffer` releases a buffer. Each entry's calls touch only its
own two queues, so when the list's queues are distinct, every non-local entry ends
converted, its queues holding the new buffers and the old ones released, or failed,
its queues holding what they held before and every installed buffer released; its
queue mutex is taken and dropped once. -/

namespace VMCIQueuePair

/-- The buffer each queue holds, and the buffers released so far, in order. -/
structure Buffers where
  holds : Queue → Buffer
  freed : List Buffer

/-- Modelled from the spec: `VMCI_ConvertToLocalQueue`, `VMCI_RevertToNonLocalQueue` and
`VMCI_FreeQueueBuffer` (not under src/). A conversion that succeeds installs its fresh
buffer; a revert reinstalls the buffer it is given and releases the one the queue
held. -/
def Buffers.call (b : Buffers) : Call → Buffers
  | .convertToLocalQueue q result _ fresh =>
    if result = vmciSuccess then { b with holds := Function.update b.holds q fresh } else b
  | .revertToNonLocalQueue q old => ⟨Function.update b.holds q old, b.freed ++ [b.holds q]⟩
  | .freeQueueBuffer buf => { b with freed := b.freed ++ [buf] }
  | _ => b

/-- The calls run in order. -/
def Buffers.run (b : Buffers) (calls : List Call) : Buffers := calls.foldl Buffers.call b

/-- Modelled from the spec: a `VMCI_ConvertToLocalQueue` that succeeds returns the
buffer the queue held. -/
def ConvertAnswers : Buffers → List Call → Prop
  | _, [] => True
  | b, c :: cs =>
    (match c with
      | .convertToLocalQueue q result old _ => result = vmciSuccess → old = b.holds q
      | _ => True) ∧ ConvertAnswers (b.call c) cs

/-- The call, if it is a conversion that succeeded, returned the buffer the queue held
in `b`. -/
def Call.answeredIn (b : Buffers) : Call → Bool
  | .convertToLocalQueue q result old _ => result != vmciSuccess || old == b.holds q
  | _ => true

/-- `ConvertAnswers` as a check, so that it can be decided on given calls. -/
def convertAnswersB : Buffers → List Call → Bool
  | _, [] => true
  | b, c :: cs => c.answeredIn b && convertAnswersB (b.call c) cs

theorem convertAnswers_iff (b : Buffers) (calls : List Call) :
    ConvertAnswers b calls ↔ convertAnswersB b calls = true := by
  induction calls generalizing b with
  | nil => simp [ConvertAnswers, convertAnswersB]
  | cons c cs ih =>
    cases c <;> simp [ConvertAnswers, convertAnswersB, Call.answeredIn, ih, imp_iff_not_or]

instance (b : Buffers) (calls : List Call) : Decidable (ConvertAnswers b calls) :=
  decidable_of_iff _ (convertAnswers_iff b calls).symm

@[simp] theorem Buffers.run_nil (b : Buffers) : b.run [] = b := rfl

@[simp] theorem Buffers.run_cons (b : Buffers) (c : Call) (cs : List Call) :
    b.run (c :: cs) = (b.call c).run cs := rfl

theorem Buffers.run_append (b : Buffers) (l l' : List Call) : b.run (l ++ l') = (b.run l).run l' :=
  List.foldl_append _ _ _ _

end VMCIQueuePair
