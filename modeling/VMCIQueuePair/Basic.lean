import Mathlib.Data.UInt
import Mathlib.Data.List.Basic

/-! The data model of the guest queue-pair driver (`vmciQueuePair.c`): context and
resource ids, handles, queue-pair flags, result codes, the `QueuePairEntry` record, the
driver's globals, and the calls the driver makes to its collaborators (queue and PPN
allocation, datagrams to the hypervisor, local event dispatch, queue conversion). Ids
and flags keep the code's widths (`uint32`, `uint64`); result codes are `Int`, so a
collaborator may answer any value at all. Pointers to queues, queue buffers and PPN sets
are opaque names. -/

namespace VMCIQueuePair

/-- `VMCIId`: a 32-bit context or resource id. -/
abbrev VMCIId := UInt32

/-- `VMCIHandle`: a (context id, resource id) pair. -/
structure VMCIHandle where
  context : VMCIId
  resource : VMCIId
  deriving DecidableEq, Repr

/-- Modelled from the spec: `VMCI_INVALID_ID` comes from `vmci_defs.h`, not under src/;
it is the all-ones id. -/
def vmciInvalidId : VMCIId := 0xFFFFFFFF

/-- `VMCI_INVALID_HANDLE`, the sentinel that asks for an auto-assigned resource id. -/
def vmciInvalidHandle : VMCIHandle := ⟨vmciInvalidId, vmciInvalidId⟩

/-- Modelled from the spec: `VMCI_RESERVED_RESOURCE_ID_MAX` comes from `vmci_defs.h`;
resource ids `0 ..= 1023` are reserved and never auto-assigned. -/
def vmciReservedResourceIdMax : VMCIId := 1023

/-! ### Flags -/

/-- Modelled from the spec: `VMCI_QPFLAG_ATTACH_ONLY`, from `vmci_defs.h`. -/
def vmciQPFlagAttachOnly : UInt32 := 0x1

/-- Modelled from the spec: `VMCI_QPFLAG_LOCAL`, from `vmci_defs.h`. -/
def vmciQPFlagLocal : UInt32 := 0x2

/-- Modelled from the spec: `VMCI_QP_ALL_FLAGS`, the allow-list `LOCAL | ATTACH_ONLY`. -/
def vmciQPAllFlags : UInt32 := vmciQPFlagAttachOnly ||| vmciQPFlagLocal

/-- Modelled from the spec: `VMCI_NO_PRIVILEGE_FLAGS`, the empty privilege set. -/
def vmciNoPrivilegeFlags : UInt32 := 0

/-- The test `flags & VMCI_QPFLAG_LOCAL` of the code. -/
def isLocal (flags : UInt32) : Bool := flags &&& vmciQPFlagLocal != 0

theorem isLocal_or_local (f : UInt32) : isLocal (f ||| vmciQPFlagLocal) = true := by
  have h : (f ||| vmciQPFlagLocal) &&& vmciQPFlagLocal = vmciQPFlagLocal := by
    apply UInt32.eq_of_toBitVec_eq
    show (f.toBitVec ||| vmciQPFlagLocal.toBitVec) &&& vmciQPFlagLocal.toBitVec = _
    apply BitVec.eq_of_getLsbD_eq
    intro i
    simp only [BitVec.getLsbD_and, BitVec.getLsbD_or]
    cases f.toBitVec.getLsbD i <;> simp
  simp [isLocal, h]
  decide

/-! ### Result codes -/

/-- Modelled from the spec: the result codes come from `vmci_defs.h`, not under src/.
The spec names only their taxonomy; the code relies on success being `0` and every
error being negative and distinct. -/
def vmciSuccess : Int := 0
def vmciErrorInvalidArgs : Int := -2
def vmciErrorNoAccess : Int := -3
def vmciErrorNoMem : Int := -6
def vmciErrorNotFound : Int := -13
def vmciErrorAlreadyExists : Int := -16
def vmciErrorUnavailable : Int := -20
def vmciErrorQueuePairMismatch : Int := -23
def vmciErrorDeviceNotFound : Int := -37

/-- Modelled from the spec: `PAGE_SIZE` comes from `<asm/page.h>`; the spec's sizing
scenario (4096 bytes take one page) fixes it at 4096. -/
def pageSize : UInt64 := 4096

/-- `CEILING(x, y)`, computed in `uint64` as the code does: `(x + y - 1) / y`. -/
def ceiling (x y : UInt64) : UInt64 := (x + y - 1) / y

/-! ### Entries and the driver's globals -/

/-- A queue structure (`VMCIQueue *`), a queue's page buffer, and a PPN set, by name. -/
abbrev Queue := Nat
abbrev Buffer := Nat
abbrev PPNSet := Nat

/-- `QueuePairEntry`. `ppnSet` is `none` while the PPN set is zeroed (before
`VMCI_AllocPPNSet` fills it). -/
structure QueuePairEntry where
  handle : VMCIHandle
  peer : VMCIId
  flags : UInt32
  produceSize : UInt64
  consumeSize : UInt64
  numPPNs : UInt64
  ppnSet : Option PPNSet
  produceQ : Queue
  consumeQ : Queue
  refCount : UInt32
  hibernateFailure : Bool
  deriving DecidableEq, Repr

/-- The driver's globals: `queuePairList` (its entries, head first, and its `hibernate`
flag, only ever written 0 or 1), `hibernateFailedList`, and the static `queuePairRID`
counter of `QueuePairEntryCreate`. -/
structure State where
  head : List QueuePairEntry
  hibernate : Bool
  hibernateFailedList : List VMCIHandle
  queuePairRID : VMCIId
  deriving DecidableEq, Repr

/-! ### Calls to the collaborators -/

/-- The two datagrams the driver sends to the hypervisor. -/
inductive Datagram where
  | queuePairAlloc (handle : VMCIHandle) (peer : VMCIId) (flags : UInt32)
      (produceSize consumeSize numPPNs : UInt64) (ppnSet : Option PPNSet)
  | queuePairDetach (handle : VMCIHandle)
  deriving DecidableEq, Repr

inductive EventKind where
  | qpPeerAttach
  | qpPeerDetach
  deriving DecidableEq, Repr

/-- The queue-pair event `QueuePairNotifyPeerLocal` dispatches: its kind, the acting
peer's context id and the queue pair's handle. -/
structure EventMsg where
  event : EventKind
  peerId : VMCIId
  handle : VMCIHandle
  deriving DecidableEq, Repr

/-- One call of the driver to a collaborator, with the answer it got where the driver
reads one. A run of an operation produces the list of its calls in order. -/
inductive Call where
  | allocQueue (q : Queue)
  | freeQueue (q : Queue)
  | allocPPNSet (p : PPNSet)
  | freePPNSet (p : Option PPNSet)
  | sendDatagram (dg : Datagram) (result : Int)
  | dispatch (ev : EventMsg) (result : Int)
  | initQueueMutex (produceQ consumeQ : Queue)
  | initQueueHeader (q : Queue) (handle : VMCIHandle)
  | acquireQueueMutex (q : Queue)
  | releaseQueueMutex (q : Queue)
  | convertToLocalQueue (q : Queue) (result : Int) (old fresh : Buffer)
  | revertToNonLocalQueue (q : Queue) (old : Buffer)
  | freeQueueBuffer (b : Buffer)
  deriving DecidableEq, Repr

/-- The datagram a call sends, with the device's answer. -/
@[simp] def Call.datagram? : Call → Option (Datagram × Int)
  | .sendDatagram dg result => some (dg, result)
  | _ => none

/-- The datagrams among `calls`, in order, with the device's answers. -/
def sentDatagrams (calls : List Call) : List (Datagram × Int) :=
  calls.filterMap Call.datagram?

@[simp] theorem sentDatagrams_nil : sentDatagrams [] = [] := rfl

@[simp] theorem sentDatagrams_append (l l' : List Call) :
    sentDatagrams (l ++ l') = sentDatagrams l ++ sentDatagrams l' :=
  List.filterMap_append l l' _

@[simp] theorem sentDatagrams_cons (c : Call) (l : List Call) :
    sentDatagrams (c :: l) = (c.datagram?.toList) ++ sentDatagrams l := by
  cases c <;> rfl

end VMCIQueuePair
