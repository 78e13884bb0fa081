import P2pUsb.Library.FiniteMap
import P2pUsb.VirtualUsb.Conversion
import P2pUsb.VirtualUsb.ReadLoop

/-! The socket bridge: its reader thread and the tasks spawned for the CMD_SUBMITs
it has read, interleaved at every access to what they share. -/
namespace P2pUsb

/-- How a task ends. -/
inductive TaskOutcome where
  | notAttached | submitFailed | stopped | unlinked | writeFailed | written
  deriving DecidableEq, Repr

/-- Where a task stands in `handle_cmd_submit_async`. -/
inductive TaskPhase where
  | spawned
  | queued
  | registered
  | inFlight
  | returned (result : Except String UsbResponse)
  | unregistered (response : UsbResponse)
  | runningChecked (response : UsbResponse)
  | unlinkChecked (response : UsbResponse)
  | sending (response : UsbResponse)
  | leaving (outcome : TaskOutcome)
  | ended (outcome : TaskOutcome)

structure SubmitTask where
  header : UsbIpHeader
  cmd : UsbIpCmdSubmit
  data : List UInt8
  phase : TaskPhase

namespace SubmitTask

def seqnum (t : SubmitTask) : UInt32 := t.header.seqnum

/-- The endpoint whose lock the task takes: every read but those of endpoint 0. -/
def lockedEndpoint (t : SubmitTask) : Option UInt8 :=
  if t.header.direction = 1 ∧ t.header.ep > 0 then some (t.header.ep ||| 0x80).toUInt8 else none

end SubmitTask

/-- Where the reader stands between two reads. -/
inductive ReaderPhase where
  | loop
  | reading
  | tracking (header : UsbIpHeader) (target : UInt32)
  | cancelling (header : UsbIpHeader) (target : UInt32)
  | answering (header : UsbIpHeader) (target : UInt32) (status : Int32)
  | ended
  deriving DecidableEq, Repr

/-- A pending transfer is kept as the task that holds the other end of its
cancellation channel. A lock is the queue of the tasks that asked for it, the
holder first: the asynchronous mutex is fair. -/
structure SocketBridge where
  devid : UInt32
  running : Bool
  reader : ReaderPhase
  tasks : List SubmitTask
  pendingTransfers : AList fun _ : UInt32 => Nat
  interruptEndpointLocks : AList fun _ : UInt8 => List Nat
  unlinkedSeqnums : List UInt32

/-- Steps of one task; those that wait for something outside carry its answer. -/
inductive TaskStep where
  | lock
  | register
  | submit (handle : Option DeviceHandle)
  | proxyReturn (result : Except String UsbResponse)
  | unregister
  | checkRunning
  | checkUnlinked
  | recheckRunning
  | write (failed : Option IoError)
  | dropGuard

inductive BridgeStep where
  | stop
  | check
  | read (result : Except ReadError UsbIpMessage)
  | track
  | cancel
  | answer (failed : Option IoError)
  | task (i : Nat) (step : TaskStep)

/-- What happens at the two sockets, at the proxy and at the endpoint locks. -/
inductive BridgeEvent where
  | submitRead (seqnum : UInt32)
  | unlinkRead (seqnum target : UInt32)
  | lockAsked (task : Nat) (endpoint : UInt8)
  | toProxy (task : Nat) (endpoint : Option UInt8) (request : UsbRequest)
  | retSubmit (task : Nat) (seqnum : UInt32) (message : List UInt8)
  | retUnlink (seqnum target : UInt32) (status : Int32)

namespace SocketBridge

def maxUnlinkedSeqnums : Nat := 100

def new (devid : UInt32) : SocketBridge := ⟨devid, true, .loop, [], ∅, ∅, []⟩

/-- Task `i` moves on. -/
def setPhase (s : SocketBridge) (i : Nat) (phase : TaskPhase) : SocketBridge :=
  { s with tasks := s.tasks.modify i fun t => { t with phase } }

def lockQueue (s : SocketBridge) (endpoint : UInt8) : List Nat :=
  (s.interruptEndpointLocks.lookup endpoint).getD []

/-- The map creates the lock of an endpoint when it is first asked for. -/
def setLockQueue (s : SocketBridge) (endpoint : UInt8) (queue : List Nat) : SocketBridge :=
  { s with interruptEndpointLocks := s.interruptEndpointLocks.insert endpoint queue }

/-- A set without duplicates. -/
def trackUnlinked (unlinked : List UInt32) (target : UInt32) : List UInt32 :=
  let unlinked := if unlinked.length ≥ maxUnlinkedSeqnums then [] else unlinked
  if target ∈ unlinked then unlinked else target :: unlinked

def registerTransfer (s : SocketBridge) (i : Nat) (t : SubmitTask) : SocketBridge :=
  { s with pendingTransfers := s.pendingTransfers.insert t.seqnum i }.setPhase i .registered

/-- Releases the lock of the task if it has one. -/
def dropGuard (s : SocketBridge) (i : Nat) (t : SubmitTask) : SocketBridge :=
  match t.lockedEndpoint with
  | some endpoint => s.setLockQueue endpoint ((s.lockQueue endpoint).erase i)
  | none => s

/-- `handle_cmd_submit_async`, cut where it waits or touches what is shared. -/
def taskStep (s : SocketBridge) (i : Nat) (t : SubmitTask) :
    TaskStep → Option (SocketBridge × List BridgeEvent)
  | .lock =>
      match t.phase, t.lockedEndpoint with
      | .spawned, some endpoint =>
          some ((s.setLockQueue endpoint (s.lockQueue endpoint ++ [i])).setPhase i .queued,
            [.lockAsked i endpoint])
      | _, _ => none
  | .register =>
      match t.phase, t.lockedEndpoint with
      | .spawned, none => some (s.registerTransfer i t, [])
      | .queued, some endpoint =>
          if (s.lockQueue endpoint).head? = some i then some (s.registerTransfer i t, []) else none
      | _, _ => none
  | .submit handle =>
      match t.phase with
      | .registered =>
          match usbipToUsbRequest handle t.header t.cmd t.data with
          | .error _ => some (s.setPhase i (.leaving .notAttached), [])
          | .ok request =>
              some (s.setPhase i .inFlight, [.toProxy i t.lockedEndpoint request])
      | _ => none
  | .proxyReturn result =>
      match t.phase with
      | .inFlight => some (s.setPhase i (.returned result), [])
      | _ => none
  | .unregister =>
      match t.phase with
      | .returned result =>
          let s := { s with pendingTransfers := s.pendingTransfers.erase t.seqnum }
          match result with
          | .error _ => some (s.setPhase i (.leaving .submitFailed), [])
          | .ok response => some (s.setPhase i (.unregistered response), [])
      | _ => none
  | .checkRunning =>
      match t.phase with
      | .unregistered response =>
          if s.running then some (s.setPhase i (.runningChecked response), [])
          else some (s.setPhase i (.leaving .stopped), [])
      | _ => none
  | .checkUnlinked =>
      match t.phase with
      | .runningChecked response =>
          if t.seqnum ∈ s.unlinkedSeqnums then
            some ({ s with unlinkedSeqnums := s.unlinkedSeqnums.erase t.seqnum }.setPhase i
              (.leaving .unlinked), [])
          else some (s.setPhase i (.unlinkChecked response), [])
      | _ => none
  | .recheckRunning =>
      match t.phase with
      | .unlinkChecked response =>
          if s.running then some (s.setPhase i (.sending response), [])
          else some (s.setPhase i (.leaving .stopped), [])
      | _ => none
  | .write failed =>
      match t.phase, failed with
      | .sending response, none =>
          some (s.setPhase i (.leaving .written),
            [.retSubmit i t.seqnum (retSubmitMessage s.devid t.header
              (convertResponse t.header t.cmd response))])
      | .sending _, some _ => some (s.setPhase i (.leaving .writeFailed), [])
      | _, _ => none
  | .dropGuard =>
      match t.phase with
      | .leaving outcome => some ((s.dropGuard i t).setPhase i (.ended outcome), [])
      | _ => none

/-- A message or an error of `read_usbip_message_blocking`, in the loop of
`run_blocking`. -/
def afterRead (s : SocketBridge) :
    Except ReadError UsbIpMessage → SocketBridge × List BridgeEvent
  | .ok (.submit header cmd data) =>
      ({ s with reader := .loop, tasks := s.tasks ++ [⟨header, cmd, data, .spawned⟩] },
        [.submitRead header.seqnum])
  | .ok (.unlink header cmd) =>
      ({ s with reader := .tracking header cmd.seqnumUnlink },
        [.unlinkRead header.seqnum cmd.seqnumUnlink])
  | .error e =>
      match onReadError e.display with
      | .stop => ({ s with reader := .ended, running := false }, [])
      | .retry => ({ s with reader := .loop }, [])

/-- The reader's own steps: `run_blocking` and `handle_cmd_unlink_blocking`. -/
def step (s : SocketBridge) : BridgeStep → Option (SocketBridge × List BridgeEvent)
  | .stop => some ({ s with running := false }, [])
  | .check =>
      match s.reader with
      | .loop => some ({ s with reader := if s.running then .reading else .ended }, [])
      | _ => none
  | .read result =>
      match s.reader with
      | .reading => some (s.afterRead result)
      | _ => none
  | .track =>
      match s.reader with
      | .tracking header target =>
          some ({ s with
            reader := .cancelling header target
            unlinkedSeqnums := trackUnlinked s.unlinkedSeqnums target }, [])
      | _ => none
  | .cancel =>
      match s.reader with
      | .cancelling header target =>
          let status := if target ∈ s.pendingTransfers then 0 else -2
          some ({ s with
            reader := .answering header target status
            pendingTransfers := s.pendingTransfers.erase target }, [])
      | _ => none
  | .answer failed =>
      match s.reader, failed with
      | .answering header target status, none =>
          some ({ s with reader := .loop }, [.retUnlink header.seqnum target status])
      | .answering _ _ _, some _ => some ({ s with reader := .loop }, [])
      | _, _ => none
  | .task i step => (s.tasks[i]?).bind fun t => s.taskStep i t step

/-- The bridge under every order of its steps. -/
def machine : Machine SocketBridge BridgeStep BridgeEvent where
  step := step

end SocketBridge
end P2pUsb
