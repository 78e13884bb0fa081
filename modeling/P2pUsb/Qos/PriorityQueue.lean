import P2pUsb.Library.BinaryHeap
import P2pUsb.Library.FiniteMap
import P2pUsb.Protocol.Types

/-! The queue of pending transfers. Each comparison of the heap reads the clock once for each of
the two requests. -/
namespace P2pUsb

/-- What a call reads from the clock, one reading after the other. -/
structure CallClock where
  start : Instant
  read : Nat → Instant
  finish : Instant
  forward : ∀ k, read k ≤ read (k + 1)
  inside : ∀ k, start ≤ read k ∧ read k ≤ finish

namespace CallClock

/-- A call during which the clock stands. -/
def still (now : Instant) : CallClock where
  start := now
  read _ := now
  finish := now
  forward _ := Nat.le_refl now
  inside _ := ⟨Nat.le_refl now, Nat.le_refl now⟩

/-- A call during which the clock goes on by one from each reading to the next, eight times. -/
def moving (now : Instant) : CallClock where
  start := now
  read k := now + min k 8
  finish := now + 8
  forward k := Nat.add_le_add_left (Nat.le_min.mpr
    ⟨Nat.le_trans (Nat.min_le_left k 8) (Nat.le_succ k), Nat.min_le_right k 8⟩) now
  inside k := ⟨Nat.le_add_right now _, Nat.add_le_add_left (Nat.min_le_right k 8) now⟩

theorem start_le (clock : CallClock) : clock.start ≤ clock.finish :=
  Nat.le_trans (clock.inside 0).1 (clock.inside 0).2

end CallClock

inductive Priority where
  | low | medium | high | critical
  deriving DecidableEq, Repr

namespace Priority

/-- The discriminants, by which priorities are compared. -/
def rank : Priority → Nat
  | .low => 0
  | .medium => 1
  | .high => 2
  | .critical => 3

def forDeviceClass : UInt8 → Priority
  | 0x03 => .high
  | 0x08 | 0x07 | 0x02 | 0x0A => .medium
  | 0x01 | 0x0E => .high
  | 0x0B => .medium
  | 0xE0 => .high
  | 0xFE | 0xFF => .low
  | _ => .medium

def forTransferType : TransferType → Priority
  | .control .. => .high
  | .interrupt .. => .high
  | .bulk .. => .medium
  | .isochronous .. => .high

def combined (devicePriority transferPriority : Priority) : Priority :=
  if devicePriority.rank ≥ transferPriority.rank then devicePriority else transferPriority

end Priority

structure PrioritizedRequest where
  request : UsbRequest
  clientId : String
  priority : Priority
  queuedAt : Instant
  estimatedBytes : Nat
  deriving DecidableEq, Repr

namespace PrioritizedRequest

def id (r : PrioritizedRequest) : RequestId := r.request.id

def handle (r : PrioritizedRequest) : DeviceHandle := r.request.handle

/-- `Instant::elapsed` -/
def waitTime (r : PrioritizedRequest) (now : Instant) : Duration := now - r.queuedAt

def effectivePriority (r : PrioritizedRequest) (now : Instant) : Priority :=
  if r.waitTime now > Duration.fromSecs 5 then
    match r.priority with
    | .low => .medium
    | .medium => .high
    | other => other
  else if r.waitTime now > Duration.fromSecs 10 then .high
  else r.priority

/-- Higher priority first, then the longer wait, each request as of the clock when it is its
turn. -/
def cmp (selfNow otherNow : Instant) (a b : PrioritizedRequest) : Ordering :=
  (compare (a.effectivePriority selfNow).rank (b.effectivePriority otherNow).rank).then
    (compare (a.waitTime selfNow) (b.waitTime otherNow))

/-- `a <= b`, the comparison number `n` of a call. -/
def le (clock : CallClock) (n : Nat) (a b : PrioritizedRequest) : Bool :=
  cmp (clock.read (2 * n)) (clock.read (2 * n + 1)) a b != .gt

end PrioritizedRequest

structure PriorityQueue where
  heap : Array PrioritizedRequest
  requestIds : AList fun _ : RequestId => Priority

namespace PriorityQueue

def new : PriorityQueue where
  heap := #[]
  requestIds := ∅

def push (queue : PriorityQueue) (clock : CallClock) (request : PrioritizedRequest) :
    PriorityQueue where
  requestIds := queue.requestIds.insert request.id request.priority
  heap := (BinaryHeap.push (PrioritizedRequest.le clock) 0 queue.heap request).1

def pop (queue : PriorityQueue) (clock : CallClock) : Option PrioritizedRequest × PriorityQueue :=
  match BinaryHeap.pop (PrioritizedRequest.le clock) queue.heap with
  | some (request, heap) =>
      (some request, { heap, requestIds := queue.requestIds.erase request.id })
  | none => (none, queue)

def contains (queue : PriorityQueue) (id : RequestId) : Bool := decide (id ∈ queue.requestIds)

/-- The loop of `remove` over the old heap: the last request of the id is kept aside. The number
is that of the next comparison. -/
def rebuild (clock : CallClock) (id : RequestId) :
    List PrioritizedRequest → Option PrioritizedRequest → Array PrioritizedRequest × Nat →
      Option PrioritizedRequest × Array PrioritizedRequest × Nat
  | [], removed, heap => (removed, heap)
  | request :: rest, removed, heap =>
      if request.id = id then rebuild clock id rest (some request) heap
      else rebuild clock id rest removed
        (BinaryHeap.push (PrioritizedRequest.le clock) heap.2 heap.1 request)

def remove (queue : PriorityQueue) (clock : CallClock) (n : Nat) (id : RequestId) :
    Option PrioritizedRequest × PriorityQueue × Nat :=
  if id ∈ queue.requestIds then
    let (removed, heap, n) := rebuild clock id queue.heap.toList none (#[], n)
    (removed, { heap, requestIds := queue.requestIds.erase id }, n)
  else (none, queue, n)

end PriorityQueue

/-- The scheduler of the manager is a part of its own. -/
structure QosManager where
  queue : PriorityQueue
  deviceClasses : AList fun _ : DeviceHandle => UInt8
  enabled : Bool

namespace QosManager

def new (enabled : Bool) : QosManager where
  queue := .new
  deviceClasses := ∅
  enabled := enabled

def registerDevice (m : QosManager) (handle : DeviceHandle) (deviceClass : UInt8) : QosManager :=
  { m with deviceClasses := m.deviceClasses.insert handle deviceClass }

def unregisterDevice (m : QosManager) (handle : DeviceHandle) : QosManager :=
  { m with deviceClasses := m.deviceClasses.erase handle }

def calculatePriority (m : QosManager) (request : UsbRequest) : Priority :=
  let devicePriority := ((m.deviceClasses.lookup request.handle).map Priority.forDeviceClass).getD
    .medium
  .combined devicePriority (.forTransferType request.transfer)

def estimateTransferSize : TransferType → Nat
  | .control _ _ _ _ data => 8 + data.length
  | .bulk _ data _ _ => data.length
  | .interrupt _ data _ => data.length
  | .isochronous _ data _ _ _ _ => data.length

/-- The request as it goes into the queue; `queuedAt` is read before the queue is locked. -/
def prioritize (m : QosManager) (queuedAt : Instant) (request : UsbRequest) (clientId : String) :
    PrioritizedRequest where
  request := request
  clientId := clientId
  priority := m.calculatePriority request
  queuedAt := queuedAt
  estimatedBytes := estimateTransferSize request.transfer

def enqueue (m : QosManager) (queuedAt : Instant) (clock : CallClock) (request : UsbRequest)
    (clientId : String) : QosManager :=
  if m.enabled then
    { m with queue := m.queue.push clock (m.prioritize queuedAt request clientId) }
  else m

def dequeue (m : QosManager) (clock : CallClock) : Option PrioritizedRequest × QosManager :=
  if m.enabled then ((m.queue.pop clock).1, { m with queue := (m.queue.pop clock).2 })
  else (none, m)

/-- What the caller gets is whether the first result is there. -/
def cancel (m : QosManager) (clock : CallClock) (requestId : RequestId) :
    Option PrioritizedRequest × QosManager :=
  ((m.queue.remove clock 0 requestId).1,
    { m with queue := (m.queue.remove clock 0 requestId).2.1 })

/-- The loop of `cancel_device`, with the requests that `remove` returns. -/
def removeAll (clock : CallClock) :
    List RequestId → PriorityQueue → Nat → List PrioritizedRequest × PriorityQueue
  | [], queue, _ => ([], queue)
  | id :: rest, queue, n =>
      let last := removeAll clock rest (queue.remove clock n id).2.1 (queue.remove clock n id).2.2
      ((queue.remove clock n id).1.toList ++ last.1, last.2)

def cancelDevice (m : QosManager) (clock : CallClock) (handle : DeviceHandle) :
    List PrioritizedRequest × QosManager :=
  let toRemove := (m.queue.heap.toList.filter fun r => r.handle = handle).map PrioritizedRequest.id
  let last := removeAll clock toRemove m.queue 0
  (last.1, { m with queue := last.2 })

end QosManager
end P2pUsb
