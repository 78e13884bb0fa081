import P2pUsb.Library.Machine
import P2pUsb.Qos.PriorityQueue

/-! What enters the queue of the manager and what leaves it. As long as no two queued
requests have one id, each request leaves once, and the index of ids is in step with the
heap. -/
namespace P2pUsb

inductive QosCall where
  | enqueue (queuedAt : Instant) (clock : CallClock) (request : UsbRequest) (clientId : String)
  | dequeue (clock : CallClock)
  | cancel (clock : CallClock) (requestId : RequestId)
  | cancelDevice (clock : CallClock) (handle : DeviceHandle)
  | registerDevice (handle : DeviceHandle) (deviceClass : UInt8)
  | unregisterDevice (handle : DeviceHandle)

/-- What goes in and what comes out, with the call that took it out. -/
inductive QosEvent where
  | enqueued (r : PrioritizedRequest)
  | dequeued (r : PrioritizedRequest)
  | cancelled (requestId : RequestId) (r : PrioritizedRequest)
  | deviceCancelled (handle : DeviceHandle) (r : PrioritizedRequest)

namespace QosEvent

def entered : QosEvent → Option PrioritizedRequest
  | .enqueued r => some r
  | _ => none

def left : QosEvent → Option PrioritizedRequest
  | .enqueued _ => none
  | .dequeued r => some r
  | .cancelled _ r => some r
  | .deviceCancelled _ r => some r

/-- A cancellation takes out what it is aimed at. -/
def Aimed : QosEvent → Prop
  | .cancelled requestId r => r.id = requestId
  | .deviceCancelled handle r => r.handle = handle
  | _ => True

end QosEvent

namespace QosManager

def step (m : QosManager) : QosCall → QosManager × List QosEvent
  | .enqueue queuedAt clock request clientId =>
      (m.enqueue queuedAt clock request clientId,
        if m.enabled then [.enqueued (m.prioritize queuedAt request clientId)] else [])
  | .dequeue clock => ((m.dequeue clock).2, ((m.dequeue clock).1.map QosEvent.dequeued).toList)
  | .cancel clock requestId =>
      ((m.cancel clock requestId).2, ((m.cancel clock requestId).1.map
        (.cancelled requestId)).toList)
  | .cancelDevice clock handle =>
      ((m.cancelDevice clock handle).2,
        (m.cancelDevice clock handle).1.map (.deviceCancelled handle))
  | .registerDevice handle deviceClass => (m.registerDevice handle deviceClass, [])
  | .unregisterDevice handle => (m.unregisterDevice handle, [])

/-- A request that is enqueued has an id that no queued request has. -/
def FreshId (m : QosManager) : QosCall → Prop
  | .enqueue _ _ request _ => ∀ r ∈ m.queue.heap.toList, r.id ≠ request.id
  | _ => True

instance (m : QosManager) (c : QosCall) : Decidable (m.FreshId c) :=
  match c with
  | .enqueue _ _ request _ =>
      inferInstanceAs (Decidable (∀ r ∈ m.queue.heap.toList, r.id ≠ request.id))
  | .dequeue _ | .cancel _ _ | .cancelDevice _ _ | .registerDevice _ _ | .unregisterDevice _ =>
      inferInstanceAs (Decidable True)

end QosManager

def qosCalls : Machine QosManager QosCall QosEvent where
  step m c := some (m.step c)

namespace PriorityQueue
variable {queue : PriorityQueue} {clock : CallClock} {n : Nat} {id : RequestId}
  {request : PrioritizedRequest}
  {elements : List PrioritizedRequest} {removed : Option PrioritizedRequest}
  {heap : Array PrioritizedRequest}

/-- The ids of the queued requests are different and are those of the index. -/
structure InStep (queue : PriorityQueue) : Prop where
  once : (queue.heap.toList.map PrioritizedRequest.id).Nodup
  index : ∀ id, id ∈ queue.requestIds ↔ ∃ r ∈ queue.heap.toList, r.id = id

theorem in_step_new : InStep new where
  once := List.nodup_nil
  index id := ⟨fun wrong => absurd wrong (AList.notMem_empty id), fun ⟨_, wrong, _⟩ =>
    nomatch wrong⟩

theorem push_heap (queue : PriorityQueue) (clock : CallClock) (request : PrioritizedRequest) :
    (queue.push clock request).heap.toList.Perm (request :: queue.heap.toList) :=
  BinaryHeap.push_perm _ _ _ _

theorem InStep.push (h : queue.InStep) (fresh : ∀ r ∈ queue.heap.toList, r.id ≠ request.id) :
    (queue.push clock request).InStep := by
  have moved := push_heap queue clock request
  constructor
  · rw [(moved.map PrioritizedRequest.id).nodup_iff, List.map_cons, List.nodup_cons]
    refine ⟨fun present => ?_, h.once⟩
    obtain ⟨r, queued, same⟩ := List.mem_map.mp present
    exact fresh r queued same
  · intro id
    change id ∈ queue.requestIds.insert request.id request.priority ↔ _
    rw [AList.mem_insert, h.index id]
    simp only [moved.mem_iff, List.mem_cons, exists_eq_or_imp]
    exact or_congr_left eq_comm

/-- A heap without one of the requests is in step with the index without its id. -/
theorem InStep.without (h : queue.InStep) {rest : Array PrioritizedRequest}
    (taken : queue.heap.toList.Perm (request :: rest.toList)) :
    InStep ⟨rest, queue.requestIds.erase request.id⟩ := by
  have once := h.once
  rw [(taken.map PrioritizedRequest.id).nodup_iff, List.map_cons, List.nodup_cons] at once
  refine ⟨once.2, fun id => ?_⟩
  rw [AList.mem_erase, h.index id]
  constructor
  · rintro ⟨other, r, present, rfl⟩
    rcases List.mem_cons.mp (taken.mem_iff.mp present) with rfl | kept
    · exact absurd rfl other
    · exact ⟨r, kept, rfl⟩
  · rintro ⟨r, present, rfl⟩
    refine ⟨fun same => once.1 ?_, r, taken.mem_iff.mpr (List.mem_cons_of_mem _ present), rfl⟩
    rw [← same]
    exact List.mem_map_of_mem present

theorem InStep.pop (h : queue.InStep) (clock : CallClock) :
    (queue.pop clock).2.InStep ∧
      queue.heap.toList.Perm ((queue.pop clock).1.toList ++ (queue.pop clock).2.heap.toList) := by
  rw [PriorityQueue.pop]
  split
  · rename_i r rest popped
    obtain ⟨-, taken⟩ := BinaryHeap.pop_some popped
    exact ⟨h.without taken, taken⟩
  · exact ⟨h, .refl _⟩

/-- The rebuilt heap has the other requests, whether or not ids are different. -/
theorem rebuild_heap (clock : CallClock) (id : RequestId) (elements : List PrioritizedRequest)
    (removed : Option PrioritizedRequest) (heap : Array PrioritizedRequest × Nat) :
    (rebuild clock id elements removed heap).2.1.toList.Perm
        ((elements.filter fun r => r.id ≠ id) ++ heap.1.toList) ∧
      (rebuild clock id elements removed heap).1 =
        ((elements.filter fun r => r.id = id).getLast?).or removed := by
  induction elements generalizing removed heap with
  | nil => exact ⟨.refl _, rfl⟩
  | cons r rest ih =>
      rw [rebuild]
      split
      case isTrue own =>
        obtain ⟨kept, last⟩ := ih (some r) heap
        rw [List.filter_cons_of_neg (by simpa using own),
          List.filter_cons_of_pos (by simpa using own)]
        refine ⟨kept, last.trans ?_⟩
        rw [List.getLast?_cons]
        cases (rest.filter fun r => r.id = id).getLast? <;> rfl
      case isFalse other =>
        obtain ⟨kept, last⟩ := ih removed
          (BinaryHeap.push (PrioritizedRequest.le clock) heap.2 heap.1 r)
        rw [List.filter_cons_of_pos (by simpa using other),
          List.filter_cons_of_neg (by simpa using other)]
        refine ⟨kept.trans ?_, last⟩
        refine ((BinaryHeap.push_perm _ heap.2 heap.1 r).append_left _).trans ?_
        exact List.perm_middle

/-- Where ids are different, one id stands for one request. -/
theorem filter_id (once : (elements.map PrioritizedRequest.id).Nodup)
    (present : request ∈ elements) :
    elements.filter (fun r => r.id = request.id) = [request] := by
  induction elements with
  | nil => cases present
  | cons r rest ih =>
      obtain ⟨absent, once⟩ := List.nodup_cons.mp once
      by_cases own : r.id = request.id
      · have here : request = r := by
          rcases List.mem_cons.mp present with same | later
          · exact same
          · exact absurd (own ▸ List.mem_map_of_mem later) absent
        subst here
        have others : rest.filter (fun r => r.id = request.id) = [] := by
          refine List.filter_eq_nil_iff.mpr fun other kept same => absent ?_
          rw [← of_decide_eq_true same]
          exact List.mem_map_of_mem kept
        rw [List.filter_cons_of_pos (by simp), others]
      · rw [List.filter_cons_of_neg (by simpa using own)]
        refine ih once ((List.mem_cons.mp present).resolve_left ?_)
        rintro rfl
        exact own rfl

/-- What `remove` keeps and what it returns. -/
theorem remove_heap (queue : PriorityQueue) (clock : CallClock) (n : Nat) (id : RequestId)
    (listed : id ∈ queue.requestIds) :
    (queue.remove clock n id).2.1.heap.toList.Perm (queue.heap.toList.filter fun r => r.id ≠ id) ∧
      (queue.remove clock n id).1 = (queue.heap.toList.filter fun r => r.id = id).getLast? ∧
      (queue.remove clock n id).2.1.requestIds = queue.requestIds.erase id := by
  obtain ⟨kept, last⟩ := rebuild_heap clock id queue.heap.toList none (#[], n)
  rw [remove, if_pos listed]
  exact ⟨kept.trans (by simp), last.trans (Option.or_none), rfl⟩

theorem InStep.remove (h : queue.InStep) (clock : CallClock) (n : Nat) (id : RequestId) :
    (queue.remove clock n id).2.1.InStep ∧
      queue.heap.toList.Perm ((queue.remove clock n id).1.toList ++
        (queue.remove clock n id).2.1.heap.toList) ∧
      (∀ r, (queue.remove clock n id).1 = some r → r.id = id) ∧
      ∀ r ∈ (queue.remove clock n id).2.1.heap.toList, r.id ≠ id := by
  by_cases listed : id ∈ queue.requestIds
  · obtain ⟨request, present, rfl⟩ := (h.index id).mp listed
    obtain ⟨kept, last, ids⟩ := remove_heap queue clock n request.id listed
    have only := filter_id h.once present
    rw [only, List.getLast?_singleton] at last
    have taken : queue.heap.toList.Perm
      (request :: (queue.remove clock n request.id).2.1.heap.toList) := by
      refine (List.filter_append_perm (fun r => decide (r.id = request.id)) _).symm.trans ?_
      rw [only]
      refine (List.Perm.cons request ?_)
      simpa using kept.symm
    refine ⟨?_, ?_, ?_, ?_⟩
    · have without := h.without taken
      rwa [← ids] at without
    · rw [last]
      exact taken
    · rintro r same
      rw [last] at same
      rw [Option.some.inj same]
    · intro r rest
      have other := (List.mem_filter.mp (kept.mem_iff.mp rest)).2
      simpa using other
  · rw [PriorityQueue.remove, if_neg listed]
    refine ⟨h, .refl _, nofun, fun r queued same => ?_⟩
    exact listed ((h.index id).mpr ⟨r, queued, same⟩)

end PriorityQueue

namespace QosManager
open PriorityQueue
variable {m : QosManager} {queue : PriorityQueue} {clock : CallClock} {n : Nat}
  {handle : DeviceHandle}
  {ids : List RequestId}

/-- Removing one id after the other: each request of these ids comes out, and no other. -/
theorem remove_all (h : queue.InStep) (clock : CallClock) (n : Nat) (ids : List RequestId) :
    (removeAll clock ids queue n).2.InStep ∧
      queue.heap.toList.Perm ((removeAll clock ids queue n).1 ++
        (removeAll clock ids queue n).2.heap.toList) ∧
      (∀ r ∈ (removeAll clock ids queue n).1, r.id ∈ ids) ∧
      ∀ r ∈ (removeAll clock ids queue n).2.heap.toList, r.id ∉ ids := by
  induction ids generalizing queue n with
  | nil => exact ⟨h, .refl _, nofun, fun _ _ => List.not_mem_nil⟩
  | cons id rest ih =>
      obtain ⟨step, taken, own, without⟩ := h.remove clock n id
      obtain ⟨last, others, aimed, kept⟩ := ih step (queue.remove clock n id).2.2
      refine ⟨last, ?_, ?_, ?_⟩
      · rw [removeAll, List.append_assoc]
        exact taken.trans (others.append_left _)
      · intro r out
        rcases List.mem_append.mp out with first | later
        · rw [own r (Option.mem_toList.mp first)]
          exact List.mem_cons_self
        · exact List.mem_cons_of_mem _ (aimed r later)
      · intro r queued
        refine List.not_mem_cons_of_ne_of_not_mem (without r ?_) (kept r queued)
        exact others.mem_iff.mpr (List.mem_append_right _ queued)

/-- Where ids are different, the ids of a device's requests stand for these requests. -/
theorem cancel_device_exact (h : m.queue.InStep) (clock : CallClock) (handle : DeviceHandle) :
    (m.cancelDevice clock handle).2.queue.InStep ∧
      m.queue.heap.toList.Perm ((m.cancelDevice clock handle).1 ++
        (m.cancelDevice clock handle).2.queue.heap.toList) ∧
      (∀ r ∈ (m.cancelDevice clock handle).1, r.handle = handle) ∧
      ∀ r ∈ (m.cancelDevice clock handle).2.queue.heap.toList, r.handle ≠ handle := by
  obtain ⟨step, taken, aimed, kept⟩ := remove_all h clock 0
    ((m.queue.heap.toList.filter fun r => r.handle = handle).map PrioritizedRequest.id)
  refine ⟨step, taken, fun r out => ?_, fun r queued own => ?_⟩
  · obtain ⟨other, found, same⟩ := List.mem_map.mp (aimed r out)
    obtain ⟨present, own⟩ := List.mem_filter.mp found
    have only := filter_id h.once present
    have inside : r ∈ m.queue.heap.toList.filter (fun r => r.id = other.id) :=
      List.mem_filter.mpr ⟨taken.mem_iff.mpr (List.mem_append_left _ out), by simpa using same.symm⟩
    rw [only, List.mem_singleton] at inside
    rw [inside]
    exact of_decide_eq_true own
  · refine kept r queued (List.mem_map_of_mem (List.mem_filter.mpr ⟨?_, by simpa using own⟩))
    exact taken.mem_iff.mpr (List.mem_append_right _ queued)

/-- The law of the queue: what came in has gone out once or is queued, cancellations take
what they are aimed at, all of it for a device, and the index tells which ids are queued. -/
structure QueueLaw (tr : List QosEvent) (m : QosManager) : Prop where
  conserved : (tr.filterMap QosEvent.entered).Perm
    (tr.filterMap QosEvent.left ++ m.queue.heap.toList)
  aimed : ∀ e ∈ tr, e.Aimed
  device : ∀ clock handle,
    (m.cancelDevice clock handle).1.Perm (m.queue.heap.toList.filter fun r => r.handle = handle) ∧
      (m.cancelDevice clock handle).2.queue.heap.toList.Perm
        (m.queue.heap.toList.filter fun r => r.handle ≠ handle)
  contains : ∀ id, m.queue.contains id = true ↔ ∃ r ∈ m.queue.heap.toList, r.id = id

/-- A list that is split by a test is split into what passes and what does not. -/
theorem perm_split {α : Type} {p : α → Bool} {all yes no : List α} (split : all.Perm (yes ++ no))
    (pass : ∀ x ∈ yes, p x = true) (fail : ∀ x ∈ no, p x = false) :
    yes.Perm (all.filter p) ∧ no.Perm (all.filter fun x => !p x) := by
  have passed := split.filter p
  have failed := split.filter fun x => !p x
  have noPass : no.filter p = [] := List.filter_eq_nil_iff.mpr fun x out => by simp [fail x out]
  have yesFail : yes.filter (fun x => !p x) = [] :=
    List.filter_eq_nil_iff.mpr fun x out => by simp [pass x out]
  have noFail : no.filter (fun x => !p x) = no :=
    List.filter_eq_self.mpr fun x out => by simp [fail x out]
  rw [List.filter_append, List.filter_eq_self.mpr pass, noPass, List.append_nil] at passed
  rw [List.filter_append, yesFail, noFail, List.nil_append] at failed
  exact ⟨passed.symm, failed.symm⟩

/-- The invariant that carries the law through a run. -/
structure QueueInv (tr : List QosEvent) (m : QosManager) : Prop where
  enabled : m.enabled = true
  inStep : m.queue.InStep
  conserved : (tr.filterMap QosEvent.entered).Perm
    (tr.filterMap QosEvent.left ++ m.queue.heap.toList)
  aimed : ∀ e ∈ tr, e.Aimed

theorem QueueInv.law {tr : List QosEvent} (h : QueueInv tr m) : QueueLaw tr m where
  conserved := h.conserved
  aimed := h.aimed
  contains id := by rw [PriorityQueue.contains, decide_eq_true_eq, h.inStep.index]
  device clock handle := by
    obtain ⟨-, split, out, kept⟩ := cancel_device_exact h.inStep clock handle
    have parts := perm_split (p := fun r : PrioritizedRequest => decide (r.handle = handle)) split
      (fun r removed => decide_eq_true (out r removed)) fun r queued =>
        decide_eq_false (kept r queued)
    simpa only [← decide_not] using parts

/-- Events that only report what left. -/
theorem left_events (report : PrioritizedRequest → QosEvent) (out : ∀ r, (report r).left = some r)
    (none : ∀ r, (report r).entered = none) (rs : List PrioritizedRequest) :
    (rs.map report).filterMap QosEvent.entered = [] ∧
      (rs.map report).filterMap QosEvent.left = rs := by
  rw [List.filterMap_map, List.filterMap_map]
  refine ⟨List.filterMap_eq_nil_iff.mpr fun r _ => none r, ?_⟩
  have same : QosEvent.left ∘ report = some := funext out
  rw [same, List.filterMap_some]

/-- What a call takes out of the queue and puts into it. -/
theorem step_moves (h : m.queue.InStep) (enabled : m.enabled = true) (c : QosCall)
    (fresh : m.FreshId c) :
    (m.step c).1.enabled = true ∧ (m.step c).1.queue.InStep ∧
      (m.queue.heap.toList ++ (m.step c).2.filterMap QosEvent.entered).Perm
        ((m.step c).2.filterMap QosEvent.left ++ (m.step c).1.queue.heap.toList) ∧
      ∀ e ∈ (m.step c).2, e.Aimed := by
  have single (report : PrioritizedRequest → QosEvent) (r : Option PrioritizedRequest) :
      (r.map report).toList = r.toList.map report := by
    cases r <;> rfl
  cases c with
  | enqueue queuedAt clock request clientId =>
      simp only [step, enqueue, enabled, if_true]
      refine ⟨trivial, h.push fresh, ?_, fun e only => ?_⟩
      · exact (List.perm_append_singleton _ _).trans (push_heap _ clock _).symm
      · rw [List.mem_singleton.mp only]
        trivial
  | dequeue clock =>
      obtain ⟨kept, taken⟩ := h.pop clock
      have events := left_events .dequeued (fun _ => rfl) (fun _ => rfl)
        (m.queue.pop clock).1.toList
      simp only [step, dequeue, enabled, if_true, single, events, List.append_nil]
      refine ⟨trivial, kept, taken, fun e out => ?_⟩
      obtain ⟨r, -, rfl⟩ := List.mem_map.mp out
      trivial
  | cancel clock requestId =>
      obtain ⟨kept, taken, own, -⟩ := h.remove clock 0 requestId
      have events := left_events (.cancelled requestId) (fun _ => rfl) (fun _ => rfl)
        (m.queue.remove clock 0 requestId).1.toList
      simp only [step, cancel, single, events, List.append_nil]
      refine ⟨enabled, kept, taken, fun e out => ?_⟩
      obtain ⟨r, removed, rfl⟩ := List.mem_map.mp out
      exact own r (Option.mem_toList.mp removed)
  | cancelDevice clock handle =>
      obtain ⟨kept, taken, own, -⟩ := cancel_device_exact h clock handle
      have events := left_events (.deviceCancelled handle) (fun _ => rfl) (fun _ => rfl)
        (m.cancelDevice clock handle).1
      simp only [step, events, List.append_nil]
      refine ⟨enabled, kept, taken, fun e out => ?_⟩
      obtain ⟨r, removed, rfl⟩ := List.mem_map.mp out
      exact own r removed
  | registerDevice handle deviceClass | unregisterDevice handle =>
      exact ⟨enabled, h, by simp [step, registerDevice, unregisterDevice], nofun⟩

theorem QueueInv.step {tr : List QosEvent} (h : QueueInv tr m) (c : QosCall) (fresh : m.FreshId c) :
    QueueInv (tr ++ (m.step c).2) (m.step c).1 := by
  obtain ⟨enabled, inStep, moved, aimed⟩ := step_moves h.inStep h.enabled c fresh
  refine ⟨enabled, inStep, ?_, fun e there => ?_⟩
  · rw [List.filterMap_append, List.filterMap_append, List.append_assoc]
    refine (h.conserved.append_right _).trans ?_
    rw [List.append_assoc]
    exact moved.append_left _
  · rcases List.mem_append.mp there with before | now
    · exact h.aimed e before
    · exact aimed e now

theorem queue_inv {tr : List QosEvent} (run : qosCalls.Exec QosManager.FreshId (new true) tr m) :
    QueueInv tr m := by
  refine run.invariant (I := QueueInv) ⟨rfl, in_step_new, .refl _, nofun⟩ ?_
  rintro tr s c t out inv fresh stepped
  obtain ⟨rfl, rfl⟩ := Prod.mk.inj (Option.some.inj stepped)
  exact inv.step c fresh

/-- How many queued requests have the id. -/
def queuedWith (queue : PriorityQueue) (id : RequestId) : Nat :=
  (queue.heap.toList.filter fun r => r.id = id).length

/-- `remove` takes out all requests of the id and returns one at most. -/
theorem remove_length (queue : PriorityQueue) (clock : CallClock) (n : Nat) (id : RequestId) :
    (queue.remove clock n id).1.toList.length + (queue.remove clock n id).2.1.heap.toList.length ≤
        queue.heap.toList.length ∧
      (id ∈ queue.requestIds → 2 ≤ queuedWith queue id →
        (queue.remove clock n id).1.toList.length +
          (queue.remove clock n id).2.1.heap.toList.length <
          queue.heap.toList.length) := by
  by_cases listed : id ∈ queue.requestIds
  · obtain ⟨kept, last, -⟩ := remove_heap queue clock n id listed
    have split := (List.filter_append_perm (fun r => decide (r.id = id))
      queue.heap.toList).length_eq
    have rest := kept.length_eq
    have single : (queue.remove clock n id).1.toList.length ≤ 1 ∧
        (queue.remove clock n id).1.toList.length ≤ queuedWith queue id := by
      rw [last, queuedWith]
      cases queue.heap.toList.filter fun r => r.id = id with
      | nil => exact ⟨Nat.zero_le 1, le_rfl⟩
      | cons r others => rw [List.getLast?_cons]; exact ⟨le_rfl, Nat.succ_le_succ (Nat.zero_le _)⟩
    simp only [List.length_append, ← decide_not] at split
    simp only [ne_eq] at rest
    rw [queuedWith] at single ⊢
    omega
  · rw [PriorityQueue.remove, if_neg listed]
    exact ⟨by simp, fun wrong => absurd wrong listed⟩

/-- Removing one id leaves the others listed and counted. -/
theorem remove_other (clock : CallClock) (n : Nat) {id first : RequestId} (other : id ≠ first)
    (listed : id ∈ queue.requestIds) :
    id ∈ (queue.remove clock n first).2.1.requestIds ∧
      queuedWith (queue.remove clock n first).2.1 id = queuedWith queue id := by
  by_cases firstListed : first ∈ queue.requestIds
  · obtain ⟨heap, -, index⟩ := remove_heap queue clock n first firstListed
    rw [index, AList.mem_erase, queuedWith, queuedWith, (heap.filter _).length_eq,
      List.filter_filter]
    refine ⟨⟨other, listed⟩, congrArg List.length (List.filter_congr fun r _ => ?_)⟩
    by_cases same : r.id = id
    · simp [same, other]
    · simp [same]
  · rw [PriorityQueue.remove, if_neg firstListed]
    exact ⟨listed, rfl⟩

theorem remove_all_length (queue : PriorityQueue) (clock : CallClock) (n : Nat)
    (ids : List RequestId) :
    (removeAll clock ids queue n).1.length + (removeAll clock ids queue n).2.heap.toList.length ≤
        queue.heap.toList.length ∧
      ∀ id ∈ ids, id ∈ queue.requestIds → 2 ≤ queuedWith queue id →
        (removeAll clock ids queue n).1.length +
          (removeAll clock ids queue n).2.heap.toList.length <
          queue.heap.toList.length := by
  induction ids generalizing queue n with
  | nil => exact ⟨by simp [removeAll], nofun⟩
  | cons first rest ih =>
      obtain ⟨fewer, strict⟩ := remove_length queue clock n first
      obtain ⟨later, strictLater⟩ := ih (queue.remove clock n first).2.1
        (queue.remove clock n first).2.2
      simp only [removeAll, List.length_append]
      refine ⟨by omega, fun id present listed twice => ?_⟩
      by_cases own : id = first
      · subst own
        have short := strict listed twice
        omega
      · obtain ⟨stillListed, stillTwice⟩ := remove_other clock n own listed
        have short := strictLater id ((List.mem_cons.mp present).resolve_left own) stillListed
          (stillTwice ▸ twice)
        omega

/-- While an id is queued twice, cancelling the device of one of its requests loses a request. -/
theorem twice_queued_breaks {tr : List QosEvent} {r : PrioritizedRequest}
    (queued : r ∈ m.queue.heap.toList) (listed : r.id ∈ m.queue.requestIds)
    (twice : 2 ≤ queuedWith m.queue r.id) : ¬ QueueLaw tr m := by
  intro law
  obtain ⟨out, kept⟩ := law.device (.still 0) r.handle
  have split := (List.filter_append_perm (fun x => decide (x.handle = r.handle))
    m.queue.heap.toList).length_eq
  have aimed : r.id ∈ (m.queue.heap.toList.filter fun x => x.handle = r.handle).map
      PrioritizedRequest.id :=
    List.mem_map_of_mem (List.mem_filter.mpr ⟨queued, decide_eq_true rfl⟩)
  have lost := (remove_all_length m.queue (.still 0) 0 _).2 r.id aimed listed twice
  have outLength := out.length_eq
  have keptLength := kept.length_eq
  simp only [List.length_append, ← decide_not] at split
  simp only [cancelDevice, ne_eq] at outLength keptLength
  omega

/-- After an id has been queued twice the law is broken. -/
theorem stale_id_breaks {tr : List QosEvent} (enabled : m.enabled = true) (c : QosCall)
    (stale : ¬ m.FreshId c) : ¬ QueueLaw tr (m.step c).1 := by
  cases c with
  | enqueue queuedAt clock request clientId =>
      simp only [FreshId, not_forall, not_not] at stale
      obtain ⟨old, present, same⟩ := stale
      simp only [step, enqueue, enabled, if_true]
      have moved := push_heap m.queue clock (m.prioritize queuedAt request clientId)
      refine twice_queued_breaks (r := m.prioritize queuedAt request clientId)
        (moved.mem_iff.mpr List.mem_cons_self) ((AList.mem_insert _).mpr (.inl rfl)) ?_
      rw [queuedWith, (moved.filter _).length_eq, List.filter_cons_of_pos (by simp),
        List.length_cons]
      refine Nat.succ_le_succ (List.length_pos_of_mem (List.mem_filter.mpr ⟨present, ?_⟩))
      exact decide_eq_true same
  | dequeue | cancel | cancelDevice | registerDevice | unregisterDevice =>
        exact absurd trivial stale

/-- In a run that enqueues no id that is queued already the law holds, and it goes on to
hold for exactly as long. -/
theorem qos_queue_law_iff {tr : List QosEvent}
    (run : qosCalls.Exec QosManager.FreshId (new true) tr m) :
    QueueLaw tr m ∧ ∀ c, QueueLaw (tr ++ (m.step c).2) (m.step c).1 ↔ m.FreshId c := by
  have inv := queue_inv run
  refine ⟨inv.law, fun c => ⟨fun law => ?_, fun fresh => (inv.step c fresh).law⟩⟩
  by_contra stale
  exact stale_id_breaks inv.enabled c stale law

/-- A bulk transfer; every client counts its requests from one. -/
def firstRequest (handle : DeviceHandle) : UsbRequest := ⟨⟨1⟩, handle, .bulk 1 [] 0 none⟩

/-- Two clients with requests for the devices of two handles, whose numbers are different: one
request is dequeued, one is cancelled, and one of the clients detaches its device. -/
def exampleCalls : List QosCall :=
  [.enqueue 0 (.moving 1) (firstRequest ⟨1⟩) "a",
    .enqueue 20 (.moving 21) ⟨⟨11⟩, ⟨2⟩, .interrupt 1 [] 0⟩ "b",
    .enqueue 40 (.moving 41) ⟨⟨2⟩, ⟨1⟩, .bulk 1 [] 0 none⟩ "a",
    .enqueue 60 (.moving 61) ⟨⟨12⟩, ⟨2⟩, .bulk 1 [] 0 none⟩ "b",
    .enqueue 80 (.moving 81) ⟨⟨13⟩, ⟨2⟩, .bulk 1 [] 0 none⟩ "b",
    .dequeue (.moving 101), .cancel (.moving 121) ⟨12⟩, .cancelDevice (.moving 141) ⟨1⟩]

theorem qos_queue_law_two_clients : ∃ tr m, QueueLaw tr m ∧
    (tr.filterMap QosEvent.left).map PrioritizedRequest.id = [⟨11⟩, ⟨12⟩, ⟨1⟩, ⟨2⟩] ∧
    m.queue.heap.toList.map PrioritizedRequest.id = [⟨13⟩] ∧
    m.queue.contains ⟨13⟩ = true ∧ m.queue.contains ⟨2⟩ = false := by
  have run : ((qosCalls.within FreshId).run (new true) exampleCalls).map (fun last =>
      ((last.2.filterMap QosEvent.left).map PrioritizedRequest.id,
        last.1.queue.heap.toList.map PrioritizedRequest.id)) =
      some ([⟨11⟩, ⟨12⟩, ⟨1⟩, ⟨2⟩], [⟨13⟩]) := by
    decide +kernel
  obtain ⟨⟨m, tr⟩, run, same⟩ := Option.map_eq_some_iff.mp run
  obtain ⟨left, queued⟩ := Prod.mk.inj same
  have law := (qos_queue_law_iff (.of_within .start run)).1
  have listed (id : RequestId) : m.queue.contains id = true ↔ id ∈ ([⟨13⟩] : List RequestId) := by
    rw [law.contains, ← queued, List.mem_map]
  refine ⟨tr, m, law, left, queued, (listed _).mpr (by decide), ?_⟩
  rw [← Bool.not_eq_true, listed]
  decide

/-- One client with its request queued, and then another. -/
def oneQueued : QosManager :=
  ((new true).step (.enqueue 0 (.still 0) (firstRequest ⟨1⟩) "a")).1

def twoQueued : QosManager :=
  (oneQueued.step (.enqueue 0 (.still 0) (firstRequest ⟨2⟩) "b")).1

/-- Both clients have queued their first request, and one of them detaches its device. -/
theorem cancel_device_loses :
    qosCalls.Reach (new true) [.enqueued ((new true).prioritize 0 (firstRequest ⟨1⟩) "a"),
        .enqueued (oneQueued.prioritize 0 (firstRequest ⟨2⟩) "b")] twoQueued ∧
      twoQueued.queue.heap.toList.map PrioritizedRequest.handle = [⟨1⟩, ⟨2⟩] ∧
      (twoQueued.cancelDevice (.still 0) ⟨1⟩).1.map PrioritizedRequest.handle = [⟨2⟩] ∧
      (twoQueued.cancelDevice (.still 0) ⟨1⟩).2.queue.heap = #[] ∧
      (twoQueued.dequeue (.still 0)).2.queue.heap.toList.map PrioritizedRequest.handle = [⟨2⟩] ∧
      (twoQueued.dequeue (.still 0)).2.queue.contains ⟨1⟩ = false ∧
      ∀ tr, ¬ QueueLaw tr twoQueued := by
  refine ⟨?_, by decide +kernel, by decide +kernel, by decide +kernel, by decide +kernel,
    by decide +kernel, fun tr => ?_⟩
  · have first : qosCalls.Reach (new true)
        ([] ++ [QosEvent.enqueued ((new true).prioritize 0 (firstRequest ⟨1⟩) "a")]) oneQueued :=
      .next .start (a := QosCall.enqueue 0 (.still 0) (firstRequest ⟨1⟩) "a") trivial rfl
    exact first.next (a := QosCall.enqueue 0 (.still 0) (firstRequest ⟨2⟩) "b") trivial rfl
  · exact stale_id_breaks (m := oneQueued) (by decide)
      (.enqueue 0 (.still 0) (firstRequest ⟨2⟩) "b") (by decide +kernel)

end QosManager
end P2pUsb
