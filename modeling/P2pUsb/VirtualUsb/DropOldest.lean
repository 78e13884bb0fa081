import P2pUsb.Library.BoundedQueue
import P2pUsb.VirtualUsb.ReportDelivery

/-! The receive buffer as a bounded queue: which reports enter it, which are dropped and
which are handed out, against its counters. -/
namespace P2pUsb
open BoundedQueue

namespace EndpointReceiveBuffer
variable {crc : List UInt8 → UInt32} {b c : EndpointReceiveBuffer} {a : BufferCall}

/-- What `store` does to the queue: a report that is kept drops the oldest one of a full
buffer. -/
def storeEvents (crc : List UInt8 → UInt32) (b : EndpointReceiveBuffer)
    (report : ReceivedReport) : List (QueueEvent ReceivedReport) :=
  if b.accepts crc report then
    (if b.maxSize ≤ b.reports.length then (b.reports.take 1).map .dropped else []) ++
      [.pushed report]
  else []

/-- One call on the buffer and what it does to the queue. -/
def queueCall (crc : List UInt8 → UInt32) (b : EndpointReceiveBuffer) :
    BufferCall → EndpointReceiveBuffer × List (QueueEvent ReceivedReport)
  | .store report nowUs => ((b.store crc report nowUs).2, b.storeEvents crc report)
  | .getMissingSequences nowUs => ((b.getMissingSequences nowUs).2, [])
  | .tryTake => (b.tryTake.2, b.tryTake.1.toList.map .popped)
  | .wake timedOut => ((b.wake timedOut).2, (b.wake timedOut).1.toList.map .popped)

end EndpointReceiveBuffer

def receiveQueue (crc : List UInt8 → UInt32) :
    Machine EndpointReceiveBuffer BufferCall (QueueEvent ReceivedReport) where
  step b a := some (b.queueCall crc a)

namespace EndpointReceiveBuffer
variable {crc : List UInt8 → UInt32} {b c : EndpointReceiveBuffer} {a : BufferCall}
  {out : List (QueueEvent ReceivedReport)}

/-- What a call makes of the queue and of the counters beside it. -/
inductive QueueDoes (b : EndpointReceiveBuffer) :
    EndpointReceiveBuffer → List (QueueEvent ReceivedReport) → Prop
  | push (c : EndpointReceiveBuffer) (report : ReceivedReport) (active : c.active = b.active)
      (size : c.maxSize = b.maxSize) (queue : c.reports = room b.maxSize b.reports ++ [report])
      (received : c.totalReceived = b.totalReceived + 1) (served : c.totalServed = b.totalServed) :
      QueueDoes b c ((overflow b.maxSize b.reports).map .dropped ++ [.pushed report])
  | pop (c : EndpointReceiveBuffer) (report : ReceivedReport) (active : c.active = b.active)
      (size : c.maxSize = b.maxSize) (queue : b.reports = report :: c.reports)
      (received : c.totalReceived = b.totalReceived) (served : c.totalServed = b.totalServed + 1) :
      QueueDoes b c [.popped report]
  | keep (c : EndpointReceiveBuffer) (active : c.active = b.active)
      (size : c.maxSize = b.maxSize) (queue : c.reports = b.reports)
      (received : c.totalReceived = b.totalReceived) (served : c.totalServed = b.totalServed) :
      QueueDoes b c []

theorem try_take_does (b : EndpointReceiveBuffer) :
    b.QueueDoes b.tryTake.2 (b.tryTake.1.toList.map .popped) := by
  rcases b.try_take_cases with empty | ⟨report, reports, front, taken⟩
  · rw [empty]
    exact .keep b rfl rfl rfl rfl rfl
  · rw [taken]
    exact .pop _ report rfl rfl front rfl rfl

theorem queue_call_does (crc : List UInt8 → UInt32) (b : EndpointReceiveBuffer)
    (a : BufferCall) : b.QueueDoes (b.queueCall crc a).1 (b.queueCall crc a).2 := by
  cases a with
  | store report nowUs =>
      cases accepted : b.accepts crc report with
      | true =>
          have events : b.storeEvents crc report =
              (overflow b.maxSize b.reports).map .dropped ++ [.pushed report] := by
            rw [storeEvents, accepted, if_pos rfl, overflow]
            split
            case isTrue => rfl
            case isFalse => rfl
          simp only [queueCall, events, store_accepted accepted]
          refine .push _ report accept_active accept_max_size accept_reports ?_ ?_
          · obtain ⟨_, _, _, tracked⟩ := b.track_eq report.seq nowUs
            simp only [accept, pushReport, updateLastContiguous, advance, tracked]
          · obtain ⟨_, _, _, tracked⟩ := b.track_eq report.seq nowUs
            simp only [accept, pushReport, updateLastContiguous, advance, tracked]
      | false =>
          obtain ⟨failures, refused⟩ := store_refused accepted nowUs
          simp only [queueCall, storeEvents, accepted, Bool.false_eq_true, if_false, refused]
          exact .keep _ rfl rfl rfl rfl rfl
  | getMissingSequences nowUs => exact .keep _ rfl rfl rfl rfl rfl
  | tryTake => exact b.try_take_does
  | wake timedOut =>
      rcases b.wake_cases timedOut with late | woken
      · rw [queueCall, late]
        exact .keep b rfl rfl rfl rfl rfl
      · rw [queueCall, woken]
        exact b.try_take_does

/-- Every call is at most one call on the bounded queue. -/
theorem QueueDoes.refines (step : b.QueueDoes c out) :
    (dropOldest b.maxSize).Reach b.reports out c.reports := by
  cases step with
  | push report active size queue received served =>
      rw [queue]
      exact .of_step (a := .push report) rfl
  | pop report active size queue received served =>
      rw [queue]
      exact .of_step (a := .pop) rfl
  | keep active size queue received served =>
      rw [queue]
      exact .start

/-- The two counters count what has entered and what has been handed out. -/
theorem QueueDoes.counts (step : b.QueueDoes c out) :
    c.totalReceived = b.totalReceived + (entered out).length ∧
      c.totalServed = b.totalServed + (delivered out).length := by
  cases step with
  | push report active size queue received served =>
      rw [received, served, entered_append, delivered_append, entered_dropped, delivered_dropped]
      exact ⟨rfl, rfl⟩
  | pop report active size queue received served => exact ⟨received, served⟩
  | keep active size queue received served => exact ⟨received, served⟩

theorem QueueDoes.unchanged (step : b.QueueDoes c out) :
    c.active = b.active ∧ c.maxSize = b.maxSize := by
  cases step with
  | push report active size queue received served => exact ⟨active, size⟩
  | pop report active size queue received served => exact ⟨active, size⟩
  | keep active size queue received served => exact ⟨active, size⟩

/-- A report is dropped for another one only. -/
theorem QueueDoes.drops (step : b.QueueDoes c out) {report : ReceivedReport}
    (dropped : .dropped report ∈ out) : report ∈ overflow b.maxSize b.reports := by
  cases step with
  | push new active size queue received served =>
      rcases List.mem_append.mp dropped with lost | pushed
      · obtain ⟨old, present, same⟩ := List.mem_map.mp lost
        exact QueueEvent.dropped.inj same ▸ present
      · cases List.mem_singleton.mp pushed
  | pop new active size queue received served => cases List.mem_singleton.mp dropped
  | keep active size queue received served => exact absurd dropped List.not_mem_nil

/-- A new buffer, once it has been activated, is the bounded queue that drops its oldest
report: what has entered is what has left, handed out or dropped, and then what waits. -/
theorem receive_buffer_drops_oldest {endpoint : UInt8} {maxSize : Nat} {startSeq : UInt64}
    {tr : List (QueueEvent ReceivedReport)} (positive : 1 ≤ maxSize)
    (run : (receiveQueue crc).Reach ((new endpoint maxSize).activate startSeq) tr b) :
    (dropOldest maxSize).Reach [] tr b.reports ∧
    entered tr = departed tr ++ b.reports ∧
    (delivered tr).Sublist (departed tr) ∧
    b.reports.length ≤ maxSize ∧
    b.totalReceived = b.totalServed + b.reports.length + (lost tr).length ∧
    ∀ a c out, (receiveQueue crc).step b a = some (c, out) → ∀ report, .dropped report ∈ out →
      b.reports.head? = some report ∧ b.reports.length = maxSize := by
  obtain ⟨size, queue⟩ : b.maxSize = maxSize ∧ (dropOldest maxSize).Reach [] tr b.reports := by
    refine run.refines (f := reports) (I := fun b => b.maxSize = maxSize) rfl ?_
    rintro b a c out rfl - step
    obtain ⟨rfl, rfl⟩ := Prod.mk.inj (Option.some.inj step)
    have does := queue_call_does crc b a
    exact ⟨does.unchanged.2, does.refines⟩
  obtain ⟨received, served⟩ : b.totalReceived = (entered tr).length ∧
      b.totalServed = (delivered tr).length := by
    refine run.invariant (I := fun tr b => b.totalReceived = (entered tr).length ∧
      b.totalServed = (delivered tr).length) ⟨rfl, rfl⟩ ?_
    rintro tr b a c out ⟨received, served⟩ - step
    obtain ⟨rfl, rfl⟩ := Prod.mk.inj (Option.some.inj step)
    have counts := (queue_call_does crc b a).counts
    rw [entered_append, delivered_append, List.length_append, List.length_append, ← received,
      ← served]
    exact counts
  have all := entered_eq queue
  have bounded := length_le positive queue
  refine ⟨queue, all, delivered_sublist tr, bounded, ?_, fun a c out step report dropped => ?_⟩
  · have gone := length_departed tr
    rw [received, served, all, List.length_append, gone]
    omega
  · obtain ⟨rfl, rfl⟩ := Prod.mk.inj (Option.some.inj step)
    obtain ⟨oldest, full⟩ := mem_overflow ((queue_call_does crc b a).drops dropped)
    rw [size] at full
    exact ⟨oldest, Nat.le_antisymm bounded full⟩

/-- The second report drops the first one. -/
theorem receive_buffer_drops_oldest_of_one :
    ∃ b tr, (receiveQueue crc32).Reach ((new 0x81 1).activate 1) tr b ∧
      lost tr = [emptyReport 1] ∧ delivered tr = [emptyReport 2] ∧
      b.totalReceived = b.totalServed + b.reports.length + (lost tr).length := by
  have stored : (receiveQueue crc32).Reach ((new 0x81 1).activate 1) _ _ :=
    .next (.next .start (a := .store (emptyReport 1) 0) trivial rfl)
      (a := .store (emptyReport 2) 1) trivial rfl
  have run : (receiveQueue crc32).Reach ((new 0x81 1).activate 1) _ _ :=
    .next stored (a := .wake false) trivial rfl
  have accounted := (receive_buffer_drops_oldest (by decide) run).2.2.2.2.1
  exact ⟨_, _, run, by decide +kernel, by decide +kernel, accounted⟩

end EndpointReceiveBuffer
end P2pUsb
