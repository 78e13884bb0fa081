import P2pUsb.Library.BoundedQueue
import P2pUsb.VirtualUsb.ReceiveBuffer

/-! The server's buffer for the reports of one interrupt endpoint, with any number of
threads that push into it. A thread draws its number before it has the lock, so that
another one can overtake it. -/
namespace P2pUsb
open BoundedQueue

structure InterruptReport where
  seq : UInt64
  endpoint : UInt8
  data : List UInt8
  timestampUs : UInt64
  checksum : UInt32
  deriving DecidableEq, Repr

def InterruptReport.new (crc : List UInt8 → UInt32) (seq : UInt64) (endpoint : UInt8)
    (data : List UInt8) (timestampUs : UInt64) : InterruptReport where
  seq := seq
  endpoint := endpoint
  data := data
  timestampUs := timestampUs
  checksum := computeInterruptChecksum crc seq endpoint data timestampUs

def maxBufferedReports : Nat := 64

structure EndpointBuffer where
  endpoint : UInt8
  reports : List InterruptReport
  nextSeq : UInt64
  lastAckedSeq : UInt64
  totalReceived : Nat
  totalDropped : Nat
  maxSize : Nat
  deriving DecidableEq, Repr

namespace EndpointBuffer

def withCapacity (endpoint : UInt8) (capacity : Nat) : EndpointBuffer where
  endpoint := endpoint
  reports := []
  nextSeq := 0
  lastAckedSeq := 0
  totalReceived := 0
  totalDropped := 0
  maxSize := capacity

def new (endpoint : UInt8) : EndpointBuffer := withCapacity endpoint maxBufferedReports

/-- The first part of `push`, without the lock; the counter wraps. -/
def fetchSeq (crc : List UInt8 → UInt32) (b : EndpointBuffer) (data : List UInt8)
    (timestampUs : UInt64) : InterruptReport × EndpointBuffer :=
  (.new crc b.nextSeq b.endpoint data timestampUs, { b with nextSeq := b.nextSeq + 1 })

/-- The second part of `push`, under the lock. -/
def insert (b : EndpointBuffer) (report : InterruptReport) : EndpointBuffer :=
  let full : Bool := b.maxSize ≤ b.reports.length
  { b with
    reports := (if full then b.reports.drop 1 else b.reports) ++ [report]
    totalReceived := b.totalReceived + 1
    totalDropped := if full then b.totalDropped + 1 else b.totalDropped }

def tryPop (b : EndpointBuffer) : Option InterruptReport × EndpointBuffer :=
  match b.reports with
  | [] => (none, b)
  | report :: reports => (some report, { b with reports := reports })

def popAll (b : EndpointBuffer) : List InterruptReport × EndpointBuffer :=
  (b.reports, { b with reports := [] })

end EndpointBuffer

/-- The buffer with the reports whose threads wait for the lock, the number of threads that
wait for a report, and the reports that have been popped. -/
structure BufferThreads where
  buffer : EndpointBuffer
  pending : List InterruptReport
  waiting : Nat
  popped : List InterruptReport

inductive BufferStep where
  | fetchSeq (data : List UInt8) (timestampUs : UInt64)
  | insert (i : Nat)
  | tryPop
  | popTimeout
  | wake
  | popAll
  deriving DecidableEq, Repr

namespace BufferThreads

def start (endpoint : UInt8) (capacity : Nat) : BufferThreads :=
  ⟨.withCapacity endpoint capacity, [], 0, []⟩

def pop (s : BufferThreads) : BufferThreads × List (QueueEvent InterruptReport) :=
  ({ s with buffer := s.buffer.tryPop.2, popped := s.popped ++ s.buffer.tryPop.1.toList },
    s.buffer.tryPop.1.toList.map .popped)

end BufferThreads

/-- A thread in `pop_timeout` that finds the buffer empty waits, and pops what there is when
it wakes up. -/
def bufferThreads (crc : List UInt8 → UInt32) :
    Machine BufferThreads BufferStep (QueueEvent InterruptReport) where
  step s
    | .fetchSeq data timestampUs =>
        let (report, buffer) := s.buffer.fetchSeq crc data timestampUs
        some ({ s with buffer := buffer, pending := s.pending ++ [report] }, [])
    | .insert i => s.pending[i]?.map fun report =>
        ({ s with buffer := s.buffer.insert report, pending := s.pending.eraseIdx i },
          (if s.buffer.maxSize ≤ s.buffer.reports.length then
            (s.buffer.reports.take 1).map .dropped else []) ++ [.pushed report])
    | .tryPop => some s.pop
    | .popTimeout =>
        if s.buffer.reports.isEmpty then some ({ s with waiting := s.waiting + 1 }, [])
        else some s.pop
    | .wake =>
        if s.waiting = 0 then none
        else some { s with waiting := s.waiting - 1 }.pop
    | .popAll => some ({ s with
        buffer := s.buffer.popAll.2
        popped := s.popped ++ s.buffer.popAll.1 }, s.buffer.popAll.1.map .popped)

namespace BufferThreads
variable {crc : List UInt8 → UInt32} {s t : BufferThreads} {a : BufferStep}
  {out : List (QueueEvent InterruptReport)}

def Before (r q : InterruptReport) : Prop := r.seq < q.seq

instance (r q : InterruptReport) : Decidable (Before r q) :=
  inferInstanceAs (Decidable (r.seq < q.seq))

/-- A report goes in after every one that has been popped and every one that stays. -/
def InsertsLast (s : BufferThreads) : BufferStep → Prop
  | .insert i => ∀ report ∈ s.pending[i]?,
      ∀ q ∈ s.popped ++ room s.buffer.maxSize s.buffer.reports, Before q report
  | .fetchSeq _ _ | .tryPop | .popTimeout | .wake | .popAll => True

instance (s : BufferThreads) (a : BufferStep) : Decidable (s.InsertsLast a) :=
  match a with
  | .insert i => inferInstanceAs (Decidable (∀ report ∈ s.pending[i]?,
      ∀ q ∈ s.popped ++ room s.buffer.maxSize s.buffer.reports, Before q report))
  | .fetchSeq _ _ | .tryPop | .popTimeout | .wake | .popAll => .isTrue trivial

/-- What a step does to the queue. -/
inductive QueueStep (s : BufferThreads) (t : BufferThreads) :
    BufferStep → List (QueueEvent InterruptReport) → Prop
  | insert (i : Nat) (report : InterruptReport) (drawn : s.pending[i]? = some report)
      (popped : t.popped = s.popped)
      (queue : t.buffer.reports = room s.buffer.maxSize s.buffer.reports ++ [report]) :
      QueueStep s t (.insert i)
        ((overflow s.buffer.maxSize s.buffer.reports).map .dropped ++ [.pushed report])
  | pop (a : BufferStep) (reports : List InterruptReport) (other : s.InsertsLast a)
      (popped : t.popped = s.popped ++ reports)
      (queue : s.buffer.reports = reports ++ t.buffer.reports) :
      QueueStep s t a (reports.map .popped)

theorem try_pop_front (b : EndpointBuffer) :
    b.reports = b.tryPop.1.toList ++ b.tryPop.2.reports := by
  unfold EndpointBuffer.tryPop
  cases queue : b.reports with
  | nil => exact queue.symm
  | cons report reports => rfl

theorem pop_step (s : BufferThreads) (waiting : Nat) {a : BufferStep} (other : s.InsertsLast a) :
    QueueStep s { s with waiting := waiting }.pop.1 a { s with waiting := waiting }.pop.2 :=
  .pop a s.buffer.tryPop.1.toList other rfl (try_pop_front s.buffer)

theorem step_queue (step : (bufferThreads crc).step s a = some (t, out)) :
    QueueStep s t a out := by
  cases a with
  | fetchSeq data timestampUs =>
      obtain ⟨rfl, rfl⟩ := Prod.mk.inj (Option.some.inj step)
      exact .pop _ [] trivial (List.append_nil _).symm rfl
  | insert i =>
      obtain ⟨report, drawn, same⟩ := Option.map_eq_some_iff.mp step
      obtain ⟨rfl, rfl⟩ := Prod.mk.inj same
      have events : (if s.buffer.maxSize ≤ s.buffer.reports.length then
            (s.buffer.reports.take 1).map QueueEvent.dropped else []) =
          (overflow s.buffer.maxSize s.buffer.reports).map .dropped := by
        rw [overflow]
        split
        case isTrue => rfl
        case isFalse => rfl
      rw [events]
      refine .insert i report drawn rfl ?_
      simp only [EndpointBuffer.insert, room, decide_eq_true_eq]
  | tryPop =>
      obtain ⟨rfl, rfl⟩ := Prod.mk.inj (Option.some.inj step)
      exact s.pop_step s.waiting trivial
  | popTimeout =>
      simp only [bufferThreads] at step
      split at step
      case isTrue =>
        obtain ⟨rfl, rfl⟩ := Prod.mk.inj (Option.some.inj step)
        exact .pop _ [] trivial (List.append_nil _).symm rfl
      case isFalse =>
        obtain ⟨rfl, rfl⟩ := Prod.mk.inj (Option.some.inj step)
        exact s.pop_step s.waiting trivial
  | wake =>
      simp only [bufferThreads] at step
      split at step
      case isTrue => cases step
      case isFalse =>
        obtain ⟨rfl, rfl⟩ := Prod.mk.inj (Option.some.inj step)
        exact s.pop_step _ trivial
  | popAll =>
      obtain ⟨rfl, rfl⟩ := Prod.mk.inj (Option.some.inj step)
      exact .pop _ s.buffer.reports trivial rfl (List.append_nil _).symm

/-- The reports that have been popped, and then those that wait, are in order. -/
def Ordered (s : BufferThreads) : Prop := (s.popped ++ s.buffer.reports).Pairwise Before

theorem Ordered.step (hs : s.Ordered) (step : QueueStep s t a out) (last : s.InsertsLast a) :
    t.Ordered := by
  cases step with
  | insert i report drawn popped queue =>
      rw [Ordered, popped, queue]
      exact pairwise_push hs (last report drawn)
  | pop _ reports other popped queue =>
      rw [Ordered, popped, List.append_assoc, ← queue]
      exact hs

/-- What is dropped comes before all others that wait. -/
theorem dropped_least (hs : s.Ordered) (step : QueueStep s t a out) {report : InterruptReport}
    (dropped : .dropped report ∈ out) :
    ∀ q ∈ s.buffer.reports, q = report ∨ Before report q := by
  have queue := (List.pairwise_append.mp hs).2.1
  cases step with
  | insert i new drawn popped _ =>
      rcases List.mem_append.mp dropped with lost | pushed
      · obtain ⟨old, present, same⟩ := List.mem_map.mp lost
        rw [← QueueEvent.dropped.inj same]
        exact overflow_least queue present
      · cases List.mem_singleton.mp pushed
  | pop _ reports other popped _ =>
      obtain ⟨old, -, same⟩ := List.mem_map.mp dropped
      cases same

/-- While every report goes in last, they leave in order, and the first one of a full buffer
is dropped. One that goes in before its turn is popped out of order, once everything is
popped. -/
theorem reports_in_order {endpoint : UInt8} {capacity : Nat}
    {tr : List (QueueEvent InterruptReport)}
    (run : (bufferThreads crc).Exec (fun s a => s.InsertsLast a) (start endpoint capacity) tr s) :
    s.popped.Pairwise Before ∧
    (∀ a t out, (bufferThreads crc).step s a = some (t, out) → ∀ report,
      .dropped report ∈ out → ∀ q ∈ s.buffer.reports, q = report ∨ Before report q) ∧
    ∀ a t out, (bufferThreads crc).step s a = some (t, out) → ¬ s.InsertsLast a →
      ∃ u rest, (bufferThreads crc).Reach t rest u ∧ ¬ u.popped.Pairwise Before := by
  have ordered : s.Ordered := by
    have first : (start endpoint capacity).Ordered := List.Pairwise.nil
    refine run.stateInvariant first ?_
    intro s a t out hs last step
    exact hs.step (step_queue step) last
  refine ⟨(List.pairwise_append.mp ordered).1, fun a t out step report dropped =>
    dropped_least ordered (step_queue step) dropped, fun a t out step early => ?_⟩
  have drain : (bufferThreads crc).Reach t _ _ := .of_step (a := .popAll) rfl
  refine ⟨_, _, drain, fun sorted => early ?_⟩
  cases step_queue step with
  | insert i report drawn popped queue =>
      intro late found q before
      obtain rfl := Option.some.inj (drawn.symm.trans found)
      have all : (s.popped ++ room s.buffer.maxSize s.buffer.reports ++ [report]).Pairwise
          Before := by
        rw [List.append_assoc, ← queue, ← popped]
        exact sorted
      exact (List.pairwise_append.mp all).2.2 q before report List.mem_cons_self
  | pop _ reports other popped queue => exact other

/-- Three threads with a buffer of two reports: the third one drops a report, two are popped. -/
theorem reports_in_order_in_turn :
    ∃ s tr, (bufferThreads crc32).Exec (fun s a => s.InsertsLast a) (start 0x81 2) tr s ∧
      s.popped.map (·.seq) = [1, 2] ∧ s.buffer.totalDropped = 1 ∧ s.popped.Pairwise Before := by
  have drawn : (bufferThreads crc32).Exec (fun s a => s.InsertsLast a) (start 0x81 2) _ _ :=
    .next (.next (.next .start (a := .fetchSeq [1] 0) (by trivial) rfl)
      (a := .fetchSeq [2] 1) (by trivial) rfl) (a := .fetchSeq [3] 2) (by trivial) rfl
  have pushed : (bufferThreads crc32).Exec (fun s a => s.InsertsLast a) (start 0x81 2) _ _ :=
    .next (.next drawn (a := .insert 0) (by decide +kernel) rfl)
      (a := .insert 0) (by decide +kernel) rfl
  have overflowed : (bufferThreads crc32).Exec (fun s a => s.InsertsLast a) (start 0x81 2) _ _ :=
    .next pushed (a := .insert 0) (by decide +kernel) rfl
  have run : (bufferThreads crc32).Exec (fun s a => s.InsertsLast a) (start 0x81 2) _ _ :=
    .next (.next overflowed (a := .tryPop) (by trivial) rfl) (a := .tryPop) (by trivial) rfl
  exact ⟨_, _, run, by decide +kernel, by decide +kernel, (reports_in_order run).1⟩

/-- The second thread has its number after the first one, and the lock before it. -/
theorem overtaken_report_is_late :
    ∃ s tr, (bufferThreads crc32).Reach (start 0x81 64) tr s ∧
      s.popped.map (·.seq) = [1, 0] ∧ ¬ s.popped.Pairwise Before := by
  have drawn : (bufferThreads crc32).Reach (start 0x81 64) _ _ :=
    .next (.next .start (a := .fetchSeq [] 0) trivial rfl) (a := .fetchSeq [] 0) trivial rfl
  have run : (bufferThreads crc32).Reach (start 0x81 64) _ _ :=
    .next (.next (.next drawn (a := .insert 1) trivial rfl) (a := .insert 0) trivial rfl)
      (a := .popAll) trivial rfl
  exact ⟨_, _, run, by decide +kernel, by decide +kernel⟩

end BufferThreads
end P2pUsb
