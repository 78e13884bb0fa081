import P2pUsb.Usb.InterruptBuffer

/-! The poller of one interrupt endpoint: its owner starts and stops it, its thread reads the
endpoint and pushes what it has read, and consumers pop the reports meanwhile. -/
namespace P2pUsb
open BoundedQueue

/-- What the read function of the polling thread returns. -/
inductive PollRead where
  | ok (data : List UInt8)
  | timeout
  | noDevice
  | error (error : UsbError)
  deriving DecidableEq, Repr

inductive PollPhase where
  | checking
  | reading
  | pushing (report : InterruptReport)
  | calling (report : InterruptReport)
  | sleeping
  | finished
  deriving DecidableEq, Repr

/-- A polling thread, with the callback as it was when the thread was started. -/
structure PollThread where
  phase : PollPhase
  callback : Bool
  deriving DecidableEq, Repr

structure InterruptPoller where
  deviceId : DeviceId
  endpoint : UInt8
  maxPacketSize : Nat
  buffer : EndpointBuffer
  running : Bool
  threadHandle : Option Nat
  callback : Bool
  deriving DecidableEq, Repr

/-- The poller with every thread that it has spawned, and the consumers that wait. The owner is
in `stop` while it joins the thread. -/
structure PolledEndpoint where
  poller : InterruptPoller
  threads : List PollThread
  joining : Bool
  waiting : Nat
  deriving DecidableEq, Repr

/-- A step of one polling thread. -/
inductive PollStep where
  | check
  | read (outcome : PollRead) (timestampUs : UInt64)
  | insert
  | call
  | wake
  deriving DecidableEq, Repr

inductive PollAction where
  | setCallback
  | start
  | stop
  | joined
  | thread (i : Nat) (step : PollStep)
  | tryPop
  | popTimeout
  | wake
  | popAll
  | acknowledge (seq : UInt64)
  deriving DecidableEq, Repr

inductive PollEvent where
  | read (data : List UInt8)
  | queue (event : QueueEvent InterruptReport)
  | called (deviceId : DeviceId) (seq : UInt64) (data : List UInt8)
  deriving DecidableEq, Repr

def InterruptPoller.new (deviceId : DeviceId) (endpoint : UInt8) (maxPacketSize : Nat) :
    InterruptPoller where
  deviceId := deviceId
  endpoint := endpoint
  maxPacketSize := maxPacketSize
  buffer := .new endpoint
  running := false
  threadHandle := none
  callback := false

namespace EndpointBuffer

def acknowledge (b : EndpointBuffer) (seq : UInt64) : EndpointBuffer :=
  { b with lastAckedSeq := seq }

/-- What the locked part of `push` does to the queue. -/
def insertEvents (b : EndpointBuffer) (report : InterruptReport) :
    List (QueueEvent InterruptReport) :=
  (overflow b.maxSize b.reports).map .dropped ++ [.pushed report]

end EndpointBuffer

namespace PolledEndpoint

def new (deviceId : DeviceId) (endpoint : UInt8) (maxPacketSize : Nat) : PolledEndpoint where
  poller := .new deviceId endpoint maxPacketSize
  threads := []
  joining := false
  waiting := 0

def setPhase (s : PolledEndpoint) (i : Nat) (phase : PollPhase) : PolledEndpoint :=
  { s with threads := s.threads.modify i fun thread => { thread with phase := phase } }

def setBuffer (s : PolledEndpoint) (buffer : EndpointBuffer) : PolledEndpoint :=
  { s with poller := { s.poller with buffer := buffer } }

/-- `start`: nothing while the flag is up, or a new thread. -/
def start (s : PolledEndpoint) : PolledEndpoint :=
  if s.poller.running then s
  else { s with
    poller := { s.poller with running := true, threadHandle := some s.threads.length }
    threads := s.threads ++ [⟨.checking, s.poller.callback⟩] }

/-- `stop` as far as the join. -/
def stop (s : PolledEndpoint) : PolledEndpoint :=
  { s with
    poller := { s.poller with running := false }
    joining := s.poller.threadHandle.isSome }

/-- Where the thread is that the poller has the handle of. -/
def phase (s : PolledEndpoint) : Option PollPhase :=
  s.poller.threadHandle.bind fun i => s.threads[i]?.map PollThread.phase

/-- The thread has ended, and `stop` returns. -/
def joined (s : PolledEndpoint) : Option PolledEndpoint :=
  if s.joining ∧ s.phase = some .finished then
    some { s with poller := { s.poller with threadHandle := none }, joining := false }
  else none

def readStep (crc : List UInt8 → UInt32) (s : PolledEndpoint) (i : Nat) (timestampUs : UInt64) :
    PollRead → Option (PolledEndpoint × List PollEvent)
  | .ok data =>
      if s.poller.maxPacketSize < data.length then none
      else if data.isEmpty then some (s.setPhase i .checking, [])
      else
        let (report, buffer) := s.poller.buffer.fetchSeq crc data timestampUs
        some ((s.setBuffer buffer).setPhase i (.pushing report), [.read data])
  | .timeout => some (s.setPhase i .checking, [])
  | .noDevice => some (s.setPhase i .finished, [])
  | .error _ => some (s.setPhase i .sleeping, [])

def threadStep (crc : List UInt8 → UInt32) (s : PolledEndpoint) (i : Nat) (thread : PollThread)
    (step : PollStep) : Option (PolledEndpoint × List PollEvent) :=
  match thread.phase, step with
  | .checking, .check =>
      some (s.setPhase i (if s.poller.running then .reading else .finished), [])
  | .reading, .read outcome timestampUs => s.readStep crc i timestampUs outcome
  | .pushing report, .insert =>
      let next : PollPhase := if thread.callback then .calling report else .checking
      some ((s.setBuffer (s.poller.buffer.insert report)).setPhase i next,
        (s.poller.buffer.insertEvents report).map .queue)
  | .calling report, .call =>
      some (s.setPhase i .checking, [.called s.poller.deviceId report.seq report.data])
  | .sleeping, .wake => some (s.setPhase i .checking, [])
  | _, _ => none

def pop (s : PolledEndpoint) : PolledEndpoint × List PollEvent :=
  (s.setBuffer s.poller.buffer.tryPop.2,
    (s.poller.buffer.tryPop.1.toList.map .popped).map .queue)

end PolledEndpoint

/-- The calls of the owner exclude each other; the thread and the consumers go on at any time. -/
def interruptPoller (crc : List UInt8 → UInt32) : Machine PolledEndpoint PollAction PollEvent where
  step s
    | .setCallback =>
        if s.joining then none
        else some ({ s with poller := { s.poller with callback := true } }, [])
    | .start => if s.joining then none else some (s.start, [])
    | .stop => if s.joining then none else some (s.stop, [])
    | .joined => s.joined.map fun t => (t, [])
    | .thread i step => s.threads[i]?.bind fun thread => s.threadStep crc i thread step
    | .tryPop => some s.pop
    | .popTimeout =>
        if s.poller.buffer.reports.isEmpty then some ({ s with waiting := s.waiting + 1 }, [])
        else some s.pop
    | .wake => if s.waiting = 0 then none else some { s with waiting := s.waiting - 1 }.pop
    | .popAll => some (s.setBuffer s.poller.buffer.popAll.2,
        (s.poller.buffer.popAll.1.map .popped).map .queue)
    | .acknowledge seq => some (s.setBuffer (s.poller.buffer.acknowledge seq), [])

namespace PolledEndpoint
variable {crc : List UInt8 → UInt32} {s t : PolledEndpoint} {out : List PollEvent} {i : Nat}
  {thread : PollThread}

@[simp] theorem set_phase_poller (s : PolledEndpoint) (i : Nat) (phase : PollPhase) :
    (s.setPhase i phase).poller = s.poller := rfl

@[simp] theorem set_buffer_phase (s : PolledEndpoint) (buffer : EndpointBuffer) :
    (s.setBuffer buffer).phase = s.phase := rfl

/-- Only the thread that the poller has the handle of can be at work, and it has one only while
the flag is up or it joins the thread. -/
structure Owned (s : PolledEndpoint) : Prop where
  alone : ∀ j thread, s.threads[j]? = some thread → thread.phase ≠ .finished →
    s.poller.threadHandle = some j
  held : ∀ j, s.poller.threadHandle = some j →
    j < s.threads.length ∧ (s.poller.running = true ∨ s.joining = true)
  joins : s.joining = true → s.poller.running = false ∧ s.poller.threadHandle.isSome = true

namespace Owned

theorem new (deviceId : DeviceId) (endpoint : UInt8) (maxPacketSize : Nat) :
    (PolledEndpoint.new deviceId endpoint maxPacketSize).Owned where
  alone _ _ wrong := nomatch wrong
  held _ wrong := nomatch wrong
  joins wrong := nomatch wrong

/-- A poller that neither runs nor waits for its thread has none. -/
theorem idle (hs : s.Owned) (stopped : s.poller.running = false) (free : s.joining = false) :
    s.poller.threadHandle = none := by
  rw [Option.eq_none_iff_forall_ne_some]
  intro j held
  rcases (hs.held j held).2 with up | joins
  · rw [stopped] at up
    cases up
  · rw [free] at joins
    cases joins

theorem phase_set (hs : s.Owned) (there : s.threads[i]? = some thread)
    (busy : thread.phase ≠ .finished) (phase : PollPhase) :
    s.phase = some thread.phase ∧ (s.setPhase i phase).phase = some phase := by
  have held := hs.alone i thread there busy
  constructor
  · rw [PolledEndpoint.phase, held, Option.bind_some, there, Option.map_some]
  · rw [PolledEndpoint.phase, set_phase_poller, held, Option.bind_some, setPhase,
      List.getElem?_modify_eq, there]
    rfl

theorem set_phase (hs : s.Owned) (there : s.threads[i]? = some thread)
    (busy : thread.phase ≠ .finished) (phase : PollPhase) : (s.setPhase i phase).Owned where
  alone j other found working := by
    by_cases same : i = j
    · subst same
      exact hs.alone i thread there busy
    · have kept : (s.threads.modify i fun thread => { thread with phase := phase })[j]? =
          s.threads[j]? := List.getElem?_modify_ne _ _ same
      exact hs.alone j other (kept.symm.trans found) working
  held j handle := by
    obtain ⟨bound, up⟩ := hs.held j handle
    refine ⟨?_, up⟩
    rwa [setPhase, List.length_modify]
  joins := hs.joins

theorem set_buffer (hs : s.Owned) (buffer : EndpointBuffer) : (s.setBuffer buffer).Owned :=
  ⟨hs.alone, hs.held, hs.joins⟩

theorem start (hs : s.Owned) (free : s.joining = false) : s.start.Owned := by
  unfold PolledEndpoint.start
  split
  case isTrue => exact hs
  case isFalse stopped =>
    have none := hs.idle (Bool.eq_false_iff.mpr stopped) free
    refine ⟨fun j thread there busy => ?_, fun j held => ?_, fun joins => ?_⟩
    · rcases lt_or_ge j s.threads.length with old | new
      · have held := hs.alone j thread ((List.getElem?_append_left old).symm.trans there) busy
        rw [none] at held
        cases held
      · obtain ⟨last, -⟩ := List.getElem?_eq_some_iff.mp there
        rw [List.length_append, List.length_singleton] at last
        exact congrArg some (Nat.le_antisymm (Nat.le_of_lt_succ last) new).symm
    · obtain rfl := Option.some.inj held
      rw [List.length_append]
      exact ⟨Nat.lt_succ_self _, .inl rfl⟩
    · exact absurd (free.symm.trans joins) Bool.false_ne_true

theorem stop (hs : s.Owned) : s.stop.Owned where
  alone := hs.alone
  held j held := ⟨(hs.held j held).1, .inr (Option.isSome_iff_exists.mpr ⟨j, held⟩)⟩
  joins awaited := ⟨rfl, awaited⟩

theorem joined (hs : s.Owned) (done : s.phase = some .finished) :
    Owned { s with poller := { s.poller with threadHandle := none }, joining := false } where
  alone j thread there busy := by
    have held := hs.alone j thread there busy
    rw [PolledEndpoint.phase, held, Option.bind_some, there, Option.map_some] at done
    exact absurd (Option.some.inj done) busy
  held _ wrong := nomatch wrong
  joins wrong := nomatch wrong

end Owned

/-- The report that has its number and is not yet in the buffer. -/
def drawn (s : PolledEndpoint) : List InterruptReport :=
  match s.phase with
  | some (.pushing report) => [report]
  | _ => []

/-- The report that is in the buffer and not yet given to the callback. -/
def uncalled (s : PolledEndpoint) : List InterruptReport :=
  match s.phase with
  | some (.calling report) => [report]
  | _ => []

/-- What a step is to the reports. -/
inductive Does (crc : List UInt8 → UInt32) (s : PolledEndpoint) :
    PolledEndpoint → List PollEvent → Prop
  | pop (t : PolledEndpoint) (popped : List InterruptReport)
      (queue : s.poller.buffer.reports = popped ++ t.poller.buffer.reports)
      (buffer : t.poller.buffer.nextSeq = s.poller.buffer.nextSeq ∧
        t.poller.buffer.maxSize = s.poller.buffer.maxSize)
      (drawn : t.drawn = s.drawn) (uncalled : t.uncalled = s.uncalled)
      (same : t.poller.deviceId = s.poller.deviceId ∧
        t.poller.maxPacketSize = s.poller.maxPacketSize) :
      Does crc s t ((popped.map .popped).map .queue)
  | draw (t : PolledEndpoint) (data : List UInt8) (timestampUs : UInt64)
      (size : data ≠ [] ∧ data.length ≤ s.poller.maxPacketSize) (free : s.drawn = [])
      (called : s.uncalled = [] ∧ t.uncalled = [])
      (drawn : t.drawn = [(s.poller.buffer.fetchSeq crc data timestampUs).1])
      (poller : t.poller = { s.poller with
        buffer := (s.poller.buffer.fetchSeq crc data timestampUs).2 }) :
      Does crc s t [.read data]
  | insert (t : PolledEndpoint) (report : InterruptReport) (drawn : s.drawn = [report])
      (free : t.drawn = []) (called : s.uncalled = [])
      (uncalled : t.uncalled = [] ∨ t.uncalled = [report])
      (poller : t.poller = { s.poller with buffer := s.poller.buffer.insert report }) :
      Does crc s t ((s.poller.buffer.insertEvents report).map .queue)
  | call (t : PolledEndpoint) (report : InterruptReport) (drawn : t.drawn = s.drawn)
      (uncalled : s.uncalled = [report]) (called : t.uncalled = [])
      (poller : t.poller = s.poller) :
      Does crc s t [.called s.poller.deviceId report.seq report.data]

/-- A step that concerns no report. -/
theorem Does.quiet (buffer : t.poller.buffer = s.poller.buffer) (drawn : t.drawn = s.drawn)
    (uncalled : t.uncalled = s.uncalled)
    (same : t.poller.deviceId = s.poller.deviceId ∧
      t.poller.maxPacketSize = s.poller.maxPacketSize) : Does crc s t [] :=
  .pop t [] (congrArg EndpointBuffer.reports buffer.symm)
    ⟨congrArg EndpointBuffer.nextSeq buffer, congrArg EndpointBuffer.maxSize buffer⟩ drawn uncalled
    same

theorem read_does (hs : s.Owned) (there : s.threads[i]? = some thread)
    (at' : thread.phase = .reading) {outcome : PollRead} {timestampUs : UInt64}
    (step : s.readStep crc i timestampUs outcome = some (t, out)) : t.Owned ∧ Does crc s t out := by
  have busy : thread.phase ≠ .finished := by
    rw [at']
    exact PollPhase.noConfusion
  have was : s.drawn = [] ∧ s.uncalled = [] := by
    have phase := (hs.phase_set there busy .checking).1
    rw [drawn, uncalled, phase, at']
    exact ⟨rfl, rfl⟩
  have moves : ∀ phase, (∀ report, phase ≠ .pushing report) → (∀ report, phase ≠ .calling report) →
      (s.setPhase i phase).Owned ∧ Does crc s (s.setPhase i phase) [] := by
    intro phase push call
    have set := (hs.phase_set there busy phase).2
    refine ⟨hs.set_phase there busy phase, .quiet rfl ?_ ?_ ⟨rfl, rfl⟩⟩
    · rw [was.1, drawn, set]
      split
      case h_1 report same => exact absurd (Option.some.inj same) (push report)
      case h_2 => rfl
    · rw [was.2, uncalled, set]
      split
      case h_1 report same => exact absurd (Option.some.inj same) (call report)
      case h_2 => rfl
  cases outcome with
  | ok data =>
      simp only [readStep] at step
      split at step
      case isTrue => cases step
      case isFalse fits =>
        split at step
        · obtain ⟨rfl, rfl⟩ := Prod.mk.inj (Option.some.inj step)
          exact moves .checking (fun _ => PollPhase.noConfusion) fun _ => PollPhase.noConfusion
        case isFalse some' =>
          obtain ⟨rfl, rfl⟩ := Prod.mk.inj (Option.some.inj step)
          have owned := hs.set_buffer (s.poller.buffer.fetchSeq crc data timestampUs).2
          have set := (owned.phase_set there busy
            (.pushing (s.poller.buffer.fetchSeq crc data timestampUs).1)).2
          refine ⟨owned.set_phase there busy _, .draw _ data timestampUs
            ⟨fun empty => some' (by rw [empty]; rfl), Nat.not_lt.mp fits⟩ was.1 ⟨was.2, ?_⟩ ?_ rfl⟩
          · rw [uncalled, set]
          · rw [drawn, set]
  | timeout =>
      obtain ⟨rfl, rfl⟩ := Prod.mk.inj (Option.some.inj step)
      exact moves .checking (fun _ => PollPhase.noConfusion) fun _ => PollPhase.noConfusion
  | noDevice =>
      obtain ⟨rfl, rfl⟩ := Prod.mk.inj (Option.some.inj step)
      exact moves .finished (fun _ => PollPhase.noConfusion) fun _ => PollPhase.noConfusion
  | error error =>
      obtain ⟨rfl, rfl⟩ := Prod.mk.inj (Option.some.inj step)
      exact moves .sleeping (fun _ => PollPhase.noConfusion) fun _ => PollPhase.noConfusion

theorem thread_does (hs : s.Owned) (there : s.threads[i]? = some thread) {step : PollStep}
    (moved : s.threadStep crc i thread step = some (t, out)) : t.Owned ∧ Does crc s t out := by
  unfold threadStep at moved
  split at moved
  case h_1 at' =>
    have busy : thread.phase ≠ .finished := by rw [at']; exact PollPhase.noConfusion
    obtain ⟨rfl, rfl⟩ := Prod.mk.inj (Option.some.inj moved)
    have was := (hs.phase_set there busy .reading).1
    have set := fun phase => (hs.phase_set there busy phase).2
    refine ⟨hs.set_phase there busy _, .quiet rfl ?_ ?_ ⟨rfl, rfl⟩⟩
    · rw [drawn, drawn, was, set, at']
      cases s.poller.running <;> rfl
    · rw [uncalled, uncalled, was, set, at']
      cases s.poller.running <;> rfl
  case h_2 at' => exact read_does hs there at' moved
  case h_3 report at' =>
    have busy : thread.phase ≠ .finished := by rw [at']; exact PollPhase.noConfusion
    obtain ⟨rfl, rfl⟩ := Prod.mk.inj (Option.some.inj moved)
    have was := (hs.phase_set there busy .reading).1
    have owned := hs.set_buffer (s.poller.buffer.insert report)
    have set := fun phase => (owned.phase_set there busy phase).2
    refine ⟨owned.set_phase there busy _, .insert _ report ?_ ?_ ?_ ?_ rfl⟩
    · rw [drawn, was, at']
    · rw [drawn, set]
      cases thread.callback <;> rfl
    · rw [uncalled, was, at']
    · rw [uncalled, set]
      cases thread.callback with
      | false => exact .inl rfl
      | true => exact .inr rfl
  case h_4 report at' =>
    have busy : thread.phase ≠ .finished := by rw [at']; exact PollPhase.noConfusion
    obtain ⟨rfl, rfl⟩ := Prod.mk.inj (Option.some.inj moved)
    obtain ⟨was, set⟩ := hs.phase_set there busy .checking
    refine ⟨hs.set_phase there busy _, .call _ report ?_ ?_ ?_ rfl⟩
    · rw [drawn, drawn, was, set, at']
    · rw [uncalled, was, at']
    · rw [uncalled, set]
  case h_5 at' =>
    have busy : thread.phase ≠ .finished := by rw [at']; exact PollPhase.noConfusion
    obtain ⟨rfl, rfl⟩ := Prod.mk.inj (Option.some.inj moved)
    obtain ⟨was, set⟩ := hs.phase_set there busy .checking
    refine ⟨hs.set_phase there busy _, .quiet rfl ?_ ?_ ⟨rfl, rfl⟩⟩
    · rw [drawn, drawn, was, set, at']
    · rw [uncalled, uncalled, was, set, at']
  case h_6 => cases moved

theorem start_does (hs : s.Owned) (free : s.joining = false) : Does crc s s.start [] := by
  have owned := hs.start free
  unfold PolledEndpoint.start at owned ⊢
  split
  case isTrue => exact .quiet rfl rfl rfl ⟨rfl, rfl⟩
  case isFalse stopped =>
    have none : s.phase = none := by
      rw [phase, hs.idle (Bool.eq_false_iff.mpr stopped) free, Option.bind_none]
    have begun : phase { s with
        poller := { s.poller with running := true, threadHandle := some s.threads.length }
        threads := s.threads ++ [⟨.checking, s.poller.callback⟩] } = some .checking := by
      rw [phase, Option.bind_some, List.getElem?_concat_length]
      rfl
    refine .quiet rfl ?_ ?_ ⟨rfl, rfl⟩
    · rw [drawn, drawn, begun, none]
    · rw [uncalled, uncalled, begun, none]

theorem pop_does (s : PolledEndpoint) (waiting : Nat) :
    Does crc s { s with waiting := waiting }.pop.1 { s with waiting := waiting }.pop.2 := by
  have frame : s.poller.buffer.tryPop.2.nextSeq = s.poller.buffer.nextSeq ∧
      s.poller.buffer.tryPop.2.maxSize = s.poller.buffer.maxSize := by
    unfold EndpointBuffer.tryPop
    split <;> exact ⟨rfl, rfl⟩
  exact .pop _ _ (BufferThreads.try_pop_front s.poller.buffer) frame rfl rfl ⟨rfl, rfl⟩

/-- Every step of the poller and its consumers. -/
theorem step_does (hs : s.Owned) {a : PollAction}
    (step : (interruptPoller crc).step s a = some (t, out)) : t.Owned ∧ Does crc s t out := by
  have guarded : ∀ {next : PolledEndpoint},
      (if s.joining then none else some (next, ([] : List PollEvent))) = some (t, out) →
      s.joining = false ∧ next = t ∧ [] = out := by
    intro next step
    split at step
    · cases step
    case isFalse free =>
      exact ⟨Bool.eq_false_iff.mpr free, Prod.mk.inj (Option.some.inj step)⟩
  cases a with
  | setCallback =>
      obtain ⟨-, rfl, rfl⟩ := guarded step
      exact ⟨⟨hs.alone, hs.held, hs.joins⟩, .quiet rfl rfl rfl ⟨rfl, rfl⟩⟩
  | start =>
      obtain ⟨free, rfl, rfl⟩ := guarded step
      exact ⟨hs.start free, start_does hs free⟩
  | stop =>
      obtain ⟨-, rfl, rfl⟩ := guarded step
      exact ⟨hs.stop, .quiet rfl rfl rfl ⟨rfl, rfl⟩⟩
  | joined =>
      obtain ⟨u, done, same⟩ := Option.map_eq_some_iff.mp step
      obtain ⟨rfl, rfl⟩ := Prod.mk.inj same
      unfold PolledEndpoint.joined at done
      split at done
      case isTrue both =>
        obtain rfl := Option.some.inj done
        refine ⟨hs.joined both.2, .quiet rfl ?_ ?_ ⟨rfl, rfl⟩⟩
        · rw [drawn, drawn, both.2]
          rfl
        · rw [uncalled, uncalled, both.2]
          rfl
      case isFalse => cases done
  | thread i step' =>
      obtain ⟨thread, there, moved⟩ := Option.bind_eq_some_iff.mp step
      exact thread_does hs there moved
  | tryPop =>
      obtain ⟨rfl, rfl⟩ := Prod.mk.inj (Option.some.inj step)
      exact ⟨hs.set_buffer _, s.pop_does s.waiting⟩
  | popTimeout =>
      simp only [interruptPoller] at step
      split at step
      · obtain ⟨rfl, rfl⟩ := Prod.mk.inj (Option.some.inj step)
        exact ⟨⟨hs.alone, hs.held, hs.joins⟩, .quiet rfl rfl rfl ⟨rfl, rfl⟩⟩
      · obtain ⟨rfl, rfl⟩ := Prod.mk.inj (Option.some.inj step)
        exact ⟨hs.set_buffer _, s.pop_does s.waiting⟩
  | wake =>
      simp only [interruptPoller] at step
      split at step
      · cases step
      · obtain ⟨rfl, rfl⟩ := Prod.mk.inj (Option.some.inj step)
        exact ⟨⟨hs.alone, hs.held, hs.joins⟩, s.pop_does _⟩
  | popAll =>
      obtain ⟨rfl, rfl⟩ := Prod.mk.inj (Option.some.inj step)
      exact ⟨hs.set_buffer _, .pop _ s.poller.buffer.reports (List.append_nil _).symm ⟨rfl, rfl⟩
        rfl rfl ⟨rfl, rfl⟩⟩
  | acknowledge seq =>
      obtain ⟨rfl, rfl⟩ := Prod.mk.inj (Option.some.inj step)
      exact ⟨hs.set_buffer _, .pop _ [] rfl ⟨rfl, rfl⟩ rfl rfl ⟨rfl, rfl⟩⟩

end PolledEndpoint

def InterruptReport.view (report : InterruptReport) : UInt64 × List UInt8 :=
  (report.seq, report.data)

namespace PollEvent

def data : PollEvent → Option (List UInt8)
  | .read data => some data
  | _ => none

def queueEvent : PollEvent → Option (QueueEvent InterruptReport)
  | .queue event => some event
  | _ => none

def call : PollEvent → Option (UInt64 × List UInt8)
  | .called _ seq data => some (seq, data)
  | _ => none

end PollEvent

/-- What has been read from the endpoint, without the empty reads. -/
def reads (tr : List PollEvent) : List (List UInt8) := tr.filterMap PollEvent.data

def queueEvents (tr : List PollEvent) : List (QueueEvent InterruptReport) :=
  tr.filterMap PollEvent.queueEvent

def calls (tr : List PollEvent) : List (UInt64 × List UInt8) := tr.filterMap PollEvent.call

theorem reads_append (tr out : List PollEvent) : reads (tr ++ out) = reads tr ++ reads out :=
  List.filterMap_append

theorem queue_events_append (tr out : List PollEvent) :
    queueEvents (tr ++ out) = queueEvents tr ++ queueEvents out :=
  List.filterMap_append

theorem calls_append (tr out : List PollEvent) : calls (tr ++ out) = calls tr ++ calls out :=
  List.filterMap_append

theorem parts_of_queue (events : List (QueueEvent InterruptReport)) :
    reads (events.map .queue) = [] ∧ queueEvents (events.map .queue) = events ∧
      calls (events.map .queue) = [] := by
  refine ⟨?_, ?_, ?_⟩
  · rw [reads, List.filterMap_map, List.filterMap_eq_nil_iff]
    exact fun _ _ => rfl
  · rw [queueEvents, List.filterMap_map]
    exact List.filterMap_some
  · rw [calls, List.filterMap_map, List.filterMap_eq_nil_iff]
    exact fun _ _ => rfl

/-- How many steps a thread can still take once the flag is down. -/
def PollPhase.left : PollPhase → Nat
  | .finished => 0
  | .checking => 1
  | .sleeping | .calling _ => 2
  | .pushing _ => 3
  | .reading => 4

theorem PollPhase.left_le (phase : PollPhase) : phase.left ≤ 4 := by
  cases phase <;> simp only [left, Nat.reduceLeDiff, Nat.le_refl, Nat.zero_le]

def PollAction.isThread : PollAction → Bool
  | .thread _ _ => true
  | _ => false

namespace PolledEndpoint
variable {crc : List UInt8 → UInt32} {s t : PolledEndpoint} {tr out : List PollEvent}

/-- What the run has made of the reads so far. -/
structure Reported (maxPacketSize : Nat) (tr : List PollEvent) (s : PolledEndpoint) : Prop where
  owned : s.Owned
  size : s.poller.buffer.maxSize = maxBufferedReports
  packet : s.poller.maxPacketSize = maxPacketSize
  fits : ∀ data ∈ reads tr, data ≠ [] ∧ data.length ≤ maxPacketSize
  queue : (dropOldest maxBufferedReports).Reach [] (queueEvents tr) s.poller.buffer.reports
  read : (entered (queueEvents tr) ++ s.drawn).map InterruptReport.data = reads tr
  numbered : (entered (queueEvents tr) ++ s.drawn).map InterruptReport.seq =
    (List.range (reads tr).length).map UInt64.ofNat
  next : s.poller.buffer.nextSeq = UInt64.ofNat (reads tr).length
  called : (calls tr ++ s.uncalled.map InterruptReport.view).Sublist
    ((entered (queueEvents tr)).map InterruptReport.view)

namespace Reported
variable {maxPacketSize : Nat}

theorem new (deviceId : DeviceId) (endpoint : UInt8) (maxPacketSize : Nat) :
    Reported maxPacketSize [] (.new deviceId endpoint maxPacketSize) where
  owned := .new deviceId endpoint maxPacketSize
  size := rfl
  packet := rfl
  fits := List.forall_mem_nil _
  queue := .start
  read := rfl
  numbered := rfl
  next := rfl
  called := List.Sublist.refl []

theorem after_pop (hs : Reported maxPacketSize tr s) (owned : t.Owned)
    {popped : List InterruptReport}
    (queue : s.poller.buffer.reports = popped ++ t.poller.buffer.reports)
    (buffer : t.poller.buffer.nextSeq = s.poller.buffer.nextSeq ∧
      t.poller.buffer.maxSize = s.poller.buffer.maxSize)
    (drawn : t.drawn = s.drawn) (uncalled : t.uncalled = s.uncalled)
    (packet : t.poller.maxPacketSize = s.poller.maxPacketSize) :
    Reported maxPacketSize (tr ++ (popped.map .popped).map .queue) t := by
  obtain ⟨noReads, events, noCalls⟩ := parts_of_queue (popped.map .popped)
  have entry : entered (queueEvents tr ++ popped.map .popped) = entered (queueEvents tr) := by
    rw [entered_append, entered_popped, List.append_nil]
  have emptied := hs.queue
  rw [queue] at emptied
  refine ⟨owned, buffer.2.trans hs.size, packet.trans hs.packet, ?_, ?_, ?_, ?_, ?_, ?_⟩ <;>
    simp only [reads_append, queue_events_append, calls_append, noReads, events, noCalls,
      List.append_nil, entry, drawn, uncalled, buffer.1]
  · exact hs.fits
  · exact emptied.trans (reach_pops _ popped _)
  · exact hs.read
  · exact hs.numbered
  · exact hs.next
  · exact hs.called

theorem after_draw (hs : Reported maxPacketSize tr s) (owned : t.Owned) {data : List UInt8}
    {timestampUs : UInt64} (size : data ≠ [] ∧ data.length ≤ s.poller.maxPacketSize)
    (free : s.drawn = []) (called : s.uncalled = [] ∧ t.uncalled = [])
    (drawn : t.drawn = [(s.poller.buffer.fetchSeq crc data timestampUs).1])
    (poller : t.poller = { s.poller with
      buffer := (s.poller.buffer.fetchSeq crc data timestampUs).2 }) :
    Reported maxPacketSize (tr ++ [.read data]) t := by
  have split_reads : reads (tr ++ [.read data]) = reads tr ++ [data] := reads_append _ _
  have same : queueEvents (tr ++ [.read data]) = queueEvents tr :=
    (queue_events_append _ _).trans (List.append_nil _)
  have quiet : calls (tr ++ [.read data]) = calls tr :=
    (calls_append _ _).trans (List.append_nil _)
  have read := hs.read
  have numbered := hs.numbered
  rw [free, List.append_nil] at read numbered
  refine ⟨owned, by rw [poller]; exact hs.size, by rw [poller]; exact hs.packet, ?_, ?_, ?_, ?_,
    ?_, ?_⟩
  · rw [split_reads]
    intro d mem
    rcases List.mem_append.mp mem with old | new
    · exact hs.fits d old
    · obtain rfl := List.mem_singleton.mp new
      exact hs.packet ▸ size
  · rw [same, poller]
    exact hs.queue
  · rw [same, drawn, split_reads, List.map_append, read]
    rfl
  · rw [same, drawn, split_reads, List.length_append, List.length_singleton, List.range_succ,
      List.map_append, List.map_append, numbered, List.map_singleton, List.map_singleton,
      ← hs.next]
    rfl
  · rw [split_reads, List.length_append, List.length_singleton, UInt64.ofNat_add, ← hs.next,
      poller]
    rfl
  · rw [same, quiet, called.2]
    exact called.1 ▸ hs.called

theorem after_insert (hs : Reported maxPacketSize tr s) (owned : t.Owned)
    {report : InterruptReport} (drawn : s.drawn = [report]) (free : t.drawn = [])
    (called : s.uncalled = []) (uncalled : t.uncalled = [] ∨ t.uncalled = [report])
    (poller : t.poller = { s.poller with buffer := s.poller.buffer.insert report }) :
    Reported maxPacketSize (tr ++ (s.poller.buffer.insertEvents report).map .queue) t := by
  obtain ⟨noReads, events, noCalls⟩ := parts_of_queue (s.poller.buffer.insertEvents report)
  have entry : entered (queueEvents tr ++ s.poller.buffer.insertEvents report) =
      entered (queueEvents tr) ++ [report] := by
    rw [entered_append, EndpointBuffer.insertEvents, entered_append, entered_dropped]
    rfl
  have pushed : t.poller.buffer.reports =
      room s.poller.buffer.maxSize s.poller.buffer.reports ++ [report] := by
    rw [poller]
    simp only [EndpointBuffer.insert, room, decide_eq_true_eq]
  have before := hs.called
  rw [called, List.map_nil, List.append_nil] at before
  refine ⟨owned, by rw [poller]; exact hs.size, by rw [poller]; exact hs.packet, ?_, ?_, ?_, ?_,
    ?_, ?_⟩ <;>
    simp only [reads_append, queue_events_append, calls_append, noReads, events, noCalls,
      List.append_nil, entry, free]
  · exact hs.fits
  · rw [pushed, EndpointBuffer.insertEvents, hs.size]
    exact hs.queue.trans (reach_push _ _ report)
  · rw [← drawn]
    exact hs.read
  · rw [← drawn]
    exact hs.numbered
  · rw [poller]
    exact hs.next
  · rw [List.map_append]
    refine before.append ?_
    rcases uncalled with none | one
    · rw [none]
      exact List.nil_sublist _
    · rw [one]

theorem after_call (hs : Reported maxPacketSize tr s) (owned : t.Owned)
    {report : InterruptReport} (drawn : t.drawn = s.drawn) (uncalled : s.uncalled = [report])
    (called : t.uncalled = []) (poller : t.poller = s.poller) :
    Reported maxPacketSize (tr ++ [.called s.poller.deviceId report.seq report.data]) t := by
  have one : calls [.called s.poller.deviceId report.seq report.data] = [report.view] := rfl
  have same : queueEvents (tr ++ [.called s.poller.deviceId report.seq report.data]) =
      queueEvents tr := (queue_events_append _ _).trans (List.append_nil _)
  have unread : reads (tr ++ [.called s.poller.deviceId report.seq report.data]) = reads tr :=
    (reads_append _ _).trans (List.append_nil _)
  have before := hs.called
  rw [uncalled] at before
  refine ⟨owned, poller ▸ hs.size, poller ▸ hs.packet, ?_, ?_, ?_, ?_, ?_, ?_⟩
  · rw [unread]
    exact hs.fits
  · rw [same, poller]
    exact hs.queue
  · rw [same, unread, drawn]
    exact hs.read
  · rw [same, unread, drawn]
    exact hs.numbered
  · rw [unread, poller]
    exact hs.next
  · rw [same, calls_append, one, called, List.map_nil, List.append_nil]
    exact before

theorem step (hs : Reported maxPacketSize tr s) (owned : t.Owned) (does : Does crc s t out) :
    Reported maxPacketSize (tr ++ out) t := by
  cases does with
  | pop popped queue buffer drawn uncalled same =>
      exact hs.after_pop owned queue buffer drawn uncalled same.2
  | draw data timestampUs size free called drawn poller =>
      exact hs.after_draw owned size free called drawn poller
  | insert report drawn free called uncalled poller =>
      exact hs.after_insert owned drawn free called uncalled poller
  | call report drawn uncalled called poller =>
      exact hs.after_call owned drawn uncalled called poller

theorem reach {deviceId : DeviceId} {endpoint : UInt8}
    (run : (interruptPoller crc).Reach (.new deviceId endpoint maxPacketSize) tr s) :
    Reported maxPacketSize tr s := by
  refine run.invariant (I := fun tr s => Reported maxPacketSize tr s)
    (.new deviceId endpoint maxPacketSize) ?_
  intro tr s a t out hs _ step
  obtain ⟨owned, does⟩ := step_does hs.owned step
  exact hs.step owned does

end Reported
/-- However the threads go on, the reports are what the endpoint gave, numbered in the order in
which it gave them; the oldest ones make room when the buffer is full, and the callback sees each
one at most once and in order. No two threads ever poll the endpoint. -/
theorem polled_reports {deviceId : DeviceId} {endpoint : UInt8} {maxPacketSize : Nat}
    (run : (interruptPoller crc).Reach (new deviceId endpoint maxPacketSize) tr s) :
    ∃ inFlight : List InterruptReport, inFlight.length ≤ 1 ∧
      (entered (queueEvents tr) ++ inFlight).map InterruptReport.data = reads tr ∧
      (entered (queueEvents tr) ++ inFlight).map InterruptReport.seq =
        (List.range (reads tr).length).map UInt64.ofNat ∧
      (∀ data ∈ reads tr, data ≠ [] ∧ data.length ≤ maxPacketSize) ∧
      entered (queueEvents tr) = departed (queueEvents tr) ++ s.poller.buffer.reports ∧
      s.poller.buffer.reports.length ≤ maxBufferedReports ∧
      (calls tr).Sublist ((entered (queueEvents tr)).map InterruptReport.view) ∧
      ∀ (i j : Nat) (one other : PollThread), s.threads[i]? = some one →
        s.threads[j]? = some other → one.phase ≠ .finished → other.phase ≠ .finished → i = j := by
  have hs := Reported.reach run
  refine ⟨s.drawn, ?_, hs.read, hs.numbered, hs.fits, entered_eq hs.queue,
    length_le (by decide) hs.queue, (List.sublist_append_left _ _).trans hs.called, ?_⟩
  · unfold drawn
    split
    · exact le_rfl
    · exact Nat.zero_le 1
  · intro i j one other here there busy working
    exact Option.some.inj
      ((hs.owned.alone i one here busy).symm.trans (hs.owned.alone j other there working))

/-- Three reads that give data, with the thread stopped and started again between them. -/
theorem polled_reports_restart : ∃ s tr,
    (interruptPoller crc32).Reach (new ⟨1⟩ 0x81 8) tr s ∧ reads tr = [[1], [2], [3]] ∧
      calls tr = [(1, [2]), (2, [3])] ∧
      ∃ inFlight : List InterruptReport, inFlight.length ≤ 1 ∧
        (entered (queueEvents tr) ++ inFlight).map InterruptReport.data = reads tr := by
  have run := Machine.Reach.of_run (rfl : (interruptPoller crc32).run (new ⟨1⟩ 0x81 8)
    [.start, .thread 0 .check, .thread 0 (.read (.ok [1]) 0), .thread 0 .insert, .setCallback,
      .stop, .thread 0 .check, .joined, .start, .thread 1 .check, .thread 1 (.read (.ok [2]) 0),
      .thread 1 .insert, .thread 1 .call, .tryPop, .thread 1 .check,
      .thread 1 (.read (.ok [3]) 0), .thread 1 .insert, .thread 1 .call] = some (_, _))
  obtain ⟨inFlight, few, data, -⟩ := polled_reports run
  exact ⟨_, _, run, rfl, rfl, inFlight, few, data⟩

/-- A stopped poller. -/
structure Stopped (s : PolledEndpoint) : Prop where
  owned : s.Owned
  lowered : s.poller.running = false
  free : s.joining = false

theorem Stopped.finished (hs : s.Stopped) {i : Nat} {thread : PollThread}
    (there : s.threads[i]? = some thread) : thread.phase = .finished := by
  by_contra busy
  have held := hs.owned.alone i thread there busy
  rw [hs.owned.idle hs.lowered hs.free] at held
  cases held

theorem Stopped.step (hs : s.Stopped) {a : PollAction} (other : a ≠ .start)
    (step : (interruptPoller crc).step s a = some (t, out)) :
    t.Stopped ∧ ∀ e ∈ out, ∃ report, e = .queue (.popped report) := by
  have owned := (step_does hs.owned step).1
  have nothing : ∀ e ∈ ([] : List PollEvent), ∃ report, e = .queue (.popped report) :=
    List.forall_mem_nil _
  have pops : ∀ popped : List InterruptReport, ∀ e ∈ (popped.map QueueEvent.popped).map .queue,
      ∃ report, e = PollEvent.queue (.popped report) := by
    intro popped e mem
    obtain ⟨event, popped, rfl⟩ := List.mem_map.mp mem
    obtain ⟨report, -, rfl⟩ := List.mem_map.mp popped
    exact ⟨report, rfl⟩
  cases a with
  | start => exact absurd rfl other
  | setCallback =>
      simp only [interruptPoller, hs.free] at step
      obtain ⟨rfl, rfl⟩ := Prod.mk.inj (Option.some.inj step)
      exact ⟨⟨owned, hs.lowered, rfl⟩, nothing⟩
  | stop =>
      simp only [interruptPoller, hs.free] at step
      obtain ⟨rfl, rfl⟩ := Prod.mk.inj (Option.some.inj step)
      refine ⟨⟨owned, rfl, ?_⟩, nothing⟩
      rw [PolledEndpoint.stop, hs.owned.idle hs.lowered hs.free]
      rfl
  | joined =>
      obtain ⟨u, done, -⟩ := Option.map_eq_some_iff.mp step
      simp only [PolledEndpoint.joined, hs.free, Bool.false_eq_true, false_and, if_false] at done
      cases done
  | thread i step' =>
      obtain ⟨thread, there, moved⟩ := Option.bind_eq_some_iff.mp step
      simp only [threadStep, hs.finished there] at moved
      cases moved
  | tryPop =>
      obtain ⟨rfl, rfl⟩ := Prod.mk.inj (Option.some.inj step)
      exact ⟨⟨owned, hs.lowered, hs.free⟩, pops _⟩
  | popTimeout =>
      simp only [interruptPoller] at step
      split at step
      · obtain ⟨rfl, rfl⟩ := Prod.mk.inj (Option.some.inj step)
        exact ⟨⟨owned, hs.lowered, hs.free⟩, nothing⟩
      · obtain ⟨rfl, rfl⟩ := Prod.mk.inj (Option.some.inj step)
        exact ⟨⟨owned, hs.lowered, hs.free⟩, pops _⟩
  | wake =>
      simp only [interruptPoller] at step
      split at step
      · cases step
      · obtain ⟨rfl, rfl⟩ := Prod.mk.inj (Option.some.inj step)
        exact ⟨⟨owned, hs.lowered, hs.free⟩, pops _⟩
  | popAll =>
      obtain ⟨rfl, rfl⟩ := Prod.mk.inj (Option.some.inj step)
      exact ⟨⟨owned, hs.lowered, hs.free⟩, pops _⟩
  | acknowledge seq =>
      obtain ⟨rfl, rfl⟩ := Prod.mk.inj (Option.some.inj step)
      exact ⟨⟨owned, hs.lowered, hs.free⟩, nothing⟩

/-- Once `stop` has returned, and until the next start, nothing is read, pushed or reported: only
what is in the buffer can still be popped. -/
theorem stopped_poller_silent {deviceId : DeviceId} {endpoint : UInt8} {maxPacketSize : Nat}
    (run : (interruptPoller crc).Reach (new deviceId endpoint maxPacketSize) tr s)
    (lowered : s.poller.running = false) (free : s.joining = false) {rest : List PollEvent}
    (later : (interruptPoller crc).Exec (fun _ a => a ≠ .start) s rest t) :
    ∀ e ∈ rest, ∃ report, e = .queue (.popped report) := by
  have stopped : s.Stopped := ⟨(Reported.reach run).owned, lowered, free⟩
  refine (later.invariant (I := fun rest t => t.Stopped ∧ ∀ e ∈ rest,
    ∃ report, e = .queue (.popped report)) ⟨stopped, List.forall_mem_nil _⟩ ?_).2
  intro rest s a t out hs other step
  obtain ⟨stopped, pops⟩ := hs.1.step other step
  refine ⟨stopped, fun e mem => ?_⟩
  exact (List.mem_append.mp mem).elim (hs.2 e) (pops e)

/-- The device is unplugged while its poller runs: the flag stays up, so that a start does
nothing until the poller has been stopped. -/
theorem stopped_poller_silent_unplugged : ∃ s tr t rest,
    (interruptPoller crc32).Reach (new ⟨1⟩ 0x81 8) tr s ∧ s.poller.running = false ∧
      s.joining = false ∧ (interruptPoller crc32).Exec (fun _ a => a ≠ .start) s rest t ∧
      rest.length = 1 ∧ ∀ e ∈ rest, ∃ report, e = .queue (.popped report) := by
  have run := Machine.Reach.of_run (rfl : (interruptPoller crc32).run (new ⟨1⟩ 0x81 8)
    [.start, .thread 0 .check, .thread 0 (.read (.ok [1]) 0), .thread 0 .insert, .thread 0 .check,
      .thread 0 (.read .noDevice 0), .start, .stop, .joined] = some (_, _))
  refine ⟨_, _, _, _, run, rfl, rfl, .next .start (a := .tryPop) PollAction.noConfusion rfl, rfl,
    ?_⟩
  exact stopped_poller_silent run rfl rfl (.next .start (a := .tryPop) PollAction.noConfusion rfl)

/-- The owner is in `stop`, and its thread has so many steps left at most. -/
structure Joining (n : Nat) (s : PolledEndpoint) : Prop where
  owned : s.Owned
  joins : s.joining = true
  left : ∃ phase, s.phase = some phase ∧ phase.left ≤ n

theorem Joining.new (hs : s.Owned) (joins : s.joining = true) : s.Joining 4 := by
  refine ⟨hs, joins, ?_⟩
  obtain ⟨j, held⟩ := Option.isSome_iff_exists.mp (hs.joins joins).2
  have bound := (hs.held j held).1
  refine ⟨s.threads[j].phase, ?_, ?_⟩
  · rw [phase, held, Option.bind_some, List.getElem?_eq_getElem bound, Option.map_some]
  · exact s.threads[j].phase.left_le

/-- A step of the thread itself is one less that it has left. -/
theorem Joining.thread {n : Nat} (hs : s.Joining n) {i : Nat} {step : PollStep}
    (moved : (interruptPoller crc).step s (.thread i step) = some (t, out)) :
    ∃ m, m + 1 = n ∧ t.Joining m := by
  obtain ⟨thread, there, went⟩ := Option.bind_eq_some_iff.mp moved
  clear moved
  obtain ⟨phase, at', left⟩ := hs.left
  have lowered := (hs.owned.joins hs.joins).1
  have moves : ∀ (buffer : EndpointBuffer) (next : PollPhase), next.left < thread.phase.left →
      ∃ m, m + 1 = n ∧ ((s.setBuffer buffer).setPhase i next).Joining m := by
    intro buffer next less
    have busy : thread.phase ≠ .finished := by
      intro finished
      rw [finished] at less
      exact absurd less (Nat.not_lt_zero _)
    have owned := hs.owned.set_buffer buffer
    obtain ⟨was, set⟩ := owned.phase_set there busy next
    rw [set_buffer_phase, at'] at was
    obtain rfl := Option.some.inj was
    have positive := Nat.lt_of_lt_of_le (Nat.zero_lt_of_lt less) left
    exact ⟨n - 1, Nat.sub_add_cancel positive, owned.set_phase there busy next, hs.joins, next, set,
      Nat.le_sub_one_of_lt (Nat.lt_of_lt_of_le less left)⟩
  unfold threadStep at went
  split at went
  case h_1 here =>
    obtain ⟨rfl, -⟩ := Prod.mk.inj (Option.some.inj went)
    rw [lowered]
    exact moves s.poller.buffer .finished (by rw [here]; decide)
  case h_2 here =>
    unfold readStep at went
    split at went
    · split at went
      · cases went
      split at went
      · obtain ⟨rfl, -⟩ := Prod.mk.inj (Option.some.inj went)
        exact moves s.poller.buffer .checking (by rw [here]; decide)
      · obtain ⟨rfl, -⟩ := Prod.mk.inj (Option.some.inj went)
        exact moves _ (.pushing _) (by rw [here]; exact Nat.lt_succ_self 3)
    · obtain ⟨rfl, -⟩ := Prod.mk.inj (Option.some.inj went)
      exact moves s.poller.buffer .checking (by rw [here]; decide)
    · obtain ⟨rfl, -⟩ := Prod.mk.inj (Option.some.inj went)
      exact moves s.poller.buffer .finished (by rw [here]; decide)
    · obtain ⟨rfl, -⟩ := Prod.mk.inj (Option.some.inj went)
      exact moves s.poller.buffer .sleeping (by rw [here]; decide)
  case h_3 report here =>
    obtain ⟨rfl, -⟩ := Prod.mk.inj (Option.some.inj went)
    refine moves _ _ ?_
    rw [here]
    cases thread.callback with
    | false => exact Nat.lt_of_sub_eq_succ rfl
    | true => exact Nat.lt_succ_self 2
  case h_4 report here =>
    obtain ⟨rfl, -⟩ := Prod.mk.inj (Option.some.inj went)
    exact moves s.poller.buffer .checking (by rw [here]; exact Nat.lt_succ_self 1)
  case h_5 here =>
    obtain ⟨rfl, -⟩ := Prod.mk.inj (Option.some.inj went)
    exact moves s.poller.buffer .checking (by rw [here]; decide)
  case h_6 => cases went

/-- The consumers do not hold `stop` up. -/
theorem Joining.other {n : Nat} (hs : s.Joining n) {a : PollAction} (own : a.isThread = false)
    (unjoined : a ≠ .joined) (moved : (interruptPoller crc).step s a = some (t, out)) :
    t.Joining n := by
  have owned := (step_does hs.owned moved).1
  cases a with
  | thread i step => cases own
  | joined => exact absurd rfl unjoined
  | setCallback | start | stop =>
      simp only [interruptPoller, hs.joins, if_true] at moved
      cases moved
  | tryPop | popAll | acknowledge =>
      obtain ⟨rfl, -⟩ := Prod.mk.inj (Option.some.inj moved)
      exact ⟨owned, hs.joins, hs.left⟩
  | popTimeout =>
      simp only [interruptPoller] at moved
      split at moved
      all_goals
        cases moved
        exact ⟨owned, hs.joins, hs.left⟩
  | wake =>
      simp only [interruptPoller] at moved
      split at moved
      · cases moved
      · cases moved
        exact ⟨owned, hs.joins, hs.left⟩

/-- From where its flag is down, a thread can always go on, or it has ended. -/
theorem Joining.goes_on {n : Nat} (hs : s.Joining n) (crc : List UInt8 → UInt32) :
    s.joined.isSome = true ∨
      ∃ i step, ((interruptPoller crc).step s (.thread i step)).isSome = true := by
  obtain ⟨phase, at', -⟩ := hs.left
  by_cases done : phase = .finished
  · subst done
    refine .inl ?_
    rw [joined, if_pos ⟨hs.joins, at'⟩]
    rfl
  · obtain ⟨j, held⟩ := Option.isSome_iff_exists.mp (hs.owned.joins hs.joins).2
    have bound := (hs.owned.held j held).1
    have there : s.threads[j]? = some s.threads[j] := List.getElem?_eq_getElem bound
    have here : s.threads[j].phase = phase := by
      rw [PolledEndpoint.phase, held, Option.bind_some, there, Option.map_some] at at'
      exact Option.some.inj at'
    refine .inr ⟨j, ?_⟩
    have enabled : ∀ step, (s.threadStep crc j s.threads[j] step).isSome = true →
        ∃ step, ((interruptPoller crc).step s (.thread j step)).isSome = true := by
      intro step can
      refine ⟨step, ?_⟩
      simp only [interruptPoller, there, Option.bind_some]
      exact can
    cases phase with
    | finished => exact absurd rfl done
    | checking => exact enabled .check (by simp only [threadStep, here, Option.isSome_some])
    | reading =>
        exact enabled (.read .timeout 0)
          (by simp only [threadStep, here, readStep, Option.isSome_some])
    | pushing report => exact enabled .insert (by simp only [threadStep, here, Option.isSome_some])
    | calling report => exact enabled .call (by simp only [threadStep, here, Option.isSome_some])
    | sleeping => exact enabled .wake (by simp only [threadStep, here, Option.isSome_some])

theorem Joining.run {n : Nat} (hs : s.Joining n) {as : List PollAction}
    (unjoined : .joined ∉ as) (run : (interruptPoller crc).run s as = some (t, out)) :
    ∃ m, as.countP PollAction.isThread + m = n ∧ t.Joining m := by
  induction as generalizing s n out with
  | nil =>
      obtain ⟨rfl, -⟩ := Prod.mk.inj (Option.some.inj run)
      exact ⟨n, Nat.zero_add n, hs⟩
  | cons a as ih =>
      obtain ⟨u, first, rest, step, later, -⟩ := Machine.run_cons_some run
      rw [List.mem_cons, not_or] at unjoined
      cases own : a.isThread with
      | false =>
          rw [List.countP_cons_of_neg (by rw [own]; exact Bool.false_ne_true)]
          exact ih (hs.other own (Ne.symm unjoined.1) step) unjoined.2 later
      | true =>
          cases a with
          | thread i step' =>
              obtain ⟨m, rfl, left⟩ := hs.thread step
              obtain ⟨k, count, done⟩ := ih left unjoined.2 later
              refine ⟨k, ?_, done⟩
              rw [List.countP_cons_of_pos own, Nat.add_right_comm, count]
          | _ => cases own

/-- `stop` returns: whatever the reads give and however the consumers come between, the thread
takes at most four steps before it can be joined, and each of them is open to it. -/
theorem stop_returns {deviceId : DeviceId} {endpoint : UInt8} {maxPacketSize : Nat}
    (run : (interruptPoller crc).Reach (new deviceId endpoint maxPacketSize) tr s)
    (joins : s.joining = true) {as : List PollAction} (unjoined : .joined ∉ as)
    (later : (interruptPoller crc).run s as = some (t, out)) :
    as.countP PollAction.isThread ≤ 4 ∧ (t.joined.isSome = true ∨
      ∃ i step, ((interruptPoller crc).step t (.thread i step)).isSome = true) := by
  have joining := Joining.new (Reported.reach run).owned joins
  obtain ⟨m, count, left⟩ := joining.run unjoined later
  exact ⟨count ▸ Nat.le_add_right _ m, left.goes_on crc⟩

theorem stop_returns_reading : ∃ s tr t out as,
    (interruptPoller crc32).Reach (new ⟨1⟩ 0x81 8) tr s ∧ s.joining = true ∧ .joined ∉ as ∧
      (interruptPoller crc32).run s as = some (t, out) ∧
      as.countP PollAction.isThread ≤ 4 ∧ (t.joined.isSome = true ∨
        ∃ i step, ((interruptPoller crc32).step t (.thread i step)).isSome = true) := by
  have run := Machine.Reach.of_run (rfl : (interruptPoller crc32).run (new ⟨1⟩ 0x81 8)
    [.setCallback, .start, .thread 0 .check, .stop] = some (_, _))
  refine ⟨_, _, _, _, [.thread 0 (.read (.ok [1]) 0), .thread 0 .insert, .tryPop,
    .thread 0 .call, .thread 0 .check], run, rfl, by decide, rfl, ?_⟩
  exact stop_returns run rfl (by decide) rfl

end PolledEndpoint
end P2pUsb
