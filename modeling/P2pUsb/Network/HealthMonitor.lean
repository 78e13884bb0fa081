import Mathlib.Algebra.Order.Field.Basic
import Mathlib.Algebra.Order.Field.Rat
import Mathlib.Tactic.NormNum
import P2pUsb.Library.FiniteMap
import P2pUsb.Protocol.Types

/-! The health monitor of a connection: heartbeats, their acknowledgements and failures, and
what is measured from them. Sums and counters of `u64` wrap as in the release profile; the
packet loss is an exact fraction. Every call reads the clocks once. -/
namespace P2pUsb

def RTT_SAMPLE_COUNT : Nat := 10

def HEARTBEAT_TIMEOUT : Duration := Duration.fromSecs 15

def RTT_GOOD_THRESHOLD_MS : UInt64 := 50

def RTT_FAIR_THRESHOLD_MS : UInt64 := 150

def PACKET_LOSS_DEGRADED_THRESHOLD : ℚ := 1 / 5

inductive ConnectionQuality where
  | good | fair | poor | unknown
  deriving DecidableEq, Repr

inductive HealthState where
  | connecting | connected | degraded | disconnected
  deriving DecidableEq, Repr

structure HealthMetrics where
  state : HealthState
  quality : ConnectionQuality
  latestRttMs : Option UInt64
  averageRttMs : Option UInt64
  minRttMs : Option UInt64
  maxRttMs : Option UInt64
  packetLoss : ℚ
  heartbeatsSent : UInt64
  heartbeatsReceived : UInt64
  timeSinceLastHeartbeat : Option Duration
  consecutiveFailures : UInt32

structure HealthMonitor where
  rttSamples : List UInt64
  sequence : UInt64
  heartbeatsSent : UInt64
  heartbeatsReceived : UInt64
  state : HealthState
  lastHeartbeat : Option Instant
  consecutiveFailures : UInt32
  pendingHeartbeats : AList fun _ : UInt64 => Instant

/-- A call with the time of the monotonic clock, and of the system clock in milliseconds where
the call reads it. -/
inductive HealthCall where
  | prepareHeartbeat (now : Instant) (timestampMs : UInt64)
  | processHeartbeatAck (now : Instant) (timestampMs : UInt64) (sequence clientTimestampMs : UInt64)
  | recordFailure (now : Instant)
  deriving DecidableEq, Repr

inductive HealthReply where
  | prepared (sequence timestampMs : UInt64)
  | acknowledged (rttMs : Option UInt64)
  | recorded
  deriving DecidableEq, Repr

namespace HealthMonitor

def new : HealthMonitor where
  rttSamples := []
  sequence := 0
  heartbeatsSent := 0
  heartbeatsReceived := 0
  state := .connecting
  lastHeartbeat := none
  consecutiveFailures := 0
  pendingHeartbeats := ∅

def calculateQuality (avgRttMs : Option UInt64) (packetLoss : ℚ) : ConnectionQuality :=
  if packetLoss > PACKET_LOSS_DEGRADED_THRESHOLD then .poor
  else
    match avgRttMs with
    | none => .unknown
    | some rtt =>
        if rtt < RTT_GOOD_THRESHOLD_MS then .good
        else if rtt < RTT_FAIR_THRESHOLD_MS then .fair
        else .poor

/-- The share of the heartbeats that were not acknowledged. -/
def packetLoss (m : HealthMonitor) : ℚ :=
  if m.heartbeatsSent > 0 then 1 - m.heartbeatsReceived.toNat / m.heartbeatsSent.toNat else 0

def averageRttMs (m : HealthMonitor) : Option UInt64 :=
  if m.rttSamples.isEmpty then none
  else some (m.rttSamples.sum / UInt64.ofNat m.rttSamples.length)

def getMetrics (m : HealthMonitor) (now : Instant) : HealthMetrics where
  state := m.state
  quality := calculateQuality m.averageRttMs m.packetLoss
  latestRttMs := m.rttSamples.getLast?
  averageRttMs := m.averageRttMs
  minRttMs := m.rttSamples.min?
  maxRttMs := m.rttSamples.max?
  packetLoss := m.packetLoss
  heartbeatsSent := m.heartbeatsSent
  heartbeatsReceived := m.heartbeatsReceived
  timeSinceLastHeartbeat := m.lastHeartbeat.map fun t => now - t
  consecutiveFailures := m.consecutiveFailures

def calculateState (metrics : HealthMetrics) : HealthState :=
  if metrics.timeSinceLastHeartbeat.any fun timeSince => decide (timeSince > HEARTBEAT_TIMEOUT) then
    .disconnected
  else if metrics.consecutiveFailures ≥ 3 then .disconnected
  else if metrics.heartbeatsReceived = 0 then .connecting
  else if metrics.quality = .poor ∨ metrics.packetLoss > PACKET_LOSS_DEGRADED_THRESHOLD ∨
      metrics.consecutiveFailures ≥ 1 then .degraded
  else .connected

def updateState (m : HealthMonitor) (now : Instant) : HealthMonitor :=
  { m with state := calculateState (m.getMetrics now) }

def prepareHeartbeat (m : HealthMonitor) (now : Instant) (timestampMs : UInt64) :
    (UInt64 × UInt64) × HealthMonitor :=
  ((m.sequence, timestampMs), { m with
    sequence := m.sequence + 1
    pendingHeartbeats := m.pendingHeartbeats.insert m.sequence now
    heartbeatsSent := m.heartbeatsSent + 1 })

/-- From the time of sending, or else from the timestamp that came back. -/
def measureRtt (sendTime : Option Instant) (now : Instant)
    (timestampMs clientTimestampMs : UInt64) :
    UInt64 :=
  match sendTime with
  | some sent => UInt64.ofNat ((now - sent) / 1000000)
  | none => if timestampMs < clientTimestampMs then 0 else timestampMs - clientTimestampMs

def pushSample (samples : List UInt64) (rttMs : UInt64) : List UInt64 :=
  (if samples.length ≥ RTT_SAMPLE_COUNT then samples.tail else samples) ++ [rttMs]

def processHeartbeatAck (m : HealthMonitor) (now : Instant) (timestampMs sequence : UInt64)
    (clientTimestampMs : UInt64) : Option UInt64 × HealthMonitor :=
  let rttMs := measureRtt (m.pendingHeartbeats.lookup sequence) now timestampMs clientTimestampMs
  (some rttMs, updateState { m with
    pendingHeartbeats := m.pendingHeartbeats.erase sequence
    rttSamples := pushSample m.rttSamples rttMs
    lastHeartbeat := some now
    consecutiveFailures := 0
    heartbeatsReceived := m.heartbeatsReceived + 1 } now)

def recordFailure (m : HealthMonitor) (now : Instant) : HealthMonitor :=
  updateState { m with
    consecutiveFailures := m.consecutiveFailures + 1
    pendingHeartbeats := m.pendingHeartbeats.retain fun _ time =>
      decide (time + HEARTBEAT_TIMEOUT > now) } now

def reset (m : HealthMonitor) : HealthMonitor :=
  { m with
    rttSamples := []
    state := .connecting
    lastHeartbeat := none
    consecutiveFailures := 0
    pendingHeartbeats := ∅ }

def perform (m : HealthMonitor) : HealthCall → HealthReply × HealthMonitor
  | .prepareHeartbeat now timestampMs =>
      (m.prepareHeartbeat now timestampMs).map (fun r => .prepared r.1 r.2) id
  | .processHeartbeatAck now timestampMs sequence clientTimestampMs =>
      (m.processHeartbeatAck now timestampMs sequence clientTimestampMs).map .acknowledged id
  | .recordFailure now => (.recorded, m.recordFailure now)

def after (m : HealthMonitor) (calls : List HealthCall) : HealthMonitor :=
  calls.foldl (fun m call => (m.perform call).2) m

end HealthMonitor

/-- What happens to a monitor over the life of a client: `none` is a reset. -/
abbrev HealthEvent := Option HealthCall

namespace HealthMonitor

def handle (m : HealthMonitor) : HealthEvent → HealthMonitor
  | some call => (m.perform call).2
  | none => m.reset

def afterEvents (events : List HealthEvent) : HealthMonitor := events.foldl handle new

end HealthMonitor

namespace HealthEvent

def isPrepare : HealthEvent → Bool
  | some (.prepareHeartbeat _ _) => true
  | _ => false

def isAck : HealthEvent → Bool
  | some (.processHeartbeatAck _ _ _ _) => true
  | _ => false

end HealthEvent

/-! ### Packet loss -/

namespace HealthMonitor
variable {m : HealthMonitor} {events : List HealthEvent}

/-- The counters count the calls. -/
theorem counters (events : List HealthEvent) :
    (afterEvents events).heartbeatsSent = UInt64.ofNat (events.countP HealthEvent.isPrepare) ∧
      (afterEvents events).heartbeatsReceived =
        UInt64.ofNat (events.countP HealthEvent.isAck) := by
  induction events using List.reverseRecOn with
  | nil => exact ⟨rfl, rfl⟩
  | append_singleton events event ih =>
      obtain ⟨sent, received⟩ := ih
      rw [afterEvents, List.foldl_append, ← afterEvents, List.countP_append, List.countP_append,
        UInt64.ofNat_add, UInt64.ofNat_add, ← sent, ← received]
      match event with
      | none => exact ⟨(UInt64.add_zero _).symm, (UInt64.add_zero _).symm⟩
      | some (.prepareHeartbeat _ _) => exact ⟨rfl, (UInt64.add_zero _).symm⟩
      | some (.processHeartbeatAck _ _ _ _) => exact ⟨(UInt64.add_zero _).symm, rfl⟩
      | some (.recordFailure _) => exact ⟨(UInt64.add_zero _).symm, (UInt64.add_zero _).symm⟩

/-- No more acknowledgements than heartbeats, and a loss between 0 and 1. -/
structure LossIsFraction (m : HealthMonitor) : Prop where
  bounded : m.heartbeatsReceived ≤ m.heartbeatsSent
  nonneg : ∀ now, 0 ≤ (m.getMetrics now).packetLoss
  le_one : ∀ now, (m.getMetrics now).packetLoss ≤ 1

theorem fraction_iff (m : HealthMonitor) :
    m.LossIsFraction ↔ m.heartbeatsReceived ≤ m.heartbeatsSent := by
  refine ⟨LossIsFraction.bounded, fun bounded => ⟨bounded, fun now => ?_, fun now => ?_⟩⟩
  · change 0 ≤ m.packetLoss
    unfold packetLoss
    split
    case isTrue some =>
      have positive : (0 : ℚ) < m.heartbeatsSent.toNat := Nat.cast_pos.mpr some
      have below : (m.heartbeatsReceived.toNat : ℚ) ≤ m.heartbeatsSent.toNat :=
        Nat.cast_le.mpr bounded
      exact sub_nonneg.mpr ((div_le_one positive).mpr below)
    case isFalse => exact le_rfl
  · change m.packetLoss ≤ 1
    unfold packetLoss
    split
    case isTrue => exact sub_le_self 1 (div_nonneg (Nat.cast_nonneg _) (Nat.cast_nonneg _))
    case isFalse => exact zero_le_one

/-- Every acknowledgement carries the number of a heartbeat that is pending. -/
def AnswersPending : HealthMonitor → List HealthEvent → Prop
  | _, [] => True
  | m, event :: events =>
      (∀ now timestampMs sequence clientTimestampMs,
        event = some (.processHeartbeatAck now timestampMs sequence clientTimestampMs) →
        sequence ∈ m.pendingHeartbeats) ∧ AnswersPending (m.handle event) events

theorem AnswersPending.before {rest : List HealthEvent} (h : m.AnswersPending (events ++ rest)) :
    m.AnswersPending events := by
  induction events generalizing m with
  | nil => trivial
  | cons event events ih => exact ⟨h.1, ih h.2⟩

/-- What one event does to the number of pending heartbeats. -/
theorem pending_handle (m : HealthMonitor) (event : HealthEvent)
    (known : ∀ now timestampMs sequence clientTimestampMs,
      event = some (.processHeartbeatAck now timestampMs sequence clientTimestampMs) →
      sequence ∈ m.pendingHeartbeats) :
    (m.handle event).pendingHeartbeats.size + (if event.isAck then 1 else 0) ≤
      m.pendingHeartbeats.size + (if event.isPrepare then 1 else 0) := by
  match event with
  | none => exact Nat.zero_le _
  | some (.prepareHeartbeat now timestampMs) =>
      exact AList.size_insert_le m.pendingHeartbeats m.sequence now
  | some (.processHeartbeatAck now timestampMs sequence clientTimestampMs) =>
      exact (AList.size_erase_of_mem (known _ _ _ _ rfl)).le
  | some (.recordFailure now) => exact AList.size_retain_le m.pendingHeartbeats _

/-- Each acknowledgement has used up a heartbeat of its own. -/
theorem AnswersPending.bounded (h : m.AnswersPending events) (acked prepared : Nat)
    (room : acked + m.pendingHeartbeats.size ≤ prepared) :
    acked + events.countP HealthEvent.isAck ≤ prepared + events.countP HealthEvent.isPrepare := by
  induction events generalizing m acked prepared with
  | nil => exact le_trans (Nat.le_add_right _ _) room
  | cons event events ih =>
      obtain ⟨known, later⟩ := h
      have step := m.pending_handle event known
      have rest := ih later (acked + if event.isAck then 1 else 0)
        (prepared + if event.isPrepare then 1 else 0) (by omega)
      rw [List.countP_cons, List.countP_cons]
      omega

/-- The loss is a fraction as long as no more acknowledgements came than heartbeats were
prepared, as counters of 64 bits have them; that is so where each acknowledgement carries a
pending number. -/
theorem packet_loss_fraction_iff (events : List HealthEvent) :
    ((∀ before, before <+: events → (afterEvents before).LossIsFraction) ↔
      ∀ before, before <+: events → before.countP HealthEvent.isAck % 2 ^ 64 ≤
        before.countP HealthEvent.isPrepare % 2 ^ 64) ∧
    (events.length < 2 ^ 64 → new.AnswersPending events →
      ∀ before, before <+: events → (afterEvents before).LossIsFraction) := by
  have each : ∀ before, (afterEvents before).LossIsFraction ↔
      before.countP HealthEvent.isAck % 2 ^ 64 ≤ before.countP HealthEvent.isPrepare % 2 ^ 64 := by
    intro before
    rw [fraction_iff, (counters before).1, (counters before).2, UInt64.le_iff_toNat_le,
      UInt64.toNat_ofNat', UInt64.toNat_ofNat']
  refine ⟨forall_congr' fun before => imp_congr_right fun _ => each before, ?_⟩
  rintro short answers before ⟨rest, rfl⟩
  have bounded := answers.before.bounded 0 0 le_rfl
  have few := before.countP_le_length (p := HealthEvent.isPrepare)
  rw [List.length_append] at short
  rw [each]
  omega

/-- A duplicate makes the loss negative. -/
theorem duplicate_ack_gains :
    ¬ ∀ events : List HealthEvent, (afterEvents events).LossIsFraction := by
  intro all
  have bounded := (all [some (.prepareHeartbeat 0 0), some (.processHeartbeatAck 1 0 0 0),
    some (.processHeartbeatAck 2 0 0 0)]).bounded
  exact absurd bounded (by decide)

end HealthMonitor
end P2pUsb
