import Mathlib.Tactic.Linarith
import P2pUsb.Network.HealthMonitor

/-! A reset monitor beside a new one. The reset keeps the two heartbeat counters, and with them
the packet loss of the old connection. -/
namespace P2pUsb

/-- The call as a monitor sees it whose numbers start at 0 instead of `first`. -/
def HealthCall.renumber (first : UInt64) : HealthCall → HealthCall
  | .processHeartbeatAck now timestampMs sequence clientTimestampMs =>
      .processHeartbeatAck now timestampMs (sequence - first) clientTimestampMs
  | call => call

def HealthReply.renumber (first : UInt64) : HealthReply → HealthReply
  | .prepared sequence timestampMs => .prepared (sequence - first) timestampMs
  | reply => reply

namespace HealthMonitor

/-- After any calls the same replies and the same metrics, up to the numbering. -/
def StartsAfresh (m : HealthMonitor) : Prop :=
  ∀ (calls : List HealthCall) (now : Instant) (call : HealthCall),
    (m.after calls).getMetrics now =
        (new.after (calls.map (·.renumber m.sequence))).getMetrics now ∧
      ((m.after calls).perform call).1.renumber m.sequence =
        ((new.after (calls.map (·.renumber m.sequence))).perform (call.renumber m.sequence)).1

/-- The monitors differ in their numbering only. -/
structure SameUpTo (first : UInt64) (m fresh : HealthMonitor) : Prop where
  rttSamples : m.rttSamples = fresh.rttSamples
  sequence : m.sequence - first = fresh.sequence
  heartbeatsSent : m.heartbeatsSent = fresh.heartbeatsSent
  heartbeatsReceived : m.heartbeatsReceived = fresh.heartbeatsReceived
  state : m.state = fresh.state
  lastHeartbeat : m.lastHeartbeat = fresh.lastHeartbeat
  consecutiveFailures : m.consecutiveFailures = fresh.consecutiveFailures
  pending : ∀ sequence, m.pendingHeartbeats.lookup sequence =
    fresh.pendingHeartbeats.lookup (sequence - first)

namespace SameUpTo
variable {first : UInt64} {m fresh : HealthMonitor}

theorem metrics (h : SameUpTo first m fresh) (now : Instant) :
    m.getMetrics now = fresh.getMetrics now := by
  simp only [getMetrics, averageRttMs, packetLoss, h.rttSamples, h.heartbeatsSent,
    h.heartbeatsReceived, h.state, h.lastHeartbeat, h.consecutiveFailures]

theorem updateState (h : SameUpTo first m fresh) (now : Instant) :
    SameUpTo first (m.updateState now) (fresh.updateState now) :=
  { h with state := congrArg calculateState (h.metrics now) }

theorem prepareHeartbeat (h : SameUpTo first m fresh) (now : Instant) (timestampMs : UInt64) :
    SameUpTo first (m.prepareHeartbeat now timestampMs).2
      (fresh.prepareHeartbeat now timestampMs).2 :=
  { h with
    sequence := by
      change m.sequence + 1 - first = fresh.sequence + 1
      rw [← h.sequence]
      grind
    heartbeatsSent := congrArg (· + 1) h.heartbeatsSent
    pending := by
      intro sequence
      change (m.pendingHeartbeats.insert m.sequence now).lookup sequence =
        (fresh.pendingHeartbeats.insert fresh.sequence now).lookup (sequence - first)
      have same : sequence = m.sequence ↔ sequence - first = fresh.sequence := by
        rw [← h.sequence]
        grind
      rw [AList.lookup_insert_eq, AList.lookup_insert_eq, h.pending]
      simp only [same] }

theorem processHeartbeatAck (h : SameUpTo first m fresh) (now : Instant)
    (timestampMs sequence clientTimestampMs : UInt64) :
    (m.processHeartbeatAck now timestampMs sequence clientTimestampMs).1 =
        (fresh.processHeartbeatAck now timestampMs (sequence - first) clientTimestampMs).1 ∧
      SameUpTo first (m.processHeartbeatAck now timestampMs sequence clientTimestampMs).2
        (fresh.processHeartbeatAck now timestampMs (sequence - first) clientTimestampMs).2 := by
  have sent := h.pending sequence
  constructor
  · simp only [HealthMonitor.processHeartbeatAck, sent]
  · refine SameUpTo.updateState ?_ now
    refine { h with
      rttSamples := by rw [sent, h.rttSamples]
      heartbeatsReceived := congrArg (· + 1) h.heartbeatsReceived
      lastHeartbeat := rfl
      consecutiveFailures := rfl
      pending := fun other => ?_ }
    have same : other = sequence ↔ other - first = sequence - first := by grind
    rw [AList.lookup_erase_eq, AList.lookup_erase_eq, h.pending]
    simp only [same]

theorem recordFailure (h : SameUpTo first m fresh) (now : Instant) :
    SameUpTo first (m.recordFailure now) (fresh.recordFailure now) := by
  refine SameUpTo.updateState ?_ now
  refine { h with
    consecutiveFailures := congrArg (· + 1) h.consecutiveFailures
    pending := fun sequence => ?_ }
  rw [AList.lookup_retain, AList.lookup_retain, h.pending]

theorem perform (h : SameUpTo first m fresh) (call : HealthCall) :
    (m.perform call).1.renumber first = (fresh.perform (call.renumber first)).1 ∧
      SameUpTo first (m.perform call).2 (fresh.perform (call.renumber first)).2 := by
  cases call with
  | prepareHeartbeat now timestampMs =>
      exact ⟨congrArg (HealthReply.prepared · timestampMs) h.sequence,
        h.prepareHeartbeat now timestampMs⟩
  | processHeartbeatAck now timestampMs sequence clientTimestampMs =>
      obtain ⟨reply, next⟩ := h.processHeartbeatAck now timestampMs sequence clientTimestampMs
      exact ⟨congrArg HealthReply.acknowledged reply, next⟩
  | recordFailure now => exact ⟨rfl, h.recordFailure now⟩

theorem after (h : SameUpTo first m fresh) (calls : List HealthCall) :
    SameUpTo first (m.after calls) (fresh.after (calls.map (·.renumber first))) := by
  induction calls generalizing m fresh with
  | nil => exact h
  | cons call calls ih => exact ih (h.perform call).2

end SameUpTo

theorem reset_same (m : HealthMonitor) (sent : m.heartbeatsSent = 0)
    (received : m.heartbeatsReceived = 0) : SameUpTo m.sequence m.reset new where
  rttSamples := rfl
  sequence := UInt64.sub_self m.sequence
  heartbeatsSent := sent
  heartbeatsReceived := received
  state := rfl
  lastHeartbeat := rfl
  consecutiveFailures := rfl
  pending := fun _ => rfl

/-! What is kept shows in the state. -/

variable {m : HealthMonitor}

theorem failure_state (fresh : m.consecutiveFailures = 0) (silent : m.lastHeartbeat = none) :
    (m.recordFailure 0).state = if m.heartbeatsReceived = 0 then .connecting else .degraded := by
  simp [recordFailure, updateState, calculateState, getMetrics, fresh, silent]

/-- A quick answer without failures: the state by the loss alone. -/
theorem quick_state (average : m.averageRttMs = some 0) (heard : m.lastHeartbeat = some 0)
    (fresh : m.consecutiveFailures = 0) (received : m.heartbeatsReceived ≠ 0) :
    calculateState (m.getMetrics 0) =
      if m.packetLoss > PACKET_LOSS_DEGRADED_THRESHOLD then .degraded else .connected := by
  have good : (0 : UInt64) < RTT_GOOD_THRESHOLD_MS := by decide
  by_cases high : m.packetLoss > PACKET_LOSS_DEGRADED_THRESHOLD
  · simp [calculateState, getMetrics, heard, fresh, received, high]
  · simp [calculateState, getMetrics, calculateQuality, heard, fresh, received, high, average, good]

/-- The loss with one acknowledgement is high except for one heartbeat, or none. -/
theorem high_loss_iff (received : m.heartbeatsReceived = 1) :
    m.packetLoss > PACKET_LOSS_DEGRADED_THRESHOLD ↔ 1 < m.heartbeatsSent := by
  rw [packetLoss, received, PACKET_LOSS_DEGRADED_THRESHOLD, UInt64.toNat_one, Nat.cast_one]
  split
  case isTrue some =>
    have positive : 0 < m.heartbeatsSent.toNat := some
    by_cases single : m.heartbeatsSent.toNat = 1
    · refine iff_of_false ?_ (fun more => ?_)
      · rw [single]
        norm_num
      · exact absurd single (Nat.ne_of_gt more)
    · have two : 2 ≤ m.heartbeatsSent.toNat := by omega
      have half : (1 : ℚ) / m.heartbeatsSent.toNat ≤ 1 / 2 :=
        one_div_le_one_div_of_le (by norm_num) (by exact_mod_cast two)
      exact iff_of_true (by linarith) two
  case isFalse none =>
    have zero : m.heartbeatsSent = 0 := UInt64.toNat_inj.mp (Nat.eq_zero_of_not_pos none)
    rw [zero]
    exact iff_of_false (by norm_num) (by decide)

theorem first_ack_state (sequence : UInt64) (empty : m.rttSamples = [])
    (received : m.heartbeatsReceived = 0) :
    (m.processHeartbeatAck 0 0 sequence 0).2.state =
      if 1 < m.heartbeatsSent then .degraded else .connected := by
  have none : measureRtt (m.pendingHeartbeats.lookup sequence) 0 0 0 = 0 := by
    cases m.pendingHeartbeats.lookup sequence <;> simp [measureRtt]
  have sample : pushSample [] 0 = [0] := rfl
  simp only [processHeartbeatAck, updateState, none, empty, received, sample, UInt64.zero_add]
  refine (quick_state ?_ rfl rfl (by decide : (1 : UInt64) ≠ 0)).trans ?_
  · simp [averageRttMs]
  · exact if_congr (high_loss_iff rfl) rfl rfl

theorem ack_after_prepare (m : HealthMonitor) (received : m.heartbeatsReceived = 0)
    (sequence : UInt64) :
    (m.reset.after [.prepareHeartbeat 0 0, .processHeartbeatAck 0 0 sequence 0]).state =
      if 1 < m.heartbeatsSent + 1 then .degraded else .connected :=
  first_ack_state sequence rfl received

/-- With a counter kept some calls lead to another state than on a new monitor. -/
theorem kept_counter_shows (m : HealthMonitor)
    (kept : ¬ (m.heartbeatsSent = 0 ∧ m.heartbeatsReceived = 0)) :
    ∃ calls : List HealthCall, (m.reset.after calls).state ≠
      (new.after (calls.map (·.renumber m.sequence))).state := by
  by_cases received : m.heartbeatsReceived = 0
  case neg =>
    -- a failure before any answer
    have old : (m.reset.recordFailure 0).state = .degraded :=
      (failure_state rfl rfl).trans (if_neg received)
    have fresh : (new.recordFailure 0).state = .connecting :=
      (failure_state rfl rfl).trans (if_pos rfl)
    refine ⟨[.recordFailure 0], fun same => ?_⟩
    cases old.symm.trans (same.trans fresh)
  have sent : m.heartbeatsSent ≠ 0 := fun none => kept ⟨none, received⟩
  by_cases last : m.heartbeatsSent + 1 = 0
  case neg =>
    -- the first heartbeat of the new connection is answered at once
    have several : 1 < m.heartbeatsSent + 1 := by grind
    have old := (ack_after_prepare m received m.sequence).trans (if_pos several)
    have fresh := (ack_after_prepare new rfl (m.sequence - m.sequence)).trans
      (if_neg (by decide : ¬ (1 : UInt64) < 0 + 1))
    refine ⟨[.prepareHeartbeat 0 0, .processHeartbeatAck 0 0 m.sequence 0], fun same => ?_⟩
    cases old.symm.trans (same.trans fresh)
  case pos =>
    -- the counter wraps: the second heartbeat is the first that it counts
    have single : ¬ 1 < m.heartbeatsSent + 1 + 1 := by
      rw [last]
      decide
    have old : (m.reset.after [.prepareHeartbeat 0 0, .prepareHeartbeat 0 0,
        .processHeartbeatAck 0 0 m.sequence 0]).state = .connected :=
      (first_ack_state (m := ((m.reset.prepareHeartbeat 0 0).2.prepareHeartbeat 0 0).2)
        m.sequence rfl received).trans (if_neg single)
    have fresh : (new.after [.prepareHeartbeat 0 0, .prepareHeartbeat 0 0,
        .processHeartbeatAck 0 0 (m.sequence - m.sequence) 0]).state = .degraded :=
      (first_ack_state (m := ((new.prepareHeartbeat 0 0).2.prepareHeartbeat 0 0).2)
        (m.sequence - m.sequence) rfl rfl).trans
        (if_pos (by decide : (1 : UInt64) < 0 + 1 + 1))
    refine ⟨[.prepareHeartbeat 0 0, .prepareHeartbeat 0 0,
      .processHeartbeatAck 0 0 m.sequence 0], fun same => ?_⟩
    cases old.symm.trans (same.trans fresh)

/-- A reset is a fresh start if and only if no heartbeat was prepared or acknowledged before,
as counters of 64 bits have it; otherwise some calls even lead to another state. -/
theorem health_reset_fresh_iff (events : List HealthEvent) :
    ((afterEvents events).reset.StartsAfresh ↔
      events.countP HealthEvent.isPrepare % 2 ^ 64 = 0 ∧
        events.countP HealthEvent.isAck % 2 ^ 64 = 0) ∧
    (¬ (events.countP HealthEvent.isPrepare % 2 ^ 64 = 0 ∧
        events.countP HealthEvent.isAck % 2 ^ 64 = 0) →
      ∃ calls : List HealthCall, ((afterEvents events).reset.after calls).state ≠
        (new.after (calls.map (·.renumber (afterEvents events).reset.sequence))).state) := by
  have zero : ∀ n : Nat, UInt64.ofNat n = 0 ↔ n % 2 ^ 64 = 0 := by
    intro n
    rw [← UInt64.toNat_inj, UInt64.toNat_ofNat', UInt64.toNat_zero]
  have counted := counters events
  rw [← zero, ← zero, ← counted.1, ← counted.2]
  have shows := (afterEvents events).kept_counter_shows
  refine ⟨⟨fun afresh => ?_, ?_⟩, shows⟩
  · by_contra kept
    obtain ⟨calls, differ⟩ := shows kept
    exact differ (congrArg HealthMetrics.state (afresh calls 0 (.recordFailure 0)).1)
  · rintro ⟨sent, received⟩ calls now call
    have same := ((afterEvents events).reset_same sent received).after calls
    exact ⟨same.metrics now, (same.perform call).1⟩

/-- One lost heartbeat before the reset: the new connection answers its first one at once and
is degraded. -/
theorem reset_link_degraded :
    ¬ ∀ events : List HealthEvent, (afterEvents events).reset.StartsAfresh := by
  intro all
  have afresh := all [some (.prepareHeartbeat 0 0)]
  have metrics := (afresh [.prepareHeartbeat 0 0, .processHeartbeatAck 0 0 1 0] 0
    (.recordFailure 0)).1
  have old := (ack_after_prepare (new.prepareHeartbeat 0 0).2 rfl 1).trans
    (if_pos (by decide : (1 : UInt64) < 0 + 1 + 1))
  have fresh := (ack_after_prepare new rfl (1 - 1)).trans
    (if_neg (by decide : ¬ (1 : UInt64) < 0 + 1))
  cases old.symm.trans ((congrArg HealthMetrics.state metrics).trans fresh)

end HealthMonitor
end P2pUsb
