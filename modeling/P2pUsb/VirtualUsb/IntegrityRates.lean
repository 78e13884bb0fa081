import Mathlib.Algebra.Order.Field.Rat
import Mathlib.Tactic.Positivity
import P2pUsb.VirtualUsb.Reception

/-! The statistics of the receive buffers and the rates made of them. A corrupted report
counts as a failure but not as received, so the failures can be more than what was
received. Rates are exact quotients here. -/
namespace P2pUsb

structure ReceiveBufferStats where
  endpoint : UInt8
  buffered : Nat
  totalReceived : Nat
  totalServed : Nat
  gapsDetected : Nat
  checksumFailures : Nat
  highestSeq : Nat
  active : Bool
  missingCount : Nat
  lastContiguousSeq : Nat
  deriving DecidableEq, Repr

def EndpointReceiveBuffer.stats (b : EndpointReceiveBuffer) : ReceiveBufferStats where
  endpoint := b.endpoint
  buffered := b.reports.length
  totalReceived := b.totalReceived
  totalServed := b.totalServed
  gapsDetected := b.gapsDetected
  checksumFailures := b.checksumFailures
  highestSeq := b.highestSeq
  active := b.active
  missingCount := b.missingSequences.card
  lastContiguousSeq := b.lastContiguousSeq

/-- The share of the reports received that did not fail; the subtraction of two words wraps. -/
def integrityRateOf (totalReceived checksumFailures : Nat) : ℚ :=
  if totalReceived = 0 then 1
  else ((totalReceived + 2 ^ 64 - checksumFailures) % 2 ^ 64 : Nat) / totalReceived

def ReceiveBufferStats.integrityRate (stats : ReceiveBufferStats) : ℚ :=
  integrityRateOf stats.totalReceived stats.checksumFailures

structure AggregatedIntegrityMetrics where
  totalReceived : Nat
  totalServed : Nat
  checksumFailures : Nat
  gapsDetected : Nat
  missingCount : Nat
  activeEndpoints : Nat
  deriving DecidableEq, Repr

namespace AggregatedIntegrityMetrics

def new : AggregatedIntegrityMetrics := ⟨0, 0, 0, 0, 0, 0⟩

def addBufferStats (metrics : AggregatedIntegrityMetrics) (stats : ReceiveBufferStats) :
    AggregatedIntegrityMetrics where
  totalReceived := metrics.totalReceived + stats.totalReceived
  totalServed := metrics.totalServed + stats.totalServed
  checksumFailures := metrics.checksumFailures + stats.checksumFailures
  gapsDetected := metrics.gapsDetected + stats.gapsDetected
  missingCount := metrics.missingCount + stats.missingCount
  activeEndpoints := metrics.activeEndpoints + if stats.active then 1 else 0

def integrityRate (metrics : AggregatedIntegrityMetrics) : ℚ :=
  integrityRateOf metrics.totalReceived metrics.checksumFailures

/-- `add_buffer_stats` of every buffer. -/
def ofBuffers (buffers : List EndpointReceiveBuffer) : AggregatedIntegrityMetrics :=
  buffers.foldl (fun metrics b => metrics.addBufferStats b.stats) new

end AggregatedIntegrityMetrics

/-- The subtraction does not underflow, and the rate is a share. -/
structure RateSound (totalReceived checksumFailures : Nat) (rate : ℚ) : Prop where
  noUnderflow : totalReceived ≠ 0 → checksumFailures ≤ totalReceived
  nonneg : 0 ≤ rate
  le_one : rate ≤ 1

/-- A new buffer, and the number it is activated with, if it is. -/
structure BufferSetup where
  endpoint : UInt8
  maxSize : Nat
  startSeq : Option UInt64

def BufferSetup.buffer (setup : BufferSetup) : EndpointReceiveBuffer :=
  match setup.startSeq with
  | none => .new setup.endpoint setup.maxSize
  | some startSeq => (EndpointReceiveBuffer.new setup.endpoint setup.maxSize).activate startSeq

/-- `store` on one of several buffers. -/
structure StoreCall where
  index : Nat
  report : ReceivedReport
  nowUs : Nat

def storeAll (crc : List UInt8 → UInt32) (buffers : List EndpointReceiveBuffer)
    (calls : List StoreCall) : List EndpointReceiveBuffer :=
  calls.foldl (fun buffers call =>
    buffers.modify call.index fun b => (b.store crc call.report call.nowUs).2) buffers

/-- How many of the reports come to an active buffer and pass the test. -/
def tally (test : ReceivedReport → Bool) (buffers : List EndpointReceiveBuffer)
    (calls : List StoreCall) : Nat :=
  calls.countP fun call => (buffers[call.index]?.any (·.active)) && test call.report

def validReports (crc : List UInt8 → UInt32) (buffers : List EndpointReceiveBuffer)
    (calls : List StoreCall) : Nat :=
  tally (·.verify crc) buffers calls

def corruptedReports (crc : List UInt8 → UInt32) (buffers : List EndpointReceiveBuffer)
    (calls : List StoreCall) : Nat :=
  tally (fun report => !report.verify crc) buffers calls

def StoreCall.to (i : Nat) (calls : List StoreCall) : List StoreCall :=
  calls.filter fun call => call.index = i

theorem rate_sound_iff {received failures : Nat} :
    RateSound received failures (integrityRateOf received failures) ↔
      received = 0 ∨ failures ≤ received := by
  constructor
  · intro sound
    by_cases none : received = 0
    · exact .inl none
    · exact .inr (sound.noUnderflow none)
  · intro fewer
    by_cases none : received = 0
    · have whole : integrityRateOf received failures = 1 := if_pos none
      rw [whole]
      exact ⟨fun some => absurd none some, zero_le_one, le_refl 1⟩
    · have le : failures ≤ received := fewer.resolve_left none
      have share : (received + 2 ^ 64 - failures) % 2 ^ 64 ≤ received := by omega
      rw [integrityRateOf, if_neg none]
      refine ⟨fun _ => le, by positivity, ?_⟩
      exact div_le_one_of_le₀ (Nat.cast_le.mpr share) (Nat.cast_nonneg received)

namespace EndpointReceiveBuffer
variable {crc : List UInt8 → UInt32} {b : EndpointReceiveBuffer} {report : ReceivedReport}
  {nowUs : Nat}

/-- A report that is not active's business changes nothing; of the others each goes into
one of the two counters. -/
theorem store_counts (crc : List UInt8 → UInt32) (b : EndpointReceiveBuffer)
    (report : ReceivedReport) (nowUs : Nat) :
    (b.store crc report nowUs).2.active = b.active ∧
    (b.store crc report nowUs).2.totalReceived =
      b.totalReceived + (b.active && report.verify crc).toNat ∧
    (b.store crc report nowUs).2.checksumFailures =
      b.checksumFailures + (b.active && !report.verify crc).toNat := by
  obtain ⟨_, _, _, tracked⟩ := b.track_eq report.seq nowUs
  cases active : b.active with
  | false =>
      rw [store, active]
      exact ⟨active, rfl, rfl⟩
  | true =>
      cases valid : report.verify crc with
      | false =>
          rw [store, active, valid]
          exact ⟨rfl, rfl, rfl⟩
      | true =>
          rw [store_accepted (by rw [accepts, active, valid]; rfl), accept_active]
          simp only [accept, pushReport, updateLastContiguous, advance, tracked]
          exact ⟨active, rfl, rfl⟩

end EndpointReceiveBuffer

section Counters
variable {crc : List UInt8 → UInt32} {test : ReceivedReport → Bool}
  {counter : EndpointReceiveBuffer → Nat} {buffers : List EndpointReceiveBuffer}

/-- A counter grows by the reports that come to an active buffer and pass a test. -/
def Counts (crc : List UInt8 → UInt32) (counter : EndpointReceiveBuffer → Nat)
    (test : ReceivedReport → Bool) : Prop :=
  ∀ b report nowUs,
    counter (b.store crc report nowUs).2 = counter b + (b.active && test report).toNat

theorem counts_received : Counts crc (·.totalReceived) (·.verify crc) := fun b report nowUs =>
  (b.store_counts crc report nowUs).2.1

theorem counts_failures : Counts crc (·.checksumFailures) (fun report => !report.verify crc) :=
  fun b report nowUs => (b.store_counts crc report nowUs).2.2

theorem tally_cons (test : ReceivedReport → Bool) (buffers : List EndpointReceiveBuffer)
    (call : StoreCall) (calls : List StoreCall) :
    tally test buffers (call :: calls) = tally test buffers calls +
      ((buffers[call.index]?.any (·.active)) && test call.report).toNat := by
  rw [tally, tally, List.countP_cons]
  congr 1
  cases (buffers[call.index]?.any (·.active)) && test call.report with
  | true => rfl
  | false => rfl

/-- No store changes which buffers are active. -/
theorem active_modify (buffers : List EndpointReceiveBuffer) (call : StoreCall) (i : Nat) :
    ((buffers.modify call.index fun b => (b.store crc call.report call.nowUs).2)[i]?).any
        (·.active) = (buffers[i]?).any (·.active) := by
  rw [List.getElem?_modify]
  cases buffers[i]? with
  | none => rfl
  | some b =>
      have same := (b.store_counts crc call.report call.nowUs).1
      by_cases here : call.index = i
      · simpa only [here, if_true, Option.map_eq_map, Option.map_some, Option.any_some] using same
      · simp only [here, if_false, Option.map_eq_map, Option.map_some, Option.any_some]

theorem tally_modify (test : ReceivedReport → Bool) (buffers : List EndpointReceiveBuffer)
    (call : StoreCall) (calls : List StoreCall) :
    tally test (buffers.modify call.index fun b => (b.store crc call.report call.nowUs).2) calls =
      tally test buffers calls := by
  simp only [tally, active_modify]

/-- The sum over a list of which one element is replaced. -/
theorem sum_modify {β : Type} (size : β → Nat) (f : β → β) (gain : β → Nat)
    (grows : ∀ b, size (f b) = size b + gain b) (bs : List β) (i : Nat) :
    ((bs.modify i f).map size).sum = (bs.map size).sum + ((bs[i]?).map gain).getD 0 := by
  induction bs generalizing i with
  | nil =>
      rw [List.modify_nil]
      rfl
  | cons b bs ih =>
      cases i with
      | zero =>
          simp only [List.modify_zero_cons, List.map_cons, List.sum_cons, grows,
            List.getElem?_cons_zero, Option.map_some, Option.getD_some]
          omega
      | succ i =>
          simp only [List.modify_succ_cons, List.map_cons, List.sum_cons, ih,
            List.getElem?_cons_succ]
          omega

theorem sum_counted (counts : Counts crc counter test) (calls : List StoreCall) :
    ((storeAll crc buffers calls).map counter).sum =
      (buffers.map counter).sum + tally test buffers calls := by
  induction calls generalizing buffers with
  | nil => rfl
  | cons call calls ih =>
      have gain := sum_modify counter (fun b => (b.store crc call.report call.nowUs).2)
        (fun b => (b.active && test call.report).toNat)
        (fun b => counts b call.report call.nowUs) buffers call.index
      have same : ((buffers[call.index]?).map fun b => (b.active && test call.report).toNat).getD
        0 =
          ((buffers[call.index]?.any (·.active)) && test call.report).toNat := by
        cases buffers[call.index]? with
        | none => rfl
        | some b => rfl
      rw [storeAll, List.foldl_cons, ← storeAll, ih, gain, same, tally_modify, tally_cons]
      omega

theorem StoreCall.to_cons (i : Nat) (call : StoreCall) (calls : List StoreCall) :
    StoreCall.to i (call :: calls) =
      if call.index = i then call :: StoreCall.to i calls else StoreCall.to i calls := by
  simp only [StoreCall.to, List.filter_cons, decide_eq_true_eq]

theorem one_counted (counts : Counts crc counter test) (buffers : List EndpointReceiveBuffer)
    (calls : List StoreCall) (i : Nat) :
    ((storeAll crc buffers calls)[i]?).map counter = (buffers[i]?).map fun b =>
      counter b + tally test buffers (StoreCall.to i calls) := by
  induction calls generalizing buffers with
  | nil => rfl
  | cons call calls ih =>
      rw [storeAll, List.foldl_cons, ← storeAll, ih, tally_modify, List.getElem?_modify]
      cases found : buffers[i]? with
      | none => rfl
      | some b =>
          have grown := counts b call.report call.nowUs
          by_cases here : call.index = i
          · have active : (buffers[call.index]?.any (·.active)) = b.active := by
              rw [here, found]
              rfl
            rw [StoreCall.to_cons, if_pos here, tally_cons, active]
            simp only [here, if_true, Option.map_eq_map, Option.map_some, grown, Option.some.injEq]
            omega
          · rw [StoreCall.to_cons, if_neg here]
            simp only [here, if_false, Option.map_eq_map, Option.map_some]

end Counters

/-- The sums that `add_buffer_stats` makes. -/
theorem of_buffers_sums (buffers : List EndpointReceiveBuffer) :
    (AggregatedIntegrityMetrics.ofBuffers buffers).totalReceived =
        (buffers.map (·.totalReceived)).sum ∧
      (AggregatedIntegrityMetrics.ofBuffers buffers).checksumFailures =
        (buffers.map (·.checksumFailures)).sum := by
  have sums : ∀ metrics : AggregatedIntegrityMetrics,
      (buffers.foldl (fun metrics b => metrics.addBufferStats b.stats) metrics).totalReceived =
          metrics.totalReceived + (buffers.map (·.totalReceived)).sum ∧
        (buffers.foldl (fun metrics b => metrics.addBufferStats b.stats) metrics).checksumFailures =
          metrics.checksumFailures + (buffers.map (·.checksumFailures)).sum := by
    induction buffers with
    | nil => exact fun metrics => ⟨rfl, rfl⟩
    | cons b buffers ih =>
        intro metrics
        obtain ⟨received, failures⟩ := ih (metrics.addBufferStats b.stats)
        rw [List.foldl_cons, received, failures, List.map_cons, List.map_cons, List.sum_cons,
          List.sum_cons, ← Nat.add_assoc, ← Nat.add_assoc]
        exact ⟨rfl, rfl⟩
  have all := sums .new
  rw [AggregatedIntegrityMetrics.ofBuffers]
  exact ⟨all.1.trans (Nat.zero_add _), all.2.trans (Nat.zero_add _)⟩

/-- The rates of the buffers and of all of them together. -/
def RatesSound (buffers : List EndpointReceiveBuffer) : Prop :=
  (∀ b ∈ buffers, RateSound b.stats.totalReceived b.stats.checksumFailures
    b.stats.integrityRate) ∧
  RateSound (AggregatedIntegrityMetrics.ofBuffers buffers).totalReceived
    (AggregatedIntegrityMetrics.ofBuffers buffers).checksumFailures
    (AggregatedIntegrityMetrics.ofBuffers buffers).integrityRate

theorem rates_sound_iff (buffers : List EndpointReceiveBuffer) :
    RatesSound buffers ↔
      (∀ b ∈ buffers, b.totalReceived = 0 ∨ b.checksumFailures ≤ b.totalReceived) ∧
      ((buffers.map (·.totalReceived)).sum = 0 ∨
        (buffers.map (·.checksumFailures)).sum ≤ (buffers.map (·.totalReceived)).sum) := by
  obtain ⟨received, failures⟩ := of_buffers_sums buffers
  rw [← received, ← failures]
  exact and_congr (forall_congr' fun b => imp_congr_right fun _ => rate_sound_iff) rate_sound_iff

theorem BufferSetup.buffer_counters (setup : BufferSetup) :
    setup.buffer.totalReceived = 0 ∧ setup.buffer.checksumFailures = 0 := by
  unfold BufferSetup.buffer
  cases setup.startSeq with
  | none => exact ⟨rfl, rfl⟩
  | some startSeq => exact ⟨rfl, rfl⟩

variable {crc : List UInt8 → UInt32}

theorem store_all_length (buffers : List EndpointReceiveBuffer) (calls : List StoreCall) :
    (storeAll crc buffers calls).length = buffers.length := by
  induction calls generalizing buffers with
  | nil => rfl
  | cons call calls ih => rw [storeAll, List.foldl_cons, ← storeAll, ih, List.length_modify]

/-- The counters of one buffer that had counted nothing. -/
theorem stored_counters {buffers : List EndpointReceiveBuffer}
    (start : ∀ b ∈ buffers, b.totalReceived = 0 ∧ b.checksumFailures = 0)
    (calls : List StoreCall) {i : Nat} {b : EndpointReceiveBuffer}
    (stored : (storeAll crc buffers calls)[i]? = some b) :
    b.totalReceived = validReports crc buffers (StoreCall.to i calls) ∧
      b.checksumFailures = corruptedReports crc buffers (StoreCall.to i calls) := by
  have received := one_counted (counts_received : Counts crc _ _) buffers calls i
  have failures := one_counted (counts_failures : Counts crc _ _) buffers calls i
  rw [stored] at received failures
  obtain ⟨b₀, found, received⟩ := Option.map_eq_some_iff.mp received.symm
  obtain ⟨none_received, none_failed⟩ := start b₀ (List.mem_of_getElem? found)
  rw [found, Option.map_some, Option.map_some, Option.some.injEq, none_failed,
    Nat.zero_add] at failures
  rw [none_received, Nat.zero_add] at received
  exact ⟨received.symm, failures⟩

/-- The rates of new buffers are sound, after any stores, if and only if no buffer that has
had a valid report has had more corrupted ones, nor have all of them together. -/
theorem integrity_rates_sound (setups : List BufferSetup) (calls : List StoreCall) :
    RatesSound (storeAll crc (setups.map BufferSetup.buffer) calls) ↔
      (∀ i < setups.length,
        validReports crc (setups.map BufferSetup.buffer) (StoreCall.to i calls) = 0 ∨
        corruptedReports crc (setups.map BufferSetup.buffer) (StoreCall.to i calls) ≤
          validReports crc (setups.map BufferSetup.buffer) (StoreCall.to i calls)) ∧
      (validReports crc (setups.map BufferSetup.buffer) calls = 0 ∨
        corruptedReports crc (setups.map BufferSetup.buffer) calls ≤
          validReports crc (setups.map BufferSetup.buffer) calls) := by
  have start : ∀ b ∈ setups.map BufferSetup.buffer,
      b.totalReceived = 0 ∧ b.checksumFailures = 0 := by
    intro b present
    obtain ⟨setup, -, rfl⟩ := List.mem_map.mp present
    exact setup.buffer_counters
  have many : setups.length = (setups.map BufferSetup.buffer).length :=
    (List.length_map BufferSetup.buffer).symm
  rw [many]
  generalize setups.map BufferSetup.buffer = buffers at start
  have received_zero : (buffers.map (·.totalReceived)).sum = 0 :=
    List.sum_eq_zero (List.forall_mem_map.mpr fun b present => (start b present).1)
  have failures_zero : (buffers.map (·.checksumFailures)).sum = 0 :=
    List.sum_eq_zero (List.forall_mem_map.mpr fun b present => (start b present).2)
  rw [rates_sound_iff, sum_counted counts_received, sum_counted counts_failures, received_zero,
    failures_zero, Nat.zero_add, Nat.zero_add]
  refine and_congr ⟨fun each i inside => ?_, fun each b present => ?_⟩ Iff.rfl
  · have same : (storeAll crc buffers calls).length = buffers.length :=
      store_all_length buffers calls
    rw [← same] at inside
    obtain ⟨received, failures⟩ := stored_counters start calls (List.getElem?_eq_getElem inside)
    rw [← received, ← failures]
    exact each _ (List.getElem_mem inside)
  · obtain ⟨i, inside, rfl⟩ := List.mem_iff_getElem.mp present
    obtain ⟨received, failures⟩ := stored_counters start calls (List.getElem?_eq_getElem inside)
    rw [received, failures]
    rw [store_all_length] at inside
    exact each i inside

/-- One valid report and then two corrupted ones. -/
theorem failures_exceed_received :
    ¬ RatesSound (storeAll crc32 ([⟨0x81, 64, some 1⟩].map BufferSetup.buffer)
      [⟨0, emptyReport 1, 0⟩, ⟨0, { emptyReport 2 with checksum := 0 }, 1⟩,
        ⟨0, { emptyReport 3 with checksum := 0 }, 2⟩]) := by
  rw [rates_sound_iff]
  decide +kernel

end P2pUsb
