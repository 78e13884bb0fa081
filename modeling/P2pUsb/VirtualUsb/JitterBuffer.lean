import Mathlib.Algebra.Order.Group.Nat
import P2pUsb.Library.Machine

/-! The jitter buffer of the client. Its words have 64 bits; sums and products wrap, as in
the release profile. The estimate is corrected by the size of the difference, whose sign
is lost. -/
namespace P2pUsb

structure AdaptiveJitterBuffer where
  minDelayUs : UInt64
  maxDelayUs : UInt64
  currentDelayUs : UInt64
  jitterUs : UInt64
  lastArrivalUs : UInt64
  lastPacketTsUs : UInt64
  smoothingFactor : UInt64
  jitterMultiplier : UInt64
  baseDelayUs : UInt64
  packetsProcessed : UInt64
  deriving DecidableEq, Repr

def saturatingSub (a b : UInt64) : UInt64 := if b ≤ a then a - b else 0

/-- The larger of two words without the smaller one. -/
def wordDistance (a b : UInt64) : UInt64 := if a > b then a - b else b - a

namespace AdaptiveJitterBuffer

def withConfig (minDelayUs maxDelayUs baseDelayUs smoothingFactor jitterMultiplier : UInt64) :
    AdaptiveJitterBuffer where
  minDelayUs := minDelayUs
  maxDelayUs := maxDelayUs
  currentDelayUs := baseDelayUs
  jitterUs := 0
  lastArrivalUs := 0
  lastPacketTsUs := 0
  smoothingFactor := min (max smoothingFactor 1) 256
  jitterMultiplier := jitterMultiplier
  baseDelayUs := baseDelayUs
  packetsProcessed := 0

def new : AdaptiveJitterBuffer := withConfig 1000 50000 2000 16 2

/-- `|D|`, from the times of this packet and of the one before. -/
def transitDiff (b : AdaptiveJitterBuffer) (packetTimestampUs arrivalTimeUs : UInt64) : UInt64 :=
  wordDistance (saturatingSub arrivalTimeUs b.lastArrivalUs)
    (saturatingSub packetTimestampUs b.lastPacketTsUs)

def newJitter (b : AdaptiveJitterBuffer) (transitDiff : UInt64) : UInt64 :=
  b.jitterUs + wordDistance transitDiff b.jitterUs / b.smoothingFactor

def targetDelay (b : AdaptiveJitterBuffer) (newJitter : UInt64) : UInt64 :=
  b.baseDelayUs + newJitter * b.jitterMultiplier

/-- The first packet only sets the times. -/
def recordArrival (b : AdaptiveJitterBuffer) (packetTimestampUs arrivalTimeUs : UInt64) :
    UInt64 × AdaptiveJitterBuffer :=
  let count := b.packetsProcessed
  let timed := { b with
    packetsProcessed := b.packetsProcessed + 1
    lastArrivalUs := arrivalTimeUs
    lastPacketTsUs := packetTimestampUs }
  if count = 0 then (timed.currentDelayUs, timed)
  else
    let newJitter := b.newJitter (b.transitDiff packetTimestampUs arrivalTimeUs)
    let clamped := min (max (b.targetDelay newJitter) b.minDelayUs) b.maxDelayUs
    (clamped, { timed with jitterUs := newJitter, currentDelayUs := clamped })

def reset (b : AdaptiveJitterBuffer) : AdaptiveJitterBuffer :=
  { b with
    jitterUs := 0
    currentDelayUs := b.baseDelayUs
    lastArrivalUs := 0
    lastPacketTsUs := 0
    packetsProcessed := 0 }

end AdaptiveJitterBuffer

inductive JitterCall where
  | recordArrival (packetTimestampUs arrivalTimeUs : UInt64)
  | reset
  deriving DecidableEq, Repr

/-- The delays that are returned can be observed. -/
def jitterBuffer : Machine AdaptiveJitterBuffer JitterCall UInt64 where
  step b
    | .recordArrival packetTimestampUs arrivalTimeUs =>
        some ((b.recordArrival packetTimestampUs arrivalTimeUs).2,
          [(b.recordArrival packetTimestampUs arrivalTimeUs).1])
    | .reset => some (b.reset, [])

theorem to_nat_max (a b : UInt64) : (max a b).toNat = max a.toNat b.toNat := by
  have same : max a b = if a ≤ b then b else a := rfl
  rw [same]
  by_cases le : a ≤ b
  · rw [if_pos le, Nat.max_eq_right (UInt64.le_iff_toNat_le.mp le)]
  · rw [if_neg le, Nat.max_eq_left
      (UInt64.le_iff_toNat_le.mp (UInt64.le_of_lt (UInt64.not_le.mp le)))]

theorem to_nat_min (a b : UInt64) : (min a b).toNat = min a.toNat b.toNat := by
  have same : min a b = if a ≤ b then a else b := rfl
  rw [same]
  by_cases le : a ≤ b
  · rw [if_pos le, Nat.min_eq_left (UInt64.le_iff_toNat_le.mp le)]
  · rw [if_neg le, Nat.min_eq_right
      (UInt64.le_iff_toNat_le.mp (UInt64.le_of_lt (UInt64.not_le.mp le)))]

theorem to_nat_distance (a b : UInt64) : (wordDistance a b).toNat =
    if b.toNat < a.toNat then a.toNat - b.toNat else b.toNat - a.toNat := by
  unfold wordDistance
  by_cases less : b < a
  · rw [if_pos less, if_pos (UInt64.lt_iff_toNat_lt.mp less),
      UInt64.toNat_sub_of_le a b (UInt64.le_of_lt less)]
  · rw [if_neg less, if_neg (fun lt => less (UInt64.lt_iff_toNat_lt.mpr lt)),
      UInt64.toNat_sub_of_le b a (UInt64.not_lt.mp less)]

namespace AdaptiveJitterBuffer
variable {b : AdaptiveJitterBuffer} {diff : UInt64}

/-- By how much the estimate is raised. -/
def correction (b : AdaptiveJitterBuffer) (diff : UInt64) : Nat :=
  (if b.jitterUs.toNat < diff.toNat then diff.toNat - b.jitterUs.toNat
    else b.jitterUs.toNat - diff.toNat) / b.smoothingFactor.toNat

theorem to_nat_new_jitter (b : AdaptiveJitterBuffer) (diff : UInt64) :
    (b.newJitter diff).toNat = (b.jitterUs.toNat + b.correction diff) % 2 ^ 64 := by
  rw [newJitter, UInt64.toNat_add, UInt64.toNat_div, to_nat_distance, correction]

/-- The new estimate is between the old one and the measured difference, and where these
are a whole step apart it moves. -/
structure MovesTowards (old measured factor new : Nat) : Prop where
  above : min old measured ≤ new
  below : new ≤ max old measured
  grows : old + factor ≤ measured → old < new
  shrinks : measured + factor ≤ old → new < old

/-- Every estimate after the first packet follows the measured difference. -/
def Follows (b : AdaptiveJitterBuffer) : JitterCall → AdaptiveJitterBuffer → Prop
  | .recordArrival packetTs arrival, c => b.packetsProcessed ≠ 0 →
      MovesTowards b.jitterUs.toNat (b.transitDiff packetTs arrival).toNat
        b.smoothingFactor.toNat c.jitterUs.toNat
  | .reset, _ => True

/-- The difference is not below the estimate by a whole step, unless the sum wraps and is
not below the difference. -/
def NotFalling (b : AdaptiveJitterBuffer) : JitterCall → Prop
  | .recordArrival packetTs arrival => b.packetsProcessed ≠ 0 →
      let jitter := b.jitterUs.toNat
      let measured := (b.transitDiff packetTs arrival).toNat
      jitter < measured + b.smoothingFactor.toNat ∨
        measured + 2 ^ 64 ≤ jitter + (jitter - measured) / b.smoothingFactor.toNat
  | .reset => True

/-- Up to the measured difference the correction goes the right way. -/
theorem rising_moves_towards {jitter measured f : Nat} (factor : 1 ≤ f)
    (rising : jitter ≤ measured) (word : measured < 2 ^ 64) :
    MovesTowards jitter measured f ((jitter + (measured - jitter) / f) % 2 ^ 64) := by
  have step : (measured - jitter) / f ≤ measured - jitter := Nat.div_le_self _ _
  have whole : jitter + f ≤ measured → 1 ≤ (measured - jitter) / f := fun apart =>
    (Nat.one_le_div_iff factor).mpr (by omega)
  generalize (measured - jitter) / f = q at step whole ⊢
  rw [Nat.mod_eq_of_lt (by omega)]
  exact ⟨by omega, by omega, by omega, by omega⟩

/-- Below the estimate it goes the wrong way, unless it is nothing or wraps. -/
theorem falling_moves_towards_iff {jitter measured f : Nat} (factor : 1 ≤ f)
    (falling : measured < jitter) (word : jitter < 2 ^ 64) :
    MovesTowards jitter measured f ((jitter + (jitter - measured) / f) % 2 ^ 64) ↔
      jitter < measured + f ∨ measured + 2 ^ 64 ≤ jitter + (jitter - measured) / f := by
  have step : (jitter - measured) / f ≤ jitter - measured := Nat.div_le_self _ _
  have whole : measured + f ≤ jitter ↔ 1 ≤ (jitter - measured) / f := by
    rw [Nat.one_le_div_iff factor]
    omega
  generalize (jitter - measured) / f = q at step whole ⊢
  by_cases wraps : 2 ^ 64 ≤ jitter + q
  · have less : (jitter + q) % 2 ^ 64 = jitter + q - 2 ^ 64 := by omega
    rw [less]
    constructor
    · intro moved
      have above := moved.above
      omega
    · exact fun _ => ⟨by omega, by omega, by omega, by omega⟩
  · rw [Nat.mod_eq_of_lt (by omega)]
    constructor
    · intro moved
      have below := moved.below
      omega
    · exact fun _ => ⟨by omega, by omega, by omega, by omega⟩

theorem moves_towards_iff (factor : 1 ≤ b.smoothingFactor.toNat) (diff : UInt64) :
    MovesTowards b.jitterUs.toNat diff.toNat b.smoothingFactor.toNat
        (b.newJitter diff).toNat ↔
      b.jitterUs.toNat < diff.toNat + b.smoothingFactor.toNat ∨
        diff.toNat + 2 ^ 64 ≤ b.jitterUs.toNat +
          (b.jitterUs.toNat - diff.toNat) / b.smoothingFactor.toNat := by
  rw [to_nat_new_jitter, correction]
  by_cases rising : b.jitterUs.toNat < diff.toNat
  · rw [if_pos rising]
    refine iff_of_true ?_ (.inl (Nat.lt_of_lt_of_le rising (Nat.le_add_right _ _)))
    exact rising_moves_towards factor (Nat.le_of_lt rising) diff.toNat_lt
  · rw [if_neg rising]
    by_cases equal : diff.toNat = b.jitterUs.toNat
    · have word := diff.toNat_lt
      rw [← equal]
      exact iff_of_true (rising_moves_towards factor (Nat.le_refl _) word)
        (.inl (Nat.lt_add_of_pos_right factor))
    · exact falling_moves_towards_iff factor (by omega) b.jitterUs.toNat_lt

/-- The factor that `with_config` makes of any word. -/
theorem factor_positive (factor : UInt64) : 1 ≤ (min (max factor 1) 256).toNat := by
  rw [to_nat_min, to_nat_max]
  exact Nat.le_min.mpr ⟨Nat.le_max_right factor.toNat 1, by decide⟩

theorem first_arrival (first : b.packetsProcessed = 0) (packetTs arrival : UInt64) :
    b.recordArrival packetTs arrival = (b.currentDelayUs, { b with
      packetsProcessed := b.packetsProcessed + 1
      lastArrivalUs := arrival
      lastPacketTsUs := packetTs }) := by
  rw [recordArrival, if_pos first]

theorem later_arrival (later : b.packetsProcessed ≠ 0) (packetTs arrival : UInt64) :
    let newJitter := b.newJitter (b.transitDiff packetTs arrival)
    let clamped := min (max (b.targetDelay newJitter) b.minDelayUs) b.maxDelayUs
    b.recordArrival packetTs arrival = (clamped, { b with
      packetsProcessed := b.packetsProcessed + 1
      lastArrivalUs := arrival
      lastPacketTsUs := packetTs
      jitterUs := newJitter
      currentDelayUs := clamped }) := by
  rw [recordArrival, if_neg later]

/-- What the buffer was configured with. -/
structure SameConfig (b c : AdaptiveJitterBuffer) : Prop where
  minDelay : c.minDelayUs = b.minDelayUs
  maxDelay : c.maxDelayUs = b.maxDelayUs
  baseDelay : c.baseDelayUs = b.baseDelayUs
  factor : c.smoothingFactor = b.smoothingFactor
  multiplier : c.jitterMultiplier = b.jitterMultiplier

theorem step_config {c : AdaptiveJitterBuffer} {a : JitterCall} {out : List UInt64}
    (step : jitterBuffer.step b a = some (c, out)) : b.SameConfig c := by
  cases a with
  | recordArrival packetTs arrival =>
      obtain ⟨rfl, -⟩ := Prod.mk.inj (Option.some.inj step)
      by_cases first : b.packetsProcessed = 0
      · rw [first_arrival first]
        exact ⟨rfl, rfl, rfl, rfl, rfl⟩
      · rw [later_arrival first]
        exact ⟨rfl, rfl, rfl, rfl, rfl⟩
  | reset =>
      obtain ⟨rfl, -⟩ := Prod.mk.inj (Option.some.inj step)
      exact ⟨rfl, rfl, rfl, rfl, rfl⟩

/-- The estimate follows the measured difference in a run if and only if no packet is
steadier by a whole step than the estimate. -/
theorem estimate_follows (minDelay maxDelay base factor multiplier : UInt64)
    (calls : List JitterCall) :
    jitterBuffer.EveryStep (fun b a c _ => b.Follows a c)
        (withConfig minDelay maxDelay base factor multiplier) calls ↔
      jitterBuffer.EveryStep (fun b a _ _ => b.NotFalling a)
        (withConfig minDelay maxDelay base factor multiplier) calls := by
  refine Machine.everyStep_congr (I := fun b => 1 ≤ b.smoothingFactor.toNat) ?_ ?_
    (factor_positive factor) calls
  · intro b a c out positive step
    cases a with
    | recordArrival packetTs arrival =>
        obtain ⟨rfl, -⟩ := Prod.mk.inj (Option.some.inj step)
        refine imp_congr_right fun later => ?_
        rw [later_arrival later]
        exact moves_towards_iff positive _
    | reset => exact Iff.rfl
  · intro b a c out positive step _
    rw [(step_config step).factor]
    exact positive

/-- One late packet and then steady ones: the estimate goes up and up. -/
theorem estimate_grows_when_steady :
    ¬ jitterBuffer.EveryStep (fun b a c _ => b.Follows a c) new
      [.recordArrival 0 0, .recordArrival 1000 17000, .recordArrival 2000 18000] := by
  intro follows
  have shrinks := ((follows _ _ rfl).2 _ _ rfl).2 _ _ rfl
  exact absurd (shrinks.1 (by decide)).below (by decide)

end AdaptiveJitterBuffer
end P2pUsb
