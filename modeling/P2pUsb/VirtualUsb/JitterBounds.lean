import P2pUsb.VirtualUsb.JitterBuffer

/-! The delays of the jitter buffer. Only the delay after a packet is clamped; the first
delay, and the one after a reset, is the base delay as it was configured. -/
namespace P2pUsb.AdaptiveJitterBuffer
variable {b c : AdaptiveJitterBuffer} {a : JitterCall} {out : List UInt64}

def InBounds (b : AdaptiveJitterBuffer) (delay : UInt64) : Prop :=
  b.minDelayUs ≤ delay ∧ delay ≤ b.maxDelayUs

/-- The sums and the product of one update fit into a word. -/
def Fits (b : AdaptiveJitterBuffer) : JitterCall → Prop
  | .recordArrival packetTs arrival => b.packetsProcessed ≠ 0 →
      let jitter := b.jitterUs.toNat + b.correction (b.transitDiff packetTs arrival)
      jitter < 2 ^ 64 ∧ b.baseDelayUs.toNat + jitter * b.jitterMultiplier.toNat < 2 ^ 64
  | .reset => True

/-- The intermediate results of an update, one after the other, are those of the integers. -/
def NoOverflow (b : AdaptiveJitterBuffer) : JitterCall → Prop
  | .recordArrival packetTs arrival => b.packetsProcessed ≠ 0 →
      let diff := b.transitDiff packetTs arrival
      let newJitter := b.newJitter diff
      newJitter.toNat =
          b.jitterUs.toNat + (wordDistance diff b.jitterUs / b.smoothingFactor).toNat ∧
        (newJitter * b.jitterMultiplier).toNat =
          newJitter.toNat * b.jitterMultiplier.toNat ∧
        (b.targetDelay newJitter).toNat =
          b.baseDelayUs.toNat + (newJitter * b.jitterMultiplier).toNat
  | .reset => True

/-- What a call returns, and the delay that it leaves, is within bounds. -/
def Bounded (b : AdaptiveJitterBuffer) (a : JitterCall) (c : AdaptiveJitterBuffer)
    (out : List UInt64) : Prop :=
  b.NoOverflow a ∧ (∀ delay ∈ out, c.InBounds delay) ∧ c.InBounds c.currentDelayUs

theorem sum_fits (a b : UInt64) :
    (a + b).toNat = a.toNat + b.toNat ↔ a.toNat + b.toNat < 2 ^ 64 := by
  rw [UInt64.toNat_add, Nat.mod_eq_iff_lt (by decide)]

theorem product_fits (a b : UInt64) :
    (a * b).toNat = a.toNat * b.toNat ↔ a.toNat * b.toNat < 2 ^ 64 := by
  rw [UInt64.toNat_mul, Nat.mod_eq_iff_lt (by decide)]

theorem no_overflow_iff (b : AdaptiveJitterBuffer) (a : JitterCall) :
    b.NoOverflow a ↔ b.Fits a := by
  cases a with
  | reset => exact Iff.rfl
  | recordArrival packetTs arrival =>
      refine imp_congr_right fun _ => ?_
      dsimp only
      generalize b.transitDiff packetTs arrival = diff
      have step : (wordDistance diff b.jitterUs / b.smoothingFactor).toNat = b.correction diff := by
        rw [UInt64.toNat_div, to_nat_distance, correction]
      have jitter := sum_fits b.jitterUs (wordDistance diff b.jitterUs / b.smoothingFactor)
      rw [step] at jitter ⊢
      rw [← newJitter] at jitter
      have product := product_fits (b.newJitter diff) b.jitterMultiplier
      have target := sum_fits b.baseDelayUs (b.newJitter diff * b.jitterMultiplier)
      rw [← targetDelay] at target
      rw [jitter, product, target]
      constructor
      · rintro ⟨first, second, third⟩
        rw [product.mpr second, jitter.mpr first] at third
        exact ⟨first, third⟩
      · rintro ⟨first, third⟩
        rw [← jitter.mpr first] at third
        have second : (b.newJitter diff).toNat * b.jitterMultiplier.toNat < 2 ^ 64 := by omega
        refine ⟨first, second, ?_⟩
        rw [product.mpr second]
        exact third

/-- The clamped delay is within bounds that are in order. -/
theorem clamp_in_bounds (order : b.minDelayUs ≤ b.maxDelayUs) (target : UInt64) :
    b.InBounds (min (max target b.minDelayUs) b.maxDelayUs) := by
  have order := UInt64.le_iff_toNat_le.mp order
  constructor
  · rw [UInt64.le_iff_toNat_le, to_nat_min, to_nat_max]
    omega
  · rw [UInt64.le_iff_toNat_le, to_nat_min, to_nat_max]
    omega

/-- A configuration whose base delay is within its bounds, with the delay in them. -/
structure Settled (b : AdaptiveJitterBuffer) : Prop where
  order : b.minDelayUs ≤ b.maxDelayUs
  base : b.InBounds b.baseDelayUs
  current : b.InBounds b.currentDelayUs

theorem Settled.step (h : b.Settled) (step : jitterBuffer.step b a = some (c, out)) :
    c.Settled ∧ ∀ delay ∈ out, c.InBounds delay := by
  cases a with
  | recordArrival packetTs arrival =>
      obtain ⟨rfl, rfl⟩ := Prod.mk.inj (Option.some.inj step)
      by_cases first : b.packetsProcessed = 0
      · rw [first_arrival first]
        refine ⟨⟨h.order, h.base, h.current⟩, fun delay returned => ?_⟩
        rw [List.mem_singleton.mp returned]
        exact h.current
      · rw [later_arrival first]
        have clamped := clamp_in_bounds h.order
          (b.targetDelay (b.newJitter (b.transitDiff packetTs arrival)))
        refine ⟨⟨h.order, h.base, clamped⟩, fun delay returned => ?_⟩
        rw [List.mem_singleton.mp returned]
        exact clamped
  | reset =>
      obtain ⟨rfl, rfl⟩ := Prod.mk.inj (Option.some.inj step)
      exact ⟨⟨h.order, h.base, h.base⟩, fun delay returned => absurd returned List.not_mem_nil⟩

/-- All delays are within bounds, and no sum or product overflows, if and only if the base
delay is within bounds and every update fits into a word. -/
theorem delays_bounded {minDelay maxDelay : UInt64} (order : minDelay ≤ maxDelay)
    (base factor multiplier : UInt64) (calls : List JitterCall) :
    (withConfig minDelay maxDelay base factor multiplier).InBounds
        (withConfig minDelay maxDelay base factor multiplier).currentDelayUs ∧
      jitterBuffer.EveryStep (fun b a c out => b.Bounded a c out)
        (withConfig minDelay maxDelay base factor multiplier) calls ↔
      (minDelay ≤ base ∧ base ≤ maxDelay) ∧
      jitterBuffer.EveryStep (fun b a _ _ => b.Fits a)
        (withConfig minDelay maxDelay base factor multiplier) calls := by
  refine and_congr_right fun inside => ?_
  have start : (withConfig minDelay maxDelay base factor multiplier).Settled :=
    ⟨order, inside, inside⟩
  refine Machine.everyStep_congr ?_ ?_ start calls
  · intro b a c out settled step
    obtain ⟨next, returned⟩ := settled.step step
    rw [← no_overflow_iff]
    exact and_iff_left ⟨returned, next.current⟩
  · intro b a c out settled step _
    exact (settled.step step).1

/-- The default configuration, with packets that come a little late. -/
theorem delays_bounded_default :
    jitterBuffer.EveryStep (fun b a c out => b.Bounded a c out)
      (withConfig 1000 50000 2000 16 2) [.recordArrival 0 0, .recordArrival 1000 1500] := by
  refine ((delays_bounded (by decide) 2000 16 2 _).mpr ⟨by decide, ?_⟩).2
  rintro b out step
  obtain ⟨rfl, -⟩ := Prod.mk.inj (Option.some.inj step)
  refine ⟨fun later => absurd rfl later, ?_⟩
  rintro c out step
  obtain ⟨rfl, -⟩ := Prod.mk.inj (Option.some.inj step)
  exact ⟨fun _ => by decide, trivial⟩

/-- The base delay is the answer to the first packet, above the maximum. -/
theorem base_delay_is_not_clamped :
    ¬ ((withConfig 1000 5000 9000 16 2).InBounds
        (withConfig 1000 5000 9000 16 2).currentDelayUs ∧
      jitterBuffer.EveryStep (fun b a c out => b.Bounded a c out)
        (withConfig 1000 5000 9000 16 2) [.recordArrival 0 0]) := by
  rintro ⟨⟨-, le⟩, -⟩
  exact absurd le (by decide)

end P2pUsb.AdaptiveJitterBuffer
