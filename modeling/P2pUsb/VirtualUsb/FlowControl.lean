import P2pUsb.VirtualUsb.DropOldest

/-! Flow control of the receive buffer. The documented state depends on the one before it,
so that a fill between two thresholds does not make it oscillate; the state that is
computed depends on the fill alone. -/
namespace P2pUsb

/-- `len as f64 / max_size as f64`, as it is compared with a percentage. A buffer of size
zero is full without a bound, or not a number when it is empty. -/
structure Fill where
  len : Nat
  size : Nat

namespace Fill

def atLeast (fill : Fill) (percent : Nat) : Prop :=
  if fill.size = 0 then 0 < fill.len else percent * fill.size ≤ 100 * fill.len

def atMost (fill : Fill) (percent : Nat) : Prop :=
  0 < fill.size ∧ 100 * fill.len ≤ percent * fill.size

instance (fill : Fill) (percent : Nat) : Decidable (fill.atLeast percent) :=
  inferInstanceAs (Decidable (if fill.size = 0 then _ else _))

instance (fill : Fill) (percent : Nat) : Decidable (fill.atMost percent) :=
  inferInstanceAs (Decidable (_ ∧ _))

end Fill

def backpressureThreshold : Nat := 75
def resumeThreshold : Nat := 50
def pausedThreshold : Nat := 95

inductive FlowControlState where
  | normal
  | backpressure
  | paused
  deriving DecidableEq, Repr

namespace FlowControlState

def shouldSlowDown : FlowControlState → Bool
  | .backpressure | .paused => true
  | .normal => false

def mustPause : FlowControlState → Bool
  | .paused => true
  | .normal | .backpressure => false

/-- The documented state after `s`, at a fill that may be past several thresholds. -/
def next (s : FlowControlState) (fill : Fill) : FlowControlState :=
  match s with
  | .normal =>
      if fill.atLeast pausedThreshold then .paused
      else if fill.atLeast backpressureThreshold then .backpressure else .normal
  | .backpressure =>
      if fill.atLeast pausedThreshold then .paused
      else if fill.atMost resumeThreshold then .normal else .backpressure
  | .paused =>
      if fill.atMost resumeThreshold then .normal
      else if fill.atMost backpressureThreshold then .backpressure else .paused

end FlowControlState

namespace EndpointReceiveBuffer

def fillRatio (b : EndpointReceiveBuffer) : Fill := ⟨b.reports.length, b.maxSize⟩

def flowControlState (b : EndpointReceiveBuffer) : FlowControlState :=
  if b.fillRatio.atLeast pausedThreshold then .paused
  else if b.fillRatio.atLeast backpressureThreshold then .backpressure
  else if b.fillRatio.atMost resumeThreshold then .normal
  -- between the thresholds, where the state before is not known
  else .normal

def shouldApplyBackpressure (b : EndpointReceiveBuffer) : Bool :=
  b.flowControlState.shouldSlowDown

def mustPauseSender (b : EndpointReceiveBuffer) : Bool := b.flowControlState.mustPause

end EndpointReceiveBuffer

namespace Fill
variable {f g : Fill} {p q : Nat}

theorem at_least_of_le (h : f.atLeast q) (le : p ≤ q) : f.atLeast p := by
  unfold atLeast at h ⊢
  split
  case isTrue empty => rwa [if_pos empty] at h
  case isFalse some =>
    rw [if_neg some] at h
    exact Nat.le_trans (Nat.mul_le_mul_right _ le) h

theorem at_most_of_le (h : f.atMost p) (le : p ≤ q) : f.atMost q :=
  ⟨h.1, Nat.le_trans h.2 (Nat.mul_le_mul_right _ le)⟩

theorem not_at_most (h : f.atLeast q) (lt : p < q) : ¬ f.atMost p := by
  rintro ⟨some, small⟩
  rw [atLeast, if_neg (Nat.ne_of_gt some)] at h
  have apart := Nat.mul_lt_mul_of_pos_right lt some
  omega

/-- A fuller buffer is past as many thresholds. -/
theorem at_least_mono (h : f.atLeast p) (size : g.size = f.size) (len : f.len ≤ g.len) :
    g.atLeast p := by
  unfold atLeast at h ⊢
  rw [size]
  split
  case isTrue empty =>
    rw [if_pos empty] at h
    exact Nat.lt_of_lt_of_le h len
  case isFalse some =>
    rw [if_neg some] at h
    exact Nat.le_trans h (Nat.mul_le_mul_left 100 len)

/-- From one fill to the other no threshold is passed downwards without the lower one that
belongs to it. -/
def Settles (f g : Fill) : Prop :=
  (f.atLeast backpressureThreshold →
    g.atLeast backpressureThreshold ∨ g.atMost resumeThreshold) ∧
  (f.atLeast pausedThreshold → g.atLeast pausedThreshold ∨ g.atMost backpressureThreshold)

theorem Settles.of_le (size : g.size = f.size) (len : f.len ≤ g.len) : f.Settles g :=
  ⟨fun high => .inl (at_least_mono high size len), fun high => .inl (at_least_mono high size len)⟩

end Fill

namespace EndpointReceiveBuffer
variable {crc : List UInt8 → UInt32} {b c : EndpointReceiveBuffer}

theorem flow_control_paused (high : b.fillRatio.atLeast pausedThreshold) :
    b.flowControlState = .paused := if_pos high

theorem flow_control_backpressure (low : ¬ b.fillRatio.atLeast pausedThreshold)
    (high : b.fillRatio.atLeast backpressureThreshold) :
    b.flowControlState = .backpressure := by
  rw [flowControlState, if_neg low, if_pos high]

theorem flow_control_normal (low : ¬ b.fillRatio.atLeast backpressureThreshold) :
    b.flowControlState = .normal := by
  have lower : ¬ b.fillRatio.atLeast pausedThreshold := fun high =>
    low (Fill.at_least_of_le high (by decide))
  rw [flowControlState, if_neg lower, if_neg low, ite_self]

theorem follows_normal (c : EndpointReceiveBuffer) :
    c.flowControlState = FlowControlState.next .normal c.fillRatio := by
  rw [flowControlState, ite_self]
  rfl

theorem follows_backpressure_iff : c.flowControlState =
    FlowControlState.next .backpressure c.fillRatio ↔
      c.fillRatio.atLeast backpressureThreshold ∨ c.fillRatio.atMost resumeThreshold := by
  rw [FlowControlState.next]
  by_cases full : c.fillRatio.atLeast pausedThreshold
  · rw [flow_control_paused full, if_pos full]
    exact iff_of_true rfl (.inl (Fill.at_least_of_le full (by decide)))
  rw [if_neg full]
  by_cases high : c.fillRatio.atLeast backpressureThreshold
  · rw [flow_control_backpressure full high, if_neg (Fill.not_at_most high (by decide))]
    exact iff_of_true rfl (.inl high)
  · rw [flow_control_normal high]
    by_cases low : c.fillRatio.atMost resumeThreshold
    · rw [if_pos low]
      exact iff_of_true rfl (.inr low)
    · rw [if_neg low]
      exact iff_of_false (fun wrong => nomatch wrong) (fun either => either.elim high low)

theorem follows_paused_iff : c.flowControlState =
    FlowControlState.next .paused c.fillRatio ↔
      (c.fillRatio.atLeast backpressureThreshold ∨ c.fillRatio.atMost resumeThreshold) ∧
      (c.fillRatio.atLeast pausedThreshold ∨ c.fillRatio.atMost backpressureThreshold) := by
  rw [FlowControlState.next]
  by_cases full : c.fillRatio.atLeast pausedThreshold
  · rw [flow_control_paused full, if_neg (Fill.not_at_most full (by decide)),
      if_neg (Fill.not_at_most full (by decide))]
    exact iff_of_true rfl ⟨.inl (Fill.at_least_of_le full (by decide)), .inl full⟩
  by_cases high : c.fillRatio.atLeast backpressureThreshold
  · rw [flow_control_backpressure full high, if_neg (Fill.not_at_most high (by decide))]
    by_cases exactly : c.fillRatio.atMost backpressureThreshold
    · rw [if_pos exactly]
      exact iff_of_true rfl ⟨.inl high, .inr exactly⟩
    · rw [if_neg exactly]
      exact iff_of_false (fun wrong => nomatch wrong) (fun both => both.2.elim full exactly)
  · rw [flow_control_normal high]
    by_cases low : c.fillRatio.atMost resumeThreshold
    · rw [if_pos low]
      exact iff_of_true rfl ⟨.inr low, .inr (Fill.at_most_of_le low (by decide))⟩
    · rw [if_neg low]
      refine iff_of_false (fun wrong => ?_) (fun both => both.1.elim high low)
      split at wrong
      case isTrue => cases wrong
      case isFalse => cases wrong

/-- The computed state of the second fill is the documented one after the computed state of
the first if and only if no threshold is passed halfway. -/
theorem follows_iff_settles (b c : EndpointReceiveBuffer) :
    c.flowControlState = b.flowControlState.next c.fillRatio ↔
      b.fillRatio.Settles c.fillRatio := by
  by_cases full : b.fillRatio.atLeast pausedThreshold
  · have high : b.fillRatio.atLeast backpressureThreshold :=
      Fill.at_least_of_le full (by decide)
    rw [flow_control_paused full, follows_paused_iff]
    exact ⟨fun both => ⟨fun _ => both.1, fun _ => both.2⟩,
      fun settles => ⟨settles.1 high, settles.2 full⟩⟩
  by_cases high : b.fillRatio.atLeast backpressureThreshold
  · rw [flow_control_backpressure full high, follows_backpressure_iff]
    exact ⟨fun either => ⟨fun _ => either, fun wrong => absurd wrong full⟩,
      fun settles => settles.1 high⟩
  · rw [flow_control_normal high]
    exact iff_of_true (follows_normal c)
      ⟨fun wrong => absurd wrong high, fun wrong => absurd wrong full⟩

/-- A take from a buffer does not leave it halfway between two thresholds. -/
def TakesSettle (b : EndpointReceiveBuffer) : BufferCall → Prop
  | .tryTake | .wake false =>
      b.fillRatio.Settles ⟨b.reports.length - 1, b.maxSize⟩
  | .store _ _ | .getMissingSequences _ | .wake true => True

theorem try_take_fill (b : EndpointReceiveBuffer) :
    b.tryTake.2.fillRatio = ⟨b.reports.length - 1, b.maxSize⟩ := by
  unfold tryTake
  cases waiting : b.reports with
  | nil => rw [fillRatio, waiting]; rfl
  | cons report reports => rfl

/-- A store never makes the buffer emptier. -/
theorem store_fill (crc : List UInt8 → UInt32) (b : EndpointReceiveBuffer)
    (report : ReceivedReport) (nowUs : Nat) :
    b.fillRatio.Settles (b.store crc report nowUs).2.fillRatio := by
  cases accepted : b.accepts crc report with
  | true =>
      rw [store_accepted accepted]
      refine .of_le accept_max_size ?_
      simp only [fillRatio, accept_reports, List.length_append, List.length_singleton]
      split
      case isTrue => rw [List.length_drop]; omega
      case isFalse => exact Nat.le_succ _
  | false =>
      obtain ⟨failures, refused⟩ := store_refused accepted nowUs
      rw [refused]
      exact .of_le rfl (Nat.le_refl _)

/-- The state observed after every call is the documented one if and only if no take leaves
the fill between two thresholds that it was above. -/
theorem flow_control_follows (b : EndpointReceiveBuffer) (calls : List BufferCall) :
    (receiveQueue crc).EveryStep
        (fun b _ c _ => c.flowControlState = b.flowControlState.next c.fillRatio) b calls ↔
      (receiveQueue crc).EveryStep (fun b a _ _ => b.TakesSettle a) b calls := by
  refine Machine.everyStep_congr (I := fun _ => True) ?_ (fun _ _ _ _ _ _ _ => trivial) trivial
    calls
  intro b a c out _ step
  obtain ⟨rfl, -⟩ := Prod.mk.inj (Option.some.inj step)
  rw [follows_iff_settles]
  cases a with
  | store report nowUs => exact iff_true_intro (b.store_fill crc report nowUs)
  | getMissingSequences nowUs => exact iff_true_intro (.of_le rfl (Nat.le_refl _))
  | tryTake => simp only [try_take_fill, TakesSettle]
  | wake timedOut =>
      cases timedOut with
      | true => exact iff_true_intro (.of_le rfl (Nat.le_refl _))
      | false =>
          simp only [wake, Bool.false_eq_true, if_false, try_take_fill, TakesSettle]

/-- Four of five slots are full, and one report is taken: the state is normal at 60%. -/
theorem flow_control_oscillates :
    ¬ (receiveQueue crc32).EveryStep
      (fun b _ c _ => c.flowControlState = b.flowControlState.next c.fillRatio)
      ((new 0x81 5).activate 1)
      [.store (emptyReport 1) 0, .store (emptyReport 2) 0, .store (emptyReport 3) 0,
        .store (emptyReport 4) 0, .tryTake] := by
  intro follows
  have total : ∀ b a, (receiveQueue crc32).step b a = some (b.queueCall crc32 a) := fun _ _ => rfl
  have third := (Machine.EveryStep.of_total total (follows.of_total total).2).2
  have last := (Machine.EveryStep.of_total total (third.of_total total).2).2
  exact absurd (last.of_total total).1 (by decide +kernel)

end EndpointReceiveBuffer
end P2pUsb
