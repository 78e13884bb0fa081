import P2pUsb.VirtualUsb.Reception

/-! The numbers that `process_interrupt_data` acknowledges. It takes the highest number
seen, which is the highest one received in order only while there has been no gap. -/
namespace P2pUsb

namespace InterruptReceiveManager
variable {m : InterruptReceiveManager} {h k : DeviceHandle} {e f : UInt8}

/-- The buffer of an endpoint, as it is or as it would be created. -/
def buffer (m : InterruptReceiveManager) (deviceHandle : DeviceHandle) (endpoint : UInt8) :
    EndpointReceiveBuffer :=
  (m.getOrCreate deviceHandle).getOrCreate endpoint

theorem buffer_put (m : InterruptReceiveManager) (h k : DeviceHandle) (e : UInt8)
    (device : DeviceReceiveBufferManager) :
    (m.put k device).buffer h e = if h = k then device.getOrCreate e else m.buffer h e := by
  simp only [buffer, getOrCreate, get, put, AList.lookup_insert_eq]
  split
  case isTrue => rfl
  case isFalse => rfl

theorem get_or_create_put (device : DeviceReceiveBufferManager) (e f : UInt8)
    (b : EndpointReceiveBuffer) :
    (device.put f b).getOrCreate e = if e = f then b else device.getOrCreate e := by
  simp only [DeviceReceiveBufferManager.getOrCreate, DeviceReceiveBufferManager.get,
    DeviceReceiveBufferManager.put, AList.lookup_insert_eq]
  split
  case isTrue => rfl
  case isFalse => rfl

/-- One buffer of one device is replaced. -/
theorem buffer_put_put (m : InterruptReceiveManager) (h k : DeviceHandle) (e f : UInt8)
    (b : EndpointReceiveBuffer) :
    (m.put k ((m.getOrCreate k).put f b)).buffer h e =
      if h = k ∧ e = f then b else m.buffer h e := by
  rw [buffer_put, get_or_create_put]
  by_cases device : h = k
  · subst device
    simp only [if_true, true_and]
    rfl
  · simp only [device, if_false, false_and]

theorem buffer_activate (m : InterruptReceiveManager) (h : DeviceHandle) (e : UInt8)
    (startSeq : UInt64) :
    (m.activateEndpoint h e startSeq).buffer h e = (m.buffer h e).activate startSeq := by
  rw [activateEndpoint, DeviceReceiveBufferManager.activateEndpoint, buffer_put_put,
    if_pos ⟨rfl, rfl⟩]
  rfl

theorem try_take_buffer (m : InterruptReceiveManager) (h k : DeviceHandle) (e f : UInt8) :
    (m.tryTake k f).2.buffer h e = m.buffer h e ∨
      (m.tryTake k f).2.buffer h e = (m.buffer h e).tryTake.2 := by
  unfold tryTake
  cases device : m.get k with
  | none => exact .inl rfl
  | some d =>
      have found : m.getOrCreate k = d := by rw [getOrCreate, device, Option.getD_some]
      simp only [DeviceReceiveBufferManager.tryTake]
      cases held : d.get f with
      | none =>
          refine .inl ?_
          rw [buffer_put]
          split
          case isTrue same => rw [buffer, same, found]
          case isFalse => rfl
      | some b =>
          have owned : d.getOrCreate f = b := by
            rw [DeviceReceiveBufferManager.getOrCreate, held, Option.getD_some]
          dsimp only
          rw [← found, buffer_put_put]
          split
          case isTrue same =>
            rw [buffer, same.1, same.2, found, owned]
            exact .inr rfl
          case isFalse => exact .inl rfl

end InterruptReceiveManager

/-- The reports accepted since the start, each with its device and endpoint. -/
structure InterruptStream where
  manager : InterruptReceiveManager
  stored : List (DeviceHandle × UInt8 × Nat)

/-- A notification with a report, and a read by the kernel. -/
inductive InterruptCall where
  | processInterruptData (deviceHandle : DeviceHandle) (report : ReceivedReport) (nowUs : Nat)
  | tryTake (deviceHandle : DeviceHandle) (endpoint : UInt8)

structure InterruptAck where
  deviceHandle : DeviceHandle
  endpoint : UInt8
  gapDetected : Bool
  ackSeq : Nat
  deriving DecidableEq, Repr

namespace InterruptStream

def activated (m : InterruptReceiveManager) (deviceHandle : DeviceHandle) (endpoint : UInt8)
    (startSeq : UInt64) : InterruptStream :=
  ⟨m.activateEndpoint deviceHandle endpoint startSeq, []⟩

def call (crc : List UInt8 → UInt32) (s : InterruptStream) :
    InterruptCall → InterruptStream × List InterruptAck
  | .processInterruptData deviceHandle report nowUs =>
      let (ack, manager) := s.manager.processInterruptData crc deviceHandle report.endpoint
        report.sequence report.data report.serverTimestampUs report.checksum report.receivedAt nowUs
      let accepted := (s.manager.buffer deviceHandle report.endpoint).accepts crc report
      ({ manager := manager
         stored := if accepted then (deviceHandle, report.endpoint, report.seq) :: s.stored
           else s.stored },
        ack.toList.map fun answer =>
          ⟨deviceHandle, report.endpoint, answer.1, answer.2⟩)
  | .tryTake deviceHandle endpoint =>
      ({ s with manager := (s.manager.tryTake deviceHandle endpoint).2 }, [])

end InterruptStream

def interruptStream (crc : List UInt8 → UInt32) :
    Machine InterruptStream InterruptCall InterruptAck where
  step s a := some (s.call crc a)

namespace InterruptStream
variable {crc : List UInt8 → UInt32} {s t : InterruptStream} {h : DeviceHandle} {e : UInt8}
  {start : Nat} {a : InterruptCall} {out : List InterruptAck}

/-- The report reaches the buffer of its own endpoint. -/
theorem process_interrupt_data_eq (m : InterruptReceiveManager) (k : DeviceHandle)
    (report : ReceivedReport) (nowUs : Nat) :
    m.processInterruptData crc k report.endpoint report.sequence report.data
        report.serverTimestampUs report.checksum report.receivedAt nowUs =
      (if ((m.buffer k report.endpoint).store crc report nowUs).1.2 then
          some (((m.buffer k report.endpoint).store crc report nowUs).1.1,
            ((m.buffer k report.endpoint).store crc report nowUs).2.highestSeq)
        else none,
        m.put k ((m.getOrCreate k).put report.endpoint
          ((m.buffer k report.endpoint).store crc report nowUs).2)) := by
  have stored : ∀ b, ((m.getOrCreate k).put report.endpoint b).get report.endpoint = some b := by
    intro b
    exact AList.lookup_insert _
  simp only [InterruptReceiveManager.processInterruptData, DeviceReceiveBufferManager.storeReport,
    stored, Option.map_some]
  rfl

def Stored (s : InterruptStream) (h : DeviceHandle) (e : UInt8) (q : Nat) : Prop :=
  (h, e, q) ∈ s.stored

/-- Every number from the start up to an acknowledged one has been stored. -/
def AcksSound (start : Nat) (h : DeviceHandle) (e : UInt8) (s : InterruptStream)
    (out : List InterruptAck) : Prop :=
  ∀ gapDetected ackSeq, ⟨h, e, gapDetected, ackSeq⟩ ∈ out →
    ∀ q, start ≤ q → q ≤ ackSeq → s.Stored h e q

/-- A valid report of the endpoint is not ahead of the next one expected; an invalid one
does not come before the report with number zero. -/
def InOrder (crc : List UInt8 → UInt32) (h : DeviceHandle) (e : UInt8) (s : InterruptStream) :
    InterruptCall → Prop
  | .processInterruptData k report _ => h = k ∧ e = report.endpoint →
      if report.verify crc then report.seq ≤ (s.manager.buffer h e).nextExpectedSeq
      else 0 < (s.manager.buffer h e).nextExpectedSeq
  | .tryTake _ _ => True

/-- Of one endpoint everything before the next number expected has been stored, and
nothing from there on; only the last number of the word does not move it on. -/
structure AckInv (start : Nat) (h : DeviceHandle) (e : UInt8) (s : InterruptStream) : Prop where
  active : (s.manager.buffer h e).active = true
  low : start ≤ (s.manager.buffer h e).nextExpectedSeq
  word : (s.manager.buffer h e).nextExpectedSeq < 2 ^ 64
  stored : ∀ q, start ≤ q → q < (s.manager.buffer h e).nextExpectedSeq → s.Stored h e q
  only : ∀ q, s.Stored h e q → q < (s.manager.buffer h e).nextExpectedSeq ∨
    q + 1 = 2 ^ 64 ∧ (s.manager.buffer h e).nextExpectedSeq + 1 = 2 ^ 64
  highest : (s.manager.buffer h e).highestSeq + 1 = (s.manager.buffer h e).nextExpectedSeq ∨
    (s.manager.buffer h e).nextExpectedSeq = 0 ∧ (s.manager.buffer h e).highestSeq = 0 ∨
    (s.manager.buffer h e).nextExpectedSeq + 1 = 2 ^ 64 ∧
      (s.manager.buffer h e).highestSeq = (s.manager.buffer h e).nextExpectedSeq ∧
      s.Stored h e (s.manager.buffer h e).nextExpectedSeq

/-- The endpoint's numbers, and what it has stored, are as before. -/
structure SameNumbers (h : DeviceHandle) (e : UInt8) (s t : InterruptStream) : Prop where
  active : (t.manager.buffer h e).active = (s.manager.buffer h e).active
  next : (t.manager.buffer h e).nextExpectedSeq = (s.manager.buffer h e).nextExpectedSeq
  highest : (t.manager.buffer h e).highestSeq = (s.manager.buffer h e).highestSeq
  stored : ∀ q, t.Stored h e q ↔ s.Stored h e q

/-- What a call is to one active endpoint. -/
inductive Touches (crc : List UInt8 → UInt32) (h : DeviceHandle) (e : UInt8)
    (s : InterruptStream) : InterruptCall → InterruptStream → List InterruptAck → Prop
  | elsewhere {a : InterruptCall} {t : InterruptStream} {out : List InterruptAck}
      (other : s.InOrder crc h e a) (same : s.SameNumbers h e t)
      (silent : ∀ gapDetected ackSeq, ⟨h, e, gapDetected, ackSeq⟩ ∉ out) : Touches crc h e s a t out
  | corrupted (report : ReceivedReport) (nowUs : Nat) {t : InterruptStream}
      (endpoint : e = report.endpoint) (invalid : report.verify crc = false)
      (same : s.SameNumbers h e t) :
      Touches crc h e s (.processInterruptData h report nowUs) t
        [⟨h, e, false, (s.manager.buffer h e).highestSeq⟩]
  | accepted (report : ReceivedReport) (nowUs : Nat) {t : InterruptStream}
      (endpoint : e = report.endpoint) (valid : report.verify crc = true)
      (buffer : t.manager.buffer h e = ((s.manager.buffer h e).accept report nowUs).2)
      (stored : ∀ q, t.Stored h e q ↔ q = report.seq ∨ s.Stored h e q) :
      Touches crc h e s (.processInterruptData h report nowUs) t
        (if ((s.manager.buffer h e).accept report nowUs).1.2 then
          [⟨h, e, decide ((s.manager.buffer h e).nextExpectedSeq < report.seq),
            max (s.manager.buffer h e).highestSeq report.seq⟩] else [])

theorem call_process (s : InterruptStream) (k : DeviceHandle) (report : ReceivedReport)
    (nowUs : Nat) :
    s.call crc (.processInterruptData k report nowUs) =
      (⟨s.manager.put k ((s.manager.getOrCreate k).put report.endpoint
          ((s.manager.buffer k report.endpoint).store crc report nowUs).2),
        if (s.manager.buffer k report.endpoint).accepts crc report then
          (k, report.endpoint, report.seq) :: s.stored else s.stored⟩,
        if ((s.manager.buffer k report.endpoint).store crc report nowUs).1.2 then
          [⟨k, report.endpoint, ((s.manager.buffer k report.endpoint).store crc report nowUs).1.1,
            ((s.manager.buffer k report.endpoint).store crc report nowUs).2.highestSeq⟩]
        else []) := by
  simp only [call, process_interrupt_data_eq]
  congr 1
  split
  case isTrue => rfl
  case isFalse => rfl

theorem try_take_touches (s : InterruptStream) (k : DeviceHandle) (f : UInt8) :
    Touches crc h e s (.tryTake k f) (s.call crc (.tryTake k f)).1
      (s.call crc (.tryTake k f)).2 := by
  refine .elsewhere trivial ?_ fun _ _ => List.not_mem_nil
  have numbers : ∀ b : EndpointReceiveBuffer, b.tryTake.2.active = b.active ∧
      b.tryTake.2.nextExpectedSeq = b.nextExpectedSeq ∧
      b.tryTake.2.highestSeq = b.highestSeq := by
    intro b
    rcases b.try_take_cases with empty | ⟨report, reports, -, taken⟩
    · rw [empty]
      exact ⟨rfl, rfl, rfl⟩
    · rw [taken]
      exact ⟨rfl, rfl, rfl⟩
  rcases s.manager.try_take_buffer h k e f with same | taken
  · exact ⟨congrArg _ same, congrArg _ same, congrArg _ same, fun _ => Iff.rfl⟩
  · obtain ⟨active, next, highest⟩ := numbers (s.manager.buffer h e)
    exact ⟨(congrArg _ taken).trans active, (congrArg _ taken).trans next,
      (congrArg _ taken).trans highest, fun _ => Iff.rfl⟩

/-- A report of another endpoint. -/
theorem process_elsewhere {k : DeviceHandle} {report : ReceivedReport}
    (other : ¬ (h = k ∧ e = report.endpoint)) (nowUs : Nat) :
    Touches crc h e s (.processInterruptData k report nowUs)
      (s.call crc (.processInterruptData k report nowUs)).1
      (s.call crc (.processInterruptData k report nowUs)).2 := by
  rw [call_process]
  refine .elsewhere (fun own => absurd own other) ⟨?_, ?_, ?_, fun q => ?_⟩ ?_
  · rw [InterruptReceiveManager.buffer_put_put, if_neg other]
  · rw [InterruptReceiveManager.buffer_put_put, if_neg other]
  · rw [InterruptReceiveManager.buffer_put_put, if_neg other]
  · simp only [Stored]
    split
    case isTrue =>
      rw [List.mem_cons, Prod.mk.injEq, Prod.mk.injEq]
      exact or_iff_right fun own => other ⟨own.1, own.2.1⟩
    case isFalse => exact Iff.rfl
  · intro gapDetected ackSeq present
    dsimp only at present
    split at present
    case isTrue =>
      have same := List.mem_singleton.mp present
      rw [InterruptAck.mk.injEq] at same
      exact other ⟨same.1, same.2.1⟩
    case isFalse => exact absurd present List.not_mem_nil

/-- A report of the endpoint itself. -/
theorem process_here {report : ReceivedReport}
    (active : (s.manager.buffer h report.endpoint).active = true) (nowUs : Nat) :
    Touches crc h report.endpoint s (.processInterruptData h report nowUs)
      (s.call crc (.processInterruptData h report nowUs)).1
      (s.call crc (.processInterruptData h report nowUs)).2 := by
  rw [call_process]
  have buffer : ∀ b,
      (s.manager.put h ((s.manager.getOrCreate h).put report.endpoint b)).buffer h
        report.endpoint = b := by
    intro b
    rw [InterruptReceiveManager.buffer_put_put, if_pos ⟨rfl, rfl⟩]
  cases valid : report.verify crc with
  | false =>
      have refused : (s.manager.buffer h report.endpoint).accepts crc report = false := by
        rw [EndpointReceiveBuffer.accepts, valid, Bool.and_false]
      have flags : (s.manager.buffer h report.endpoint).store crc report nowUs =
          ((false, true), { s.manager.buffer h report.endpoint with
            checksumFailures := (s.manager.buffer h report.endpoint).checksumFailures + 1 }) := by
        simp only [EndpointReceiveBuffer.store, active, valid, Bool.not_true, Bool.not_false,
          Bool.false_eq_true, if_false, if_true]
      simp only [refused, flags, Bool.false_eq_true, if_false, if_true]
      refine .corrupted report nowUs rfl valid ⟨?_, ?_, ?_, fun _ => Iff.rfl⟩
      all_goals rw [buffer]
  | true =>
      have accepted : (s.manager.buffer h report.endpoint).accepts crc report = true := by
        rw [EndpointReceiveBuffer.accepts, valid, active, Bool.and_true]
      simp only [accepted, EndpointReceiveBuffer.store_accepted accepted, if_true,
        EndpointReceiveBuffer.accept_highest]
      refine .accepted report nowUs rfl valid (buffer _) fun q => ?_
      simp only [Stored, List.mem_cons, Prod.mk.injEq, true_and]

theorem call_touches (crc : List UInt8 → UInt32)
    (active : (s.manager.buffer h e).active = true) (a : InterruptCall) :
    Touches crc h e s a (s.call crc a).1 (s.call crc a).2 := by
  cases a with
  | tryTake k f => exact s.try_take_touches k f
  | processInterruptData k report nowUs =>
      by_cases here : h = k ∧ e = report.endpoint
      · obtain ⟨rfl, rfl⟩ := here
        exact process_here active nowUs
      · exact process_elsewhere here nowUs

namespace AckInv

theorem activated (m : InterruptReceiveManager) (h : DeviceHandle) (e : UInt8)
    (startSeq : UInt64) : AckInv startSeq.toNat h e (.activated m h e startSeq) := by
  have here : (InterruptStream.activated m h e startSeq).manager.buffer h e =
      (m.buffer h e).activate startSeq := m.buffer_activate h e startSeq
  have word : startSeq.toNat < 2 ^ 64 := startSeq.toNat_lt
  constructor
  all_goals rw [here]
  · rfl
  · exact Nat.le_refl _
  · exact word
  · exact fun q above below => absurd above (Nat.not_le.mpr below)
  · exact fun q stored => absurd stored List.not_mem_nil
  · simp only [EndpointReceiveBuffer.activate]
    by_cases first : startSeq.toNat = 0
    · exact .inr (.inl ⟨first, by omega⟩)
    · exact .inl (by omega)

theorem stored_highest (hs : s.AckInv start h e)
    (begun : 0 < (s.manager.buffer h e).nextExpectedSeq) (q : Nat) (above : start ≤ q)
    (below : q ≤ (s.manager.buffer h e).highestSeq) : s.Stored h e q := by
  rcases hs.highest with next | ⟨none, -⟩ | ⟨-, last, stored⟩
  · exact hs.stored q above (by omega)
  · omega
  · rw [last] at below
    rcases Nat.lt_or_eq_of_le below with before | rfl
    · exact hs.stored q above before
    · exact stored

theorem kept (hs : s.AckInv start h e) (same : s.SameNumbers h e t) : t.AckInv start h e := by
  constructor
  all_goals simp only [same.active, same.next, same.highest, same.stored]
  · exact hs.active
  · exact hs.low
  · exact hs.word
  · exact hs.stored
  · exact hs.only
  · exact hs.highest

/-- A report that is due, or was due before. -/
theorem accepted (hs : s.AckInv start h e) {report : ReceivedReport} {nowUs : Nat}
    (inOrder : report.seq ≤ (s.manager.buffer h e).nextExpectedSeq)
    (buffer : t.manager.buffer h e = ((s.manager.buffer h e).accept report nowUs).2)
    (stored : ∀ q, t.Stored h e q ↔ q = report.seq ∨ s.Stored h e q) : t.AckInv start h e := by
  have low := hs.low
  have word := hs.word
  have bound := EndpointReceiveBuffer.seq_lt report
  constructor
  all_goals
    simp only [buffer, stored, EndpointReceiveBuffer.accept_next,
      EndpointReceiveBuffer.accept_highest, EndpointReceiveBuffer.accept_active]
  · exact hs.active
  · omega
  · omega
  · intro q above below
    by_cases own : q = report.seq
    · exact .inl own
    · refine .inr (hs.stored q above ?_)
      rcases lt_max_iff.mp below with before | before <;> omega
  · intro q present
    rcases present with rfl | old
    · omega
    · rcases hs.only q old with before | ⟨last, full⟩
      · omega
      · omega
  · rcases hs.highest with next | ⟨none, zero⟩ | ⟨full, last, kept⟩
    · by_cases end' : report.seq + 1 = 2 ^ 64
      · exact .inr (.inr ⟨by omega, by omega, .inl (by omega)⟩)
      · exact .inl (by omega)
    · exact .inl (by omega)
    · have same : max (s.manager.buffer h e).nextExpectedSeq ((report.seq + 1) % 2 ^ 64) =
          (s.manager.buffer h e).nextExpectedSeq := by omega
      rw [same]
      exact .inr (.inr ⟨full, by omega, .inr kept⟩)

theorem touches (hs : s.AckInv start h e) (step : Touches crc h e s a t out)
    (inOrder : s.InOrder crc h e a) : t.AckInv start h e := by
  cases step with
  | elsewhere other same silent => exact hs.kept same
  | corrupted report nowUs endpoint invalid same => exact hs.kept same
  | accepted report nowUs endpoint valid buffer stored =>
      have due := inOrder ⟨rfl, endpoint⟩
      rw [if_pos valid] at due
      exact hs.accepted due buffer stored

/-- The condition is exact at each call. -/
theorem acks_sound_iff (hs : s.AckInv start h e) (step : Touches crc h e s a t out) :
    t.AcksSound start h e out ↔ s.InOrder crc h e a := by
  cases step with
  | elsewhere other same silent =>
      exact ⟨fun _ => other, fun _ gapDetected ackSeq present => absurd present (silent _ _)⟩
  | corrupted report nowUs endpoint invalid same =>
      constructor
      · intro sound _
        rw [if_neg (by rw [invalid]; exact Bool.false_ne_true)]
        by_contra none
        have zero : start = 0 := by
          have low := hs.low
          omega
        have stored := (same.stored 0).mp
          (sound false _ List.mem_cons_self 0 (by omega) (Nat.zero_le _))
        rcases hs.only 0 stored with before | last
        · exact none before
        · omega
      · intro begun gapDetected ackSeq present q above below
        have positive := begun ⟨rfl, endpoint⟩
        rw [if_neg (by rw [invalid]; exact Bool.false_ne_true)] at positive
        have same' := List.mem_singleton.mp present
        rw [InterruptAck.mk.injEq] at same'
        rw [same'.2.2.2] at below
        exact (same.stored q).mpr (hs.stored_highest positive q above below)
  | accepted report nowUs endpoint valid buffer stored =>
      constructor
      · intro sound _
        rw [if_pos valid]
        by_contra ahead
        have gap : (s.manager.buffer h e).nextExpectedSeq < report.seq := Nat.not_le.mp ahead
        -- the number that was due is behind the gap
        rw [if_pos (by rw [EndpointReceiveBuffer.accept_flags, decide_eq_true gap]; rfl)] at sound
        have due := (stored _).mp (sound _ _ List.mem_cons_self _ hs.low (by omega))
        have word := EndpointReceiveBuffer.seq_lt report
        rcases due with own | old
        · omega
        · rcases hs.only _ old with before | ⟨full, -⟩
          · omega
          · omega
      · intro inOrder gapDetected ackSeq present q above below
        have due := inOrder ⟨rfl, endpoint⟩
        rw [if_pos valid] at due
        have after := hs.accepted due buffer stored
        split at present
        case isTrue =>
          have same := List.mem_singleton.mp present
          rw [InterruptAck.mk.injEq] at same
          rw [same.2.2.2] at below
          refine after.stored_highest ?_ q above ?_
          · rw [buffer, EndpointReceiveBuffer.accept_next]
            have word := EndpointReceiveBuffer.seq_lt report
            omega
          · rwa [buffer, EndpointReceiveBuffer.accept_highest]
        case isFalse => exact absurd present List.not_mem_nil

end AckInv

theorem acks_sound_iff_in_order (crc : List UInt8 → UInt32) (m : InterruptReceiveManager)
    (h : DeviceHandle) (e : UInt8) (startSeq : UInt64) (calls : List InterruptCall) :
    (interruptStream crc).EveryStep (fun _ _ t out => t.AcksSound startSeq.toNat h e out)
        (activated m h e startSeq) calls ↔
      (interruptStream crc).EveryStep (fun s a _ _ => s.InOrder crc h e a)
        (activated m h e startSeq) calls := by
  refine Machine.everyStep_congr (I := AckInv startSeq.toNat h e) ?_ ?_
    (AckInv.activated m h e startSeq) calls
  · intro s a t out hs step
    have done : s.call crc a = (t, out) := Option.some.inj step
    have touches := call_touches crc hs.active a
    rw [done] at touches
    exact hs.acks_sound_iff touches
  · intro s a t out hs step inOrder
    have done : s.call crc a = (t, out) := Option.some.inj step
    have touches := call_touches crc hs.active a
    rw [done] at touches
    exact hs.touches touches inOrder

/-- The report that shows the gap is acknowledged together with the one that is missing. -/
theorem gap_is_acknowledged :
    ¬ (interruptStream crc32).EveryStep (fun _ _ t out => t.AcksSound 1 ⟨7⟩ 0x81 out)
      (activated (.new 64) ⟨7⟩ 0x81 1)
      [.processInterruptData ⟨7⟩ (emptyReport 1) 0,
        .processInterruptData ⟨7⟩ (emptyReport 3) 10] := by
  intro sound
  have first := (sound _ _ rfl).2
  have second := (first _ _ rfl).1
  have lost := second true 3 (by decide +kernel) 2 (by decide) (by decide)
  exact absurd lost (by rw [Stored]; decide +kernel)

end InterruptStream
end P2pUsb
