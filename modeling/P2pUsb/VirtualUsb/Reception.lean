import P2pUsb.Library.Machine
import P2pUsb.VirtualUsb.ReceiveBuffer

/-! One receive buffer after its activation, with the numbers that it has stored and those
that it has handed out since. -/
namespace P2pUsb

namespace EndpointReceiveBuffer
variable {crc : List UInt8 → UInt32} {b : EndpointReceiveBuffer} {report : ReceivedReport}
  {seq nowUs : Nat}

/-- The report goes into the buffer. -/
def accepts (crc : List UInt8 → UInt32) (b : EndpointReceiveBuffer) (report : ReceivedReport) :
    Bool :=
  b.active && report.verify crc

theorem store_accepted (accepted : b.accepts crc report = true) :
    b.store crc report nowUs = b.accept report nowUs := by
  obtain ⟨active, valid⟩ := Bool.and_eq_true_iff.mp accepted
  simp only [store, active, valid, Bool.not_true, Bool.false_eq_true, if_false]

theorem store_refused (refused : b.accepts crc report = false) (nowUs : Nat) :
    ∃ failures, (b.store crc report nowUs).2 = { b with checksumFailures := failures } := by
  unfold store
  split
  case isTrue => exact ⟨b.checksumFailures, rfl⟩
  split
  case isTrue => exact ⟨b.checksumFailures + 1, rfl⟩
  case isFalse active valid =>
    rw [Bool.not_eq_true', Bool.not_eq_false] at active valid
    rw [accepts, active, valid] at refused
    cases refused

theorem track_eq (b : EndpointReceiveBuffer) (seq nowUs : Nat) :
    ∃ gaps missing timestamps, b.track seq nowUs = { b with
      gapsDetected := gaps
      missingSequences := missing
      missingTimestamps := timestamps } := by
  unfold track removeMissing
  split
  case isTrue => exact ⟨_, _, _, rfl⟩
  split
  case isTrue => exact ⟨_, _, _, rfl⟩
  case isFalse => exact ⟨_, _, _, rfl⟩

@[simp] theorem track_next : (b.track seq nowUs).nextExpectedSeq = b.nextExpectedSeq := by
  obtain ⟨_, _, _, tracked⟩ := b.track_eq seq nowUs
  rw [tracked]

@[simp] theorem track_highest : (b.track seq nowUs).highestSeq = b.highestSeq := by
  obtain ⟨_, _, _, tracked⟩ := b.track_eq seq nowUs
  rw [tracked]

@[simp] theorem track_last : (b.track seq nowUs).lastContiguousSeq = b.lastContiguousSeq := by
  obtain ⟨_, _, _, tracked⟩ := b.track_eq seq nowUs
  rw [tracked]

@[simp] theorem track_reports : (b.track seq nowUs).reports = b.reports := by
  obtain ⟨_, _, _, tracked⟩ := b.track_eq seq nowUs
  rw [tracked]

@[simp] theorem track_max_size : (b.track seq nowUs).maxSize = b.maxSize := by
  obtain ⟨_, _, _, tracked⟩ := b.track_eq seq nowUs
  rw [tracked]

@[simp] theorem track_active : (b.track seq nowUs).active = b.active := by
  obtain ⟨_, _, _, tracked⟩ := b.track_eq seq nowUs
  rw [tracked]

theorem track_no_gap (inOrder : seq ≤ b.nextExpectedSeq) (nowUs : Nat) :
    (b.track seq nowUs).missingSequences = b.missingSequences.erase seq := by
  rw [track, if_neg (Nat.not_lt.mpr inOrder), removeMissing]
  split
  case isTrue => rfl
  case isFalse absent => exact (Finset.erase_eq_of_notMem absent).symm

@[simp] theorem accept_next : (b.accept report nowUs).2.nextExpectedSeq =
    max b.nextExpectedSeq ((report.seq + 1) % 2 ^ 64) := by
  simp only [accept, pushReport, updateLastContiguous, advance, track_next]

@[simp] theorem accept_highest :
    (b.accept report nowUs).2.highestSeq = max b.highestSeq report.seq := by
  simp only [accept, pushReport, updateLastContiguous, advance, track_highest]

@[simp] theorem accept_active : (b.accept report nowUs).2.active = b.active := by
  simp only [accept, pushReport, updateLastContiguous, advance, track_active]

@[simp] theorem accept_max_size : (b.accept report nowUs).2.maxSize = b.maxSize := by
  simp only [accept, pushReport, updateLastContiguous, advance, track_max_size]

@[simp] theorem accept_missing : (b.accept report nowUs).2.missingSequences =
    (b.track report.seq nowUs).missingSequences := rfl

theorem accept_last : (b.accept report nowUs).2.lastContiguousSeq =
    if gaps : (b.track report.seq nowUs).missingSequences.Nonempty then
      max b.lastContiguousSeq ((b.track report.seq nowUs).missingSequences.min' gaps - 1)
    else max b.highestSeq report.seq := by
  simp only [accept, pushReport, updateLastContiguous, advance, track_last, track_highest]

theorem accept_reports : (b.accept report nowUs).2.reports =
    (if b.maxSize ≤ b.reports.length then b.reports.drop 1 else b.reports) ++ [report] := by
  simp only [accept, pushReport, updateLastContiguous, advance, track_reports, track_max_size]

theorem accept_flags : (b.accept report nowUs).1 = (decide (b.nextExpectedSeq < report.seq),
    decide (b.nextExpectedSeq < report.seq) ||
      (decide (b.highestSeq < report.seq) && report.seq % 10 == 0)) := rfl

theorem seq_lt (report : ReceivedReport) : report.seq < 2 ^ 64 := report.sequence.toNat_lt

/-- The queue loses its front, or nothing changes. -/
theorem try_take_cases (b : EndpointReceiveBuffer) :
    b.tryTake = (none, b) ∨ ∃ report reports, b.reports = report :: reports ∧ b.tryTake =
      (some report, { b with reports := reports, totalServed := b.totalServed + 1 }) := by
  unfold tryTake
  cases waiting : b.reports with
  | nil => exact .inl rfl
  | cons report reports => exact .inr ⟨report, reports, rfl, rfl⟩

theorem wake_cases (b : EndpointReceiveBuffer) (timedOut : Bool) :
    b.wake timedOut = (none, b) ∨ b.wake timedOut = b.tryTake := by
  cases timedOut with
  | true => exact .inl rfl
  | false => exact .inr rfl

end EndpointReceiveBuffer

/-- A report of no data with the right checksum. -/
def emptyReport (sequence : UInt64) : ReceivedReport where
  sequence := sequence
  endpoint := 0x81
  data := []
  serverTimestampUs := 0
  receivedAt := 0
  checksum := computeInterruptChecksum crc32 sequence 0x81 [] 0

structure Reception where
  buffer : EndpointReceiveBuffer
  stored : List Nat
  handedOut : List Nat

inductive BufferCall where
  | store (report : ReceivedReport) (nowUs : Nat)
  | getMissingSequences (nowUs : Nat)
  | tryTake
  | wake (timedOut : Bool)
  deriving DecidableEq, Repr

/-- The calls that look at the front of the queue. -/
def BufferCall.Takes (a : BufferCall) : Prop := a = .tryTake ∨ ∃ timedOut, a = .wake timedOut

namespace Reception

def activated (b : EndpointReceiveBuffer) (startSeq : UInt64) : Reception :=
  ⟨b.activate startSeq, [], []⟩

def handOut (s : Reception) (taken : Option ReceivedReport × EndpointReceiveBuffer) : Reception :=
  { s with buffer := taken.2, handedOut := s.handedOut ++ taken.1.toList.map ReceivedReport.seq }

def call (crc : List UInt8 → UInt32) (s : Reception) : BufferCall → Reception
  | .store report nowUs =>
      { s with
        buffer := (s.buffer.store crc report nowUs).2
        stored := if s.buffer.accepts crc report then report.seq :: s.stored else s.stored }
  | .getMissingSequences nowUs => { s with buffer := (s.buffer.getMissingSequences nowUs).2 }
  | .tryTake => s.handOut s.buffer.tryTake
  | .wake timedOut => s.handOut (s.buffer.wake timedOut)

end Reception

/-- Any calls in any order; the whole call is one step, since the client handles the
notifications of a server one after the other. -/
def reception (crc : List UInt8 → UInt32) : Machine Reception BufferCall Empty where
  step s a := some (s.call crc a, [])

namespace Reception
variable {crc : List UInt8 → UInt32} {s t : Reception} {a : BufferCall}

/-- What a call does to the buffer and its history. -/
inductive Does (crc : List UInt8 → UInt32) (s : Reception) : BufferCall → Reception → Prop
  | accepts (report : ReceivedReport) (nowUs : Nat)
      (accepted : s.buffer.accepts crc report = true) :
      Does crc s (.store report nowUs) { s with
        buffer := (s.buffer.accept report nowUs).2
        stored := report.seq :: s.stored }
  | refuses (report : ReceivedReport) (nowUs failures : Nat) :
      Does crc s (.store report nowUs) { s with
        buffer := { s.buffer with checksumFailures := failures } }
  | asks (nowUs : Nat) : Does crc s (.getMissingSequences nowUs) { s with
      buffer := (s.buffer.getMissingSequences nowUs).2 }
  | takes (a : BufferCall) (taking : a.Takes) (report : ReceivedReport)
      (reports : List ReceivedReport) (front : s.buffer.reports = report :: reports) :
      Does crc s a { s with
        buffer := { s.buffer with reports := reports, totalServed := s.buffer.totalServed + 1 }
        handedOut := s.handedOut ++ [report.seq] }
  | idles (a : BufferCall) (taking : a.Takes) : Does crc s a s

theorem hand_out_none (s : Reception) : s.handOut (none, s.buffer) = s := by
  rw [handOut]
  simp only [Option.toList_none, List.map_nil, List.append_nil]

theorem hand_out_does (s : Reception) (taking : a.Takes) :
    Does crc s a (s.handOut s.buffer.tryTake) := by
  rcases s.buffer.try_take_cases with empty | ⟨report, reports, front, taken⟩
  · rw [empty, hand_out_none]
    exact .idles a taking
  · rw [taken]
    exact .takes a taking report reports front

theorem call_does (crc : List UInt8 → UInt32) (s : Reception) (a : BufferCall) :
    Does crc s a (s.call crc a) := by
  cases a with
  | store report nowUs =>
      cases accepted : s.buffer.accepts crc report with
      | true =>
          simp only [call, accepted, if_true, EndpointReceiveBuffer.store_accepted accepted]
          exact .accepts report nowUs accepted
      | false =>
          obtain ⟨failures, refused⟩ := EndpointReceiveBuffer.store_refused accepted nowUs
          simp only [call, accepted, Bool.false_eq_true, if_false, refused]
          exact .refuses report nowUs failures
  | getMissingSequences nowUs => exact .asks nowUs
  | tryTake => exact s.hand_out_does (.inl rfl)
  | wake timedOut =>
      rcases s.buffer.wake_cases timedOut with late | woken
      · rw [call, late, hand_out_none]
        exact .idles _ (.inr ⟨timedOut, rfl⟩)
      · rw [call, woken]
        exact s.hand_out_does (.inr ⟨timedOut, rfl⟩)

end Reception
end P2pUsb
