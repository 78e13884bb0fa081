import Mathlib.Order.Interval.Finset.Nat
import P2pUsb.VirtualUsb.LastContiguous

/-! The set of missing numbers against what has really arrived. The set has a bound, and
what does not fit is forgotten. -/
namespace P2pUsb

namespace EndpointReceiveBuffer
variable {b : EndpointReceiveBuffer} {seq nowUs q : Nat}

/-- The two tables of the missing numbers: the first is small, and the second has a time
for each of its numbers. -/
structure Dated (tracked : Finset Nat × AList fun _ : Nat => Nat) : Prop where
  few : tracked.1.card ≤ maxMissingSequences
  same : ∀ q, q ∈ tracked.2 ↔ q ∈ tracked.1

theorem Dated.track_missing {tracked : Finset Nat × AList fun _ : Nat => Nat}
    (h : Dated tracked) (nowUs n : Nat) : Dated (trackMissing nowUs tracked n) := by
  unfold trackMissing
  split
  case isFalse => exact h
  split
  case isTrue => exact h
  case isFalse space new =>
    constructor
    · rw [Finset.card_insert_of_notMem new]
      exact space
    · intro q
      rw [AList.mem_insert, Finset.mem_insert, h.same]

theorem Dated.track_all {numbers : List Nat} {tracked : Finset Nat × AList fun _ : Nat => Nat}
    (h : Dated tracked) (nowUs : Nat) : Dated (numbers.foldl (trackMissing nowUs) tracked) := by
  induction numbers generalizing tracked with
  | nil => exact h
  | cons n numbers ih => exact ih (h.track_missing nowUs n)

/-- With or without room the loop only adds numbers of the gap. -/
theorem track_missing_subset {numbers : List Nat}
    {tracked : Finset Nat × AList fun _ : Nat => Nat}
    (present : q ∈ (numbers.foldl (trackMissing nowUs) tracked).1) :
    q ∈ tracked.1 ∨ q ∈ numbers := by
  induction numbers generalizing tracked with
  | nil => exact .inl present
  | cons n numbers ih =>
      rcases ih present with before | later
      · unfold trackMissing at before
        split at before
        case isFalse => exact .inl before
        split at before
        case isTrue => exact .inl before
        rcases Finset.mem_insert.mp before with rfl | old
        · exact .inr List.mem_cons_self
        · exact .inl old
      · exact .inr (List.mem_cons_of_mem n later)

def tables (b : EndpointReceiveBuffer) : Finset Nat × AList fun _ : Nat => Nat :=
  (b.missingSequences, b.missingTimestamps)

theorem Dated.track (h : Dated b.tables) (seq nowUs : Nat) : Dated (b.track seq nowUs).tables := by
  unfold EndpointReceiveBuffer.track
  split
  case isTrue => exact h.track_all nowUs
  unfold removeMissing
  split
  case isFalse => exact h
  case isTrue =>
    constructor
    · exact Nat.le_trans (Finset.card_erase_le) h.few
    · intro q
      simp only [tables]
      rw [AList.mem_erase, Finset.mem_erase]
      exact and_congr_right fun _ => h.same q

/-- What is missing after a report was missing before it or is in front of it. -/
theorem track_subset (present : q ∈ (b.track seq nowUs).missingSequences) :
    q ≠ seq ∧ (q ∈ b.missingSequences ∨ b.nextExpectedSeq ≤ q ∧ q < seq) ∨
      b.nextExpectedSeq < seq ∧ q ∈ b.missingSequences := by
  by_cases ahead : b.nextExpectedSeq < seq
  · rw [track, if_pos ahead] at present
    rcases track_missing_subset present with old | new
    · exact .inr ⟨ahead, old⟩
    · rw [List.mem_range'_1] at new
      exact .inl ⟨by omega, .inr ⟨new.1, by omega⟩⟩
  · rw [track_no_gap (Nat.not_lt.mp ahead), Finset.mem_erase] at present
    exact .inl ⟨present.1, .inl present.2⟩

end EndpointReceiveBuffer

namespace Reception
variable {crc : List UInt8 → UInt32} {s t : Reception} {a : BufferCall} {start q : Nat}

/-- One more than the largest number stored, and at least the start. -/
def nextAfter (start : Nat) (stored : List Nat) : Nat := (stored.map (· + 1)).foldr max start

/-- The numbers from the start on that ought to have arrived and have not. -/
def absent (start : Nat) (s : Reception) : Finset Nat :=
  (Finset.Ico start s.buffer.nextExpectedSeq).filter fun q => q ∉ s.stored

/-- Numbers are below the last one of a word, and none that is missing is given up. -/
def Undisturbed (s : Reception) : BufferCall → Prop
  | .store report _ => report.seq < 2 ^ 64 - 1
  | .getMissingSequences nowUs =>
      ∀ e ∈ s.buffer.missingTimestamps.entries, nowUs - e.2 ≤ s.buffer.nackTimeoutUs
  | .tryTake | .wake _ => True

instance (s : Reception) (a : BufferCall) : Decidable (s.Undisturbed a) :=
  match a with
  | .store report _ => inferInstanceAs (Decidable (report.seq < 2 ^ 64 - 1))
  | .getMissingSequences nowUs => inferInstanceAs (Decidable
      (∀ e ∈ s.buffer.missingTimestamps.entries, nowUs - e.2 ≤ s.buffer.nackTimeoutUs))
  | .tryTake | .wake _ => .isTrue trivial

/-- After the call no more numbers are absent than the set can hold. -/
def Remembers (crc : List UInt8 → UInt32) (start : Nat) (s : Reception) (a : BufferCall) : Prop :=
  s.Undisturbed a ∧ ((s.call crc a).absent start).card ≤ maxMissingSequences

instance (crc : List UInt8 → UInt32) (start : Nat) (s : Reception) (a : BufferCall) :
    Decidable (s.Remembers crc start a) :=
  inferInstanceAs (Decidable (_ ∧ _))

structure MissingInv (start : Nat) (s : Reception) : Prop where
  next : s.buffer.nextExpectedSeq = nextAfter start s.stored
  missing : s.buffer.missingSequences ⊆ s.absent start
  dated : EndpointReceiveBuffer.Dated s.buffer.tables

theorem start_le_next_after (start : Nat) (stored : List Nat) :
    start ≤ nextAfter start stored := by
  induction stored with
  | nil => exact Nat.le_refl start
  | cons seq stored ih => exact Nat.le_trans ih (Nat.le_max_right _ _)

theorem lt_next_after {stored : List Nat} (present : q ∈ stored) :
    q < nextAfter start stored := by
  induction stored with
  | nil => exact absurd present List.not_mem_nil
  | cons seq stored ih =>
      rcases List.mem_cons.mp present with rfl | later
      · exact Nat.le_max_left _ _
      · exact Nat.lt_of_lt_of_le (ih later) (Nat.le_max_right _ _)

theorem mem_absent : q ∈ s.absent start ↔
    (start ≤ q ∧ q < s.buffer.nextExpectedSeq) ∧ q ∉ s.stored := by
  rw [absent, Finset.mem_filter, Finset.mem_Ico]

namespace MissingInv

theorem activated (b : EndpointReceiveBuffer) (startSeq : UInt64) :
    MissingInv startSeq.toNat (.activated b startSeq) where
  next := rfl
  missing := Finset.empty_subset _
  dated := ⟨Nat.zero_le _, fun q => ⟨fun found => absurd found (AList.notMem_empty q),
    fun found => absurd found (Finset.notMem_empty q)⟩⟩

/-- What is absent after a report was absent before it or is in front of it. -/
theorem mem_absent_accept (hs : s.MissingInv start) {report : ReceivedReport} {nowUs : Nat}
    (word : report.seq < 2 ^ 64 - 1) :
    q ∈ absent start { s with
        buffer := (s.buffer.accept report nowUs).2
        stored := report.seq :: s.stored } ↔
      q ≠ report.seq ∧ (q ∈ s.absent start ∨ s.buffer.nextExpectedSeq ≤ q ∧ q < report.seq) := by
  have low : start ≤ s.buffer.nextExpectedSeq := hs.next ▸ start_le_next_after start s.stored
  have small : (report.seq + 1) % 2 ^ 64 = report.seq + 1 := Nat.mod_eq_of_lt (by omega)
  rw [mem_absent, mem_absent, List.mem_cons, not_or]
  simp only [EndpointReceiveBuffer.accept_next, small]
  constructor
  · rintro ⟨⟨above, below⟩, other, new⟩
    refine ⟨other, ?_⟩
    by_cases old : q < s.buffer.nextExpectedSeq
    · exact .inl ⟨⟨above, old⟩, new⟩
    · exact .inr ⟨by omega, by omega⟩
  · rintro ⟨other, ⟨⟨above, old⟩, new⟩ | ⟨above, below⟩⟩
    · exact ⟨⟨above, by omega⟩, other, new⟩
    · refine ⟨⟨by omega, by omega⟩, other, fun stored => ?_⟩
      have behind : q < s.buffer.nextExpectedSeq := hs.next ▸ lt_next_after stored
      omega

theorem accepts (hs : s.MissingInv start) {report : ReceivedReport} {nowUs : Nat}
    (word : report.seq < 2 ^ 64 - 1) :
    MissingInv start { s with
      buffer := (s.buffer.accept report nowUs).2
      stored := report.seq :: s.stored } := by
  have small : (report.seq + 1) % 2 ^ 64 = report.seq + 1 := Nat.mod_eq_of_lt (by omega)
  constructor
  · rw [EndpointReceiveBuffer.accept_next, small, hs.next, Nat.max_comm]
    rfl
  · intro q present
    rw [hs.mem_absent_accept word]
    rcases EndpointReceiveBuffer.track_subset present with ⟨other, old | new⟩ | ⟨ahead, old⟩
    · exact ⟨other, .inl (hs.missing old)⟩
    · exact ⟨other, .inr new⟩
    · have below := (mem_absent.mp (hs.missing old)).1.2
      exact ⟨by omega, .inl (hs.missing old)⟩
  · exact hs.dated.track report.seq nowUs

theorem does (hs : s.MissingInv start) (step : Does crc s a t) (kept : s.Undisturbed a) :
    t.MissingInv start := by
  cases step with
  | accepts report nowUs accepted => exact hs.accepts kept
  | refuses report nowUs failures => exact ⟨hs.next, hs.missing, hs.dated⟩
  | asks nowUs =>
      rw [EndpointReceiveBuffer.get_missing_young kept]
      exact hs
  | takes _ taking report reports front => exact ⟨hs.next, hs.missing, hs.dated⟩
  | idles => exact hs

/-- A gap of which every number may be absent fits into the set. -/
theorem room (hs : s.MissingInv start) {report : ReceivedReport} {nowUs : Nat}
    (word : report.seq < 2 ^ 64 - 1)
    (ahead : s.buffer.nextExpectedSeq < report.seq)
    (few : (absent start { s with
        buffer := (s.buffer.accept report nowUs).2
        stored := report.seq :: s.stored }).card ≤ maxMissingSequences) :
    s.buffer.missingSequences.card + (report.seq - s.buffer.nextExpectedSeq) ≤
      maxMissingSequences := by
  have apart : Disjoint s.buffer.missingSequences
      (Finset.Ico s.buffer.nextExpectedSeq report.seq) := by
    refine Finset.disjoint_left.mpr fun q old new => ?_
    have below := (mem_absent.mp (hs.missing old)).1.2
    exact absurd (Finset.mem_Ico.mp new).1 (Nat.not_le.mpr below)
  rw [← Nat.card_Ico, ← Finset.card_union_of_disjoint apart]
  refine Nat.le_trans (Finset.card_le_card fun q present => ?_) few
  rw [hs.mem_absent_accept word]
  rcases Finset.mem_union.mp present with old | new
  · have below := (mem_absent.mp (hs.missing old)).1.2
    exact ⟨by omega, .inl (hs.missing old)⟩
  · have inside := Finset.mem_Ico.mp new
    exact ⟨by omega, .inr inside⟩

/-- With room for every absent number nothing is forgotten. -/
theorem complete (hs : s.MissingInv start) (full : s.absent start ⊆ s.buffer.missingSequences)
    (step : Does crc s a t) (kept : s.Undisturbed a)
    (few : (t.absent start).card ≤ maxMissingSequences) :
    t.absent start ⊆ t.buffer.missingSequences := by
  cases step with
  | accepts report nowUs accepted =>
      intro q present
      obtain ⟨other, before⟩ := (hs.mem_absent_accept kept).mp present
      rw [EndpointReceiveBuffer.accept_missing]
      by_cases ahead : s.buffer.nextExpectedSeq < report.seq
      · have room := hs.room kept ahead few
        rw [EndpointReceiveBuffer.mem_track_gap ahead room]
        exact before.imp (fun old => full old) id
      · rw [EndpointReceiveBuffer.track_no_gap (Nat.not_lt.mp ahead), Finset.mem_erase]
        rcases before with old | new
        · exact ⟨other, full old⟩
        · omega
  | refuses report nowUs failures => exact full
  | asks nowUs =>
      rw [EndpointReceiveBuffer.get_missing_young kept]
      exact full
  | takes _ taking report reports front => exact full
  | idles => exact full

end MissingInv

/-- The set holds only numbers that are absent, a date for each, and never too many. Where it
could always hold all of them it does. -/
theorem missing_numbers_exact {b : EndpointReceiveBuffer} {startSeq : UInt64} {tr : List Empty}
    (run : (reception crc).Exec (fun s a => s.Undisturbed a) (activated b startSeq) tr s) :
    s.buffer.nextExpectedSeq = nextAfter startSeq.toNat s.stored ∧
    s.buffer.missingSequences ⊆ s.absent startSeq.toNat ∧
    s.buffer.missingSequences.card ≤ maxMissingSequences ∧
    (∀ q, q ∈ s.buffer.missingTimestamps ↔ q ∈ s.buffer.missingSequences) ∧
    ((reception crc).Exec (Remembers crc startSeq.toNat) (activated b startSeq) tr s →
      s.buffer.missingSequences = s.absent startSeq.toNat) := by
  have first := MissingInv.activated b startSeq
  have known : s.MissingInv startSeq.toNat := by
    refine run.stateInvariant first ?_
    intro s a t out hs kept step
    obtain ⟨rfl, -⟩ := Prod.mk.inj (Option.some.inj step)
    exact hs.does (s.call_does crc a) kept
  refine ⟨known.next, known.missing, known.dated.few, known.dated.same, fun remembers => ?_⟩
  have empty : (activated b startSeq).absent startSeq.toNat ⊆ ∅ := by
    intro q present
    have inside := (mem_absent.mp present).1
    exact absurd (Nat.lt_of_le_of_lt inside.1 inside.2) (Nat.lt_irrefl _)
  have full : s.MissingInv startSeq.toNat ∧
      s.absent startSeq.toNat ⊆ s.buffer.missingSequences := by
    refine remembers.stateInvariant (I := fun s => s.MissingInv startSeq.toNat ∧
      s.absent startSeq.toNat ⊆ s.buffer.missingSequences) ⟨first, empty⟩ ?_
    rintro s a t out ⟨hs, full⟩ ⟨kept, few⟩ step
    obtain ⟨rfl, -⟩ := Prod.mk.inj (Option.some.inj step)
    have does := s.call_does crc a
    exact ⟨hs.does does kept, hs.complete full does kept few⟩
  exact Finset.Subset.antisymm known.missing full.2

/-- Two reports with a gap between them, and then the late one out of the gap. -/
theorem missing_numbers_exact_retransmission :
    ∃ s tr, (reception crc32).Exec (Remembers crc32 1) (activated (.new 0x81 64) 1) tr s ∧
      s.buffer.nextExpectedSeq = 5 ∧ s.buffer.missingSequences = {3} ∧
      s.buffer.missingSequences = s.absent 1 := by
  have gap : (reception crc32).Exec (Remembers crc32 1) (activated (.new 0x81 64) 1) _ _ :=
    .next (.next .start (a := .store (emptyReport 1) 0) (by decide +kernel) rfl)
      (a := .store (emptyReport 4) 10) (by decide +kernel) rfl
  have run : (reception crc32).Exec (Remembers crc32 1) (activated (.new 0x81 64) 1) _ _ :=
    .next (.next gap (a := .getMissingSequences 90000) (by decide +kernel) rfl)
      (a := .store (emptyReport 2) 95000) (by decide +kernel) rfl
  have exact_set := missing_numbers_exact (run.mono fun _ _ remembers => remembers.1)
  exact ⟨_, _, run, by decide +kernel, by decide +kernel, exact_set.2.2.2.2 run⟩

end Reception
end P2pUsb
