import P2pUsb.VirtualUsb.Reception

/-! What `last_contiguous_seq` says has been received. It is exact as long as every missing
number is remembered: a gap that does not fit, or a number that is given up, is taken for
received. -/
namespace P2pUsb

namespace EndpointReceiveBuffer
variable {b : EndpointReceiveBuffer} {seq nowUs q : Nat}

theorem mem_track_missing {numbers : List Nat} {tracked : Finset Nat × AList fun _ : Nat => Nat}
    (room : tracked.1.card + numbers.length ≤ maxMissingSequences) :
    q ∈ (numbers.foldl (trackMissing nowUs) tracked).1 ↔ q ∈ tracked.1 ∨ q ∈ numbers := by
  induction numbers generalizing tracked with
  | nil => simp only [List.foldl_nil, List.not_mem_nil, or_false]
  | cons n numbers ih =>
      rw [List.length_cons] at room
      have space : tracked.1.card < maxMissingSequences := by omega
      rw [List.foldl_cons]
      by_cases known : n ∈ tracked.1
      · have same : trackMissing nowUs tracked n = tracked := by
          rw [trackMissing, if_pos space, if_pos known]
        rw [same, ih (by omega), List.mem_cons]
        constructor
        · exact fun found => found.imp id .inr
        · rintro (old | rfl | later)
          · exact .inl old
          · exact .inl known
          · exact .inr later
      · have grown : trackMissing nowUs tracked n =
            (insert n tracked.1, tracked.2.insert n nowUs) := by
          rw [trackMissing, if_pos space, if_neg known]
        have card : (insert n tracked.1).card = tracked.1.card + 1 :=
          Finset.card_insert_of_notMem known
        rw [grown, ih (by dsimp only; omega), Finset.mem_insert, List.mem_cons]
        constructor
        · rintro ((new | old) | later)
          · exact .inr (.inl new)
          · exact .inl old
          · exact .inr (.inr later)
        · rintro (old | new | later)
          · exact .inl (.inr old)
          · exact .inl (.inl new)
          · exact .inr later

theorem mem_track_gap (ahead : b.nextExpectedSeq < seq)
    (room : b.missingSequences.card + (seq - b.nextExpectedSeq) ≤ maxMissingSequences) :
    q ∈ (b.track seq nowUs).missingSequences ↔
      q ∈ b.missingSequences ∨ b.nextExpectedSeq ≤ q ∧ q < seq := by
  rw [track, if_pos ahead]
  simp only [trackGap]
  rw [mem_track_missing (by rwa [List.length_range']), List.mem_range'_1]
  have upper : b.nextExpectedSeq + (seq - b.nextExpectedSeq) = seq := by omega
  rw [upper]

theorem get_missing_young
    (young : ∀ e ∈ b.missingTimestamps.entries, nowUs - e.2 ≤ b.nackTimeoutUs) :
    (b.getMissingSequences nowUs).2 = b := by
  have none : (b.missingTimestamps.entries.filter fun e =>
      decide (b.nackTimeoutUs < nowUs - e.2)) = [] := by
    refine List.filter_eq_nil_iff.mpr fun e present => ?_
    rw [decide_eq_true_eq]
    exact Nat.not_lt.mpr (young e present)
  simp only [getMissingSequences, none, List.map_nil, List.foldl_nil]

theorem generate_nack_none (complete : b.missingSequences = ∅) (nowUs : Nat) :
    (b.generateNackInfo nowUs).1 = none := by
  have given : ∀ expired : List Nat, expired.foldl Finset.erase (∅ : Finset Nat) = ∅ := by
    intro expired
    induction expired with
    | nil => rfl
    | cons q rest ih => rw [List.foldl_cons, Finset.erase_empty, ih]
  simp only [generateNackInfo, getMissingSequences, complete, given, Finset.sort_empty,
    List.isEmpty_nil, if_true]

end EndpointReceiveBuffer

namespace Reception
variable {crc : List UInt8 → UInt32} {s t : Reception} {a : BufferCall} {start q : Nat}

def KeepsTrack (crc : List UInt8 → UInt32) (s : Reception) : BufferCall → Prop
  | .store report _ => s.buffer.accepts crc report = true →
      s.buffer.nextExpectedSeq < report.seq →
      s.buffer.missingSequences.card + (report.seq - s.buffer.nextExpectedSeq) ≤
        maxMissingSequences
  | .getMissingSequences nowUs =>
      ∀ e ∈ s.buffer.missingTimestamps.entries, nowUs - e.2 ≤ s.buffer.nackTimeoutUs
  | .tryTake | .wake _ => True

/-- Of the numbers up to the last contiguous one, those from the start on have been
stored; and before anything is stored it says nothing of those below the start. -/
structure LastContiguousSound (start : Nat) (s : Reception) : Prop where
  received : ∀ seq, start ≤ seq → seq ≤ s.buffer.lastContiguousSeq → seq ∈ s.stored
  nothing : s.stored = [] → ∀ seq < start, ¬ seq ≤ s.buffer.lastContiguousSeq

/-- Every number so far is stored or remembered as missing. The first number expected is
zero only before a stream that starts with it has begun. -/
structure TrackInv (start : Nat) (s : Reception) : Prop where
  low : start ≤ s.buffer.nextExpectedSeq
  behind : s.buffer.nextExpectedSeq ≤ s.buffer.highestSeq + 1
  fresh : s.buffer.nextExpectedSeq = 0 → s.buffer.highestSeq = 0
  highest : start - 1 ≤ s.buffer.highestSeq
  begun : start - 1 ≤ s.buffer.lastContiguousSeq
  missing : ∀ q ∈ s.buffer.missingSequences, q ≤ s.buffer.highestSeq
  arrived : ∀ q, start ≤ q → q ≤ s.buffer.highestSeq →
    q ∈ s.stored ∨ q ∈ s.buffer.missingSequences ∨ s.buffer.nextExpectedSeq = 0
  last : ∀ q, start ≤ q → q ≤ s.buffer.lastContiguousSeq → q ∈ s.stored ∨ q = 0
  complete : s.stored = [] → s.buffer.missingSequences = ∅

namespace TrackInv

theorem activated (b : EndpointReceiveBuffer) (startSeq : UInt64) :
    TrackInv startSeq.toNat (.activated b startSeq) where
  low := Nat.le_refl _
  behind := by simp only [Reception.activated, EndpointReceiveBuffer.activate]; omega
  fresh := by simp only [Reception.activated, EndpointReceiveBuffer.activate]; omega
  highest := Nat.le_refl _
  begun := Nat.le_refl _
  missing := fun q absent => absurd absent (Finset.notMem_empty q)
  arrived := by simp only [Reception.activated, EndpointReceiveBuffer.activate]; omega
  last := by simp only [Reception.activated, EndpointReceiveBuffer.activate]; omega
  complete := fun _ => rfl

theorem tracked (hs : s.TrackInv start) {report : ReceivedReport}
    (fits : s.buffer.nextExpectedSeq < report.seq →
      s.buffer.missingSequences.card + (report.seq - s.buffer.nextExpectedSeq) ≤
        maxMissingSequences) (nowUs : Nat) :
    (∀ q ∈ (s.buffer.track report.seq nowUs).missingSequences,
        q ≤ max s.buffer.highestSeq report.seq) ∧
      ∀ q, start ≤ q → q ≤ max s.buffer.highestSeq report.seq →
        q ∈ report.seq :: s.stored ∨
          q ∈ (s.buffer.track report.seq nowUs).missingSequences := by
  have behind := hs.behind
  by_cases ahead : s.buffer.nextExpectedSeq < report.seq
  · have gap : ∀ q, q ∈ (s.buffer.track report.seq nowUs).missingSequences ↔
        q ∈ s.buffer.missingSequences ∨ s.buffer.nextExpectedSeq ≤ q ∧ q < report.seq := fun q =>
      EndpointReceiveBuffer.mem_track_gap ahead (fits ahead)
    refine ⟨fun q present => ?_, fun q above below => ?_⟩
    · rcases (gap q).mp present with old | ⟨-, new⟩
      · exact Nat.le_trans (hs.missing q old) (Nat.le_max_left _ _)
      · exact Nat.le_trans (Nat.le_of_lt new) (Nat.le_max_right _ _)
    · rw [gap, List.mem_cons]
      by_cases own : q = report.seq
      · exact .inl (.inl own)
      by_cases expected : s.buffer.nextExpectedSeq ≤ q ∧ q < report.seq
      · exact .inr (.inr expected)
      have before : q ≤ s.buffer.highestSeq := (le_max_iff.mp below).elim id (by omega)
      rcases hs.arrived q above before with stored | missing | first
      · exact .inl (.inr stored)
      · exact .inr (.inl missing)
      · have none := hs.fresh first
        omega
  · have erased := EndpointReceiveBuffer.track_no_gap (Nat.not_lt.mp ahead) nowUs
    rw [erased]
    refine ⟨fun q present => ?_, fun q above below => ?_⟩
    · exact Nat.le_trans (hs.missing q (Finset.mem_of_mem_erase present)) (Nat.le_max_left _ _)
    · rw [Finset.mem_erase, List.mem_cons]
      by_cases own : q = report.seq
      · exact .inl (.inl own)
      have before : q ≤ s.buffer.highestSeq := (le_max_iff.mp below).elim id (by omega)
      rcases hs.arrived q above before with stored | missing | first
      · exact .inl (.inr stored)
      · exact .inr ⟨own, missing⟩
      · have none := hs.fresh first
        omega

theorem accepts (hs : s.TrackInv start) {report : ReceivedReport} {nowUs : Nat}
    (fits : s.buffer.nextExpectedSeq < report.seq →
      s.buffer.missingSequences.card + (report.seq - s.buffer.nextExpectedSeq) ≤
        maxMissingSequences) :
    TrackInv start { s with
      buffer := (s.buffer.accept report nowUs).2
      stored := report.seq :: s.stored } := by
  obtain ⟨missing, arrived⟩ := hs.tracked fits nowUs
  have word := EndpointReceiveBuffer.seq_lt report
  have low := hs.low
  have behind := hs.behind
  have highest := hs.highest
  have positive : 0 < max s.buffer.nextExpectedSeq ((report.seq + 1) % 2 ^ 64) := by
    have limit : maxMissingSequences = 256 := rfl
    omega
  constructor
  all_goals
    simp only [EndpointReceiveBuffer.accept_next, EndpointReceiveBuffer.accept_highest,
      EndpointReceiveBuffer.accept_missing]
  · omega
  · omega
  · omega
  · omega
  · rw [EndpointReceiveBuffer.accept_last]
    have begun := hs.begun
    split
    case isTrue => omega
    case isFalse => omega
  · exact missing
  · exact fun q above below => (arrived q above below).imp id .inl
  · intro q above below
    rw [EndpointReceiveBuffer.accept_last] at below
    split at below
    case isTrue gaps =>
      by_cases first : q = 0
      · exact .inr first
      by_cases old : q ≤ s.buffer.lastContiguousSeq
      · exact (hs.last q above old).imp (List.mem_cons_of_mem _) id
      -- all numbers below the lowest one that is missing
      have least := (s.buffer.track report.seq nowUs).missingSequences.min'_mem gaps
      have below : q < (s.buffer.track report.seq nowUs).missingSequences.min' gaps := by omega
      rcases arrived q above (Nat.le_trans (Nat.le_of_lt below) (missing _ least)) with
        stored | hole
      · exact .inl stored
      · exact absurd (Finset.min'_le _ q hole) (Nat.not_le.mpr below)
    case isFalse none =>
      rcases arrived q above below with stored | hole
      · exact .inl stored
      · exact absurd ⟨q, hole⟩ none
  · exact fun empty => absurd empty (List.cons_ne_nil _ _)

theorem does (hs : s.TrackInv start) (step : Does crc s a t) (kept : s.KeepsTrack crc a) :
    t.TrackInv start := by
  cases step with
  | accepts report nowUs accepted => exact hs.accepts (kept accepted)
  | refuses report nowUs failures =>
      exact ⟨hs.low, hs.behind, hs.fresh, hs.highest, hs.begun, hs.missing, hs.arrived, hs.last,
        hs.complete⟩
  | asks nowUs =>
      rw [EndpointReceiveBuffer.get_missing_young kept]
      exact hs
  | takes _ taking report reports front =>
      exact ⟨hs.low, hs.behind, hs.fresh, hs.highest, hs.begun, hs.missing, hs.arrived, hs.last,
        hs.complete⟩
  | idles => exact hs

/-- The property is exact once a report is there, and number zero if the stream starts
with it. -/
theorem sound_iff (hs : s.TrackInv start) :
    s.LastContiguousSound start ↔ s.stored ≠ [] ∧ (start = 0 → 0 ∈ s.stored) := by
  have begun := hs.begun
  constructor
  · intro sound
    have zero : start = 0 → 0 ∈ s.stored := by
      rintro rfl
      exact sound.received 0 (Nat.le_refl 0) (Nat.zero_le _)
    refine ⟨fun empty => ?_, zero⟩
    by_cases first : start = 0
    · rw [empty] at zero
      exact absurd (zero first) List.not_mem_nil
    · exact sound.nothing empty (start - 1) (by omega) begun
  · rintro ⟨some, zero⟩
    refine ⟨fun q above below => ?_, fun empty => absurd empty some⟩
    rcases hs.last q above below with stored | rfl
    · exact stored
    · exact zero (Nat.le_zero.mp above)

end TrackInv

/-- The value is sound from the first report on, and if the stream starts with zero from
that report on. Before it the numbers from the start on are safe, zero apart, and the value is
not sent. -/
theorem last_contiguous_sound {b : EndpointReceiveBuffer} {startSeq : UInt64} {tr : List Empty}
    (run : (reception crc).Exec (KeepsTrack crc) (activated b startSeq) tr s) :
    (s.LastContiguousSound startSeq.toNat ↔
      s.stored ≠ [] ∧ (startSeq.toNat = 0 → 0 ∈ s.stored)) ∧
    (startSeq.toNat ≠ 0 → ∀ seq, startSeq.toNat ≤ seq → seq ≤ s.buffer.lastContiguousSeq →
      seq ∈ s.stored) ∧
    (s.stored = [] → ∀ nowUs, (s.buffer.generateNackInfo nowUs).1 = none) := by
  have tracked : s.TrackInv startSeq.toNat := by
    refine run.stateInvariant (TrackInv.activated b startSeq) ?_
    intro s a t out hs kept step
    obtain ⟨rfl, -⟩ := Prod.mk.inj (Option.some.inj step)
    exact hs.does (s.call_does crc a) kept
  refine ⟨tracked.sound_iff, fun positive q above below => ?_, fun empty nowUs =>
    EndpointReceiveBuffer.generate_nack_none (tracked.complete empty) nowUs⟩
  rcases tracked.last q above below with stored | rfl
  · exact stored
  · exact absurd (Nat.le_zero.mp above) positive

/-- The second report is late, and not yet given up. -/
theorem last_contiguous_sound_retransmission :
    ∃ s tr, (reception crc32).Exec (KeepsTrack crc32) (activated (.new 0x81 64) 1) tr s ∧
      s.buffer.lastContiguousSeq = 3 ∧ s.LastContiguousSound 1 := by
  have first : (reception crc32).Exec (KeepsTrack crc32) (activated (.new 0x81 64) 1) _ _ :=
    .next (.next .start (a := .store (emptyReport 1) 0) (by intro _; decide) rfl)
      (a := .store (emptyReport 3) 10) (by intro _; decide +kernel) rfl
  have run : (reception crc32).Exec (KeepsTrack crc32) (activated (.new 0x81 64) 1) _ _ :=
    .next (.next first (a := .getMissingSequences 90000)
      (by rw [KeepsTrack]; decide +kernel) rfl)
      (a := .store (emptyReport 2) 95000) (by intro _; decide +kernel) rfl
  refine ⟨_, _, run, by decide +kernel, (last_contiguous_sound run).1.mpr ⟨?_, ?_⟩⟩
  · decide +kernel
  · exact fun wrong => absurd wrong (by decide)

/-- The second report never comes; once it is given up, the fourth one vouches for it. -/
theorem given_up_is_claimed :
    ∃ s tr, (reception crc32).Reach (activated (.new 0x81 64) 1) tr s ∧
      s.buffer.lastContiguousSeq = 4 ∧ 2 ∉ s.stored ∧ ¬ s.LastContiguousSound 1 := by
  have gap : (reception crc32).Reach (activated (.new 0x81 64) 1) _ _ :=
    .next (.next .start (a := .store (emptyReport 1) 0) trivial rfl)
      (a := .store (emptyReport 3) 10) trivial rfl
  have run : (reception crc32).Reach (activated (.new 0x81 64) 1) _ _ :=
    .next (.next gap (a := .getMissingSequences 200000) trivial rfl)
      (a := .store (emptyReport 4) 200001) trivial rfl
  refine ⟨_, _, run, by decide +kernel, by decide +kernel, fun sound => ?_⟩
  have claimed := sound.received 2 (by decide) (by decide +kernel)
  exact absurd claimed (by decide +kernel)

end Reception
end P2pUsb
