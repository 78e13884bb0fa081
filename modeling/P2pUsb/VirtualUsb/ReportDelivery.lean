import P2pUsb.VirtualUsb.Reception

/-! Which reports the kernel is given. The buffer takes every valid report, so each number
is handed out at most once only as long as no report repeats one that was handed out or
still waits. -/
namespace P2pUsb

/-- The reports that still wait once there is room for another. -/
def EndpointReceiveBuffer.kept (b : EndpointReceiveBuffer) : List ReceivedReport :=
  if b.maxSize ≤ b.reports.length then b.reports.drop 1 else b.reports

namespace Reception
variable {crc : List UInt8 → UInt32} {s t : Reception} {a : BufferCall}

def waiting (s : Reception) : List Nat := s.buffer.reports.map ReceivedReport.seq

/-- What is stored has neither been handed out nor waits beside it. -/
def StoresNew (crc : List UInt8 → UInt32) (s : Reception) : BufferCall → Prop
  | .store report _ => s.buffer.accepts crc report = true →
      report.seq ∉ s.handedOut ++ s.buffer.kept.map ReceivedReport.seq
  | .getMissingSequences _ | .tryTake | .wake _ => True

/-- No number is handed out twice, nor will be. -/
def Unrepeated (s : Reception) : Prop := (s.handedOut ++ s.waiting).Nodup

theorem kept_sublist (b : EndpointReceiveBuffer) : b.kept.Sublist b.reports := by
  unfold EndpointReceiveBuffer.kept
  split
  case isTrue => exact List.drop_sublist 1 b.reports
  case isFalse => exact List.Sublist.refl _

/-- After a store its number is the last to be handed out. -/
theorem accept_waiting (s : Reception) (report : ReceivedReport) (nowUs : Nat)
    (stored : List Nat) :
    waiting { s with buffer := (s.buffer.accept report nowUs).2, stored := stored } =
      s.buffer.kept.map ReceivedReport.seq ++ [report.seq] := by
  simp only [waiting, EndpointReceiveBuffer.accept_reports, List.map_append, List.map_singleton,
    EndpointReceiveBuffer.kept]

theorem Unrepeated.does (hs : s.Unrepeated) (step : Does crc s a t) (new : s.StoresNew crc a) :
    t.Unrepeated := by
  cases step with
  | accepts report nowUs accepted =>
      rw [Unrepeated, accept_waiting, ← List.append_assoc]
      have fewer := ((kept_sublist s.buffer).map ReceivedReport.seq).append_left s.handedOut
      refine List.nodup_append.mpr ⟨hs.sublist fewer, List.nodup_singleton _, ?_⟩
      rintro q old r last rfl
      rw [List.mem_singleton.mp last] at old
      exact new accepted old
  | refuses report nowUs failures => exact hs
  | asks nowUs => exact hs
  | takes _ taking report reports front =>
      rw [Unrepeated, waiting, front, List.map_cons] at hs
      rw [Unrepeated, waiting, List.append_assoc]
      exact hs
  | idles => exact hs

/-- Everything that waits can be taken, one after the other. -/
theorem drained (crc : List UInt8 → UInt32) (s : Reception) :
    ∃ u tr, (reception crc).Reach s tr u ∧ u.handedOut = s.handedOut ++ s.waiting := by
  obtain ⟨reports, queue⟩ : ∃ reports, s.buffer.reports = reports := ⟨_, rfl⟩
  induction reports generalizing s with
  | nil => exact ⟨s, [], .start, by rw [waiting, queue, List.map_nil, List.append_nil]⟩
  | cons report reports ih =>
      have taken : s.call crc .tryTake = { s with
          buffer := { s.buffer with reports := reports, totalServed := s.buffer.totalServed + 1 }
          handedOut := s.handedOut ++ [report.seq] } := by
        simp only [call, EndpointReceiveBuffer.tryTake, queue]
        rfl
      obtain ⟨u, tr, rest, all⟩ := ih (s.call crc .tryTake) (by rw [taken])
      have first : (reception crc).Reach s _ (s.call crc .tryTake) :=
        .next .start (a := .tryTake) trivial rfl
      refine ⟨u, _, first.trans rest, ?_⟩
      rw [all, taken, waiting, waiting, queue, List.map_cons, List.append_assoc]
      rfl

/-- Under the condition nothing is handed out twice, and the first store outside it
leaves a queue from which something is. -/
theorem handed_out_once {b : EndpointReceiveBuffer} {startSeq : UInt64} {tr : List Empty}
    (distinct : (b.reports.map ReceivedReport.seq).Nodup)
    (run : (reception crc).Exec (StoresNew crc) (activated b startSeq) tr s) :
    s.handedOut.Nodup ∧ ∀ a, ¬ s.StoresNew crc a →
      ∃ u rest, (reception crc).Reach (s.call crc a) rest u ∧ ¬ u.handedOut.Nodup := by
  have unrepeated : s.Unrepeated := by
    have start : (activated b startSeq).Unrepeated := distinct
    refine run.stateInvariant start ?_
    intro s a t out hs new step
    obtain ⟨rfl, -⟩ := Prod.mk.inj (Option.some.inj step)
    exact hs.does (s.call_does crc a) new
  refine ⟨(List.nodup_append.mp unrepeated).1, fun a repeats => ?_⟩
  obtain ⟨u, rest, takes, all⟩ := drained crc (s.call crc a)
  refine ⟨u, rest, takes, fun once => ?_⟩
  cases a with
  | store report nowUs =>
      simp only [StoresNew, not_forall, not_not] at repeats
      obtain ⟨accepted, old⟩ := repeats
      have stored : s.call crc (.store report nowUs) = { s with
          buffer := (s.buffer.accept report nowUs).2
          stored := report.seq :: s.stored } := by
        simp only [call, accepted, if_true, EndpointReceiveBuffer.store_accepted accepted]
      rw [all, stored, accept_waiting, ← List.append_assoc] at once
      exact (List.nodup_append.mp once).2.2 _ old _ List.mem_cons_self rfl
  | getMissingSequences nowUs => exact repeats trivial
  | tryTake => exact repeats trivial
  | wake timedOut => exact repeats trivial

theorem handed_out_once_out_of_order :
    ∃ s tr, (reception crc32).Exec (StoresNew crc32) (activated (.new 0x81 64) 1) tr s ∧
      s.handedOut = [2, 1] ∧ s.handedOut.Nodup := by
  have stored : (reception crc32).Exec (StoresNew crc32) (activated (.new 0x81 64) 1) _ _ :=
    .next (.next .start (a := .store (emptyReport 2) 0) (by intro _; decide +kernel) rfl)
      (a := .store (emptyReport 1) 1) (by intro _; decide +kernel) rfl
  have run : (reception crc32).Exec (StoresNew crc32) (activated (.new 0x81 64) 1) _ _ :=
    .next (.next stored (a := .tryTake) (by trivial) rfl) (a := .wake false) (by trivial) rfl
  exact ⟨_, _, run, by decide +kernel, (handed_out_once (by decide) run).1⟩

/-- A report that arrives twice is two key presses. -/
theorem duplicate_is_handed_out_twice :
    ∃ s tr, (reception crc32).Reach (activated (.new 0x81 64) 1) tr s ∧
      s.handedOut = [1, 1] ∧ ¬ s.handedOut.Nodup := by
  have first : (reception crc32).Reach (activated (.new 0x81 64) 1) _ _ :=
    .next (.next .start (a := .store (emptyReport 1) 0) trivial rfl) (a := .tryTake) trivial rfl
  have run : (reception crc32).Reach (activated (.new 0x81 64) 1) _ _ :=
    .next (.next first (a := .store (emptyReport 1) 1) trivial rfl) (a := .tryTake) trivial rfl
  exact ⟨_, _, run, by decide +kernel, by decide +kernel⟩

end Reception
end P2pUsb
