import P2pUsb.VirtualUsb.Unlinking

/-! What the status of a RET_UNLINK says of its target, and which unlinked
requests the device proxy still gets. -/
namespace P2pUsb
open scoped List

/-- The pending transfer of this number has not been looked for yet. -/
def ReaderPhase.looksFor (n : UInt32) : ReaderPhase → Prop
  | tracking _ target | cancelling _ target => target = n
  | _ => False

namespace TaskPhase

theorem completed_submitted {phase : TaskPhase} (h : phase.completed) : ¬ phase.unsubmitted := by
  cases phase <;> first | exact id | cases h

end TaskPhase

namespace SocketBridge
open BridgeEvent

variable {s s' rest : SocketBridge} {i j : Nat} {t u : SubmitTask} {phase : TaskPhase}
  {tr out : List BridgeEvent} {n : UInt32}

/-- The proxy has answered the task, or has its request while the transfer can
be found. -/
def Settled (s : SocketBridge) (j : Nat) (t : SubmitTask) : Prop :=
  t.phase.completed ∨ ¬ t.phase.unsubmitted ∧ s.pendingTransfers.lookup t.seqnum = some j

theorem Settled.submitted (h : s.Settled j t) : ¬ t.phase.unsubmitted := by
  rcases h with completed | ⟨submitted, -⟩
  · exact TaskPhase.completed_submitted completed
  · exact submitted

/-- A CMD_UNLINK is read only when the request it is for has been handed to the
proxy, and either is still pending or has been answered. -/
def Settles (s : SocketBridge) : BridgeStep → Prop
  | .read (.ok (.unlink _ cmd)) =>
      ∀ j t, s.tasks[j]? = some t → t.seqnum = cmd.seqnumUnlink → s.Settled j t
  | _ => True

theorem TaskMove.pending_of_ne {a : TaskStep} (move : TaskMove s i t a rest phase out)
    (other : n ≠ t.seqnum) : rest.pendingTransfers.lookup n = s.pendingTransfers.lookup n := by
  cases move with
  | register => exact AList.lookup_insert_ne other
  | unregister => exact AList.lookup_erase_ne other
  | release => rw [dropGuard]; split <;> rfl
  | _ => rfl

theorem TaskMove.settled {a : TaskStep} (move : TaskMove s i t a rest phase out)
    (h : s.Settled i t) : (rest.setPhase i phase).Settled i { t with phase } := by
  rcases h with completed | ⟨submitted, listed⟩
  · exact .inl (move.completed_after completed)
  · have still := mt move.unsubmitted_before submitted
    cases move with
    | unregister returned =>
        rename_i result
        cases result <;> exact .inl trivial
    | register waited =>
        exact absurd trivial still
    | release => exact .inl trivial
    | _ => exact .inr ⟨still, listed⟩

structure Withdrawn (tr : List BridgeEvent) (s : SocketBridge) : Prop where
  looked : ∀ n, s.reader.looksFor n → ∀ (j : Nat) (t : SubmitTask), s.tasks[j]? = some t →
    t.seqnum = n → s.Settled j t
  denied : ∀ header n, s.reader = .answering header n (-2) → ∀ (j : Nat) (t : SubmitTask),
    s.tasks[j]? = some t → t.seqnum = n → t.phase.completed
  submitted : ∀ m n, [.submitRead n, .unlinkRead m n] <+ tr → ∀ (j : Nat) (t : SubmitTask),
    s.tasks[j]? = some t → t.seqnum = n → ¬ t.phase.unsubmitted
  ordered : ∀ m n i endpoint (request : UsbRequest),
    [.submitRead n, .unlinkRead m n, .toProxy i endpoint request] <+ tr →
      request.id ≠ ⟨n.toNat⟩

theorem Withdrawn.task (h : Withdrawn tr s)
    (numbered : s.tasks.map SubmitTask.seqnum = tr.filterMap BridgeEvent.submitted)
    (distinct : Distinct tr) {a : TaskStep} (present : s.tasks[i]? = some t)
    (move : TaskMove s i t a rest phase out) : Withdrawn (tr ++ out) (rest.setPhase i phase) := by
  have old : ∀ {m n}, [.submitRead n, .unlinkRead m n] <+ tr ++ out →
      [.submitRead n, .unlinkRead m n] <+ tr := by
    intro m n found
    exact sublist_before (l := [_]) found (by cases move <;> simp)
  refine ⟨?_, ?_, ?_, ?_⟩
  · intro n looks j u held same
    rw [set_phase_reader, move.reader] at looks
    rcases move.task present held with ⟨rfl, rfl⟩ | ⟨other, held⟩
    · exact move.settled (h.looked n looks j t present same)
    · refine (h.looked n looks j u held same).imp_right fun pending => ⟨pending.1, ?_⟩
      rw [set_phase_pending, move.pending_of_ne]
      · exact pending.2
      · intro same
        exact other (same_task numbered distinct held present same).1
  · intro header n answering j u held same
    rw [set_phase_reader, move.reader] at answering
    rcases move.task present held with ⟨rfl, rfl⟩ | ⟨-, held⟩
    · exact move.completed_after (h.denied header n answering j t present same)
    · exact h.denied header n answering j u held same
  · intro m n found j u held same unsubmitted
    rcases move.task present held with ⟨rfl, rfl⟩ | ⟨-, held⟩
    · exact h.submitted m n (old found) j t present same (move.unsubmitted_before unsubmitted)
    · exact h.submitted m n (old found) j u held same unsubmitted
  · intro m n k endpoint request found own
    cases move with
    | submit registered translated =>
        rcases sublist_concat (l := [_, _]) found with before | ⟨now, unlinked⟩
        · exact h.ordered m n k endpoint request before own
        · cases now
          cases translated
          refine h.submitted m n unlinked i t present ?_ ?_
          · exact UInt32.toNat_inj.mp (RequestId.mk.inj own)
          · rw [registered]
            trivial
    | _ => exact h.ordered m n k endpoint request (sublist_before (l := [_, _]) found (by simp)) own

theorem Withdrawn.reader (h : Withdrawn tr s) (distinct : Distinct (tr ++ out)) {a : BridgeStep}
    (allowed : Settles s a) (move : ReaderMove s a s' out) : Withdrawn (tr ++ out) s' := by
  refine ⟨?_, ?_, ?_, ?_⟩
  · intro n looks j u held same
    cases move with
    | unlink header cmd =>
        cases looks
        exact allowed j u held same
    | stop => exact h.looked n looks j u held same
    | track reader => exact h.looked n (by rw [reader]; exact looks) j u held same
    | look _ next => rcases next with rfl | rfl <;> cases looks
    | _ => cases looks
  · intro header n answering j u held same
    cases move with
    | stop => exact h.denied header n answering j u held same
    | look _ next => rcases next with rfl | rfl <;> cases answering
    | @cancel header target reader =>
        obtain ⟨rfl, rfl, denied⟩ := ReaderPhase.answering.inj answering
        split at denied
        case isTrue => cases denied
        case isFalse absent =>
          rcases h.looked target (by rw [reader]; rfl) j u held same with done | ⟨-, listed⟩
          · exact done
          · rw [same] at listed
            exact absurd (AList.lookup_isSome.mp (by rw [listed]; rfl)) absent
    | _ => cases answering
  · intro m n found j u held same unsubmitted
    cases move with
    | submit header cmd data reading =>
        have before := sublist_before (l := [_]) found (by simp)
        rcases (ReaderMove.submit header cmd data reading).task held with
          held | ⟨_, _, _, now, -, rfl⟩
        · exact h.submitted m n before j u held same unsubmitted
        · cases now
          cases same
          exact distinct.read_once (before.subset List.mem_cons_self)
    | unlink header cmd =>
        rcases sublist_concat (l := [_]) found with before | ⟨now, -⟩
        · exact h.submitted m n before j u held same unsubmitted
        · cases now
          exact (allowed j u held same).submitted unsubmitted
    | _ =>
        have before := sublist_before (l := [_]) found (by simp)
        exact h.submitted m n before j u held same unsubmitted
  · intro m n k endpoint request found
    have before := sublist_before (l := [_, _]) found (by cases move <;> simp)
    exact h.ordered m n k endpoint request before

theorem withdrawn {devid : UInt32} (run : machine.Exec Settles (new devid) tr s)
    (distinct : Distinct tr) : Withdrawn tr s := by
  refine run.invariantAlong (I := fun tr s => Distinct tr → Withdrawn tr s)
    (fun _ => ⟨?_, ?_, nofun, nofun⟩) ?_ distinct
  · intro n no
    cases no
  · intro header n no
    cases no
  intro tr s a s' out before ih allowed step distinct
  have h := ih distinct.before
  cases step_moves step with
  | task present move =>
      exact h.task (numbers (before.mono fun _ _ _ => trivial)) distinct.before present move
  | reader move => exact h.reader distinct allowed move

/-- A target that is reported as not found has been answered by the proxy or
was never read, and an unlinked request does not go to the proxy any more. -/
theorem unlink_settled {devid : UInt32} (run : machine.Exec Settles (new devid) tr s)
    (distinct : Distinct tr) :
    (∀ a s' out m n, machine.step s a = some (s', out) → .retUnlink m n (-2) ∈ out →
      ∀ t ∈ s.tasks, t.seqnum = n → t.phase.completed) ∧
    ∀ m n i endpoint (request : UsbRequest),
      [.submitRead n, .unlinkRead m n, .toProxy i endpoint request] <+ tr →
        request.id ≠ ⟨n.toNat⟩ := by
  have h := withdrawn run distinct
  refine ⟨?_, h.ordered⟩
  intro a s' out m n step seen t inside same
  obtain ⟨j, held⟩ := List.mem_iff_getElem?.mp inside
  cases step_moves step with
  | task present move => cases move <;> simp at seen
  | reader move =>
      cases move with
      | answer reader =>
          cases List.mem_singleton.mp seen
          exact h.denied _ _ reader j t held same
      | _ => simp at seen

theorem unlink_settled_example : ∃ tr s s', machine.Reach (new 1) tr s ∧
    machine.step s (.answer none) = some (s', [.retUnlink 2 1 (-2)]) ∧
      ∀ t ∈ s.tasks, t.seqnum = 1 → t.phase.completed := by
  have early : ∀ a ∈ exampleAnswered ++ [.check], ∀ s, Settles s a := by
    simp [exampleAnswered, exampleBulkOut, Settles]
  have late : ∀ a ∈ [.track, .cancel], ∀ s, Settles s a := by
    simp [Settles]
  have ended := Machine.Exec.of_run (C := Settles) .start
    (Machine.everyStep_of_inputs (fun a present s _ _ => early a present s) _)
    (rfl : machine.run (new 1) (exampleAnswered ++ [.check]) = some (_, _))
  have read := ended.next (a := .read (.ok exampleUnlink)) (by
    rintro j t held -
    cases List.mem_singleton.mp (List.mem_of_getElem? held)
    exact .inl trivial) rfl
  have looked := read.of_run
    (Machine.everyStep_of_inputs (fun a present s _ _ => late a present s) _)
    (rfl : machine.run _ [.track, .cancel] = some (_, _))
  exact ⟨_, _, _, looked.mono fun _ _ _ => trivial, rfl,
    (unlink_settled looked (List.nodup_singleton 1)).1 (.answer none) _ _ 2 1 rfl
      List.mem_cons_self⟩

/-- The CMD_UNLINK is read before the task has taken its first step. -/
def exampleEarlyUnlink : List BridgeStep :=
  [.check, .read (.ok exampleBulkOut), .check, .read (.ok exampleUnlink), .track, .cancel,
    .answer none, .task 0 .register, .task 0 (.submit (some ⟨0⟩))]

theorem spawned_submit_denied : ∃ s request,
    machine.run (new 1) exampleEarlyUnlink = some (s, [.submitRead 1, .unlinkRead 2 1,
      .retUnlink 2 1 (-2), .toProxy 0 none request]) ∧ request.id = ⟨1⟩ :=
  ⟨_, _, rfl, rfl⟩

end SocketBridge
end P2pUsb
