import P2pUsb.VirtualUsb.Completion

/-! Unlinking: what the kernel is told of a request after it has asked for it to
be given up, and whether the request still goes to the server. -/
namespace P2pUsb
open scoped List

/-- The set of unlinked numbers has been brought up to date for this number. -/
def ReaderPhase.tracked (n : UInt32) : ReaderPhase → Prop
  | cancelling _ target | answering _ target _ => target = n
  | _ => False

/-- The number of a CMD_SUBMIT that is read. -/
def BridgeEvent.submitted : BridgeEvent → Option UInt32
  | submitRead n => some n
  | _ => none

/-- All the CMD_SUBMITs that are read have their own numbers. -/
def Distinct (tr : List BridgeEvent) : Prop := (tr.filterMap BridgeEvent.submitted).Nodup

theorem Distinct.before {tr out : List BridgeEvent} (h : Distinct (tr ++ out)) : Distinct tr := by
  rw [Distinct, List.filterMap_append] at h
  exact h.of_append_left

theorem Distinct.read_once {tr : List BridgeEvent} {n : UInt32}
    (h : Distinct (tr ++ [.submitRead n])) (seen : .submitRead n ∈ tr) : False := by
  rw [Distinct, List.filterMap_append] at h
  refine List.disjoint_of_nodup_append h (a := n) ?_ (List.mem_singleton.mpr rfl)
  exact List.mem_filterMap.mpr ⟨_, seen, rfl⟩

/-- Where a sequence is found after one more event. -/
theorem sublist_concat {ω : Type*} {l tr : List ω} {x e : ω} (h : l ++ [x] <+ tr ++ [e]) :
    l ++ [x] <+ tr ∨ x = e ∧ l <+ tr := by
  obtain ⟨front, back, same, inside, last⟩ := List.sublist_append_iff.mp h
  rcases List.sublist_singleton.mp last with rfl | rfl
  · rw [List.append_nil] at same
    exact .inl (same ▸ inside)
  · obtain ⟨rfl, tail⟩ := List.append_inj' same rfl
    exact .inr ⟨List.singleton_inj.mp tail, inside⟩

/-- A sequence whose last event is not among the new ones was there before. -/
theorem sublist_before {ω : Type*} {l tr out : List ω} {x : ω} (h : l ++ [x] <+ tr ++ out)
    (absent : x ∉ out) : l ++ [x] <+ tr := by
  obtain ⟨front, back, same, inside, last⟩ := List.sublist_append_iff.mp h
  rcases List.eq_nil_or_concat back with rfl | ⟨init, y, rfl⟩
  · rw [List.append_nil] at same
    exact same ▸ inside
  · rw [List.concat_eq_append] at same last
    rw [← List.append_assoc] at same
    obtain ⟨-, tail⟩ := List.append_inj' same rfl
    cases tail
    exact absurd (last.subset List.mem_concat_self) absent

namespace SocketBridge
open BridgeEvent

variable {s s' rest : SocketBridge} {i j : Nat} {t u : SubmitTask} {phase : TaskPhase}
  {tr out : List BridgeEvent} {n : UInt32}

/-! The tasks of a run are the CMD_SUBMITs it has read. -/

theorem TaskMove.unread {a : TaskStep} (move : TaskMove s i t a rest phase out) :
    out.filterMap submitted = [] := by
  cases move <;> rfl

theorem numbers {devid : UInt32} (h : machine.Reach (new devid) tr s) :
    s.tasks.map SubmitTask.seqnum = tr.filterMap submitted := by
  refine h.invariant (I := fun tr s => s.tasks.map SubmitTask.seqnum = tr.filterMap submitted)
    rfl ?_
  intro tr s a s' out hs _ step
  rw [List.filterMap_append, ← hs]
  cases step_moves step with
  | @task i t a rest phase out present move =>
      rw [move.unread, List.append_nil]
      apply List.ext_getElem?
      intro j
      rw [List.getElem?_map, List.getElem?_map, set_phase_task, move.tasks]
      cases s.tasks[j]? with
      | none => rfl
      | some u =>
          simp only [Option.map_some]
          split <;> rfl
  | reader move =>
      cases move with
      | submit => rw [List.map_append]; rfl
      | _ => exact (List.append_nil _).symm

/-- Two tasks with one number are one task. -/
theorem same_task (numbered : s.tasks.map SubmitTask.seqnum = tr.filterMap submitted)
    (distinct : Distinct tr) (first : s.tasks[i]? = some t) (second : s.tasks[j]? = some u)
    (same : t.seqnum = u.seqnum) : i = j ∧ t = u := by
  rw [Distinct, ← numbered] at distinct
  have index : i = j := by
    apply (List.getElem?_inj ?_ distinct).mp
    · rw [List.getElem?_map, List.getElem?_map, first, second, Option.map_some, Option.map_some,
        same]
    · rw [List.length_map]
      exact (List.getElem?_eq_some_iff.mp first).1
  subst index
  exact ⟨rfl, Option.some.inj (first.symm.trans second)⟩

/-! A task only goes forward. -/

theorem TaskMove.unchecked_before {a : TaskStep} (move : TaskMove s i t a rest phase out)
    (h : phase.unchecked) : t.phase.unchecked := by
  cases move with
  | quiet quiet =>
      generalize t.phase = before at quiet ⊢
      cases quiet <;> trivial
  | ask spawned => rw [spawned]; trivial
  | register waited => rcases waited with ⟨before, -⟩ | ⟨before, -⟩ <;> rw [before] <;> trivial
  | submit registered => rw [registered]; trivial
  | unregister returned => rw [returned]; trivial
  | suppress | write | release => cases h

theorem TaskMove.unsubmitted_before {a : TaskStep} (move : TaskMove s i t a rest phase out)
    (h : phase.unsubmitted) : t.phase.unsubmitted := by
  cases move with
  | quiet quiet =>
      generalize t.phase = before at quiet ⊢
      cases quiet <;> cases h
  | ask spawned => rw [spawned]; trivial
  | register waited => rcases waited with ⟨before, -⟩ | ⟨before, -⟩ <;> rw [before] <;> trivial
  | unregister returned =>
      rename_i result
      cases result <;> cases h
  | submit | suppress | write | release => cases h

theorem TaskMove.completed_after {a : TaskStep} (move : TaskMove s i t a rest phase out)
    (h : t.phase.completed) : phase.completed := by
  cases move with
  | quiet quiet =>
      generalize t.phase = before at quiet h
      cases quiet <;> trivial
  | ask spawned => rw [spawned] at h; cases h
  | register waited => rcases waited with ⟨before, -⟩ | ⟨before, -⟩ <;> rw [before] at h <;> cases h
  | submit registered => rw [registered] at h; cases h
  | unregister returned => rw [returned] at h; cases h
  | suppress | write | release => trivial

/-- The completion of a request is on its way from the moment the request is
found not to be unlinked. -/
theorem TaskMove.answering_before {a : TaskStep} (move : TaskMove s i t a rest phase out)
    (h : phase.answering) :
    t.phase.answering ∨ t.phase.unchecked ∧ t.seqnum ∉ s.unlinkedSeqnums := by
  cases move with
  | quiet quiet =>
      generalize t.phase = before at quiet ⊢
      cases quiet with
      | linked linked => exact .inr ⟨trivial, linked⟩
      | stillRuns => exact .inl trivial
      | _ => cases h
  | unregister returned =>
      rename_i result
      cases result <;> cases h
  | _ => cases h

theorem TaskMove.unlinked_after {a : TaskStep} (move : TaskMove s i t a rest phase out)
    (h : n ∈ s.unlinkedSeqnums) :
    n ∈ rest.unlinkedSeqnums ∨ t.seqnum = n ∧ ¬ phase.unchecked := by
  cases move with
  | suppress =>
      by_cases same : n = t.seqnum
      · exact .inr ⟨same.symm, nofun⟩
      · exact .inl ((List.mem_erase_of_ne same).mpr h)
  | release =>
      refine .inl ?_
      rw [dropGuard]
      split <;> exact h
  | _ => exact .inl h

/-- The task with this number has looked into the set of unlinked numbers. -/
def Checked (s : SocketBridge) (n : UInt32) : Prop :=
  ∃ t ∈ s.tasks, t.seqnum = n ∧ ¬ t.phase.unchecked

theorem Checked.task (h : s.Checked n) {a : TaskStep} (present : s.tasks[i]? = some t)
    (move : TaskMove s i t a rest phase out) : (rest.setPhase i phase).Checked n := by
  obtain ⟨u, inside, same, checked⟩ := h
  obtain ⟨j, held⟩ := List.mem_iff_getElem?.mp inside
  by_cases other : j = i
  · subst other
    cases present.symm.trans held
    exact ⟨_, List.mem_of_getElem? (move.moved present), same,
      fun unchecked => checked (move.unchecked_before unchecked)⟩
  · exact ⟨u, List.mem_of_getElem? (move.others other held), same, checked⟩

theorem Checked.reader (h : s.Checked n) {a : BridgeStep} (move : ReaderMove s a s' out) :
    s'.Checked n := by
  obtain ⟨u, inside, rest⟩ := h
  obtain ⟨j, held⟩ := List.mem_iff_getElem?.mp inside
  exact ⟨u, List.mem_of_getElem? (move.keeps held), rest⟩

/-- The set of unlinked numbers is cleared only when every task it is meant for
has looked into it, and no CMD_UNLINK is answered while the completion of its
target is on the way to the socket. -/
def Suppresses (s : SocketBridge) : BridgeStep → Prop
  | .track => s.unlinkedSeqnums.length ≥ maxUnlinkedSeqnums →
      ∀ n ∈ s.unlinkedSeqnums, s.Checked n
  | .answer none => ∀ header target status, s.reader = .answering header target status →
      ∀ t ∈ s.tasks, t.seqnum = target → ¬ t.phase.answering
  | _ => True

theorem suppresses_track (room : s.unlinkedSeqnums.length < maxUnlinkedSeqnums) :
    Suppresses s .track :=
  fun full => absurd room (Nat.not_lt.mpr full)

/-- A number whose CMD_UNLINK is being answered, or has been. -/
def Unlinked (tr : List BridgeEvent) (s : SocketBridge) (n : UInt32) : Prop :=
  s.reader.tracked n ∨ ∃ m status, .retUnlink m n status ∈ tr

structure Silenced (tr : List BridgeEvent) (s : SocketBridge) : Prop where
  guarded : ∀ n, Unlinked tr s n → n ∈ s.unlinkedSeqnums ∨ s.Checked n
  silent : ∀ m n status, .retUnlink m n status ∈ tr → ∀ t ∈ s.tasks, t.seqnum = n →
    ¬ t.phase.answering
  ordered : ∀ m n status j message, ¬ [.retUnlink m n status, .retSubmit j n message] <+ tr

theorem Silenced.task (h : Silenced tr s)
    (numbered : s.tasks.map SubmitTask.seqnum = tr.filterMap submitted) (distinct : Distinct tr)
    {a : TaskStep} (present : s.tasks[i]? = some t) (move : TaskMove s i t a rest phase out) :
    Silenced (tr ++ out) (rest.setPhase i phase) := by
  have old : ∀ {m n status}, .retUnlink m n status ∈ tr ++ out → .retUnlink m n status ∈ tr := by
    intro m n status seen
    rcases List.mem_append.mp seen with before | now
    · exact before
    · cases move <;> simp at now
  refine ⟨?_, ?_, ?_⟩
  · rintro n unlinked
    have before : Unlinked tr s n := by
      rcases unlinked with tracked | ⟨m, status, seen⟩
      · rw [set_phase_reader, move.reader] at tracked
        exact .inl tracked
      · exact .inr ⟨m, status, old seen⟩
    rcases h.guarded n before with member | checked
    · rcases move.unlinked_after member with still | ⟨same, checked⟩
      · exact .inl still
      · exact .inr ⟨_, List.mem_of_getElem? (move.moved present), same, checked⟩
    · exact .inr (checked.task present move)
  · intro m n status seen u inside same answering
    have before := old seen
    obtain ⟨j, held⟩ := List.mem_iff_getElem?.mp inside
    rcases move.task present held with ⟨rfl, rfl⟩ | ⟨-, held⟩
    · rcases move.answering_before answering with answering | ⟨unchecked, linked⟩
      · exact h.silent m n status before t (List.mem_of_getElem? present) same answering
      · -- the number is still in the set unless another task used it up
        rcases h.guarded n (.inr ⟨m, status, before⟩) with member | ⟨u, inside, same', checked⟩
        · exact linked ((show t.seqnum = n from same) ▸ member)
        · obtain ⟨k, held'⟩ := List.mem_iff_getElem?.mp inside
          obtain ⟨-, rfl⟩ := same_task numbered distinct present held' (same.trans same'.symm)
          exact checked unchecked
    · exact h.silent m n status before u (List.mem_of_getElem? held) same answering
  · intro m n status j message found
    cases move with
    | write sending =>
        rcases sublist_concat (l := [_]) found with before | ⟨now, first⟩
        · exact h.ordered _ _ _ _ _ before
        · cases now
          refine h.silent m _ status (List.singleton_sublist.mp first) t
            (List.mem_of_getElem? present) rfl ?_
          rw [sending]
          trivial
    | _ => exact h.ordered _ _ _ _ _ (sublist_before (l := [_]) found (by simp))

theorem mem_trackUnlinked_self (unlinked : List UInt32) (target : UInt32) :
    target ∈ trackUnlinked unlinked target := by
  simp only [trackUnlinked]
  generalize (if unlinked.length ≥ maxUnlinkedSeqnums then [] else unlinked) = left
  split
  case isTrue member => exact member
  case isFalse => exact List.mem_cons_self

theorem trackUnlinked_keeps {unlinked : List UInt32} (target : UInt32)
    (room : ¬ unlinked.length ≥ maxUnlinkedSeqnums) (h : n ∈ unlinked) :
    n ∈ trackUnlinked unlinked target := by
  simp only [trackUnlinked, if_neg room]
  split
  · exact h
  · exact List.mem_cons_of_mem target h

theorem ReaderMove.unlinked_before {a : BridgeStep} (move : ReaderMove s a s' out)
    (h : Unlinked (tr ++ out) s' n) : Unlinked tr s n ∨ a = .track ∧ n ∈ s'.unlinkedSeqnums := by
  rcases h with tracked | ⟨m, status, seen⟩
  · cases move with
    | stop => exact .inl (.inl tracked)
    | look _ next => rcases next with rfl | rfl <;> cases tracked
    | track =>
        cases tracked
        exact .inr ⟨rfl, mem_trackUnlinked_self _ _⟩
    | cancel reader => exact .inl (.inl (by rw [reader]; exact tracked))
    | _ => cases tracked
  · rcases List.mem_append.mp seen with before | now
    · exact .inl (.inr ⟨m, status, before⟩)
    · cases move with
      | answer reader =>
          cases List.mem_singleton.mp now
          exact .inl (.inl (by rw [reader]; rfl))
      | _ => simp at now

theorem ReaderMove.unlinked_after {a : BridgeStep} (move : ReaderMove s a s' out)
    (allowed : Suppresses s a) (h : n ∈ s.unlinkedSeqnums) :
    n ∈ s'.unlinkedSeqnums ∨ s.Checked n := by
  cases move with
  | track =>
      by_cases full : s.unlinkedSeqnums.length ≥ maxUnlinkedSeqnums
      · exact .inr (allowed full n h)
      · exact .inl (trackUnlinked_keeps _ full h)
  | _ => exact .inl h

theorem Silenced.reader (h : Silenced tr s) {a : BridgeStep} (allowed : Suppresses s a)
    (move : ReaderMove s a s' out) : Silenced (tr ++ out) s' := by
  refine ⟨?_, ?_, ?_⟩
  · intro n unlinked
    rcases move.unlinked_before unlinked with before | ⟨-, member⟩
    · rcases h.guarded n before with member | checked
      · exact (move.unlinked_after allowed member).imp_right (·.reader move)
      · exact .inr (checked.reader move)
    · exact .inl member
  · intro m n status seen u inside same answering
    obtain ⟨j, held⟩ := List.mem_iff_getElem?.mp inside
    rcases move.task held with held | ⟨header, cmd, data, -, -, rfl⟩
    · have inside := List.mem_of_getElem? held
      rcases List.mem_append.mp seen with before | now
      · exact h.silent m n status before u inside same answering
      · cases move with
        | answer reader =>
            cases List.mem_singleton.mp now
            exact allowed _ _ _ reader u inside same answering
        | _ => simp at now
    · cases answering
  · intro m n status j message found
    have before := sublist_before (l := [_]) found (by cases move <;> simp)
    exact h.ordered m n status j message before

theorem silenced {devid : UInt32} (run : machine.Exec Suppresses (new devid) tr s)
    (distinct : Distinct tr) : Silenced tr s := by
  refine run.invariantAlong (I := fun tr s => Distinct tr → Silenced tr s)
    (fun _ => ⟨?_, nofun, nofun⟩) ?_ distinct
  · rintro n (no | ⟨m, status, no⟩) <;> cases no
  · intro tr s a s' out before ih allowed step distinct
    have h := ih distinct.before
    cases step_moves step with
    | task present move =>
        exact h.task (numbers (before.mono fun _ _ _ => trivial)) distinct.before present move
    | reader move => exact h.reader allowed move

/-- No RET_SUBMIT for a request is written after the RET_UNLINK for it. -/
theorem no_completion_after_unlink {devid : UInt32}
    (run : machine.Exec Suppresses (new devid) tr s) (distinct : Distinct tr) :
    ∀ m n status j message, ¬ [.retUnlink m n status, .retSubmit j n message] <+ tr :=
  (silenced run distinct).ordered

/-- The CMD_UNLINK is read when the proxy has answered. -/
def exampleLateUnlink : List BridgeStep :=
  [.check, .read (.ok exampleBulkOut), .task 0 .register, .task 0 (.submit (some ⟨0⟩)),
    .task 0 (.proxyReturn (.ok ⟨⟨0⟩, .success [] none⟩)), .check, .read (.ok exampleUnlink)]

/-- The task looks into the set before the CMD_UNLINK is answered. -/
def exampleSuppressed : List BridgeStep :=
  [.cancel, .task 0 .unregister, .task 0 .checkRunning, .task 0 .checkUnlinked]

theorem no_completion_after_unlink_example : ∃ tr s, machine.Reach (new 1) tr s ∧
    .retUnlink 2 1 0 ∈ tr ∧
    ∀ m n status j message, ¬ [.retUnlink m n status, .retSubmit j n message] <+ tr := by
  have early : ∀ a ∈ exampleLateUnlink, ∀ s, Suppresses s a := by
    simp [exampleLateUnlink, Suppresses]
  have late : ∀ a ∈ exampleSuppressed, ∀ s, Suppresses s a := by
    simp [exampleSuppressed, Suppresses]
  have read := Machine.Exec.of_run (C := Suppresses) .start
    (Machine.everyStep_of_inputs (fun a present s _ _ => early a present s) _)
    (rfl : machine.run (new 1) exampleLateUnlink = some (_, _))
  have tracked := read.next (suppresses_track (Nat.zero_lt_succ 99)) rfl
  have looked := tracked.of_run
    (Machine.everyStep_of_inputs (fun a present s _ _ => late a present s) _)
    (rfl : machine.run _ exampleSuppressed = some (_, _))
  have answered := looked.next (a := .answer none) (by
    rintro header target status - t inside -
    cases List.mem_singleton.mp inside
    exact id) rfl
  refine ⟨_, _, answered.mono fun _ _ _ => trivial, ?_,
    no_completion_after_unlink answered (List.nodup_singleton 1)⟩
  exact List.mem_append_right _ List.mem_cons_self

/-- The CMD_UNLINK is answered between that look and the write. -/
def exampleOvertaken : List BridgeStep :=
  [.check, .read (.ok exampleBulkOut), .task 0 .register, .task 0 (.submit (some ⟨0⟩)),
    .task 0 (.proxyReturn (.ok ⟨⟨0⟩, .success [] none⟩)), .task 0 .unregister,
    .task 0 .checkRunning, .task 0 .checkUnlinked, .check, .read (.ok exampleUnlink), .track,
    .cancel, .answer none, .task 0 .recheckRunning, .task 0 (.write none)]

theorem unlink_overtakes_check : ∃ s request message,
    machine.run (new 1) exampleOvertaken = some (s, [.submitRead 1, .toProxy 0 none request,
      .unlinkRead 2 1, .retUnlink 2 1 (-2), .retSubmit 0 1 message]) :=
  ⟨_, _, _, rfl⟩

end SocketBridge
end P2pUsb
