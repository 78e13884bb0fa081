import P2pUsb.VirtualUsb.BridgeSteps

/-! The end of a submit task: what it has written, and what it has left in the
map of pending transfers. -/
namespace P2pUsb

namespace TaskPhase

/-- Ended, or about to, with this outcome. -/
def endsAs (outcome : TaskOutcome) : TaskPhase → Prop
  | leaving o | ended o => o = outcome
  | _ => False

end TaskPhase

namespace BridgeEvent

/-- The request of task `i` goes to the device proxy. -/
def passes (i : Nat) : BridgeEvent → Bool
  | toProxy j _ _ => j == i
  | _ => false

/-- The RET_SUBMIT of task `i` is written. -/
def answers (i : Nat) : BridgeEvent → Bool
  | retSubmit j _ _ => j == i
  | _ => false

/-- A RET_SUBMIT with this number is written. -/
def completes (seqnum : UInt32) : BridgeEvent → Bool
  | retSubmit _ n _ => n == seqnum
  | _ => false

end BridgeEvent

namespace SocketBridge
open BridgeEvent

variable {s s' rest : SocketBridge} {i j : Nat} {t u : SubmitTask} {phase : TaskPhase}
  {tr out : List BridgeEvent} {n : UInt32}

/-- A pending transfer belongs to a task with its number that is under way, or
that ended because no device was attached. -/
def PendingTasks (s : SocketBridge) : Prop :=
  ∀ n j, s.pendingTransfers.lookup n = some j →
    ∃ t, s.tasks[j]? = some t ∧ t.seqnum = n ∧ (t.phase.listed ∨ t.phase.endsAs .notAttached)

/-- A move registers the transfer of its own task, or takes it out. -/
theorem TaskMove.pending {a : TaskStep} (move : TaskMove s i t a rest phase out)
    (found : rest.pendingTransfers.lookup n = some j) :
    phase = .registered ∧ j = i ∧ t.seqnum = n ∨
      s.pendingTransfers.lookup n = some j ∧ (a = .unregister → t.seqnum ≠ n) := by
  cases move with
  | register =>
      rw [AList.lookup_insert_eq] at found
      split at found
      case isTrue same =>
        cases found
        exact .inl ⟨rfl, rfl, same.symm⟩
      case isFalse => exact .inr ⟨found, TaskStep.noConfusion⟩
  | unregister =>
      obtain ⟨other, before⟩ := AList.lookup_erase_eq_some.mp found
      exact .inr ⟨before, fun _ => Ne.symm other⟩
  | release =>
      refine .inr ⟨?_, TaskStep.noConfusion⟩
      rw [dropGuard] at found
      split at found <;> exact found
  | submit => exact .inr ⟨found, TaskStep.noConfusion⟩
  | quiet quiet =>
      refine .inr ⟨found, ?_⟩
      rintro rfl
      cases quiet
  | ask | suppress | write => exact .inr ⟨found, TaskStep.noConfusion⟩

/-- A task whose transfer may be found stays so until it takes the transfer out. -/
theorem TaskMove.still_listed {a : TaskStep} (move : TaskMove s i t a rest phase out)
    (before : t.phase.listed ∨ t.phase.endsAs .notAttached) (kept : a ≠ .unregister) :
    phase.listed ∨ phase.endsAs .notAttached := by
  cases move with
  | quiet quiet =>
      generalize t.phase = old at quiet before
      cases quiet with
      | detached => exact .inr rfl
      | returned => exact .inl trivial
      | _ => rcases before with no | no <;> cases no
  | ask spawned =>
      rw [spawned] at before
      rcases before with no | no <;> cases no
  | register | submit => exact .inl trivial
  | unregister => exact absurd rfl kept
  | suppress checked =>
      rw [checked] at before
      rcases before with no | no <;> cases no
  | write sending =>
      rw [sending] at before
      rcases before with no | no <;> cases no
  | release leaving =>
      rw [leaving] at before
      exact before

theorem PendingTasks.task (h : s.PendingTasks) {a : TaskStep} (present : s.tasks[i]? = some t)
    (move : TaskMove s i t a rest phase out) : (rest.setPhase i phase).PendingTasks := by
  intro n j found
  rw [set_phase_pending] at found
  rcases move.pending found with ⟨rfl, rfl, same⟩ | ⟨before, kept⟩
  · exact ⟨_, move.moved present, same, .inl trivial⟩
  · obtain ⟨u, held, same, still⟩ := h n j before
    by_cases own : j = i
    · subst own
      cases present.symm.trans held
      exact ⟨_, move.moved present, same, move.still_listed still fun now => kept now same⟩
    · exact ⟨u, move.others own held, same, still⟩

theorem PendingTasks.reader (h : s.PendingTasks) {a : BridgeStep} (move : ReaderMove s a s' out) :
    s'.PendingTasks := by
  have kept : ∀ n j, s.pendingTransfers.lookup n = some j → ∃ t, s'.tasks[j]? = some t ∧
      t.seqnum = n ∧ (t.phase.listed ∨ t.phase.endsAs .notAttached) := by
    intro n j found
    obtain ⟨u, held, rest⟩ := h n j found
    exact ⟨u, move.keeps held, rest⟩
  intro n j found
  cases move with
  | cancel => exact kept n j (AList.lookup_erase_eq_some.mp found).2
  | _ => exact kept n j found

theorem pending_tasks {devid : UInt32} (h : machine.Reach (new devid) tr s) : s.PendingTasks := by
  refine h.stateInvariant (fun n j found => nomatch found) ?_
  intro s a s' out hs _ step
  cases step_moves step with
  | task present move => exact hs.task present move
  | reader move => exact hs.reader move

/-- What the trace tells of a task is what its phase says. -/
structure Tallied (tr : List BridgeEvent) (i : Nat) (phase : TaskPhase) : Prop where
  passed : tr.countP (passes i) ≤ 1
  unpassed : phase.unsubmitted → tr.countP (passes i) = 0
  answered : phase.endsAs .written → tr.countP (answers i) = 1
  unanswered : ¬ phase.endsAs .written → tr.countP (answers i) = 0

/-- The events are about tasks that exist, under their own numbers. -/
structure Accounts (tr : List BridgeEvent) (s : SocketBridge) : Prop where
  passes : ∀ j endpoint request, .toProxy j endpoint request ∈ tr → j < s.tasks.length
  answers : ∀ j n message, .retSubmit j n message ∈ tr → ∃ t, s.tasks[j]? = some t ∧ t.seqnum = n
  tallied : ∀ j t, s.tasks[j]? = some t → Tallied tr j t.phase

theorem Tallied.quiet {phase' : TaskPhase} (h : Tallied tr i phase)
    (submitted : phase'.unsubmitted → phase.unsubmitted)
    (written : phase'.endsAs .written ↔ phase.endsAs .written)
    (passed : out.countP (BridgeEvent.passes i) = 0)
    (answered : out.countP (BridgeEvent.answers i) = 0) :
    Tallied (tr ++ out) i phase' where
  passed := by rw [List.countP_append, passed]; exact h.passed
  unpassed early := by rw [List.countP_append, passed]; exact h.unpassed (submitted early)
  answered now := by rw [List.countP_append, answered]; exact h.answered (written.mp now)
  unanswered not := by
    rw [List.countP_append, answered]
    exact h.unanswered fun before => not (written.mpr before)

theorem Tallied.same (h : Tallied tr i phase) (passed : out.countP (BridgeEvent.passes i) = 0)
    (answered : out.countP (BridgeEvent.answers i) = 0) : Tallied (tr ++ out) i phase :=
  h.quiet id Iff.rfl passed answered

theorem TaskMove.tallied {a : TaskStep} (move : TaskMove s i t a rest phase out)
    (h : Tallied tr i t.phase) : Tallied (tr ++ out) i phase := by
  cases move with
  | quiet quiet =>
      refine h.quiet ?_ ?_ rfl rfl <;> generalize t.phase = before at quiet
      · cases quiet <;> simp [TaskPhase.unsubmitted]
      · cases quiet <;> simp [TaskPhase.endsAs]
  | ask spawned =>
      rw [spawned] at h
      exact h.quiet (fun _ => trivial) Iff.rfl rfl rfl
  | register waited =>
      rcases waited with ⟨before, -⟩ | ⟨before, -⟩
      all_goals
        rw [before] at h
        exact h.quiet (fun _ => trivial) Iff.rfl rfl rfl
  | unregister returned =>
      rw [returned] at h
      rename_i result
      refine h.quiet ?_ ?_ rfl rfl
      · cases result <;> exact id
      · cases result <;> simp [afterProxy, TaskPhase.endsAs]
  | suppress checked =>
      rw [checked] at h
      exact h.quiet id (by simp [TaskPhase.endsAs]) rfl rfl
  | release leaving =>
      rw [leaving] at h
      exact h.quiet id Iff.rfl rfl rfl
  | submit registered =>
      rw [registered] at h
      have none := h.unpassed trivial
      exact {
        passed := by rw [List.countP_append, none]; simp [BridgeEvent.passes]
        unpassed := nofun
        answered := nofun
        unanswered := fun _ => by
          rw [List.countP_append, h.unanswered nofun]
          rfl }
  | write sending =>
      rw [sending] at h
      exact {
        passed := by rw [List.countP_append]; exact h.passed
        unpassed := nofun
        answered := fun _ => by
          rw [List.countP_append, h.unanswered nofun]
          simp [BridgeEvent.answers]
        unanswered := fun not => absurd rfl not }

/-- A task is not seen in the events of another. -/
theorem TaskMove.unseen {a : TaskStep} (move : TaskMove s i t a rest phase out) (other : j ≠ i) :
    out.countP (BridgeEvent.passes j) = 0 ∧ out.countP (BridgeEvent.answers j) = 0 := by
  cases move with
  | submit => exact ⟨by simp [BridgeEvent.passes, Ne.symm other], rfl⟩
  | write => exact ⟨rfl, by simp [BridgeEvent.answers, Ne.symm other]⟩
  | _ => exact ⟨rfl, rfl⟩

theorem ReaderMove.unseen {a : BridgeStep} (move : ReaderMove s a s' out) (j : Nat) :
    out.countP (BridgeEvent.passes j) = 0 ∧ out.countP (BridgeEvent.answers j) = 0 := by
  cases move <;> exact ⟨rfl, rfl⟩

theorem Accounts.task (h : Accounts tr s) {a : TaskStep} (present : s.tasks[i]? = some t)
    (move : TaskMove s i t a rest phase out) : Accounts (tr ++ out) (rest.setPhase i phase) := by
  have length : (rest.setPhase i phase).tasks.length = s.tasks.length := by
    rw [setPhase, List.length_modify, move.tasks]
  have kept : ∀ {j : Nat} {u : SubmitTask}, s.tasks[j]? = some u → ∃ u' : SubmitTask,
      (rest.setPhase i phase).tasks[j]? = some u' ∧ u'.seqnum = u.seqnum := by
    intro j u held
    obtain ⟨phase', held'⟩ := (Moves.task present move).keeps held
    exact ⟨_, held', rfl⟩
  refine ⟨?_, ?_, ?_⟩
  · intro j endpoint request seen
    rw [length]
    rcases List.mem_append.mp seen with before | now
    · exact h.passes j endpoint request before
    · have inside := (List.getElem?_eq_some_iff.mp present).1
      cases move with
      | submit =>
          cases List.mem_singleton.mp now
          exact inside
      | _ => simp at now
  · intro j n message seen
    rcases List.mem_append.mp seen with before | now
    · obtain ⟨u, held, same⟩ := h.answers j n message before
      obtain ⟨u', held', same'⟩ := kept held
      exact ⟨u', held', same'.trans same⟩
    · cases move with
      | write =>
          cases List.mem_singleton.mp now
          exact kept present
      | _ => simp at now
  · intro j u held
    rcases move.task present held with ⟨rfl, rfl⟩ | ⟨other, held⟩
    · exact move.tallied (h.tallied j t present)
    · obtain ⟨passed, answered⟩ := move.unseen other
      exact (h.tallied j u held).same passed answered

/-- Nothing is seen of a task that does not exist yet. -/
theorem Accounts.beyond (h : Accounts tr s) (outside : s.tasks.length ≤ j) :
    tr.countP (BridgeEvent.passes j) = 0 ∧ tr.countP (BridgeEvent.answers j) = 0 := by
  constructor <;> rw [List.countP_eq_zero] <;> intro e seen
  · cases e with
    | toProxy k endpoint request =>
        have inside := h.passes k endpoint request seen
        simp only [BridgeEvent.passes, beq_iff_eq]
        omega
    | _ => exact Bool.false_ne_true
  · cases e with
    | retSubmit k n message =>
        obtain ⟨u, held, -⟩ := h.answers k n message seen
        have inside := (List.getElem?_eq_some_iff.mp held).1
        simp only [BridgeEvent.answers, beq_iff_eq]
        omega
    | _ => exact Bool.false_ne_true

theorem Accounts.reader (h : Accounts tr s) {a : BridgeStep} (move : ReaderMove s a s' out) :
    Accounts (tr ++ out) s' := by
  have kept : ∀ {j u}, s.tasks[j]? = some u → s'.tasks[j]? = some u := move.keeps
  have old : ∀ e ∈ tr ++ out, (∃ j endpoint request, e = .toProxy j endpoint request) ∨
      (∃ j n message, e = .retSubmit j n message) → e ∈ tr := by
    intro e seen kind
    rcases List.mem_append.mp seen with before | now
    · exact before
    · rcases kind with ⟨j, endpoint, request, rfl⟩ | ⟨j, n, message, rfl⟩
      all_goals cases move <;> simp at now
  refine ⟨?_, ?_, ?_⟩
  · intro j endpoint request seen
    have before := h.passes j endpoint request (old _ seen (.inl ⟨_, _, _, rfl⟩))
    have held := kept (List.getElem?_eq_getElem before)
    exact (List.getElem?_eq_some_iff.mp held).1
  · intro j n message seen
    obtain ⟨u, held, same⟩ := h.answers j n message (old _ seen (.inr ⟨_, _, _, rfl⟩))
    exact ⟨u, kept held, same⟩
  · intro j u held
    obtain ⟨passed, answered⟩ := move.unseen j
    rcases move.task held with before | ⟨header, cmd, data, -, last, rfl⟩
    · exact (h.tallied j u before).same passed answered
    · obtain ⟨unpassed, unanswered⟩ := h.beyond (Nat.le_of_eq last.symm)
      have fresh : Tallied tr j .spawned :=
        ⟨by omega, fun _ => unpassed, nofun, fun _ => unanswered⟩
      exact fresh.same passed answered

theorem accounts {devid : UInt32} (h : machine.Reach (new devid) tr s) : Accounts tr s := by
  refine h.invariant ⟨nofun, nofun, nofun⟩ ?_
  intro tr s a s' out hs _ step
  cases step_moves step with
  | task present move => exact hs.task present move
  | reader move => exact hs.reader move

/-- Every task is handed to the device proxy at most once. -/
theorem passed_once {devid : UInt32} (h : machine.Reach (new devid) tr s) (i : Nat) :
    tr.countP (passes i) ≤ 1 := by
  have known := accounts h
  cases held : s.tasks[i]? with
  | some t => exact (known.tallied i t held).passed
  | none =>
      rw [(known.beyond (List.getElem?_eq_none_iff.mp held)).1]
      exact Nat.zero_le 1

/-- A RET_SUBMIT carries the number of its task, so where no other task has that
number the two counts agree. -/
theorem Accounts.completes_eq (h : Accounts tr s) (held : s.tasks[i]? = some t)
    (alone : ∀ j u, s.tasks[j]? = some u → u.seqnum = t.seqnum → j = i) :
    tr.countP (BridgeEvent.completes t.seqnum) = tr.countP (BridgeEvent.answers i) := by
  apply List.countP_congr
  intro e seen
  cases e with
  | retSubmit j n message =>
      obtain ⟨u, held', same⟩ := h.answers j n message seen
      simp only [BridgeEvent.completes, BridgeEvent.answers, beq_iff_eq]
      constructor
      · intro this
        exact alone j u held' (same.trans this)
      · intro this
        subst this
        cases held.symm.trans held'
        exact same.symm
  | _ => exact Iff.rfl

/-- Why a step of a task brings it to this outcome. -/
inductive Reason (s : SocketBridge) (t : SubmitTask) : TaskStep → TaskOutcome → Prop
  | notAttached : Reason s t (.submit none) .notAttached
  | submitFailed {e : String} : t.phase = .returned (.error e) →
      Reason s t .unregister .submitFailed
  | stopped {a : TaskStep} : s.running = false → Reason s t a .stopped
  | unlinked : t.seqnum ∈ s.unlinkedSeqnums → Reason s t .checkUnlinked .unlinked
  | writeFailed (e : IoError) : Reason s t (.write (some e)) .writeFailed
  | written : Reason s t (.write none) .written

theorem TaskMove.outcome {a : TaskStep} {outcome : TaskOutcome}
    (move : TaskMove s i t a rest phase out) (now : phase.endsAs outcome) :
    t.phase.endsAs outcome ∨ Reason s t a outcome := by
  cases move with
  | quiet quiet =>
      generalize t.phase = before at quiet ⊢
      cases quiet with
      | detached => cases now; exact .inr .notAttached
      | stopped still => cases now; exact .inr (.stopped still)
      | stoppedLate still => cases now; exact .inr (.stopped still)
      | writeFailed e => cases now; exact .inr (.writeFailed e)
      | _ => cases now
  | unregister returned =>
      rename_i result
      cases result with
      | error e => cases now; exact .inr (.submitFailed returned)
      | ok response => cases now
  | suppress checked member => cases now; exact .inr (.unlinked member)
  | write => cases now; exact .inr .written
  | release leaving =>
      rw [leaving]
      exact .inl now
  | _ => cases now

/-- What stands behind the numbers that are taken as unlinked, and behind the
tasks that end without a word. -/
structure Excuses (tr : List BridgeEvent) (s : SocketBridge) : Prop where
  handled : ∀ n, s.reader.handles n → ∃ m, .unlinkRead m n ∈ tr
  tracked : ∀ n ∈ s.unlinkedSeqnums, ∃ m, .unlinkRead m n ∈ tr
  unlinked : ∀ (j : Nat) (t : SubmitTask), s.tasks[j]? = some t → t.phase.endsAs .unlinked →
    ∃ m, .unlinkRead m t.seqnum ∈ tr
  stopped : ∀ (j : Nat) (t : SubmitTask), s.tasks[j]? = some t → t.phase.endsAs .stopped →
    s.running = false

theorem mem_trackUnlinked {unlinked : List UInt32} {target : UInt32}
    (h : n ∈ trackUnlinked unlinked target) : n = target ∨ n ∈ unlinked := by
  have kept : n ∈ (if unlinked.length ≥ maxUnlinkedSeqnums then [] else unlinked) →
      n ∈ unlinked := by
    split
    · exact nofun
    · exact id
  simp only [trackUnlinked] at h
  generalize (if unlinked.length ≥ maxUnlinkedSeqnums then [] else unlinked) = left at h kept
  split at h
  · exact .inr (kept h)
  · exact (List.mem_cons.mp h).imp_right kept

theorem Excuses.task (h : Excuses tr s) {a : TaskStep} (present : s.tasks[i]? = some t)
    (move : TaskMove s i t a rest phase out) : Excuses (tr ++ out) (rest.setPhase i phase) := by
  have seen : ∀ {n : UInt32}, (∃ m, BridgeEvent.unlinkRead m n ∈ tr) →
      ∃ m, .unlinkRead m n ∈ tr ++ out := by
    rintro n ⟨m, before⟩
    exact ⟨m, List.mem_append_left out before⟩
  have kept : ∀ n ∈ rest.unlinkedSeqnums, n ∈ s.unlinkedSeqnums := by
    intro n tracked
    cases move with
    | suppress => exact List.mem_of_mem_erase tracked
    | release =>
        rw [dropGuard] at tracked
        split at tracked <;> exact tracked
    | _ => exact tracked
  refine ⟨?_, ?_, ?_, ?_⟩
  · intro n busy
    rw [set_phase_reader, move.reader] at busy
    exact seen (h.handled n busy)
  · intro n tracked
    exact seen (h.tracked n (kept n tracked))
  · intro j u held now
    rcases move.task present held with ⟨rfl, rfl⟩ | ⟨-, held⟩
    · rcases move.outcome now with before | reason
      · exact seen (h.unlinked j t present before)
      · cases reason with
        | unlinked member => exact seen (h.tracked _ member)
    · exact seen (h.unlinked j u held now)
  · intro j u held now
    rw [set_phase_running, move.running]
    rcases move.task present held with ⟨rfl, rfl⟩ | ⟨-, held⟩
    · rcases move.outcome now with before | reason
      · exact h.stopped j t present before
      · cases reason with
        | stopped still => exact still
    · exact h.stopped j u held now

theorem Excuses.reader (h : Excuses tr s) {a : BridgeStep} (move : ReaderMove s a s' out) :
    Excuses (tr ++ out) s' := by
  have seen : ∀ {n : UInt32}, (∃ m, BridgeEvent.unlinkRead m n ∈ tr) →
      ∃ m, .unlinkRead m n ∈ tr ++ out := by
    rintro n ⟨m, before⟩
    exact ⟨m, List.mem_append_left out before⟩
  have old : ∀ {j : Nat} {u : SubmitTask} {o : TaskOutcome}, s'.tasks[j]? = some u →
      u.phase.endsAs o → s.tasks[j]? = some u := by
    intro j u o held now
    rcases move.task held with before | ⟨header, cmd, data, -, -, rfl⟩
    · exact before
    · cases now
  refine ⟨?_, ?_, ?_, ?_⟩
  · intro n busy
    cases move with
    | unlink header cmd =>
        cases busy
        exact ⟨_, List.mem_append_right tr List.mem_cons_self⟩
    | look _ next => rcases next with rfl | rfl <;> cases busy
    | stop => exact seen (h.handled n busy)
    | track reader => exact seen (h.handled n (by rw [reader]; exact busy))
    | cancel reader => exact seen (h.handled n (by rw [reader]; exact busy))
    | _ => cases busy
  · intro n tracked
    cases move with
    | track reader =>
        rcases mem_trackUnlinked tracked with rfl | before
        · exact seen (h.handled n (by rw [reader]; rfl))
        · exact seen (h.tracked n before)
    | _ => exact seen (h.tracked n tracked)
  · intro j u held now
    exact seen (h.unlinked j u (old held now) now)
  · intro j u held now
    have before := h.stopped j u (old held now) now
    cases move with
    | stop | broken => rfl
    | _ => exact before

theorem excuses {devid : UInt32} (h : machine.Reach (new devid) tr s) : Excuses tr s := by
  refine h.invariant ⟨nofun, nofun, nofun, nofun⟩ ?_
  intro tr s a s' out hs _ step
  cases step_moves step with
  | task present move => exact hs.task present move
  | reader move => exact hs.reader move

/-- The step neither finds task `i` without a device nor brings it an error of
the proxy. -/
def Completes (i : Nat) : BridgeStep → Prop
  | .task j (.submit none) => j ≠ i
  | .task j (.proxyReturn (.error _)) => j ≠ i
  | _ => True

/-- The task has not failed, nor is it about to. -/
def Untroubled (phase : TaskPhase) : Prop :=
  (∀ e, phase ≠ .returned (.error e)) ∧ ¬ phase.endsAs .notAttached ∧
    ¬ phase.endsAs .submitFailed

theorem TaskMove.untroubled {a : TaskStep} (move : TaskMove s i t a rest phase out)
    (h : Untroubled t.phase) (allowed : Completes i (.task i a)) : Untroubled phase := by
  refine ⟨?_, ?_, ?_⟩
  · intro e same
    cases move with
    | quiet quiet =>
        subst same
        generalize t.phase = before at quiet h
        cases quiet
        exact allowed rfl
    | unregister returned =>
        rename_i result
        cases result <;> cases same
    | _ => cases same
  · intro now
    rcases move.outcome now with before | reason
    · exact h.2.1 before
    · cases reason
      exact allowed rfl
  · intro now
    rcases move.outcome now with before | reason
    · exact h.2.2 before
    · cases reason with
      | submitFailed returned => exact h.1 _ returned

theorem untroubled {devid : UInt32}
    (h : machine.Exec (fun _ a => Completes i a) (new devid) tr s) (held : s.tasks[i]? = some t) :
    Untroubled t.phase := by
  have all : ∀ t, s.tasks[i]? = some t → Untroubled t.phase := by
    refine h.stateInvariant (I := fun s => ∀ t, s.tasks[i]? = some t → Untroubled t.phase)
      nofun ?_
    intro s a s' out hs allowed step u held
    cases step_moves step with
    | task present move =>
        rcases move.task present held with ⟨rfl, rfl⟩ | ⟨-, before⟩
        · exact move.untroubled (hs _ present) allowed
        · exact hs u before
    | reader move =>
        rcases move.task held with before | ⟨header, cmd, data, -, -, rfl⟩
        · exact hs u before
        · exact ⟨nofun, nofun, nofun⟩
  exact all t held

/-- A task that has ended has been answered once, unless it was unlinked, the
bridge was stopped or the write failed, and nothing of it is left among the
pending transfers. -/
theorem submit_completes_once {devid : UInt32} {outcome : TaskOutcome}
    (run : machine.Exec (fun _ a => Completes i a) (new devid) tr s)
    (held : s.tasks[i]? = some t) (ended : t.phase = .ended outcome) :
    (tr.countP (answers i) = 1 ∨ (∃ m, .unlinkRead m t.seqnum ∈ tr) ∨ s.running = false ∨
        outcome = .writeFailed) ∧
      tr.countP (answers i) ≤ 1 ∧ s.pendingTransfers.lookup t.seqnum ≠ some i ∧
      ((∀ j u, s.tasks[j]? = some u → u.seqnum = t.seqnum → j = i) →
        tr.countP (completes t.seqnum) = tr.countP (answers i) ∧
          s.pendingTransfers.lookup t.seqnum = none) := by
  have reach : machine.Reach (new devid) tr s := run.mono fun _ _ _ => trivial
  have known := accounts reach
  have tallied := known.tallied i t held
  have excused := excuses reach
  obtain ⟨-, attached, submitted⟩ := untroubled run held
  have absent : ∀ j, s.pendingTransfers.lookup t.seqnum = some j → j ≠ i := by
    rintro j found rfl
    obtain ⟨u, held', -, still⟩ := pending_tasks reach _ j found
    cases held.symm.trans held'
    rcases still with listed | detached
    · rw [ended] at listed
      exact listed
    · exact attached detached
  have now : ∀ o, outcome = o → t.phase.endsAs o := by
    rintro o rfl
    rw [ended]
    rfl
  refine ⟨?_, ?_, fun found => absent i found rfl, fun alone => ⟨?_, ?_⟩⟩
  · cases outcome with
    | notAttached => exact absurd (now _ rfl) attached
    | submitFailed => exact absurd (now _ rfl) submitted
    | stopped => exact .inr (.inr (.inl (excused.stopped i t held (now _ rfl))))
    | unlinked => exact .inr (.inl (excused.unlinked i t held (now _ rfl)))
    | writeFailed => exact .inr (.inr (.inr rfl))
    | written => exact .inl (tallied.answered (now _ rfl))
  · by_cases written : t.phase.endsAs .written
    · exact Nat.le_of_eq (tallied.answered written)
    · rw [tallied.unanswered written]
      exact Nat.zero_le 1
  · exact known.completes_eq held alone
  · cases found : s.pendingTransfers.lookup t.seqnum with
    | none => rfl
    | some j =>
        obtain ⟨u, held', same, -⟩ := pending_tasks reach _ j found
        exact absurd (alone j u held' same) (absent j found)

/-- A CMD_SUBMIT whose transfer succeeds. -/
def exampleAnswered : List BridgeStep :=
  [.check, .read (.ok exampleBulkOut), .task 0 .register, .task 0 (.submit (some ⟨0⟩)),
    .task 0 (.proxyReturn (.ok ⟨⟨0⟩, .success [] none⟩)), .task 0 .unregister,
    .task 0 .checkRunning, .task 0 .checkUnlinked, .task 0 .recheckRunning, .task 0 (.write none),
    .task 0 .dropGuard]

/-- The device goes away before the request is translated. -/
def exampleDetached : List BridgeStep :=
  [.check, .read (.ok exampleBulkOut), .task 0 .register, .task 0 (.submit none),
    .task 0 .dropGuard]

/-- The proxy gives up. -/
def exampleGivenUp : List BridgeStep :=
  [.check, .read (.ok exampleBulkOut), .task 0 .register, .task 0 (.submit (some ⟨0⟩)),
    .task 0 (.proxyReturn (.error "connection lost")), .task 0 .unregister, .task 0 .dropGuard]

theorem submit_completes_once_example : ∃ s tr t,
    machine.run (new 1) exampleAnswered = some (s, tr) ∧ s.tasks[0]? = some t ∧
      t.phase = .ended .written ∧ tr.countP (answers 0) ≤ 1 ∧
        s.pendingTransfers.lookup t.seqnum ≠ some 0 := by
  have allowed : ∀ a ∈ exampleAnswered, Completes 0 a := by
    simp [exampleAnswered, Completes]
  have run := Machine.Exec.of_run (C := fun _ a => Completes 0 a) .start
    (Machine.everyStep_of_inputs (fun a present _ _ _ => allowed a present) _)
    (rfl : machine.run (new 1) exampleAnswered = some (_, _))
  obtain ⟨-, once, unlisted, -⟩ := submit_completes_once run rfl rfl
  exact ⟨_, _, _, rfl, rfl, rfl, once, unlisted⟩

/-- A task that fails before or in the proxy returns early: the kernel is told
nothing, and in the first case the transfer stays registered. -/
theorem failed_submit_unanswered :
    (∃ s t, machine.run (new 1) exampleDetached = some (s, [.submitRead 1]) ∧
      s.tasks[0]? = some t ∧ t.phase = .ended .notAttached ∧ s.running = true ∧
        s.pendingTransfers.lookup t.seqnum = some 0) ∧
      ∃ s t request, machine.run (new 1) exampleGivenUp =
          some (s, [.submitRead 1, .toProxy 0 none request]) ∧
        s.tasks[0]? = some t ∧ t.phase = .ended .submitFailed ∧ s.running = true :=
  ⟨⟨_, _, rfl, rfl, rfl, rfl, rfl⟩, _, _, _, rfl, rfl, rfl, rfl⟩

end SocketBridge
end P2pUsb
