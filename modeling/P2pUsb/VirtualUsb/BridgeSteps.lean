import P2pUsb.VirtualUsb.SocketBridge

/-! What one step of the bridge can do, said once: the moves of a task and of the
reader, and what they leave alone. -/
namespace P2pUsb

namespace TaskPhase

/-- Before the look at the set of unlinked numbers. -/
def unchecked : TaskPhase → Prop
  | spawned | queued | registered | inFlight | returned _ | unregistered _
  | runningChecked _ => True
  | _ => False

/-- Between that look and the end of the write. -/
def answering : TaskPhase → Prop
  | unlinkChecked _ | sending _ => True
  | _ => False

/-- Before the request is handed to the device proxy. -/
def unsubmitted : TaskPhase → Prop
  | spawned | queued | registered => True
  | _ => False

/-- In the map of pending transfers, unless an unlink took it out. -/
def listed : TaskPhase → Prop
  | registered | inFlight | returned _ => True
  | _ => False

/-- The proxy has answered and the transfer is out of the map. -/
def completed : TaskPhase → Prop
  | unregistered _ | runningChecked _ | unlinkChecked _ | sending _ | leaving _ | ended _ => True
  | _ => False

end TaskPhase

/-- The reader is busy with a CMD_UNLINK for this number. -/
def ReaderPhase.handles (n : UInt32) : ReaderPhase → Prop
  | tracking _ target | cancelling _ target | answering _ target _ => target = n
  | _ => False

namespace SocketBridge

/-- Moves of a task that change nothing but its phase and are not seen. -/
inductive QuietMove (s : SocketBridge) (t : SubmitTask) : TaskStep → TaskPhase → TaskPhase → Prop
  | detached : QuietMove s t (.submit none) .registered (.leaving .notAttached)
  | returned (result : Except String UsbResponse) :
      QuietMove s t (.proxyReturn result) .inFlight (.returned result)
  | runs {response : UsbResponse} : s.running = true →
      QuietMove s t .checkRunning (.unregistered response) (.runningChecked response)
  | stopped {response : UsbResponse} : s.running = false →
      QuietMove s t .checkRunning (.unregistered response) (.leaving .stopped)
  | linked {response : UsbResponse} : t.seqnum ∉ s.unlinkedSeqnums →
      QuietMove s t .checkUnlinked (.runningChecked response) (.unlinkChecked response)
  | stillRuns {response : UsbResponse} : s.running = true →
      QuietMove s t .recheckRunning (.unlinkChecked response) (.sending response)
  | stoppedLate {response : UsbResponse} : s.running = false →
      QuietMove s t .recheckRunning (.unlinkChecked response) (.leaving .stopped)
  | writeFailed {response : UsbResponse} (e : IoError) :
      QuietMove s t (.write (some e)) (.sending response) (.leaving .writeFailed)

/-- The phase after the transfer has left the map of pending ones. -/
def afterProxy : Except String UsbResponse → TaskPhase
  | .error _ => .leaving .submitFailed
  | .ok response => .unregistered response

/-- What a move of task `i` does to the rest, the phase it goes to, what is seen. -/
inductive TaskMove (s : SocketBridge) (i : Nat) (t : SubmitTask) :
    TaskStep → SocketBridge → TaskPhase → List BridgeEvent → Prop
  | quiet {a : TaskStep} {phase : TaskPhase} : QuietMove s t a t.phase phase →
      TaskMove s i t a s phase []
  | ask {endpoint : UInt8} : t.phase = .spawned → t.lockedEndpoint = some endpoint →
      TaskMove s i t .lock (s.setLockQueue endpoint (s.lockQueue endpoint ++ [i])) .queued
        [.lockAsked i endpoint]
  | register : (t.phase = .spawned ∧ t.lockedEndpoint = none ∨ t.phase = .queued ∧
        ∃ endpoint, t.lockedEndpoint = some endpoint ∧
          (s.lockQueue endpoint).head? = some i) →
      TaskMove s i t .register
        { s with pendingTransfers := s.pendingTransfers.insert t.seqnum i } .registered []
  | submit {handle : DeviceHandle} {request : UsbRequest} : t.phase = .registered →
      usbipToUsbRequest (some handle) t.header t.cmd t.data = .ok request →
      TaskMove s i t (.submit (some handle)) s .inFlight [.toProxy i t.lockedEndpoint request]
  | unregister {result : Except String UsbResponse} : t.phase = .returned result →
      TaskMove s i t .unregister
        { s with pendingTransfers := s.pendingTransfers.erase t.seqnum } (afterProxy result) []
  | suppress {response : UsbResponse} : t.phase = .runningChecked response →
      t.seqnum ∈ s.unlinkedSeqnums →
      TaskMove s i t .checkUnlinked
        { s with unlinkedSeqnums := s.unlinkedSeqnums.erase t.seqnum } (.leaving .unlinked) []
  | write {response : UsbResponse} : t.phase = .sending response →
      TaskMove s i t (.write none) s (.leaving .written)
        [.retSubmit i t.seqnum (retSubmitMessage s.devid t.header
          (convertResponse t.header t.cmd response))]
  | release {outcome : TaskOutcome} : t.phase = .leaving outcome →
      TaskMove s i t .dropGuard (s.dropGuard i t) (.ended outcome) []

section
variable {s s' : SocketBridge} {i : Nat} {t : SubmitTask} {out : List BridgeEvent}

/-- The step is a move of the task to its new phase. -/
def MovesTo (s : SocketBridge) (i : Nat) (t : SubmitTask) (a : TaskStep) (s' : SocketBridge)
    (out : List BridgeEvent) : Prop :=
  ∃ rest phase, TaskMove s i t a rest phase out ∧ s' = rest.setPhase i phase

theorem lock_step (h : s.taskStep i t .lock = some (s', out)) : MovesTo s i t .lock s' out := by
  simp only [taskStep] at h
  split at h
  case h_1 spawned locked =>
    cases h
    exact ⟨_, _, .ask spawned locked, rfl⟩
  case h_2 => cases h

theorem register_step (h : s.taskStep i t .register = some (s', out)) :
    MovesTo s i t .register s' out := by
  simp only [taskStep] at h
  split at h
  case h_1 spawned unlocked =>
    cases h
    exact ⟨_, _, .register (.inl ⟨spawned, unlocked⟩), rfl⟩
  case h_2 endpoint queued locked =>
    split at h
    case isTrue held =>
      cases h
      exact ⟨_, _, .register (.inr ⟨queued, endpoint, locked, held⟩), rfl⟩
    case isFalse => cases h
  case h_3 => cases h

theorem submit_step {handle : Option DeviceHandle}
    (h : s.taskStep i t (.submit handle) = some (s', out)) :
    MovesTo s i t (.submit handle) s' out := by
  obtain ⟨header, cmd, data, phase⟩ := t
  cases phase with
  | registered =>
      simp only [taskStep] at h
      cases handle with
      | none =>
          cases h
          exact ⟨_, _, .quiet .detached, rfl⟩
      | some handle =>
          cases h
          exact ⟨_, _, .submit rfl (rfl : usbipToUsbRequest (some handle) _ _ _ = _), rfl⟩
  | _ => cases h

theorem unregister_step (h : s.taskStep i t .unregister = some (s', out)) :
    MovesTo s i t .unregister s' out := by
  obtain ⟨header, cmd, data, phase⟩ := t
  cases phase with
  | returned result =>
      cases result with
      | error e | ok response =>
          cases h
          exact ⟨_, _, .unregister rfl, rfl⟩
  | _ => cases h

theorem check_running_step (h : s.taskStep i t .checkRunning = some (s', out)) :
    MovesTo s i t .checkRunning s' out := by
  obtain ⟨header, cmd, data, phase⟩ := t
  cases phase with
  | unregistered response =>
      simp only [taskStep] at h
      split at h
      case isTrue runs =>
        cases h
        exact ⟨_, _, .quiet (.runs runs), rfl⟩
      case isFalse stopped =>
        cases h
        exact ⟨_, _, .quiet (.stopped (Bool.eq_false_of_not_eq_true stopped)), rfl⟩
  | _ => cases h

theorem check_unlinked_step (h : s.taskStep i t .checkUnlinked = some (s', out)) :
    MovesTo s i t .checkUnlinked s' out := by
  obtain ⟨header, cmd, data, phase⟩ := t
  cases phase with
  | runningChecked response =>
      simp only [taskStep] at h
      split at h
      case isTrue unlinked =>
        cases h
        exact ⟨_, _, .suppress rfl unlinked, rfl⟩
      case isFalse linked =>
        cases h
        exact ⟨_, _, .quiet (.linked linked), rfl⟩
  | _ => cases h

theorem recheck_running_step (h : s.taskStep i t .recheckRunning = some (s', out)) :
    MovesTo s i t .recheckRunning s' out := by
  obtain ⟨header, cmd, data, phase⟩ := t
  cases phase with
  | unlinkChecked response =>
      simp only [taskStep] at h
      split at h
      case isTrue runs =>
        cases h
        exact ⟨_, _, .quiet (.stillRuns runs), rfl⟩
      case isFalse stopped =>
        cases h
        exact ⟨_, _, .quiet (.stoppedLate (Bool.eq_false_of_not_eq_true stopped)), rfl⟩
  | _ => cases h

theorem write_step {failed : Option IoError}
    (h : s.taskStep i t (.write failed) = some (s', out)) :
    MovesTo s i t (.write failed) s' out := by
  obtain ⟨header, cmd, data, phase⟩ := t
  cases phase with
  | sending response =>
      cases failed with
      | none =>
          cases h
          exact ⟨_, _, .write rfl, rfl⟩
      | some e =>
          cases h
          exact ⟨_, _, .quiet (.writeFailed e), rfl⟩
  | _ => cases h

theorem task_step_cases {a : TaskStep} (h : s.taskStep i t a = some (s', out)) :
    MovesTo s i t a s' out := by
  cases a with
  | lock => exact lock_step h
  | register => exact register_step h
  | submit handle => exact submit_step h
  | unregister => exact unregister_step h
  | checkRunning => exact check_running_step h
  | checkUnlinked => exact check_unlinked_step h
  | recheckRunning => exact recheck_running_step h
  | write failed => exact write_step h
  | proxyReturn result =>
      obtain ⟨header, cmd, data, phase⟩ := t
      cases phase with
      | inFlight =>
          cases h
          exact ⟨_, _, .quiet (.returned result), rfl⟩
      | _ => cases h
  | dropGuard =>
      obtain ⟨header, cmd, data, phase⟩ := t
      cases phase with
      | leaving outcome =>
          cases h
          exact ⟨_, _, .release rfl, rfl⟩
      | _ => cases h

end

/-- What the reader, or a call of `stop`, does. -/
inductive ReaderMove (s : SocketBridge) :
    BridgeStep → SocketBridge → List BridgeEvent → Prop
  | stop : ReaderMove s .stop { s with running := false } []
  | look {reader : ReaderPhase} : s.reader = .loop → reader = .reading ∨ reader = .ended →
      ReaderMove s .check { s with reader } []
  | submit (header : UsbIpHeader) (cmd : UsbIpCmdSubmit) (data : List UInt8) :
      s.reader = .reading → ReaderMove s (.read (.ok (.submit header cmd data)))
        { s with reader := .loop, tasks := s.tasks ++ [⟨header, cmd, data, .spawned⟩] }
        [.submitRead header.seqnum]
  | unlink (header : UsbIpHeader) (cmd : UsbIpCmdUnlink) : s.reader = .reading →
      ReaderMove s (.read (.ok (.unlink header cmd)))
        { s with reader := .tracking header cmd.seqnumUnlink }
        [.unlinkRead header.seqnum cmd.seqnumUnlink]
  | broken (e : ReadError) : s.reader = .reading →
      ReaderMove s (.read (.error e)) { s with reader := .ended, running := false } []
  | retry (e : ReadError) : s.reader = .reading →
      ReaderMove s (.read (.error e)) { s with reader := .loop } []
  | track {header : UsbIpHeader} {target : UInt32} : s.reader = .tracking header target →
      ReaderMove s .track { s with
        reader := .cancelling header target
        unlinkedSeqnums := trackUnlinked s.unlinkedSeqnums target } []
  | cancel {header : UsbIpHeader} {target : UInt32} : s.reader = .cancelling header target →
      ReaderMove s .cancel { s with
        reader := .answering header target (if target ∈ s.pendingTransfers then 0 else -2)
        pendingTransfers := s.pendingTransfers.erase target } []
  | answer {header : UsbIpHeader} {target : UInt32} {status : Int32} :
      s.reader = .answering header target status →
      ReaderMove s (.answer none) { s with reader := .loop }
        [.retUnlink header.seqnum target status]
  | unanswered {header : UsbIpHeader} {target : UInt32} {status : Int32} (e : IoError) :
      s.reader = .answering header target status →
      ReaderMove s (.answer (some e)) { s with reader := .loop } []

theorem reader_step_cases {s s' : SocketBridge} {a : BridgeStep} {out : List BridgeEvent}
    (h : s.step a = some (s', out)) : (∃ i t step, a = .task i step ∧ s.tasks[i]? = some t ∧
        s.taskStep i t step = some (s', out)) ∨ ReaderMove s a s' out := by
  cases a with
  | stop =>
      cases h
      exact .inr .stop
  | check =>
      simp only [step] at h
      split at h
      case h_1 reader =>
        cases h
        refine .inr (.look reader ?_)
        split
        · exact .inl rfl
        · exact .inr rfl
      case h_2 => cases h
  | read result =>
      simp only [step] at h
      split at h
      case h_2 => cases h
      case h_1 reader =>
        cases result with
        | error e =>
            simp only [afterRead] at h
            split at h
            · cases h
              exact .inr (.broken e reader)
            · cases h
              exact .inr (.retry e reader)
        | ok message =>
            cases message with
            | submit header cmd data =>
                cases h
                exact .inr (.submit header cmd data reader)
            | unlink header cmd =>
                cases h
                exact .inr (.unlink header cmd reader)
  | track =>
      simp only [step] at h
      split at h
      case h_1 reader =>
        cases h
        exact .inr (.track reader)
      case h_2 => cases h
  | cancel =>
      simp only [step] at h
      split at h
      case h_1 reader =>
        cases h
        exact .inr (.cancel reader)
      case h_2 => cases h
  | answer failed =>
      simp only [step] at h
      split at h
      case h_1 reader =>
        cases h
        exact .inr (.answer reader)
      case h_2 reader =>
        cases h
        exact .inr (.unanswered _ reader)
      case h_3 => cases h
  | task i step =>
      obtain ⟨t, found, moved⟩ := Option.bind_eq_some_iff.mp h
      exact .inl ⟨i, t, step, rfl, found, moved⟩

/-- One step of the bridge: a move of a task or of the reader. -/
inductive Moves (s : SocketBridge) : BridgeStep → SocketBridge → List BridgeEvent → Prop
  | task {i : Nat} {t : SubmitTask} {a : TaskStep} {rest : SocketBridge} {phase : TaskPhase}
      {out : List BridgeEvent} : s.tasks[i]? = some t → TaskMove s i t a rest phase out →
      Moves s (.task i a) (rest.setPhase i phase) out
  | reader {a : BridgeStep} {s' : SocketBridge} {out : List BridgeEvent} :
      ReaderMove s a s' out → Moves s a s' out

theorem step_moves {s s' : SocketBridge} {a : BridgeStep} {out : List BridgeEvent}
    (h : machine.step s a = some (s', out)) : s.Moves a s' out := by
  have h : s.step a = some (s', out) := h
  rcases reader_step_cases h with ⟨i, t, step, rfl, found, moved⟩ | moved
  · obtain ⟨rest, phase, move, rfl⟩ := task_step_cases moved
    exact .task found move
  · exact .reader moved

/-! What `setPhase` changes. -/

section
variable (s : SocketBridge) (i : Nat) (phase : TaskPhase)

@[simp] theorem set_phase_running : (s.setPhase i phase).running = s.running := rfl
@[simp] theorem set_phase_reader : (s.setPhase i phase).reader = s.reader := rfl
@[simp] theorem set_phase_pending :
    (s.setPhase i phase).pendingTransfers = s.pendingTransfers := rfl

theorem set_phase_task (j : Nat) : (s.setPhase i phase).tasks[j]? =
    (s.tasks[j]?).map fun t => if i = j then { t with phase } else t := by
  rw [setPhase, List.getElem?_modify]
  split <;> rfl

end

section
variable {s rest s' : SocketBridge} {i j : Nat} {t u : SubmitTask} {phase : TaskPhase}
  {out : List BridgeEvent}

theorem TaskMove.tasks {a : TaskStep} (h : TaskMove s i t a rest phase out) :
    rest.tasks = s.tasks := by
  cases h with
  | release => rw [dropGuard]; split <;> rfl
  | _ => rfl

theorem TaskMove.running {a : TaskStep} (h : TaskMove s i t a rest phase out) :
    rest.running = s.running := by
  cases h with
  | release => rw [dropGuard]; split <;> rfl
  | _ => rfl

theorem TaskMove.reader {a : TaskStep} (h : TaskMove s i t a rest phase out) :
    rest.reader = s.reader := by
  cases h with
  | release => rw [dropGuard]; split <;> rfl
  | _ => rfl

/-- The tasks after a move of one of them. -/
theorem TaskMove.task {a : TaskStep} (h : TaskMove s i t a rest phase out)
    (present : s.tasks[i]? = some t) (found : (rest.setPhase i phase).tasks[j]? = some u) :
    (j = i ∧ u = { t with phase }) ∨ (j ≠ i ∧ s.tasks[j]? = some u) := by
  rw [set_phase_task, h.tasks] at found
  by_cases same : j = i
  · subst same
    rw [present, Option.map_some, if_pos rfl] at found
    exact .inl ⟨rfl, (Option.some.inj found).symm⟩
  · refine .inr ⟨same, ?_⟩
    rw [← found]
    cases s.tasks[j]? with
    | none => rfl
    | some u => rw [Option.map_some, if_neg fun same' => same same'.symm]

/-- The tasks after a move of the reader: one more after a CMD_SUBMIT. -/
theorem ReaderMove.task {a : BridgeStep} (h : ReaderMove s a s' out)
    (found : s'.tasks[j]? = some u) : s.tasks[j]? = some u ∨ ∃ header cmd data,
      a = .read (.ok (.submit header cmd data)) ∧ j = s.tasks.length ∧
        u = ⟨header, cmd, data, .spawned⟩ := by
  cases h with
  | submit header cmd data reading =>
      rw [List.getElem?_append] at found
      split at found
      case isTrue => exact .inl found
      case isFalse later =>
        refine .inr ⟨header, cmd, data, rfl, ?_⟩
        rw [List.getElem?_singleton] at found
        split at found
        case isTrue first =>
          exact ⟨by omega, (Option.some.inj found).symm⟩
        case isFalse => cases found
  | _ => exact .inl found

theorem ReaderMove.keeps {a : BridgeStep} (h : ReaderMove s a s' out)
    (found : s.tasks[j]? = some u) : s'.tasks[j]? = some u := by
  cases h with
  | submit header cmd data reading =>
      rw [List.getElem?_append_left (List.getElem?_eq_some_iff.mp found).1]
      exact found
  | _ => exact found

theorem TaskMove.moved {a : TaskStep} (h : TaskMove s i t a rest phase out)
    (present : s.tasks[i]? = some t) :
    (rest.setPhase i phase).tasks[i]? = some { t with phase } := by
  rw [set_phase_task, h.tasks, present, Option.map_some, if_pos rfl]

theorem TaskMove.others {a : TaskStep} (h : TaskMove s i t a rest phase out) (other : j ≠ i)
    (found : s.tasks[j]? = some u) : (rest.setPhase i phase).tasks[j]? = some u := by
  rw [set_phase_task, h.tasks, found, Option.map_some, if_neg fun same => other same.symm]

/-- No step takes a task away or changes its request. -/
theorem Moves.keeps {a : BridgeStep} (h : s.Moves a s' out) (found : s.tasks[j]? = some u) :
    ∃ phase, s'.tasks[j]? = some { u with phase } := by
  cases h with
  | reader move => exact ⟨u.phase, move.keeps found⟩
  | @task i t a rest phase out present move =>
      by_cases same : j = i
      · subst same
        cases found.symm.trans present
        exact ⟨phase, move.moved present⟩
      · exact ⟨u.phase, move.others same found⟩

end

end SocketBridge
end P2pUsb
