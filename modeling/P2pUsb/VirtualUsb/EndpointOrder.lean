import P2pUsb.Library.FifoLock
import P2pUsb.VirtualUsb.Completion

/-! The order in which the requests for one endpoint reach the device proxy. -/
namespace P2pUsb
open scoped List

namespace TaskPhase

/-- The task has its endpoint's lock, if it takes one. -/
def guarded : TaskPhase → Prop
  | spawned | queued | ended _ => False
  | _ => True

end TaskPhase

namespace BridgeEvent

/-- The task that asks for the lock of this endpoint. -/
def askedAt (endpoint : UInt8) : BridgeEvent → Option Nat
  | lockAsked i e => if e = endpoint then some i else none
  | _ => none

/-- The task that passes a request under the lock of this endpoint. -/
def passedAt (endpoint : UInt8) : BridgeEvent → Option Nat
  | toProxy i (some e) _ => if e = endpoint then some i else none
  | _ => none

end BridgeEvent

namespace SocketBridge
open BridgeEvent

variable {s s' rest : SocketBridge} {i j : Nat} {t u : SubmitTask} {phase : TaskPhase}
  {tr out : List BridgeEvent} {endpoint : UInt8}

/-- The lock of an endpoint with its history. -/
def endpointLock (tr : List BridgeEvent) (s : SocketBridge) (endpoint : UInt8) : FifoLock Nat :=
  ⟨tr.filterMap (askedAt endpoint), tr.filterMap (passedAt endpoint), s.lockQueue endpoint⟩

structure InTurn (tr : List BridgeEvent) (s : SocketBridge) (endpoint : UInt8) : Prop where
  valid : (endpointLock tr s endpoint).Valid
  asked : ∀ i ∈ tr.filterMap (askedAt endpoint), ∃ t, s.tasks[i]? = some t ∧ t.phase ≠ .spawned
  holder : ∀ (i : Nat) (t : SubmitTask), s.tasks[i]? = some t → t.lockedEndpoint = some endpoint →
    t.phase.guarded → (s.lockQueue endpoint).head? = some i

theorem lock_queue_set (s : SocketBridge) (e endpoint : UInt8) (queue : List Nat) :
    (s.setLockQueue e queue).lockQueue endpoint =
      if endpoint = e then queue else s.lockQueue endpoint := by
  rw [lockQueue, setLockQueue, AList.lookup_insert_eq]
  split <;> rfl

theorem endpoint_lock_same (asked : out.filterMap (askedAt endpoint) = [])
    (passed : out.filterMap (passedAt endpoint) = [])
    (queue : s'.lockQueue endpoint = s.lockQueue endpoint) :
    endpointLock (tr ++ out) s' endpoint = endpointLock tr s endpoint := by
  rw [endpointLock, endpointLock, List.filterMap_append, List.filterMap_append, asked, passed,
    queue, List.append_nil, List.append_nil]

theorem endpoint_lock_asked : endpointLock (tr ++ [.lockAsked i endpoint])
    ((s.setLockQueue endpoint (s.lockQueue endpoint ++ [i])).setPhase i .queued) endpoint =
      { endpointLock tr s endpoint with
        asked := (endpointLock tr s endpoint).asked ++ [i]
        queue := (endpointLock tr s endpoint).queue ++ [i] } := by
  have queue := s.lock_queue_set endpoint endpoint (s.lockQueue endpoint ++ [i])
  rw [if_pos rfl] at queue
  simp only [endpointLock, List.filterMap_append, FifoLock.mk.injEq]
  refine ⟨?_, ?_, queue⟩
  · simp [askedAt]
  · simp [passedAt]

theorem endpoint_lock_passed (request : UsbRequest) :
    endpointLock (tr ++ [.toProxy i (some endpoint) request]) (s.setPhase i .inFlight) endpoint =
      { endpointLock tr s endpoint with
        used := (endpointLock tr s endpoint).used ++ [i] } := by
  simp only [endpointLock, List.filterMap_append, FifoLock.mk.injEq]
  refine ⟨?_, ?_, rfl⟩
  · simp [askedAt]
  · simp [passedAt]

theorem endpoint_lock_dropped (outcome : TaskOutcome) (locked : t.lockedEndpoint = some endpoint)
    (holds : (s.lockQueue endpoint).head? = some i) :
    endpointLock (tr ++ []) ((s.dropGuard i t).setPhase i (.ended outcome)) endpoint =
      { endpointLock tr s endpoint with
        queue := (endpointLock tr s endpoint).queue.tail } := by
  have queue := s.lock_queue_set endpoint endpoint ((s.lockQueue endpoint).erase i)
  rw [if_pos rfl] at queue
  rw [dropGuard, locked, List.append_nil]
  simp only [endpointLock, FifoLock.mk.injEq, true_and]
  refine Eq.trans queue ?_
  cases waiting : s.lockQueue endpoint with
  | nil => rfl
  | cons j rest =>
      rw [waiting] at holds
      cases holds
      simp

/-- The lock is used in turn: a move of a task leaves it alone or takes a step of it. -/
theorem TaskMove.lock {a : TaskStep} (h : InTurn tr s endpoint)
    (fresh : t.phase.unsubmitted → i ∉ tr.filterMap (passedAt endpoint))
    (present : s.tasks[i]? = some t) (move : TaskMove s i t a rest phase out) :
    endpointLock (tr ++ out) (rest.setPhase i phase) endpoint = endpointLock tr s endpoint ∨
      FifoLock.Step (endpointLock tr s endpoint)
        (endpointLock (tr ++ out) (rest.setPhase i phase) endpoint) := by
  cases move with
  | quiet | register | unregister | suppress | write =>
      exact .inl (endpoint_lock_same rfl rfl rfl)
  | @ask e spawned =>
      by_cases same : endpoint = e
      · subst same
        rw [endpoint_lock_asked]
        refine .inr (.ask _ i fun before => ?_)
        obtain ⟨u, held, other⟩ := h.asked i before
        cases present.symm.trans held
        exact other spawned
      · have queue := s.lock_queue_set e endpoint (s.lockQueue e ++ [i])
        rw [if_neg same] at queue
        refine .inl (endpoint_lock_same ?_ rfl queue)
        simp [askedAt, Ne.symm same]
  | submit registered =>
      by_cases same : t.lockedEndpoint = some endpoint
      · rw [same, endpoint_lock_passed]
        refine .inr (.use _ i (h.holder i t present same ?_) (fresh ?_)) <;> rw [registered] <;>
          trivial
      · refine .inl (endpoint_lock_same rfl ?_ rfl)
        cases locked : t.lockedEndpoint with
        | none => rfl
        | some e =>
            rw [locked, Option.some.injEq] at same
            simp [passedAt, same]
  | release leaving =>
      by_cases same : t.lockedEndpoint = some endpoint
      · rw [endpoint_lock_dropped _ same (h.holder i t present same (by rw [leaving]; trivial))]
        exact .inr (.leave _)
      · refine .inl (endpoint_lock_same rfl rfl ?_)
        rw [dropGuard]
        split
        case h_1 e locked =>
          refine (s.lock_queue_set e endpoint _).trans (if_neg ?_)
          rintro rfl
          exact same locked
        case h_2 => rfl

theorem TaskMove.guarded_before {a : TaskStep} (move : TaskMove s i t a rest phase out)
    (locked : t.lockedEndpoint = some endpoint) (h : phase.guarded) :
    t.phase.guarded ∨ (s.lockQueue endpoint).head? = some i ∧ rest.lockQueue = s.lockQueue := by
  cases move with
  | quiet quiet =>
      generalize t.phase = before at quiet ⊢
      cases quiet <;> exact .inl trivial
  | register waited =>
      rcases waited with ⟨-, unlocked⟩ | ⟨-, e, same, holds⟩
      · rw [locked] at unlocked
        cases unlocked
      · cases locked.symm.trans same
        exact .inr ⟨holds, rfl⟩
  | submit registered => exact .inl (by rw [registered]; trivial)
  | unregister returned => exact .inl (by rw [returned]; trivial)
  | suppress checked => exact .inl (by rw [checked]; trivial)
  | write sending => exact .inl (by rw [sending]; trivial)
  | ask | release => cases h

/-- A lock keeps its holder until the holder leaves. -/
theorem TaskMove.holder_kept {a : TaskStep} (h : InTurn tr s endpoint)
    (present : s.tasks[i]? = some t) (move : TaskMove s i t a rest phase out)
    (holds : (s.lockQueue endpoint).head? = some j) (still : j = i → phase.guarded) :
    (rest.lockQueue endpoint).head? = some j := by
  cases move with
  | @ask e =>
      rw [lock_queue_set]
      split
      case isTrue same =>
        subst same
        rw [List.head?_append, holds]
        rfl
      case isFalse => exact holds
  | release leaving =>
      rw [dropGuard]
      split
      case h_1 e locked =>
        rw [lock_queue_set]
        split
        case isTrue same =>
          subst same
          have own := h.holder i t present locked (by rw [leaving]; trivial)
          cases own.symm.trans holds
          cases still rfl
        case isFalse => exact holds
      case h_2 => exact holds
  | _ => exact holds

theorem TaskMove.unspawned {a : TaskStep} (move : TaskMove s i t a rest phase out) :
    phase ≠ .spawned := by
  cases move with
  | quiet quiet =>
      generalize t.phase = before at quiet
      cases quiet <;> exact nofun
  | unregister returned =>
      rename_i result
      cases result <;> exact nofun
  | _ => exact nofun

theorem InTurn.task (h : InTurn tr s endpoint)
    (fresh : t.phase.unsubmitted → i ∉ tr.filterMap (passedAt endpoint)) {a : TaskStep}
    (present : s.tasks[i]? = some t) (move : TaskMove s i t a rest phase out) :
    InTurn (tr ++ out) (rest.setPhase i phase) endpoint := by
  have moved := move.moved present
  refine ⟨?_, ?_, ?_⟩
  · rcases move.lock h fresh present with same | step
    · rw [same]
      exact h.valid
    · exact h.valid.step step
  · intro j seen
    rw [List.filterMap_append] at seen
    rcases List.mem_append.mp seen with before | now
    · obtain ⟨u, held, other⟩ := h.asked j before
      by_cases same : j = i
      · subst same
        exact ⟨_, moved, move.unspawned⟩
      · exact ⟨u, move.others same held, other⟩
    · cases move with
      | @ask e =>
          have own : j = i := by
            simp only [askedAt, List.filterMap_cons, List.filterMap_nil] at now
            split at now
            · cases now
            · rename_i k asked
              split at asked
              · cases asked
                exact List.mem_singleton.mp now
              · cases asked
          subst own
          exact ⟨_, moved, nofun⟩
      | _ => cases now
  · intro j u held locked guarded
    change (rest.lockQueue endpoint).head? = some j
    rcases move.task present held with ⟨rfl, rfl⟩ | ⟨other, held⟩
    · rcases move.guarded_before locked guarded with before | ⟨holds, same⟩
      · exact move.holder_kept h present (h.holder j t present locked before) fun _ => guarded
      · exact (congrArg (fun queue => (queue endpoint).head?) same).trans holds
    · exact move.holder_kept h present (h.holder j u held locked guarded)
        fun same => absurd same other

theorem InTurn.reader (h : InTurn tr s endpoint) {a : BridgeStep}
    (move : ReaderMove s a s' out) : InTurn (tr ++ out) s' endpoint := by
  have same : endpointLock (tr ++ out) s' endpoint = endpointLock tr s endpoint := by
    cases move <;> exact endpoint_lock_same rfl rfl rfl
  have asked : (tr ++ out).filterMap (askedAt endpoint) = tr.filterMap (askedAt endpoint) :=
    congrArg FifoLock.asked same
  have queue : s'.lockQueue endpoint = s.lockQueue endpoint := congrArg FifoLock.queue same
  refine ⟨?_, ?_, ?_⟩
  · rw [same]
    exact h.valid
  · intro j seen
    rw [asked] at seen
    obtain ⟨t, held, other⟩ := h.asked j seen
    exact ⟨t, move.keeps held, other⟩
  · intro j u held locked guarded
    rcases move.task held with held | ⟨header, cmd, data, -, -, rfl⟩
    · rw [queue]
      exact h.holder j u held locked guarded
    · cases guarded

theorem in_turn {devid : UInt32} (run : machine.Reach (new devid) tr s) (endpoint : UInt8) :
    InTurn tr s endpoint := by
  refine run.invariantAlong (I := fun tr s => InTurn tr s endpoint) ⟨.empty, nofun, ?_⟩ ?_
  · intro i t held
    cases held
  intro tr s a s' out before h _ step
  cases step_moves step with
  | @task i t a rest phase out present move =>
      refine h.task (fun early seen => ?_) present move
      -- a task that is yet to be handed over has not been seen at the proxy
      have unpassed := ((accounts before).tallied i t present).unpassed early
      obtain ⟨e, inside, own⟩ := List.mem_filterMap.mp seen
      rw [List.countP_eq_zero] at unpassed
      refine unpassed e inside ?_
      cases e with
      | toProxy j locked request =>
          cases locked with
          | none => cases own
          | some e =>
              simp only [passedAt, Option.ite_none_right_eq_some, Option.some.injEq] at own
              simp [BridgeEvent.passes, own.2]
      | _ => cases own
  | reader move => exact h.reader move

/-- A request is passed under the lock that its own header asks for. -/
theorem passed_under {devid : UInt32} (run : machine.Reach (new devid) tr s) :
    ∀ i locked request, .toProxy i locked request ∈ tr → ∃ t, s.tasks[i]? = some t ∧
      t.lockedEndpoint = locked := by
  refine run.invariant (I := fun tr s => ∀ i locked request, .toProxy i locked request ∈ tr →
    ∃ t, s.tasks[i]? = some t ∧ t.lockedEndpoint = locked) nofun ?_
  intro tr s a s' out h _ step i locked request seen
  have move := step_moves step
  rcases List.mem_append.mp seen with before | now
  · obtain ⟨t, held, same⟩ := h i locked request before
    obtain ⟨phase, held'⟩ := move.keeps held
    exact ⟨_, held', same⟩
  · cases move with
    | task present move =>
        cases move with
        | submit =>
            cases List.mem_singleton.mp now
            obtain ⟨phase, held'⟩ := (step_moves step).keeps present
            exact ⟨_, held', rfl⟩
        | _ => simp at now
    | reader move => cases move <;> simp at now

/-- The reads of one endpoint are passed in the order in which their tasks have
asked for its lock, and no two of them are under way at once. -/
theorem endpoint_order {devid : UInt32} (run : machine.Reach (new devid) tr s)
    (endpoint : UInt8) :
    tr.filterMap (passedAt endpoint) <+ tr.filterMap (askedAt endpoint) ∧
      (tr.filterMap (askedAt endpoint)).Nodup ∧
      (∀ i locked request, .toProxy i locked request ∈ tr → ∃ t, s.tasks[i]? = some t ∧
        t.lockedEndpoint = locked) ∧
      ∀ (i j : Nat) (t u : SubmitTask), s.tasks[i]? = some t → s.tasks[j]? = some u →
        t.lockedEndpoint = some endpoint → u.lockedEndpoint = some endpoint →
        t.phase.guarded → u.phase.guarded → i = j := by
  have turn := in_turn run endpoint
  refine ⟨turn.valid.in_order, turn.valid.distinct, passed_under run, ?_⟩
  intro i j t u first second lockedT lockedU guardedT guardedU
  have holdsI := turn.holder i t first lockedT guardedT
  have holdsJ := turn.holder j u second lockedU guardedU
  exact Option.some.inj (holdsI.symm.trans holdsJ)

def exampleSubmit (direction seqnum : UInt32) : UsbIpMessage :=
  .submit { UsbIpHeader.new .cmdSubmit seqnum 1 with direction, ep := 2 }
    ⟨0, 0, 0, 0, 0, .replicate 8 0, []⟩ []

/-- Two requests for endpoint 2 have been read. -/
def exampleTwoRead (direction : UInt32) : List BridgeStep :=
  [.check, .read (.ok (exampleSubmit direction 1)), .check,
    .read (.ok (exampleSubmit direction 2))]

/-- The steps of a task that has its lock, to its end. -/
def exampleWholeTask (i : Nat) : List BridgeStep :=
  [.task i .register, .task i (.submit (some ⟨0⟩)),
    .task i (.proxyReturn (.ok ⟨⟨0⟩, .success [] none⟩)), .task i .unregister,
    .task i .checkRunning, .task i .checkUnlinked, .task i .recheckRunning,
    .task i (.write none), .task i .dropGuard]

theorem endpoint_order_example : ∃ tr s, machine.Reach (new 1) tr s ∧
    tr.filterMap (passedAt 0x82) = [0, 1] ∧
      tr.filterMap (passedAt 0x82) <+ tr.filterMap (askedAt 0x82) := by
  have run := Machine.Reach.of_run (rfl : machine.run (new 1) (exampleTwoRead 1 ++
    [.task 0 .lock, .task 1 .lock] ++ exampleWholeTask 0 ++ exampleWholeTask 1) = some (_, _))
  exact ⟨_, _, run, rfl, (endpoint_order run 0x82).1⟩

/-- The request that was read second is passed first: always possible for
writes, and for reads when its task is the first to ask for the lock. -/
theorem second_read_passed_first :
    (∃ s first second, machine.run (new 1) (exampleTwoRead 0 ++
      [.task 1 .register, .task 1 (.submit (some ⟨0⟩)), .task 0 .register,
        .task 0 (.submit (some ⟨0⟩))]) = some (s, [.submitRead 1, .submitRead 2,
      .toProxy 1 none second, .toProxy 0 none first])) ∧
    ∃ s first second message, machine.run (new 1) (exampleTwoRead 1 ++
      [.task 1 .lock, .task 0 .lock] ++ exampleWholeTask 1 ++
        [.task 0 .register, .task 0 (.submit (some ⟨0⟩))]) = some (s, [.submitRead 1,
      .submitRead 2, .lockAsked 1 0x82, .lockAsked 0 0x82, .toProxy 1 (some 0x82) second,
      .retSubmit 1 2 message, .toProxy 0 (some 0x82) first]) :=
  ⟨⟨_, _, _, rfl⟩, _, _, _, _, rfl⟩

end SocketBridge
end P2pUsb
