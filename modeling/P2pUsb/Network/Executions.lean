import P2pUsb.Network.DeviceProxy
import P2pUsb.Network.Sessions

/-! How often a submitted request is executed: the server carries out each copy
that it reads at most once, and the proxy sends one copy for each attempt. -/
namespace P2pUsb

def UsbCommand.carries (request : UsbRequest) : UsbCommand → Bool
  | .submitTransfer _ other => other == request
  | _ => false

/-- The handler has read the request and not sent it to the worker yet. -/
def Phase.carries (request : UsbRequest) : Phase → Bool
  | .throttled other => other == request
  | .sending cmd _ => cmd.carries request
  | _ => false

def ExchangeEvent.executes (own : ConnId → Bool) (request : UsbRequest) : ExchangeEvent → Bool
  | .executed conn other => own conn && other == request
  | _ => false

namespace ClientConnection

variable {engine : PolicyEngine} {request : UsbRequest}

theorem attach_with_info_carries (c : ClientConnection) (wall : Nat) (id : DeviceId)
    (info : DeviceInfo) :
    (c.attachWithInfo engine wall id info).1.phase.carries request = false := by
  rcases c.attach_with_info_cases engine wall id info with allowed | ⟨reason, denied⟩
  · rw [allowed]
    rfl
  · rw [denied]
    rfl

theorem cleanup_carries (c : ClientConnection) (handles : List DeviceHandle) :
    (c.cleanup handles).phase.carries request = false := by
  cases handles <;> rfl

theorem expired_carries (c : ClientConnection) (events : List SessionExpiredEvent) :
    (c.handleExpiredSessions events).phase.carries request = false := by
  rcases c.expired_phase events with idle | ⟨event, rest, -, ends⟩
  · rw [idle]
    rfl
  · rw [ends]
    rfl

theorem resume_carries (c : ClientConnection) (now : ClockReading) (sessions : ActiveSessions)
    (next : Continuation) (reply : UsbReply) :
    (c.resume engine now sessions next reply).1.1.phase.carries request = false := by
  have step := c.resume_cases engine now sessions next reply
  generalize c.resume engine now sessions next reply = after at step
  cases step with
  | check => exact attach_with_info_carries _ _ _ _
  | expire => exact expired_carries _ _
  | cleanup => exact cleanup_carries _ _
  | _ => rfl

/-- Only the message itself makes a handler take up the request. -/
theorem message_carries (c : ClientConnection) (now : ClockReading) (payload : MessagePayload)
    (carries : (c.handleMessage engine now payload).1.phase.carries request) :
    payload = .submitTransfer request := by
  cases payload with
  | submitTransfer other =>
      simp only [handleMessage, handleSubmitTransfer] at carries
      split at carries
      · cases carries
      · rw [beq_iff_eq.mp carries]
  | attachDeviceRequest id =>
      simp only [handleMessage, handleAttachDevice] at carries
      split at carries
      · rw [attach_with_info_carries] at carries
        cases carries
      · cases carries
  | lockDeviceRequest handle write timeout =>
      simp only [handleMessage, handleLockDevice] at carries
      split at carries <;> cases carries
  | unlockDeviceRequest handle =>
      simp only [handleMessage, handleUnlockDevice] at carries
      split at carries <;> cases carries
  | _ => cases carries

end ClientConnection

namespace Server

variable {engine : PolicyEngine} {own : ConnId → Bool} {request : UsbRequest} {s t : Server}
  {out : List Effect} {i : ConnId} {c c' : ClientConnection}
  {conns : AList fun _ : ConnId => ClientConnection} {commands : List QueuedCommand}

/-- The copies of the request on their way through the server. -/
def copies (own : ConnId → Bool) (request : UsbRequest)
    (conns : AList fun _ : ConnId => ClientConnection) (commands : List QueuedCommand) : Nat :=
  (conns.retain fun i c => own i && c.phase.carries request).size +
    commands.countP fun q => own q.conn && q.cmd.carries request

theorem count_one (b : Bool) : (if b = true then 1 else 0) = b.toNat := by
  cases b <;> rfl

theorem copies_insert (own : ConnId → Bool) (request : UsbRequest) (commands : List QueuedCommand)
    (c' : ClientConnection) (found : conns.lookup i = some c) :
    copies own request (conns.insert i c') commands + (own i && c.phase.carries request).toNat =
      copies own request conns commands + (own i && c'.phase.carries request).toNat := by
  have step := conns.size_retain_insert (fun i c => own i && c.phase.carries request) i c'
  rw [found, Option.any_some] at step
  simp only [copies]
  omega

/-- A handler that takes up no copy adds none. -/
theorem copies_insert_le (found : conns.lookup i = some c)
    (less : c'.phase.carries request → c.phase.carries request) :
    copies own request (conns.insert i c') commands ≤ copies own request conns commands := by
  have step := copies_insert own request commands c' found
  cases new : c'.phase.carries request with
  | true =>
      rw [new, less new] at step
      omega
  | false =>
      rw [new, Bool.and_false, Bool.toNat_false] at step
      omega

/-- A step of a handler: it takes up the request only from its own message, and
moves it on into the channel. -/
theorem connection_copies {action : ConnectionAction} (found : s.conns.lookup i = some c)
    (step : s.connectionStep engine i c action = some (t, out)) :
    copies own request t.conns t.commands ≤ copies own request s.conns s.commands +
      (Exchange.submits own request (.connection i action)).toNat := by
  have quiet : ∀ {c' : ClientConnection}, c'.phase.carries request = false →
      copies own request (s.conns.insert i c') s.commands ≤ copies own request s.conns s.commands +
        (Exchange.submits own request (.connection i action)).toNat := by
    intro c' none
    refine Nat.le_add_right_of_le (copies_insert_le found fun carries => ?_)
    rw [none] at carries
    cases carries
  unfold connectionStep at step
  split at step
  case h_1 | h_5 =>
    cases step
    exact quiet rfl
  case h_2 at' =>
    split at step
    · cases step
    case h_2 event _ _ =>
      cases step
      refine quiet ?_
      have same : (c.handleUsbEvent event).phase = c.phase := by cases event <;> rfl
      rw [same, at']
      rfl
  case h_3 order at' =>
    split at step
    · obtain ⟨-, rfl, -⟩ := leave_loop_eq step
      exact quiet (ClientConnection.cleanup_carries _ _)
    · cases step
      exact quiet (ClientConnection.expired_carries _ _)
  case h_4 order at' =>
    obtain ⟨-, rfl, -⟩ := leave_loop_eq step
    exact quiet (ClientConnection.cleanup_carries _ _)
  case h_6 payload at' =>
    obtain ⟨rfl, -⟩ := Prod.mk.inj (Option.some.inj step)
    have idle : Phase.reading.carries request = false := rfl
    have counted := copies_insert own request s.commands
      (c.handleMessage engine s.clock payload).1 found
    rw [at', idle, Bool.and_false, Bool.toNat_false, Nat.add_zero] at counted
    have taken : own i && (c.handleMessage engine s.clock payload).1.phase.carries request →
        Exchange.submits own request (.connection i (.message payload)) := by
      intro both
      obtain ⟨mine, carries⟩ := Bool.and_eq_true_iff.mp both
      rw [c.message_carries s.clock payload carries, Exchange.submits, mine, beq_self_eq_true]
      rfl
    have less := Bool.toNat_le_toNat (Bool.le_iff_imp.mpr taken)
    exact counted.trans_le (Nat.add_le_add_left less _)
  case h_7 other at' =>
    cases step
    refine Nat.le_add_right_of_le (copies_insert_le found fun carries => ?_)
    rw [at']
    exact carries
  case h_8 cmd next at' =>
    split at step
    case isFalse => cases step
    case isTrue =>
      cases step
      have counted := copies_insert own request s.commands
        { c with phase := .awaiting c.sent next none, sent := c.sent + 1 } found
      rw [at'] at counted
      simp only [Phase.carries, Bool.and_false, Bool.toNat_false] at counted
      simp only [copies, setConn, List.countP_append, List.countP_singleton] at counted ⊢
      cases taken : own i && cmd.carries request <;> simp [taken] at counted ⊢ <;> omega
  case h_9 =>
    cases step
    exact quiet (ClientConnection.resume_carries _ _ _ _ _)
  case h_10 =>
    cases step
    exact quiet (ClientConnection.expired_carries _ _)
  case h_11 => cases step

theorem receive_carries (c : ClientConnection) (token : Nat) (reply : UsbReply) :
    (c.receive token reply).phase.carries request = c.phase.carries request := by
  unfold ClientConnection.receive
  split
  case h_1 waiting next at' =>
    split
    · rw [at']
      rfl
    · rfl
  case h_2 => rfl

/-- A command is carried out at most once, when it leaves the channel. -/
theorem executions_le (own : ConnId → Bool) (request : UsbRequest) (s : Server) (env : UsbEnv)
    {q : QueuedCommand} {rest : List QueuedCommand} (head : s.commands = q :: rest) :
    (Exchange.executions s (.command env)).countP (ExchangeEvent.executes own request) ≤
      (own q.conn && q.cmd.carries request).toNat := by
  obtain ⟨conn, token, cmd⟩ := q
  simp only [Exchange.executions, head]
  cases cmd with
  | submitTransfer handle other =>
      dsimp only
      rcases executions_cases s.manager ⟨conn, token, .submitTransfer handle other⟩ with
        none | ⟨h, r, device, -, -, -, one⟩
      · rw [none]
        exact Nat.zero_le _
      · rw [one, List.map_singleton, List.countP_singleton, count_one]
        exact Nat.le_refl _
  | _ => exact Nat.zero_le _

/-- The server executes no more copies than it takes up. -/
theorem server_copies (own : ConnId → Bool) (request : UsbRequest) {a : Action}
    (step : s.step engine a = some (t, out)) :
    copies own request t.conns t.commands +
        (Exchange.executions s a).countP (ExchangeEvent.executes own request) ≤
      copies own request s.conns s.commands + (Exchange.submits own request a).toNat := by
  cases a with
  | connection i action =>
      obtain ⟨c, found, step⟩ := Option.bind_eq_some_iff.mp step
      exact connection_copies found step
  | command env =>
      have taken := command_step_eq step
      cases head : s.commands with
      | nil =>
          have none : Exchange.executions s (.command env) = [] := by
            simp only [Exchange.executions, head]
          simp only [commandStep, head] at taken
          obtain ⟨rfl, -⟩ := Prod.mk.inj taken
          rw [none]
          exact Nat.le_add_right _ _
      | cons q rest =>
          have once := executions_le own request s env head
          simp only [commandStep, head] at taken
          obtain ⟨rfl, -⟩ := Prod.mk.inj taken
          have same := s.conns.size_retain_modify
            (fun i c => own i && c.phase.carries request) q.conn fun c => by
              rw [receive_carries c q.token (s.manager.handleCommandInner
                { env with now := s.clock.instant } q.cmd).1]
          simp only [copies, deliver, same, List.countP_cons]
          rw [count_one]
          omega
  | connect i endpointId =>
      cases step_cases step with
      | monitor | worker => exact Nat.le_add_right _ _
      | connect _ _ free =>
          have counted := s.conns.size_retain_insert
            (fun i c => own i && c.phase.carries request) i (.new endpointId s.clock.instant)
          rw [AList.lookup_eq_none.mpr free] at counted
          have idle : (ClientConnection.new endpointId s.clock.instant).phase.carries request =
            false := rfl
          rw [idle, Bool.and_false, Bool.toNat_false, Option.any_none, Bool.toNat_false] at counted
          have none : (Exchange.executions s (.connect i endpointId)).countP
            (ExchangeEvent.executes own request) = 0 := rfl
          simp only [copies, setConn, none]
          omega
  | _ => cases step_cases step <;> exact Nat.le_add_right _ _

end Server

namespace DeviceProxy

/-- The loop goes round again exactly after a retryable outcome, while attempts
are left. -/
theorem after_attempt_cases (attempts : Nat) (outcome : Except String UsbResponse) :
    afterAttempt attempts outcome = .sleeping ∧ retryable outcome ∧ attempts < maxRetries ∨
      ∃ result, afterAttempt attempts outcome = .done result := by
  cases outcome with
  | error text =>
      simp only [afterAttempt]
      split
      case isTrue left => exact .inl ⟨rfl, rfl, left⟩
      case isFalse => exact .inr ⟨_, rfl⟩
  | ok response =>
      obtain ⟨id, result⟩ := response
      cases result with
      | error error =>
          simp only [afterAttempt]
          split
          case isTrue both => exact .inl ⟨rfl, both⟩
          case isFalse => exact .inr ⟨_, rfl⟩
      | _ => exact .inr ⟨_, rfl⟩

/-- An attempt has been made that no retry has followed. -/
def Phase.attempted : Phase → Bool
  | calling | done _ => true
  | _ => false

end DeviceProxy

namespace ExchangeEvent

def isCall : ExchangeEvent → Bool
  | called => true
  | _ => false

/-- An attempt ended in a transport error, an error of the server, or a result
that says timeout, busy or I/O error. -/
def isRetryable : ExchangeEvent → Bool
  | returned outcome => DeviceProxy.retryable outcome
  | _ => false

end ExchangeEvent

theorem StreamPhase.settle_sent (phase : StreamPhase) (e : Effect) :
    (phase.settle e).isSent = phase.isSent := by
  unfold settle
  split
  · split
    · split <;> rfl
    · rfl
  · rfl

namespace Exchange
open ExchangeEvent

variable {engine : PolicyEngine} {own : ConnId → Bool} {request : UsbRequest} {x y : Exchange}
  {tr out : List ExchangeEvent}

theorem settle_all_sent (out : List Effect) (streams : List StreamPhase) :
    (out.foldl (fun streams e => streams.map fun p => p.settle e) streams).countP
      StreamPhase.isSent = streams.countP StreamPhase.isSent := by
  induction out generalizing streams with
  | nil => rfl
  | cons e out ih =>
      rw [List.foldl_cons, ih, List.countP_map]
      exact List.countP_congr fun p _ => by rw [Function.comp, StreamPhase.settle_sent]

/-- What has become of the attempts: each has its own copy of the request, and
none but the first came without a retryable outcome before it. -/
structure Counted (own : ConnId → Bool) (request : UsbRequest) (tr : List ExchangeEvent)
    (x : Exchange) : Prop where
  calls : tr.countP isCall = x.attempts
  copied : tr.countP (executes own request) +
      Server.copies own request x.server.conns x.server.commands +
      x.streams.countP StreamPhase.isSent ≤ x.attempts
  limited : x.attempts + (!x.proxy.attempted).toNat ≤ DeviceProxy.maxRetries
  excused : x.attempts ≤ x.proxy.attempted.toNat + tr.countP isRetryable

theorem executions_quiet (s : Server) (action : Action) {p : ExchangeEvent → Bool}
    (none : ∀ conn other, p (.executed conn other) = false) :
    (executions s action).countP p = 0 := by
  unfold executions
  split
  · split
    · rw [List.countP_eq_zero]
      intro e seen
      obtain ⟨-, -, rfl⟩ := List.mem_map.mp seen
      rw [none]
      exact Bool.false_ne_true
    · rfl
  · rfl

theorem Counted.server (h : Counted own request tr x) {action : Action} (room : Nat)
    (taken : (submits own request action).toNat ≤ room)
    (spare : tr.countP (executes own request) +
      Server.copies own request x.server.conns x.server.commands +
      x.streams.countP StreamPhase.isSent + room ≤ x.attempts)
    (step : x.serverStep engine action = some (y, out)) : Counted own request (tr ++ out) y := by
  obtain ⟨⟨next, effects⟩, moved, same⟩ := Option.map_eq_some_iff.mp step
  obtain ⟨rfl, rfl⟩ := Prod.mk.inj same
  have counted := Server.server_copies own request moved
  refine ⟨?_, ?_, h.limited, ?_⟩
  · rw [List.countP_append, executions_quiet _ _ fun _ _ => rfl]
    exact h.calls
  · rw [List.countP_append]
    simp only [settle_all_sent]
    omega
  · rw [List.countP_append, executions_quiet _ _ fun _ _ => rfl]
    exact h.excused

/-- A copy that is on its way no longer. -/
theorem countP_sent_set {streams : List StreamPhase} {k : Nat} (phase : StreamPhase)
    (found : streams[k]? = some .sent) (other : phase.isSent = false) :
    (streams.set k phase).countP StreamPhase.isSent + 1 = streams.countP StreamPhase.isSent := by
  obtain ⟨inside, here⟩ := List.getElem?_eq_some_iff.mp found
  have positive : 0 < streams.countP StreamPhase.isSent :=
    List.countP_pos_iff.mpr ⟨.sent, List.mem_of_getElem? found, rfl⟩
  rw [List.countP_set inside, here, other]
  simp only [StreamPhase.isSent, if_true, Bool.false_eq_true, if_false]
  omega

theorem Counted.returned (h : Counted own request tr x) (calling : x.proxy = .calling)
    (outcome : Except String UsbResponse) :
    Counted own request (tr ++ [.returned outcome])
      { x with proxy := DeviceProxy.afterAttempt x.attempts outcome } := by
  have excused := h.excused
  have limited := h.limited
  rw [calling] at excused limited
  simp only [DeviceProxy.Phase.attempted, Bool.toNat_true, Bool.not_true, Bool.toNat_false,
    Nat.add_zero] at excused limited
  have again : ∀ p : ExchangeEvent → Bool, (tr ++ [ExchangeEvent.returned outcome]).countP p =
      tr.countP p + (p (ExchangeEvent.returned outcome)).toNat := by
    intro p
    rw [List.countP_append, List.countP_singleton, Server.count_one]
  refine ⟨?_, ?_, ?_, ?_⟩
  · rw [again]
    exact h.calls
  · rw [again]
    exact h.copied
  · rcases DeviceProxy.after_attempt_cases x.attempts outcome with ⟨same, -, left⟩ | ⟨r, same⟩
    · rw [same]
      exact left
    · rw [same]
      exact limited
  · rw [again]
    rcases DeviceProxy.after_attempt_cases x.attempts outcome with ⟨same, retry, -⟩ | ⟨r, same⟩
    · rw [same]
      simp only [isRetryable, retry, DeviceProxy.Phase.attempted, Bool.toNat_true,
        Bool.toNat_false]
      omega
    · rw [same]
      simp only [DeviceProxy.Phase.attempted, Bool.toNat_true]
      omega

theorem Counted.step (h : Counted own request tr x) {a : ExchangeStep}
    (step : x.step engine own request a = some (y, out)) : Counted own request (tr ++ out) y := by
  cases a with
  | call =>
      simp only [Exchange.step] at step
      split at step
      case h_2 => cases step
      case h_1 ready =>
        cases step
        obtain ⟨calls, copied, limited, excused⟩ := h
        rw [ready] at limited excused
        refine ⟨?_, ?_, limited, ?_⟩
        · rw [List.countP_append, calls]
          rfl
        · simp only [List.countP_append, List.countP_singleton, StreamPhase.isSent, if_true,
            executes, Bool.false_eq_true, if_false]
          omega
        · simp only [List.countP_append, List.countP_singleton, isRetryable, Bool.false_eq_true,
            if_false, DeviceProxy.Phase.attempted, Bool.toNat_true, Bool.toNat_false] at excused ⊢
          omega
  | reply =>
      simp only [Exchange.step] at step
      split at step
      case h_1 calling _ =>
        cases step
        exact h.returned calling _
      case h_2 => cases step
  | fail text =>
      simp only [Exchange.step] at step
      split at step
      case h_1 calling =>
        cases step
        exact h.returned calling _
      case h_2 => cases step
  | retry =>
      simp only [Exchange.step] at step
      split at step
      case h_2 => cases step
      case h_1 sleeping =>
        cases step
        obtain ⟨calls, copied, limited, excused⟩ := h
        rw [sleeping] at limited excused
        rw [List.append_nil]
        exact ⟨calls, copied, limited, excused⟩
  | lose stream =>
      simp only [Exchange.step] at step
      split at step
      case h_2 => cases step
      case h_1 sent =>
        cases step
        obtain ⟨calls, copied, limited, excused⟩ := h
        have fewer := countP_sent_set .lost sent rfl
        rw [List.append_nil]
        refine ⟨calls, ?_, limited, excused⟩
        simp only
        omega
  | deliver stream conn =>
      simp only [Exchange.step] at step
      split at step
      case h_2 => cases step
      case h_1 sent mine =>
        obtain ⟨calls, copied, limited, excused⟩ := h
        have fewer := countP_sent_set (.handling conn) sent rfl
        refine Counted.server (x := { x with streams := x.streams.set stream (.handling conn) })
          ⟨calls, ?_, limited, excused⟩ 1 (Bool.toNat_le _) ?_ step
        · simp only
          omega
        · simp only
          omega
  | server action =>
      simp only [Exchange.step] at step
      split at step
      case isTrue => cases step
      case isFalse free =>
        refine h.server 0 ?_ h.copied step
        rw [Bool.eq_false_of_not_eq_true free]
        exact Nat.le_refl 0

theorem counted {filters : List String} {config : SharingConfig} {devices : List RusbDevice}
    {clock : ClockReading}
    (run : (exchange engine own request).Reach (start filters config devices clock) tr x) :
    Counted own request tr x := by
  refine run.invariant (I := Counted own request) ⟨rfl, ?_, ?_, ?_⟩ ?_
  · exact Nat.le_refl 0
  · exact Nat.succ_le_succ (Nat.zero_le 2)
  · exact Nat.zero_le _
  · intro tr x a y out h _ step
    exact h.step step

end Exchange
end P2pUsb
