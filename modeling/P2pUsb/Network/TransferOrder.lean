import P2pUsb.Network.Conversations
import P2pUsb.Network.ExclusiveSessions
import P2pUsb.Network.Executions

/-! The transfers of one connection are carried out in the order in which its requests came, and
none twice: what is carried out and what is still on its way is a part of what was submitted. -/
namespace P2pUsb

def UsbRequest.view (request : UsbRequest) : DeviceHandle × TransferType :=
  (request.handle, request.transfer)

/-- A transfer that is asked for on the connection. -/
def Report.submission (i : ConnId) : Report → Option (DeviceHandle × TransferType)
  | .asked j ⟨.submitTransfer request, _⟩ => if j = i then some request.view else none
  | _ => none

/-- A transfer that is carried out for the connection. -/
def Report.execution (i : ConnId) : Report → Option (DeviceHandle × TransferType)
  | .shown (.executed j handle _ transfer) => if j = i then some (handle, transfer) else none
  | _ => none

def submissions (i : ConnId) (tr : List Report) : List (DeviceHandle × TransferType) :=
  tr.filterMap (Report.submission i)

def executionsFor (i : ConnId) (tr : List Report) : List (DeviceHandle × TransferType) :=
  tr.filterMap (Report.execution i)

def UsbCommand.transfers : UsbCommand → List (DeviceHandle × TransferType)
  | .submitTransfer handle request => [(handle, request.transfer)]
  | _ => []

/-- What the handler has read and not sent to the worker. -/
def Phase.transfers : Phase → List (DeviceHandle × TransferType)
  | .throttled request => [request.view]
  | .sending cmd _ => cmd.transfers
  | _ => []

theorem Phase.transfers_of_none {phase : Phase}
    (none : ∀ request, phase.carries request = false) : phase.transfers = [] := by
  have carried : ∀ request : UsbRequest, (request == request) = false → False := by
    intro request wrong
    rw [beq_self_eq_true] at wrong
    cases wrong
  cases phase with
  | throttled request => exact (carried request (none request)).elim
  | sending cmd next =>
      cases cmd with
      | submitTransfer handle request => exact (carried request (none request)).elim
      | _ => rfl
  | _ => rfl

namespace ClientConnection
variable {engine : PolicyEngine} {c : ClientConnection}

theorem message_transfers (c : ClientConnection) (i : ConnId) (now : ClockReading)
    (payload : MessagePayload) :
    (c.handleMessage engine now payload).1.phase.transfers.Sublist
      (submissions i (c.asked i (.message payload))) := by
  by_cases submit : ∃ request, payload = .submitTransfer request
  · obtain ⟨request, rfl⟩ := submit
    have asked : submissions i (c.asked i (.message (.submitTransfer request))) =
      [request.view] := by
      simp only [asked, submissions, Report.submission, List.filterMap_cons, if_true,
        List.filterMap_nil]
    rw [asked]
    simp only [handleMessage, handleSubmitTransfer]
    split
    · exact List.nil_sublist _
    · exact List.Sublist.refl _
  · have none : (c.handleMessage engine now payload).1.phase.transfers = [] := by
      refine Phase.transfers_of_none fun request => Bool.eq_false_iff.mpr fun carries => ?_
      exact submit ⟨request, c.message_carries now payload carries⟩
    rw [none]
    exact List.nil_sublist _

theorem receive_transfers (c : ClientConnection) (token : Nat) (reply : UsbReply) :
    (c.receive token reply).phase.transfers = c.phase.transfers := by
  rcases c.receive_cases token reply with ⟨same, -⟩ | ⟨next, at', here⟩
  · rw [same]
  · rw [here, at']
    rfl

end ClientConnection

namespace Server
variable {engine : PolicyEngine} {s t : Server} {tr : List Report} {out : List Effect}
  {i : ConnId} {c d : ClientConnection} {action : ConnectionAction}

/-- The transfers of the connection on their way: those in the channel, and then the one that its
handler is about to send. -/
def onTheWay (s : Server) (i : ConnId) : List (DeviceHandle × TransferType) :=
  (s.commands.filter fun q => q.conn = i).flatMap (·.cmd.transfers) ++
    (s.conns.lookup i).elim [] fun c => c.phase.transfers

/-- A handler's own step, which takes up at most what it has just read. -/
theorem on_the_way_handled (found : s.conns.lookup i = some c) (events : List UsbEvent)
    (sessions : ActiveSessions) {asked : List (DeviceHandle × TransferType)}
    (taken : d.phase.transfers.Sublist (c.phase.transfers ++ asked)) :
    ((setConn { s with events := events, sessions := sessions } i d).onTheWay i).Sublist
        (s.onTheWay i ++ asked) ∧
      ∀ j, j ≠ i → (setConn { s with events := events, sessions := sessions } i d).onTheWay j =
        s.onTheWay j := by
  refine ⟨?_, fun j apart => ?_⟩
  · simp only [onTheWay, setConn, AList.lookup_insert, found, List.append_assoc]
    exact List.Sublist.append_left taken _
  · simp only [onTheWay, setConn, AList.lookup_insert_ne apart]

/-- A handler that has nothing to send after its step. -/
theorem on_the_way_idle (found : s.conns.lookup i = some c) (events : List UsbEvent)
    (sessions : ActiveSessions) (asked : List (DeviceHandle × TransferType))
    (idle : ∀ request, d.phase.carries request = false) :
    ((setConn { s with events := events, sessions := sessions } i d).onTheWay i).Sublist
        (s.onTheWay i ++ asked) ∧
      ∀ j, j ≠ i → (setConn { s with events := events, sessions := sessions } i d).onTheWay j =
        s.onTheWay j := by
  refine on_the_way_handled found events sessions ?_
  rw [Phase.transfers_of_none idle]
  exact List.nil_sublist _

/-- The command goes from its handler to the end of the channel. -/
theorem on_the_way_enqueued (found : s.conns.lookup i = some c) {cmd : UsbCommand}
    {next : Continuation} (at' : c.phase = .sending cmd next)
    (asked : List (DeviceHandle × TransferType)) :
    let t := setConn { s with commands := s.commands ++ [⟨i, c.sent, cmd⟩] } i
      { c with phase := .awaiting c.sent next none, sent := c.sent + 1 }
    (t.onTheWay i).Sublist (s.onTheWay i ++ asked) ∧ ∀ j, j ≠ i → t.onTheWay j = s.onTheWay j := by
  refine ⟨?_, fun j apart => ?_⟩
  · have moved : [(⟨i, c.sent, cmd⟩ : QueuedCommand)].filter (fun q => q.conn = i) =
        [⟨i, c.sent, cmd⟩] := by
      rw [List.filter_singleton, decide_eq_true rfl, cond_true]
    simp only [onTheWay, setConn, AList.lookup_insert, found, Option.elim_some, at',
      Phase.transfers, List.filter_append, moved, List.flatMap_append, List.flatMap_singleton,
      List.append_nil]
    exact List.sublist_append_left _ _
  · have away : [(⟨i, c.sent, cmd⟩ : QueuedCommand)].filter (fun q => q.conn = j) = [] := by
      rw [List.filter_singleton, decide_eq_false (Ne.symm apart), cond_false]
    simp only [onTheWay, setConn, AList.lookup_insert_ne apart, List.filter_append, away,
      List.append_nil]

theorem connection_on_the_way (found : s.conns.lookup i = some c)
    (step : s.connectionStep engine i c action = some (t, out)) :
    (t.onTheWay i).Sublist
        (s.onTheWay i ++ submissions i (c.asked i action)) ∧
      ∀ j, j ≠ i → t.onTheWay j = s.onTheWay j := by
  have event_phase : ∀ event, (c.handleUsbEvent event).phase = c.phase := by
    intro event
    cases event <;> rfl
  unfold connectionStep at step
  split at step
  case h_1 | h_5 =>
    obtain ⟨rfl, -⟩ := Prod.mk.inj (Option.some.inj step)
    exact on_the_way_idle found s.events s.sessions _ fun _ => rfl
  case h_2 at' =>
    split at step
    · cases step
    case h_2 event rest _ =>
      obtain ⟨rfl, -⟩ := Prod.mk.inj (Option.some.inj step)
      refine on_the_way_handled found rest s.sessions ?_
      rw [event_phase]
      exact List.sublist_append_left _ _
  case h_3 order at' =>
    split at step
    · obtain ⟨-, rfl, -⟩ := leave_loop_eq step
      exact on_the_way_idle found s.events s.sessions _ fun _ => c.cleanup_carries order
    · obtain ⟨rfl, -⟩ := Prod.mk.inj (Option.some.inj step)
      exact on_the_way_idle found s.events s.sessions _ fun _ => c.expired_carries _
  case h_4 order at' =>
    obtain ⟨-, rfl, -⟩ := leave_loop_eq step
    exact on_the_way_idle found s.events s.sessions _ fun _ => c.cleanup_carries order
  case h_6 payload at' =>
    obtain ⟨rfl, -⟩ := Prod.mk.inj (Option.some.inj step)
    refine on_the_way_handled found s.events s.sessions ?_
    rw [at']
    exact c.message_transfers i s.clock payload
  case h_7 request at' =>
    obtain ⟨rfl, -⟩ := Prod.mk.inj (Option.some.inj step)
    refine on_the_way_handled found s.events s.sessions ?_
    rw [at']
    exact List.sublist_append_left _ _
  case h_8 cmd next at' =>
    split at step
    · obtain ⟨rfl, -⟩ := Prod.mk.inj (Option.some.inj step)
      exact on_the_way_enqueued found at' _
    · cases step
  case h_9 token next reply at' =>
    obtain ⟨rfl, -⟩ := Prod.mk.inj (Option.some.inj step)
    exact on_the_way_idle found s.events _ _ fun _ => c.resume_carries s.clock s.sessions next reply
  case h_10 token event rest at' =>
    obtain ⟨rfl, -⟩ := Prod.mk.inj (Option.some.inj step)
    exact on_the_way_idle found s.events _ _ fun _ => c.expired_carries rest
  case h_11 => cases step

/-- The worker carries out at most the transfer of the command that it takes. -/
theorem command_on_the_way {q : QueuedCommand} {rest : List QueuedCommand}
    (head : s.commands = q :: rest) {reply : UsbReply} (conns : t.conns = s.deliver q reply)
    (commands : t.commands = rest) (i : ConnId) :
    (executionsFor i ((.answered q.conn q.token q.cmd reply ::
      executions s.manager q).map .shown) ++ t.onTheWay i).Sublist (s.onTheWay i) := by
  have phases : ((t.conns.lookup i).elim [] fun c => c.phase.transfers) =
      (s.conns.lookup i).elim [] fun c => c.phase.transfers := by
    rw [conns, lookup_deliver]
    cases s.conns.lookup i with
    | none => rfl
    | some c =>
        rw [Option.map_some, Option.elim_some, Option.elim_some]
        split
        · exact c.receive_transfers q.token reply
        · rfl
  unfold onTheWay
  rw [phases, commands, head, ← List.append_assoc]
  refine List.Sublist.append_right ?_ _
  rw [List.filter_cons]
  by_cases own : q.conn = i
  · rw [decide_eq_true own, if_pos rfl, List.flatMap_cons]
    refine List.Sublist.append_right ?_ _
    rcases executions_cases s.manager q with none | ⟨h, request, device, submit, -, -, one⟩
    · rw [none]
      exact List.nil_sublist _
    · rw [one, submit]
      simp [executionsFor, Report.execution, UsbCommand.transfers, own, List.filterMap_cons]
  · rw [decide_eq_false own, if_neg Bool.false_ne_true]
    have none : executionsFor i ((.answered q.conn q.token q.cmd reply ::
        executions s.manager q).map .shown) = [] := by
      rw [executionsFor, List.filterMap_map, List.filterMap_eq_nil_iff]
      intro effect mem
      rcases List.mem_cons.mp mem with rfl | executed
      · rfl
      · obtain ⟨h, device, transfer, rfl⟩ := executed_of_mem executed
        exact if_neg own
    rw [none, List.nil_append]

/-- What the run has carried out for the connection, and then what is on its way. -/
def InOrder (i : ConnId) (tr : List Report) (s : Server) : Prop :=
  (executionsFor i tr ++ s.onTheWay i).Sublist (submissions i tr)

/-- A handler's step carries out nothing, and submits only what has been read. -/
theorem connection_says {j : ConnId} (i : ConnId)
    (step : s.step engine (.connection j action) = some (t, out)) :
    executionsFor i (c.asked j action ++ out.map .shown) = [] ∧
      submissions i (c.asked j action ++ out.map .shown) = submissions i (c.asked j action) := by
  obtain ⟨effects, rfl⟩ : ∃ effects : List ConnectionEffect, out = effects.map (.connection j) := by
    cases step_cases step with
    | monitor | worker | enqueue => exact ⟨[], rfl⟩
    | handler _ _ _ _ effects => exact ⟨effects, rfl⟩
  have shown : ∀ {part : Report → Option (DeviceHandle × TransferType)},
      (∀ effect, part (.shown (.connection j effect)) = none) →
      ((effects.map (Effect.connection j)).map Report.shown).filterMap part = [] := by
    intro part lacks
    rw [List.map_map, List.filterMap_map, List.filterMap_eq_nil_iff]
    exact fun effect _ => lacks effect
  have unread : executionsFor i (c.asked j action) = [] := by
    cases action <;> rfl
  unfold executionsFor submissions at *
  constructor
  · rw [List.filterMap_append, unread, shown fun _ => rfl, List.append_nil]
  · rw [List.filterMap_append, shown fun _ => rfl, List.append_nil]

namespace InOrder

/-- A step that carries out nothing for the connection. -/
theorem submit (hs : InOrder i tr s) {said : List Report} (none : executionsFor i said = [])
    (taken : (t.onTheWay i).Sublist (s.onTheWay i ++ submissions i said)) :
    InOrder i (tr ++ said) t := by
  unfold InOrder executionsFor submissions at *
  rw [List.filterMap_append, List.filterMap_append, none, List.append_nil]
  refine (List.Sublist.append_left taken _).trans ?_
  rw [← List.append_assoc]
  exact List.Sublist.append_right hs _

theorem execute (hs : InOrder i tr s) {said : List Report}
    (done : (executionsFor i said ++ t.onTheWay i).Sublist (s.onTheWay i)) :
    InOrder i (tr ++ said) t := by
  unfold InOrder executionsFor submissions at *
  rw [List.filterMap_append, List.filterMap_append, List.append_assoc]
  exact ((List.Sublist.append_left done _).trans hs).trans (List.sublist_append_left _ _)

/-- Steps that touch neither the channel nor what the handlers have to send. -/
theorem elsewhere (hs : InOrder i tr s) {a : Action} (other : ∀ j action, a ≠ .connection j action)
    (step : Transition engine s a t out) : InOrder i (tr ++ out.map .shown) t := by
  have same : ∀ {u : Server}, u.conns = s.conns → u.commands = s.commands →
      InOrder i (tr ++ []) u := by
    intro u conns commands
    refine hs.submit rfl ?_
    rw [onTheWay, conns, commands]
    exact List.sublist_append_left _ _
  cases step with
  | monitor | worker | fire | emit => exact same rfl rfl
  | handler j action => exact absurd rfl (other j action)
  | enqueue j action => exact absurd rfl (other j action)
  | command env q rest head => exact hs.execute (command_on_the_way head rfl rfl i)
  | connect j endpointId free =>
      refine hs.submit rfl ?_
      simp only [onTheWay, setConn]
      refine (List.Sublist.append_left ?_ _).trans (List.sublist_append_left _ _)
      by_cases mine : i = j
      · subst mine
        rw [AList.lookup_insert]
        exact List.nil_sublist _
      · rw [AList.lookup_insert_ne mine]

theorem next (hs : InOrder i tr s) {a : Action} (step : s.step engine a = some (t, out)) :
    InOrder i (tr ++ (s.asked a ++ out.map .shown)) t := by
  cases a with
  | connection j action =>
      obtain ⟨c, found, moved⟩ := Option.bind_eq_some_iff.mp step
      obtain ⟨own, other⟩ := connection_on_the_way found moved
      have said := connection_says (c := c) i step
      rw [asked_connection found]
      refine hs.submit said.1 ?_
      rw [said.2]
      by_cases mine : i = j
      · subst mine
        exact own
      · rw [other i mine]
        exact List.sublist_append_left _ _
  | tick | connect | command | hotplug | collect | fire | emit | monitorTick | monitorExpire =>
      exact hs.elsewhere (fun _ _ => Action.noConfusion) (step_cases step)

end InOrder

/-- On each connection, the transfers that the worker carries out are among those submitted, in
the same order, and each submission is carried out once at most. -/
theorem executed_in_order {filters : List String} {config : SharingConfig}
    {devices : List RusbDevice} {clock : ClockReading}
    (run : (conversing engine).Reach (new filters config devices clock) tr s) (i : ConnId) :
    (executionsFor i tr).Sublist (submissions i tr) := by
  have inOrder : InOrder i tr s := by
    have first : InOrder i [] (new filters config devices clock) := List.Sublist.refl []
    refine run.invariant (I := fun tr s => InOrder i tr s) first ?_
    intro tr s a t out hs _ step
    obtain ⟨⟨u, effects⟩, moved, same⟩ := Option.map_eq_some_iff.mp step
    obtain ⟨rfl, rfl⟩ := Prod.mk.inj same
    exact hs.next moved
  exact (List.sublist_append_left _ _).trans inOrder

/-- The middle one of three transfers is refused: it names a handle that is not attached. -/
theorem executed_in_order_refused : ∃ tr s,
    (conversing ⟨[], 0⟩).Reach (oneDevice .exclusive) tr s ∧
      (submissions 0 tr).map Prod.fst = [⟨1⟩, ⟨2⟩, ⟨1⟩] ∧
      (executionsFor 0 tr).map Prod.fst = [⟨1⟩, ⟨1⟩] ∧
      (executionsFor 0 tr).Sublist (submissions 0 tr) := by
  have run := Machine.Reach.of_run (rfl : (conversing ⟨[], 0⟩).run (oneDevice .exclusive)
    (attachRun 0 "a" ++ transferRun 0 ⟨1⟩ ++ [.connection 0 .accept,
      .connection 0 (.message (.submitTransfer ⟨⟨1⟩, ⟨2⟩, .bulk 1 [7] 0 none⟩))] ++
      transferRun 0 ⟨1⟩) = some (_, _))
  exact ⟨_, _, run, rfl, rfl, executed_in_order run 0⟩

end Server
end P2pUsb
