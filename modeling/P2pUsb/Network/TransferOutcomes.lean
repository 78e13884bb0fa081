import P2pUsb.Network.Conversations
import P2pUsb.Network.Executions

/-! What a client gets for a transfer. The response that the device proxy hands back has come the
whole way: from a device, by the worker and a handler that has read this very request, to the
stream of one of the attempts. -/
namespace P2pUsb

/-- What is seen of a server with its devices: what it is asked and tells, and what a device does
for a request. -/
inductive TransferReport where
  | server (report : Report)
  | performed (conn : ConnId) (request : UsbRequest) (device : RusbDevice)
      (result : TransferResult)

def TransferReport.served : TransferReport → Option Report
  | server report => some report
  | performed _ _ _ _ => none

namespace Exchange

/-- What a device does with the transfer that the worker takes from the channel. -/
def performances (s : Server) : Action → List TransferReport
  | .command env =>
      match s.commands with
      | ⟨conn, _, .submitTransfer handle request⟩ :: _ =>
          ((s.manager.transferTarget handle).map fun deviceHandle =>
            .performed conn request deviceHandle.device
              (env.executeTransfer deviceHandle.device request.transfer)).toList
      | _ => []
  | _ => []

/-- The step that the server takes in a step of the exchange. -/
def serverAction (request : UsbRequest) : ExchangeStep → Option Action
  | .deliver _ conn => some (.connection conn (.message (.submitTransfer request)))
  | .server action => some action
  | _ => none

def observed (engine : PolicyEngine) (s : Server) (action : Action) : List TransferReport :=
  ((s.step engine action).elim [] fun next => s.asked action ++ next.2.map .shown).map .server ++
    performances s action

/-- The exchange, where others may send the same request over the same connections. -/
def freeStep (engine : PolicyEngine) (own : ConnId → Bool) (request : UsbRequest) (x : Exchange) :
    ExchangeStep → Option (Exchange × List ExchangeEvent)
  | .server action => x.serverStep engine action
  | a => x.step engine own request a

end Exchange

def observing (engine : PolicyEngine) (own : ConnId → Bool) (request : UsbRequest) :
    Machine Exchange ExchangeStep TransferReport where
  step x a := (Exchange.freeStep engine own request x a).map fun next =>
    (next.1, (Exchange.serverAction request a).elim [] (Exchange.observed engine x.server))

/-- The response answers the request: it is not found, or a device has done this transfer for a
connection of the client, with this result. -/
def Genuine (own : ConnId → Bool) (request : UsbRequest) (tr : List TransferReport)
    (response : UsbResponse) : Prop :=
  response.id = request.id ∧ (response.result = .error .notFound ∨
    ∃ conn device, own conn = true ∧ .performed conn request device response.result ∈ tr)

namespace DeviceProxy

/-- What `submit_transfer` of the proxy may return: a genuine response, or an error after all
attempts. A response that could be tried again comes only from the last one. -/
def Settled (own : ConnId → Bool) (request : UsbRequest) (tr : List TransferReport)
    (attempts : Nat) : Except String UsbResponse → Prop
  | .ok response => Genuine own request tr response ∧
      (retryable (.ok response) → attempts = maxRetries)
  | .error text => text = "Transfer failed after retries" ∧ attempts = maxRetries

end DeviceProxy

section
variable {own : ConnId → Bool} {request : UsbRequest} {tr : List TransferReport}

theorem Genuine.mono {response : UsbResponse} (genuine : Genuine own request tr response)
    (out : List TransferReport) : Genuine own request (tr ++ out) response := by
  obtain ⟨same, result⟩ := genuine
  refine ⟨same, result.imp_right fun ⟨conn, device, mine, seen⟩ => ?_⟩
  exact ⟨conn, device, mine, List.mem_append_left out seen⟩

theorem DeviceProxy.Settled.mono {attempts : Nat} {result : Except String UsbResponse}
    (settled : Settled own request tr attempts result) (out : List TransferReport) :
    Settled own request (tr ++ out) attempts result := by
  cases result with
  | error text => exact settled
  | ok response => exact ⟨settled.1.mono out, settled.2⟩

end

/-! ### What follows a request on a connection -/

/-- After a request nothing has been said yet, or its answer comes first. -/
theorem next_line {inquiries inquiries' : List Inquiry} {pending : Option Asking}
    {asking : Asking} {more : List Line}
    (same : inquiries.flatMap Inquiry.lines ++ .request asking :: more =
      inquiries'.flatMap Inquiry.lines ++ (pending.map Line.request).toList) :
    more = [] ∨ ∃ e ∈ inquiries', ∃ rest, e.request = asking ∧
      more = .response e.response :: rest := by
  induction inquiries generalizing inquiries' with
  | nil =>
      cases inquiries' with
      | nil =>
          cases pending with
          | none => cases same
          | some unanswered =>
              left
              exact (List.cons.inj same).2
      | cons e rest =>
          right
          obtain ⟨first, others⟩ := List.cons.inj same
          exact ⟨e, List.mem_cons_self, _, (Line.request.inj first).symm, others⟩
  | cons e inquiries ih =>
      cases inquiries' with
      | nil =>
          have short := congrArg List.length same
          cases pending <;> simp [Inquiry.lines] at short
      | cons e' rest =>
          have later := (List.cons.inj (List.cons.inj same).2).2
          rcases ih later with silent | ⟨own, mem, rest, asked, answer⟩
          · exact .inl silent
          · exact .inr ⟨own, List.mem_cons_of_mem e' mem, rest, asked, answer⟩

namespace StreamPhase

theorem settle_streams (out : List Effect) (streams : List StreamPhase) :
    out.foldl (fun streams e => streams.map fun p => p.settle e) streams =
      streams.map fun p => out.foldl settle p := by
  induction out generalizing streams with
  | nil => exact (List.map_id streams).symm
  | cons e out ih =>
      rw [List.foldl_cons, ih, List.map_map]
      rfl

/-- A stream that no connection handles hears nothing. -/
theorem settle_unhandled {phase : StreamPhase} (idle : ∀ conn, phase ≠ .handling conn)
    (out : List Effect) : out.foldl settle phase = phase := by
  induction out with
  | nil => rfl
  | cons e out ih =>
      have same : phase.settle e = phase := by
        unfold settle
        split
        · cases phase with
          | handling conn => exact absurd rfl (idle conn)
          | _ => rfl
        · rfl
      rw [List.foldl_cons, same, ih]

/-- The stream gets the first response on the connection that handles it. -/
theorem settle_handling (conn : ConnId) (out : List Effect) :
    (dialogue conn (out.map .shown) = [] ∧ out.foldl settle (.handling conn) = .handling conn) ∨
      ∃ payload rest, dialogue conn (out.map .shown) = .response payload :: rest ∧
        out.foldl settle (.handling conn) = .answered payload := by
  induction out with
  | nil => exact .inl ⟨rfl, rfl⟩
  | cons e out ih =>
      rw [List.foldl_cons]
      by_cases mine : ∃ payload, e = .connection conn (.responded payload)
      · obtain ⟨payload, rfl⟩ := mine
        right
        refine ⟨payload, dialogue conn (out.map .shown), ?_, ?_⟩
        · rw [dialogue, List.map_cons, List.filterMap_cons, line_responded, if_pos rfl]
          rfl
        · rw [settle, if_pos rfl]
          exact settle_unhandled (fun _ => StreamPhase.noConfusion) out
      · have silent : dialogue conn ((e :: out).map .shown) = dialogue conn (out.map .shown) := by
          rw [dialogue, List.map_cons, List.filterMap_cons]
          cases e with
          | connection j effect =>
              cases effect with
              | responded payload =>
                  have other : j ≠ conn := by
                    rintro rfl
                    exact mine ⟨payload, rfl⟩
                  rw [line_responded, if_neg other]
                  rfl
              | checked => rfl
          | answered | executed => rfl
        have same : (handling conn).settle e = handling conn := by
          unfold settle
          split
          case h_1 i payload =>
            refine if_neg ?_
            rintro rfl
            exact mine ⟨payload, rfl⟩
          case h_2 => rfl
        rw [same, silent]
        exact ih

end StreamPhase

/-! ### The server and the devices -/

namespace Exchange
variable {engine : PolicyEngine} {own : ConnId → Bool} {request : UsbRequest} {x y : Exchange}
  {tr out : List TransferReport}

/-- A step of the exchange is one of its client or of its network, or it is one of the server,
whose responses go to the streams. -/
inductive Progress (engine : PolicyEngine) (own : ConnId → Bool) (request : UsbRequest)
    (x : Exchange) (a : ExchangeStep) (y : Exchange) : Prop
  | client (taken : serverAction request a = none) (same : y.server = x.server)
      (streams : ∀ p ∈ y.streams, p ∈ x.streams ∨ p = .sent ∨ p = .lost)
  | server (action : Action) (effects : List Effect)
      (taken : serverAction request a = some action)
      (moved : x.server.step engine action = some (y.server, effects))
      (streams : ∀ p ∈ y.streams, (∃ q ∈ x.streams, p = effects.foldl StreamPhase.settle q) ∨
        ∃ conn, own conn = true ∧ action = .connection conn (.message (.submitTransfer request)) ∧
          p = effects.foldl StreamPhase.settle (.handling conn))

theorem step_progress {a : ExchangeStep} {events : List ExchangeEvent}
    (step : x.freeStep engine own request a = some (y, events)) :
    Progress engine own request x a y := by
  cases a with
  | call =>
      simp only [freeStep, Exchange.step] at step
      split at step
      case h_1 =>
        cases step
        refine .client rfl rfl fun p mem => (List.mem_append.mp mem).imp_right fun new => ?_
        exact .inl (List.mem_singleton.mp new)
      case h_2 => cases step
  | reply | retry | fail =>
      simp only [freeStep, Exchange.step] at step
      split at step
      case h_1 =>
        cases step
        exact .client rfl rfl fun p mem => .inl mem
      case h_2 => cases step
  | lose stream =>
      simp only [freeStep, Exchange.step] at step
      split at step
      case h_1 =>
        cases step
        refine .client rfl rfl fun p mem => ?_
        exact (List.mem_or_eq_of_mem_set mem).imp_right .inr
      case h_2 => cases step
  | deliver stream conn =>
      simp only [freeStep, Exchange.step] at step
      split at step
      case h_1 mine =>
        obtain ⟨⟨next, effects⟩, moved, same⟩ := Option.map_eq_some_iff.mp step
        obtain ⟨rfl, -⟩ := Prod.mk.inj same
        refine .server _ effects rfl moved fun p mem => ?_
        rw [StreamPhase.settle_streams] at mem
        obtain ⟨q, there, rfl⟩ := List.mem_map.mp mem
        rcases List.mem_or_eq_of_mem_set there with old | rfl
        · exact .inl ⟨q, old, rfl⟩
        · exact .inr ⟨conn, mine, rfl, rfl⟩
      case h_2 => cases step
  | server action =>
      obtain ⟨⟨next, effects⟩, moved, same⟩ := Option.map_eq_some_iff.mp step
      obtain ⟨rfl, -⟩ := Prod.mk.inj same
      refine .server action effects rfl moved fun p mem => ?_
      rw [StreamPhase.settle_streams] at mem
      obtain ⟨q, there, rfl⟩ := List.mem_map.mp mem
      exact .inl ⟨q, there, rfl⟩

theorem performances_cases (s : Server) (action : Action) {e : TransferReport}
    (mem : e ∈ performances s action) :
    ∃ conn request device result, e = .performed conn request device result := by
  unfold performances at mem
  split at mem
  · split at mem
    · obtain ⟨deviceHandle, -, rfl⟩ := Option.map_eq_some_iff.mp (Option.mem_toList.mp mem)
      exact ⟨_, _, _, _, rfl⟩
    · cases mem
  · cases mem

/-- What is observed in a step. -/
theorem observing_cases {a : ExchangeStep}
    (step : (observing engine own request).step x a = some (y, out)) :
    ∃ events, x.freeStep engine own request a = some (y, events) ∧
      out = (serverAction request a).elim [] (observed engine x.server) := by
  obtain ⟨⟨next, events⟩, moved, same⟩ := Option.map_eq_some_iff.mp step
  obtain ⟨rfl, rfl⟩ := Prod.mk.inj same
  exact ⟨events, moved, rfl⟩

theorem observed_step {s t : Server} {action : Action} {effects : List Effect}
    (moved : s.step engine action = some (t, effects)) :
    observed engine s action =
      (s.asked action ++ effects.map Report.shown).map .server ++ performances s action := by
  rw [observed, moved]
  rfl

theorem served_observed {s t : Server} {action : Action} {effects : List Effect}
    (moved : s.step engine action = some (t, effects)) :
    (observed engine s action).filterMap TransferReport.served =
      s.asked action ++ effects.map .shown := by
  have told : ∀ reports : List Report,
      (reports.map TransferReport.server).filterMap TransferReport.served = reports := by
    intro reports
    rw [List.filterMap_map]
    exact List.filterMap_some
  have performed : (performances s action).filterMap TransferReport.served = [] := by
    rw [List.filterMap_eq_nil_iff]
    intro e mem
    obtain ⟨_, _, _, _, rfl⟩ := performances_cases s action mem
    rfl
  rw [observed_step moved, List.filterMap_append, told, performed, List.append_nil]

/-- The server's part of the run. -/
theorem served_reach {x₀ : Exchange} (run : (observing engine own request).Reach x₀ tr x) :
    (conversing engine).Reach x₀.server (tr.filterMap TransferReport.served) x.server := by
  refine run.projects (f := Exchange.server) fun x a y out step => ?_
  obtain ⟨events, moved, rfl⟩ := observing_cases step
  cases step_progress moved with
  | client taken same =>
      rw [taken, same]
      exact .start
  | server action effects taken moved =>
      rw [taken, Option.elim_some, served_observed moved]
      exact .of_step (a := action) (Option.map_eq_some_iff.mpr ⟨_, moved, rfl⟩)

/-- Where the worker has answered a transfer, a device has done it, or there was none. -/
def Executed (tr : List TransferReport) : Prop :=
  ∀ conn token handle request response,
    .server (.shown (.answered conn token (.submitTransfer handle request)
      (.transferred response))) ∈ tr →
    response.result = .error .notFound ∨
      ∃ device, .performed conn request device response.result ∈ tr

theorem answered_step {s t : Server} {action : Action} {effects : List Effect}
    (step : s.step engine action = some (t, effects)) {conn : ConnId} {token : Nat}
    {cmd : UsbCommand} {reply : UsbReply} (mem : .answered conn token cmd reply ∈ effects) :
    ∃ env rest, action = .command env ∧ s.commands = ⟨conn, token, cmd⟩ :: rest ∧
      reply = (s.manager.handleCommandInner { env with now := s.clock.instant } cmd).1 := by
  cases Server.step_cases step with
  | command env q rest head =>
      rcases List.mem_cons.mp mem with same | wrong
      · obtain ⟨rfl, rfl, rfl, rfl⟩ := Effect.answered.inj same
        exact ⟨env, rest, rfl, head, rfl⟩
      · obtain ⟨_, _, _, wrong⟩ := executed_of_mem wrong
        cases wrong
  | handler _ _ _ _ effects =>
      obtain ⟨_, -, wrong⟩ := List.mem_map.mp mem
      cases wrong
  | monitor | connect | enqueue | worker | fire | emit => cases mem

theorem executed (run : (observing engine own request).Reach x tr y) : Executed tr := by
  refine run.invariant (I := fun tr _ => Executed tr) ?_ ?_
  · intro conn token handle request response mem
    cases mem
  intro tr x a y out before _ step conn token handle other response mem
  rcases List.mem_append.mp mem with old | new
  · refine (before conn token handle other response old).imp_right ?_
    exact fun ⟨device, seen⟩ => ⟨device, List.mem_append_left out seen⟩
  obtain ⟨events, progress, rfl⟩ := observing_cases step
  cases step_progress progress with
  | client taken =>
      rw [taken] at new
      cases new
  | server action effects taken moved =>
  rw [taken, Option.elim_some, observed_step moved] at new ⊢
  have shown : .answered conn token (.submitTransfer handle other) (.transferred response) ∈
      effects := by
    rcases List.mem_append.mp new with told | wrong
    · obtain ⟨report, mem, same⟩ := List.mem_map.mp told
      obtain rfl := TransferReport.server.inj same
      rcases List.mem_append.mp mem with wrong | mem
      · obtain ⟨_, _, wrong⟩ := Server.mem_asked wrong
        cases wrong
      · obtain ⟨effect, mem, same⟩ := List.mem_map.mp mem
        exact Report.shown.inj same ▸ mem
    · obtain ⟨_, _, _, _, wrong⟩ := performances_cases _ _ wrong
      cases wrong
  obtain ⟨env, rest, rfl, head, reply⟩ := answered_step moved shown
  obtain rfl : response = x.server.manager.submitTransfer
      { env with now := x.server.clock.instant } handle other := UsbReply.transferred.inj reply
  dsimp only [DeviceManager.submitTransfer]
  cases found : x.server.manager.transferTarget handle with
  | none => exact .inl rfl
  | some deviceHandle =>
      right
      refine ⟨deviceHandle.device, List.mem_append_right _ (List.mem_append_right _ ?_)⟩
      simp only [performances, head, found, Option.map_some, Option.toList_some]
      exact List.mem_singleton_self _

/-! ### The streams -/

/-- On the connection that handles a stream the request has been said last, and what a stream has
been answered is genuine. -/
def Honest (own : ConnId → Bool) (request : UsbRequest) (tr : List TransferReport) :
    StreamPhase → Prop
  | .handling conn => own conn = true ∧ ∃ (inquiries : List Inquiry) (attached : List DeviceHandle),
      dialogue conn (tr.filterMap TransferReport.served) =
        inquiries.flatMap Inquiry.lines ++ [.request ⟨.submitTransfer request, attached⟩]
  | .answered payload => ∃ response, payload = .transferComplete response ∧
      Genuine own request tr response
  | .sent | .lost => True

theorem Honest.mono {p : StreamPhase} (honest : Honest own request tr p)
    (silent : ∀ conn, p = .handling conn →
      dialogue conn (out.filterMap TransferReport.served) = []) :
    Honest own request (tr ++ out) p := by
  cases p with
  | sent | lost => trivial
  | handling conn =>
      obtain ⟨mine, inquiries, attached, said⟩ := honest
      refine ⟨mine, inquiries, attached, ?_⟩
      rw [List.filterMap_append, dialogue_append, silent conn rfl, List.append_nil, said]
  | answered payload =>
      obtain ⟨response, same, genuine⟩ := honest
      exact ⟨response, same, genuine.mono out⟩

/-- The answer to the request on one of the client's connections. -/
theorem answer_genuine (done : Executed tr) {conn : ConnId} (mine : own conn = true) {e : Inquiry}
    (answered : e.Answered (tr.filterMap TransferReport.served) conn)
    (asked : e.request.payload = .submitTransfer request) :
    ∃ response, e.response = .transferComplete response ∧ Genuine own request tr response := by
  obtain ⟨⟨payload, attached⟩, first, last, answer⟩ := e
  obtain rfl : payload = .submitTransfer request := asked
  cases answer with
  | transferComplete response =>
      obtain ⟨same, result⟩ := answered
      refine ⟨response, rfl, same, ?_⟩
      split at result
      case isFalse => exact .inl result
      case isTrue =>
        obtain ⟨token, -, -, seen⟩ := result
        obtain ⟨report, mem, told⟩ := List.mem_filterMap.mp seen
        cases report with
        | server report =>
            obtain rfl := Option.some.inj told
            exact (done _ _ _ _ _ mem).imp_right fun ⟨device, done⟩ => ⟨conn, device, mine, done⟩
        | performed => cases told
  | error message => exact absurd trivial answered.1
  | _ => exact answered.elim

/-- Everything that was said on a connection, as requests with their answers. -/
def Spoken (tr : List Report) : Prop :=
  ∀ conn, ∃ (inquiries : List Inquiry) (pending : Option Asking),
    dialogue conn tr = inquiries.flatMap Inquiry.lines ++ (pending.map Line.request).toList ∧
      ∀ e ∈ inquiries, e.Answered tr conn

theorem spoken {filters : List String} {config : SharingConfig} {devices : List RusbDevice}
    {clock : ClockReading} {reports : List Report} {s : Server}
    (run : (conversing engine).Reach (.new filters config devices clock) reports s) :
    Spoken reports := by
  intro conn
  have conversations := Server.Conversations.reach run
  cases found : s.conns.lookup conn with
  | none =>
      refine ⟨[], none, ?_, List.forall_mem_nil _⟩
      exact conversations.fresh conn (AList.lookup_eq_none.mp found)
  | some c =>
      obtain ⟨inquiries, pending, -, conversed, -⟩ := conversations.talking conn c found
      exact ⟨inquiries, pending, conversed.said, conversed.answered⟩

/-- A connection that has read the request reads nothing more before its answer. -/
theorem Honest.settle (done : Executed tr) (spoken : Spoken (tr.filterMap TransferReport.served))
    {conn : ConnId} (mine : own conn = true) {before : List Inquiry} {effects : List Effect}
    {attached : List DeviceHandle}
    (said : dialogue conn (tr.filterMap TransferReport.served) = before.flatMap Inquiry.lines ++
      .request ⟨.submitTransfer request, attached⟩ :: dialogue conn (effects.map .shown)) :
    Honest own request tr (effects.foldl StreamPhase.settle (.handling conn)) := by
  rcases StreamPhase.settle_handling conn effects with ⟨silent, same⟩ | ⟨payload, rest, told, same⟩
  · rw [same]
    rw [silent] at said
    exact ⟨mine, before, attached, said⟩
  · rw [same]
    obtain ⟨inquiries, pending, whole, answered⟩ := spoken conn
    rw [told] at said
    rcases next_line (said.symm.trans whole) with wrong | ⟨e, mem, more, asked, answer⟩
    · cases wrong
    · obtain rfl : payload = e.response := Line.response.inj (List.cons.inj answer).1
      exact answer_genuine done mine (answered e mem) (congrArg Asking.payload asked)

/-- No second request comes before the answer to the first. -/
theorem Spoken.not_again {tr : List Report} (spoken : Spoken tr) {conn : ConnId}
    {before : List Inquiry} {asking again : Asking} {more : List Line} :
    dialogue conn tr ≠
      before.flatMap Inquiry.lines ++ .request asking :: .request again :: more := by
  intro said
  obtain ⟨inquiries, pending, whole, -⟩ := spoken conn
  rcases next_line (said.symm.trans whole) with wrong | ⟨e, -, rest, -, wrong⟩
  · cases wrong
  · cases wrong

theorem asked_cases (s : Server) (action : Action) (conn : ConnId) :
    dialogue conn (s.asked action) = [] ∨
      ∃ asking, dialogue conn (s.asked action) = [.request asking] := by
  rcases s.asked_eq action with none | ⟨i, asking, one⟩
  · exact .inl (congrArg (dialogue conn) none)
  · rw [one]
    by_cases own : i = conn
    · exact .inr ⟨asking, by simp [dialogue, Report.line, own]⟩
    · exact .inl (by simp [dialogue, Report.line, own])

variable {filters : List String} {config : SharingConfig} {devices : List RusbDevice}
  {clock : ClockReading}

theorem streams_honest
    (run : (observing engine own request).Reach (start filters config devices clock) tr x) :
    ∀ p ∈ x.streams, Honest own request tr p := by
  refine run.invariantAlong (I := fun tr x => ∀ p ∈ x.streams, Honest own request tr p)
    (List.forall_mem_nil _) ?_
  intro tr x a y out before honest _ step p mem
  have after := before.next trivial step
  have done := executed after
  have spokenBefore := spoken (served_reach before)
  have spokenAfter := spoken (served_reach after)
  obtain ⟨events, progress, rfl⟩ := observing_cases step
  cases step_progress progress with
  | client taken same streams =>
      rw [taken]
      rcases streams p mem with old | rfl | rfl
      · exact (honest p old).mono fun conn _ => rfl
      · trivial
      · trivial
  | server action effects taken moved streams =>
  rw [taken, Option.elim_some] at done spokenAfter ⊢
  have heard : (tr ++ observed engine x.server action).filterMap TransferReport.served =
      tr.filterMap TransferReport.served ++ (x.server.asked action ++ effects.map .shown) := by
    rw [List.filterMap_append, served_observed moved]
  rcases streams p mem with ⟨q, old, rfl⟩ | ⟨conn, mine, rfl, rfl⟩
  · have honest := honest q old
    cases q with
    | sent | lost | answered =>
        rw [StreamPhase.settle_unhandled fun _ => StreamPhase.noConfusion]
        exact honest.mono fun _ wrong => StreamPhase.noConfusion wrong
    | handling conn =>
        obtain ⟨mine, inquiries, attached, said⟩ := honest
        rcases asked_cases x.server action conn with silent | ⟨asking, asked⟩
        · have alone : dialogue conn ((tr ++ observed engine x.server action).filterMap
              TransferReport.served) = inquiries.flatMap Inquiry.lines ++
                .request ⟨.submitTransfer request, attached⟩ ::
                  dialogue conn (effects.map .shown) := by
            rw [heard, dialogue_append, dialogue_append, said, silent, List.append_assoc]
            rfl
          exact Honest.settle done spokenAfter mine alone
        · have twice : dialogue conn ((tr ++ observed engine x.server action).filterMap
              TransferReport.served) = inquiries.flatMap Inquiry.lines ++
                .request ⟨.submitTransfer request, attached⟩ :: .request asking ::
                  dialogue conn (effects.map .shown) := by
            rw [heard, dialogue_append, dialogue_append, said, asked, List.append_assoc]
            rfl
          exact absurd twice spokenAfter.not_again
  · obtain ⟨c, found, -⟩ := Option.bind_eq_some_iff.mp moved
    have asked : dialogue conn
        (x.server.asked (.connection conn (.message (.submitTransfer request)))) =
          [.request ⟨.submitTransfer request, c.attachedDevices.keys⟩] := by
      rw [Server.asked_connection found]
      simp [dialogue, ClientConnection.asked, Report.line]
    obtain ⟨inquiries, pending, whole, -⟩ := spokenBefore conn
    cases pending with
    | none =>
        have alone : dialogue conn ((tr ++ observed engine x.server
            (.connection conn (.message (.submitTransfer request)))).filterMap
              TransferReport.served) = inquiries.flatMap Inquiry.lines ++
                .request ⟨.submitTransfer request, c.attachedDevices.keys⟩ ::
                  dialogue conn (effects.map .shown) := by
          rw [heard, dialogue_append, dialogue_append, whole, asked, List.append_assoc]
          rfl
        exact Honest.settle done spokenAfter mine alone
    | some asking =>
        have twice : dialogue conn ((tr ++ observed engine x.server
            (.connection conn (.message (.submitTransfer request)))).filterMap
              TransferReport.served) = inquiries.flatMap Inquiry.lines ++
                .request asking :: .request ⟨.submitTransfer request, c.attachedDevices.keys⟩ ::
                  dialogue conn (effects.map .shown) := by
          rw [heard, dialogue_append, dialogue_append, whole, asked, List.append_assoc]
          rfl
        exact absurd twice spokenAfter.not_again

/-! ### The proxy -/

theorem after_attempt_settled {attempts : Nat} (limited : attempts ≤ DeviceProxy.maxRetries)
    {outcome result : Except String UsbResponse}
    (genuine : ∀ response, outcome = .ok response → Genuine own request tr response)
    (done : DeviceProxy.afterAttempt attempts outcome = .done result) :
    DeviceProxy.Settled own request tr attempts result := by
  cases outcome with
  | error text =>
      simp only [DeviceProxy.afterAttempt] at done
      split at done
      case isTrue => cases done
      case isFalse spent =>
        obtain rfl := DeviceProxy.Phase.done.inj done
        exact ⟨rfl, le_antisymm limited (not_lt.mp spent)⟩
  | ok response =>
      have genuine := genuine response rfl
      obtain ⟨id, got⟩ := response
      cases got with
      | error error =>
          simp only [DeviceProxy.afterAttempt] at done
          split at done
          case isTrue => cases done
          case isFalse last =>
            obtain rfl := DeviceProxy.Phase.done.inj done
            refine ⟨genuine, fun again => le_antisymm limited (not_lt.mp fun left => ?_)⟩
            exact last ⟨again, left⟩
      | _ =>
          obtain rfl := DeviceProxy.Phase.done.inj done
          exact ⟨genuine, fun again => absurd again Bool.false_ne_true⟩

/-- What a step does to the retry loop. An attempt ends with an error, or with what has come on the
last stream. -/
inductive ProxyMove (x y : Exchange) : Prop
  | stays (attempts : y.attempts = x.attempts) (proxy : y.proxy = x.proxy)
  | calls (ready : x.proxy = .ready) (attempts : y.attempts = x.attempts + 1)
      (proxy : y.proxy = .calling)
  | ends (outcome : Except String UsbResponse) (calling : x.proxy = .calling)
      (got : ∀ response, outcome = .ok response →
        ∃ payload, .answered payload ∈ x.streams ∧ transferReply payload = .ok response)
      (attempts : y.attempts = x.attempts)
      (proxy : y.proxy = DeviceProxy.afterAttempt x.attempts outcome)
  | retries (sleeping : x.proxy = .sleeping) (attempts : y.attempts = x.attempts)
      (proxy : y.proxy = .ready)

theorem proxy_moves {a : ExchangeStep} {events : List ExchangeEvent}
    (step : x.freeStep engine own request a = some (y, events)) : ProxyMove x y := by
  cases a with
  | server action =>
      obtain ⟨next, -, same⟩ := Option.map_eq_some_iff.mp step
      obtain ⟨rfl, -⟩ := Prod.mk.inj same
      exact .stays rfl rfl
  | call =>
      simp only [freeStep, Exchange.step] at step
      split at step
      case h_1 ready =>
        cases step
        exact .calls ready rfl rfl
      case h_2 => cases step
  | reply =>
      simp only [freeStep, Exchange.step] at step
      split at step
      case h_1 payload calling last =>
        cases step
        refine .ends (transferReply payload) calling (fun response got => ?_) rfl rfl
        exact ⟨payload, List.mem_of_getLast? last, got⟩
      case h_2 => cases step
  | fail text =>
      simp only [freeStep, Exchange.step] at step
      split at step
      case h_1 calling =>
        cases step
        refine .ends (.error text) calling (fun response wrong => ?_) rfl rfl
        cases wrong
      case h_2 => cases step
  | retry =>
      simp only [freeStep, Exchange.step] at step
      split at step
      case h_1 sleeping =>
        cases step
        exact .retries sleeping rfl rfl
      case h_2 => cases step
  | lose stream =>
      simp only [freeStep, Exchange.step] at step
      split at step
      case h_1 =>
        cases step
        exact .stays rfl rfl
      case h_2 => cases step
  | deliver stream conn =>
      simp only [freeStep, Exchange.step] at step
      split at step
      case h_1 =>
        obtain ⟨next, -, same⟩ := Option.map_eq_some_iff.mp step
        obtain ⟨rfl, -⟩ := Prod.mk.inj same
        exact .stays rfl rfl
      case h_2 => cases step

/-- The attempts made, and the next one where it is due, are at most three. -/
def Limited (x : Exchange) : Prop :=
  x.attempts + (!x.proxy.attempted).toNat ≤ DeviceProxy.maxRetries

theorem ProxyMove.limited (move : ProxyMove x y) (limited : Limited x) : Limited y := by
  unfold Limited at limited ⊢
  cases move with
  | stays attempts proxy =>
      rw [attempts, proxy]
      exact limited
  | calls ready attempts proxy =>
      rw [ready] at limited
      rw [attempts, proxy]
      exact limited
  | ends outcome calling got attempts proxy =>
      rw [calling] at limited
      rw [attempts, proxy]
      rcases DeviceProxy.after_attempt_cases x.attempts outcome with ⟨same, -, left⟩ | ⟨r, same⟩
      · rw [same]
        exact left
      · rw [same]
        exact limited
  | retries sleeping attempts proxy =>
      rw [sleeping] at limited
      rw [attempts, proxy]
      exact limited

/-- What the proxy has returned, if it has returned. -/
def Returned (own : ConnId → Bool) (request : UsbRequest) (tr : List TransferReport)
    (x : Exchange) : Prop :=
  ∀ result, x.proxy = .done result → DeviceProxy.Settled own request tr x.attempts result

theorem ProxyMove.returned (move : ProxyMove x y) (limited : Limited x)
    (honest : ∀ p ∈ x.streams, Honest own request tr p) (returned : Returned own request tr x) :
    Returned own request tr y := by
  intro result done
  cases move with
  | stays attempts proxy =>
      rw [attempts]
      exact returned result (proxy ▸ done)
  | calls _ _ proxy | retries _ _ proxy =>
      rw [proxy] at done
      cases done
  | ends outcome calling got attempts proxy =>
      rw [proxy] at done
      rw [attempts]
      have limited : x.attempts ≤ DeviceProxy.maxRetries := (Nat.le_add_right _ _).trans limited
      refine after_attempt_settled limited (fun response same => ?_) done
      obtain ⟨payload, answered, reply⟩ := got response same
      obtain ⟨answer, rfl, genuine⟩ := honest _ answered
      obtain rfl := Except.ok.inj reply
      exact genuine

theorem returned
    (run : (observing engine own request).Reach (start filters config devices clock) tr x) :
    Returned own request tr x := by
  have first : Limited (start filters config devices clock) := Nat.succ_le_succ (Nat.zero_le 2)
  refine (run.invariantAlong (I := fun tr x => Limited x ∧ Returned own request tr x)
    ⟨first, fun result wrong => DeviceProxy.Phase.noConfusion wrong⟩ ?_).2
  rintro tr x a y out before ⟨limited, returned⟩ _ step
  obtain ⟨events, moved, -⟩ := observing_cases step
  have move := proxy_moves moved
  refine ⟨move.limited limited, fun result done => ?_⟩
  exact (move.returned limited (streams_honest before) returned result done).mono out

/-- Whatever is lost on the way and whoever else uses the server, the proxy returns what a device
has done with this very request for a connection of its client, or not found, or an error when
three attempts have failed. -/
theorem transfer_outcome
    (run : (observing engine own request).Reach (start filters config devices clock) tr x)
    {result : Except String UsbResponse} (done : x.proxy = .done result) :
    DeviceProxy.Settled own request tr x.attempts result :=
  returned run result done

/-- A write of one byte. -/
def oneByte : UsbRequest := ⟨⟨1⟩, ⟨1⟩, .bulk 1 [7] 0 none⟩

/-- An attempt on a stream of its own, read by connection 0 and answered. -/
def attempt (stream : Nat) : List ExchangeStep :=
  [.call, .server (.connection 0 .accept), .deliver stream 0, .server (.connection 0 .release),
    .server (.connection 0 .enqueue)] ++ Server.serve.map .server ++
    [.server (.connection 0 .resume)]

/-- The response to the first attempt is lost, and the second one comes through. -/
theorem transfer_outcome_retried : ∃ tr x response,
    (observing ⟨[], 0⟩ (· == 0) oneByte).Reach (start []
      (UsbWorkerThread.exampleConfig .exclusive) [DeviceManager.exampleDevice 0 1 1] ⟨0, 0⟩) tr x ∧
      x.proxy = .done (.ok response) ∧ x.attempts = 2 ∧
      DeviceProxy.Settled (· == 0) oneByte tr x.attempts (.ok response) := by
  have run := Machine.Reach.of_run (rfl : (observing ⟨[], 0⟩ (· == 0) oneByte).run (start []
    (UsbWorkerThread.exampleConfig .exclusive) [DeviceManager.exampleDevice 0 1 1] ⟨0, 0⟩)
    ((Server.attachRun 0 "a").map .server ++ attempt 0 ++ [.fail "connection lost", .retry] ++
      attempt 1 ++ [.reply]) = some (_, _))
  exact ⟨_, _, _, run, rfl, rfl, transfer_outcome run rfl⟩

end Exchange
end P2pUsb
