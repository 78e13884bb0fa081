import P2pUsb.Network.TransferOutcomes
import P2pUsb.VirtualUsb.Completion
import P2pUsb.VirtualUsb.Translation

/-! The whole path of a request of the kernel: the socket bridge with the calls of its device proxy,
and the server, which they share with each other and with its other clients. What the kernel reads
for a CMD_SUBMIT is what a device has done for the translation of it. -/
namespace P2pUsb

/-- `submit_transfer` of the device proxy, called by a task of the bridge. -/
structure ProxyCall where
  task : Nat
  request : UsbRequest
  attempts : Nat
  proxy : DeviceProxy.Phase
  streams : List StreamPhase

namespace ProxyCall

def start (task : Nat) (request : UsbRequest) : ProxyCall := ⟨task, request, 0, .ready, []⟩

/-- The call with the server, as an exchange of its own. -/
def exchange (c : ProxyCall) (server : Server) : Exchange where
  attempts := c.attempts
  proxy := c.proxy
  streams := c.streams
  server := server

def settle (c : ProxyCall) (out : List Effect) : ProxyCall :=
  { c with streams := out.foldl (fun streams e => streams.map fun p => p.settle e) c.streams }

end ProxyCall

/-- A task calls the proxy with its request. -/
def BridgeEvent.opens : BridgeEvent → Option ProxyCall
  | .toProxy i _ request => some (.start i request)
  | _ => none

structure UsbPath where
  bridge : SocketBridge
  calls : List ProxyCall
  server : Server

inductive PathStep where
  | bridge (step : BridgeStep)
  | call (k : Nat) (step : ExchangeStep)
  | finish (k : Nat)
  | server (action : Action)

inductive PathReport where
  | bridge (event : BridgeEvent)
  | transfer (report : TransferReport)

namespace PathReport

def event : PathReport → Option BridgeEvent
  | bridge event => some event
  | transfer _ => none

def report : PathReport → Option TransferReport
  | bridge _ => none
  | transfer report => some report

end PathReport

namespace UsbPath

def start (devid : UInt32) (filters : List String) (config : SharingConfig)
    (devices : List RusbDevice) (clock : ClockReading) : UsbPath :=
  ⟨.new devid, [], .new filters config devices clock⟩

/-- The responses of the server go to the streams of all calls. -/
def serverStep (engine : PolicyEngine) (s : UsbPath) (action : Action) :
    Option (UsbPath × List PathReport) :=
  (s.server.step engine action).map fun (next, out) =>
    ({ s with server := next, calls := s.calls.map fun c => c.settle out },
      (Exchange.observed engine s.server action).map .transfer)

/-- A step of one call: its own part of the exchange. -/
def callStep (engine : PolicyEngine) (own : ConnId → Bool) (s : UsbPath) (k : Nat)
    (c : ProxyCall) : ExchangeStep → Option (UsbPath × List PathReport)
  | .server _ => none
  | .deliver stream conn =>
      match c.streams[stream]?, own conn with
      | some .sent, true =>
          let c := { c with streams := c.streams.set stream (.handling conn) }
          serverStep engine { s with calls := s.calls.set k c }
            (.connection conn (.message (.submitTransfer c.request)))
      | _, _ => none
  | a => ((c.exchange s.server).step engine own c.request a).map fun (x, _) =>
      let c := { c with attempts := x.attempts, proxy := x.proxy, streams := x.streams }
      ({ s with calls := s.calls.set k c }, [])

/-- A task of the bridge gets its result only from the call that it has made. -/
def step (engine : PolicyEngine) (own : ConnId → Bool) (s : UsbPath) :
    PathStep → Option (UsbPath × List PathReport)
  | .bridge (.task _ (.proxyReturn _)) => none
  | .bridge a => (s.bridge.step a).map fun (bridge, events) =>
      ({ s with bridge := bridge, calls := s.calls ++ events.filterMap BridgeEvent.opens },
        events.map .bridge)
  | .call k a => (s.calls[k]?).bind fun c => s.callStep engine own k c a
  | .finish k => (s.calls[k]?).bind fun c =>
      match c.proxy with
      | .done result =>
          (s.bridge.step (.task c.task (.proxyReturn result))).map fun (bridge, events) =>
            ({ s with bridge := bridge }, events.map .bridge)
      | _ => none
  | .server action => s.serverStep engine action

end UsbPath

/-- Any number of tasks, of attempts and of other clients, in every order of their steps. -/
def usbPath (engine : PolicyEngine) (own : ConnId → Bool) :
    Machine UsbPath PathStep PathReport where
  step := UsbPath.step engine own

namespace UsbPath
variable {engine : PolicyEngine} {own : ConnId → Bool} {s t : UsbPath} {tr out : List PathReport}

/-- One step of the path: of the bridge, of a call alone, of the server, or of the server with the
request of a call, or the return of a call to its task. -/
inductive Moves (engine : PolicyEngine) (own : ConnId → Bool) (s : UsbPath) :
    UsbPath → List PathReport → Prop
  | bridge (a : BridgeStep) (b : SocketBridge) (events : List BridgeEvent)
      (moved : SocketBridge.machine.step s.bridge a = some (b, events))
      (unreturned : ∀ i result, a ≠ .task i (.proxyReturn result)) :
      Moves engine own s
        { s with bridge := b, calls := s.calls ++ events.filterMap BridgeEvent.opens }
        (events.map .bridge)
  | finish (k : Nat) (c : ProxyCall) (result : Except String UsbResponse) (b : SocketBridge)
      (events : List BridgeEvent) (found : s.calls[k]? = some c) (done : c.proxy = .done result)
      (moved : SocketBridge.machine.step s.bridge (.task c.task (.proxyReturn result)) =
        some (b, events)) :
      Moves engine own s { s with bridge := b } (events.map .bridge)
  | call (k : Nat) (c : ProxyCall) (a : ExchangeStep) (x : Exchange) (events : List ExchangeEvent)
      (found : s.calls[k]? = some c) (quiet : Exchange.serverAction c.request a = none)
      (moved : (c.exchange s.server).step engine own c.request a = some (x, events)) :
      Moves engine own s { s with
        calls := s.calls.set k ⟨c.task, c.request, x.attempts, x.proxy, x.streams⟩ } []
  | deliver (k : Nat) (c : ProxyCall) (stream : Nat) (conn : ConnId) (next : Server)
      (effects : List Effect) (found : s.calls[k]? = some c)
      (sent : c.streams[stream]? = some .sent) (mine : own conn = true)
      (moved : s.server.step engine (.connection conn (.message (.submitTransfer c.request))) =
        some (next, effects)) :
      Moves engine own s { s with
          server := next
          calls := (s.calls.set k { c with streams := c.streams.set stream (.handling conn) }).map
            fun c => c.settle effects }
        ((Exchange.observed engine s.server
          (.connection conn (.message (.submitTransfer c.request)))).map .transfer)
  | server (action : Action) (next : Server) (effects : List Effect)
      (moved : s.server.step engine action = some (next, effects)) :
      Moves engine own s { s with server := next, calls := s.calls.map fun c => c.settle effects }
        ((Exchange.observed engine s.server action).map .transfer)

theorem call_step_moves {k : Nat} {c : ProxyCall} {a : ExchangeStep}
    (found : s.calls[k]? = some c) (step : s.callStep engine own k c a = some (t, out)) :
    Moves engine own s t out := by
  have alone : ∀ {a : ExchangeStep}, Exchange.serverAction c.request a = none →
      ((c.exchange s.server).step engine own c.request a).map (fun (x, _) =>
        (({ s with calls := s.calls.set k { c with
            attempts := x.attempts, proxy := x.proxy, streams := x.streams } } : UsbPath),
          ([] : List PathReport))) = some (t, out) → Moves engine own s t out := by
    intro a quiet step
    obtain ⟨⟨x, events⟩, moved, same⟩ := Option.map_eq_some_iff.mp step
    obtain ⟨rfl, rfl⟩ := Prod.mk.inj same
    exact .call k c a x events found quiet moved
  cases a with
  | server => cases step
  | deliver stream conn =>
      simp only [callStep] at step
      split at step
      case h_1 sent mine =>
        obtain ⟨⟨next, effects⟩, moved, same⟩ := Option.map_eq_some_iff.mp step
        obtain ⟨rfl, rfl⟩ := Prod.mk.inj same
        exact .deliver k c stream conn next effects found sent mine moved
      case h_2 => cases step
  | call | reply | retry | fail | lose => exact alone rfl step

theorem step_moves {a : PathStep} (step : s.step engine own a = some (t, out)) :
    Moves engine own s t out := by
  cases a with
  | bridge a =>
      by_cases returns : ∃ i result, a = .task i (.proxyReturn result)
      · obtain ⟨i, result, rfl⟩ := returns
        cases step
      · have taken : (s.bridge.step a).map (fun (bridge, events) =>
            (({ s with bridge := bridge, calls := s.calls ++ events.filterMap BridgeEvent.opens } :
              UsbPath), events.map PathReport.bridge)) = some (t, out) := by
          rw [← step, UsbPath.step]
          intro i result same
          exact returns ⟨i, result, same⟩
        obtain ⟨⟨b, events⟩, moved, same⟩ := Option.map_eq_some_iff.mp taken
        obtain ⟨rfl, rfl⟩ := Prod.mk.inj same
        exact .bridge a b events moved fun i result same => returns ⟨i, result, same⟩
  | call k a =>
      obtain ⟨c, found, moved⟩ := Option.bind_eq_some_iff.mp step
      exact call_step_moves found moved
  | finish k =>
      obtain ⟨c, found, moved⟩ := Option.bind_eq_some_iff.mp step
      split at moved
      case h_1 result done =>
        obtain ⟨⟨b, events⟩, returned, same⟩ := Option.map_eq_some_iff.mp moved
        obtain ⟨rfl, rfl⟩ := Prod.mk.inj same
        exact .finish k c result b events found done returned
      case h_2 => cases moved
  | server action =>
      obtain ⟨⟨next, effects⟩, moved, same⟩ := Option.map_eq_some_iff.mp step
      obtain ⟨rfl, rfl⟩ := Prod.mk.inj same
      exact .server action next effects moved

/-! ### The parts of a run -/

theorem reported_bridge (events : List BridgeEvent) :
    (events.map PathReport.bridge).filterMap PathReport.event = events ∧
      (events.map PathReport.bridge).filterMap PathReport.report = [] := by
  constructor
  · rw [List.filterMap_map]
    exact List.filterMap_some
  · rw [List.filterMap_map, List.filterMap_eq_nil_iff]
    exact fun _ _ => rfl

theorem reported_transfer (reports : List TransferReport) :
    (reports.map PathReport.transfer).filterMap PathReport.event = [] ∧
      (reports.map PathReport.transfer).filterMap PathReport.report = reports := by
  constructor
  · rw [List.filterMap_map, List.filterMap_eq_nil_iff]
    exact fun _ _ => rfl
  · rw [List.filterMap_map]
    exact List.filterMap_some

theorem bridge_reach {s₀ : UsbPath} (run : (usbPath engine own).Reach s₀ tr s) :
    SocketBridge.machine.Reach s₀.bridge (tr.filterMap PathReport.event) s.bridge := by
  refine run.projects (f := UsbPath.bridge) fun s a t out step => ?_
  cases step_moves step with
  | bridge a b events moved | finish _ _ _ b events _ _ moved =>
      rw [(reported_bridge events).1]
      exact .of_step moved
  | call => exact .start
  | deliver | server =>
      rw [(reported_transfer _).1]
      exact .start

variable {devid : UInt32} {filters : List String} {config : SharingConfig}
  {devices : List RusbDevice} {clock : ClockReading}

/-- The call alone with the server has run as an exchange. -/
def Ran (engine : PolicyEngine) (own : ConnId → Bool) (server : Server) (tr : List PathReport)
    (s : UsbPath) (c : ProxyCall) : Prop :=
  (observing engine own c.request).Reach (ProxyCall.exchange (.start c.task c.request) server)
    (tr.filterMap PathReport.report) (c.exchange s.server)

theorem Ran.frame {server : Server} {c : ProxyCall} (ran : Ran engine own server tr s c)
    (same : t.server = s.server) (silent : out.filterMap PathReport.report = []) :
    Ran engine own server (tr ++ out) t c := by
  rw [Ran, List.filterMap_append, silent, List.append_nil, same]
  exact ran

theorem Ran.server {server next : Server} {c : ProxyCall} {action : Action} {effects : List Effect}
    (ran : Ran engine own server tr s c)
    (moved : s.server.step engine action = some (next, effects)) (same : t.server = next) :
    Ran engine own server
      (tr ++ (Exchange.observed engine s.server action).map .transfer) t (c.settle effects) := by
  rw [Ran, List.filterMap_append, (reported_transfer _).2, same]
  refine ran.next (a := .server action) trivial ?_
  have taken : (c.exchange s.server).serverStep engine action =
      some ((c.settle effects).exchange next, Exchange.executions s.server action) :=
    Option.map_eq_some_iff.mpr ⟨_, moved, rfl⟩
  exact Option.map_eq_some_iff.mpr ⟨_, taken, rfl⟩

theorem settle_start (task : Nat) (request : UsbRequest) (effects : List Effect) :
    (ProxyCall.start task request).settle effects = .start task request := by
  rw [ProxyCall.settle, StreamPhase.settle_streams]
  rfl

/-- Each call has run so, and one that is made now would have. -/
structure Runs (engine : PolicyEngine) (own : ConnId → Bool) (server : Server)
    (tr : List PathReport) (s : UsbPath) : Prop where
  calls : ∀ c ∈ s.calls, Ran engine own server tr s c
  next : ∀ task request, Ran engine own server tr s (.start task request)

/-- The call has taken a step that the server takes no part in. -/
theorem Ran.call {server : Server} {c : ProxyCall} {a : ExchangeStep} {x : Exchange}
    {events : List ExchangeEvent} (ran : Ran engine own server tr s c)
    (quiet : Exchange.serverAction c.request a = none)
    (moved : (c.exchange s.server).step engine own c.request a = some (x, events))
    (same : t.server = s.server) :
    Ran engine own server (tr ++ []) t ⟨c.task, c.request, x.attempts, x.proxy, x.streams⟩ := by
  have free : (c.exchange s.server).freeStep engine own c.request a = some (x, events) := by
    cases a with
    | server => cases quiet
    | _ => exact moved
  have kept : x.server = s.server := by
    cases Exchange.step_progress free with
    | client _ kept => exact kept
    | server _ _ taken => cases quiet.symm.trans taken
  rw [Ran, List.filterMap_append, same, ← kept]
  refine ran.next (a := a) trivial (Option.map_eq_some_iff.mpr ⟨_, free, ?_⟩)
  rw [quiet]
  rfl

/-- The request of the call has reached a connection. -/
theorem Ran.deliver {server next : Server} {c : ProxyCall} {stream : Nat} {conn : ConnId}
    {effects : List Effect} (ran : Ran engine own server tr s c)
    (sent : c.streams[stream]? = some .sent) (mine : own conn = true)
    (moved : s.server.step engine (.connection conn (.message (.submitTransfer c.request))) =
      some (next, effects)) (same : t.server = next) :
    Ran engine own server
      (tr ++ (Exchange.observed engine s.server
        (.connection conn (.message (.submitTransfer c.request)))).map .transfer) t
      (ProxyCall.settle { c with streams := c.streams.set stream (.handling conn) } effects) := by
  rw [Ran, List.filterMap_append, (reported_transfer _).2, same]
  refine ran.next (a := .deliver stream conn) trivial ?_
  have taken : (c.exchange s.server).freeStep engine own c.request (.deliver stream conn) =
      some ((ProxyCall.settle { c with streams := c.streams.set stream (.handling conn) }
        effects).exchange next, Exchange.executions s.server
          (.connection conn (.message (.submitTransfer c.request)))) := by
    simp only [Exchange.freeStep, Exchange.step, ProxyCall.exchange, sent, mine]
    exact Option.map_eq_some_iff.mpr ⟨_, moved, rfl⟩
  exact Option.map_eq_some_iff.mpr ⟨_, taken, rfl⟩

theorem Runs.step {server : Server} (runs : Runs engine own server tr s) {a : PathStep}
    (step : s.step engine own a = some (t, out)) : Runs engine own server (tr ++ out) t := by
  cases step_moves step with
  | bridge a b events =>
      have silent := (reported_bridge events).2
      refine ⟨fun c mem => ?_, fun task request => (runs.next task request).frame rfl silent⟩
      rcases List.mem_append.mp mem with old | new
      · exact (runs.calls c old).frame rfl silent
      · obtain ⟨event, -, opens⟩ := List.mem_filterMap.mp new
        cases event with
        | toProxy i endpoint request =>
            obtain rfl := Option.some.inj opens
            exact (runs.next i request).frame rfl silent
        | _ => cases opens
  | finish _ _ _ b events =>
      have silent := (reported_bridge events).2
      exact ⟨fun c mem => (runs.calls c mem).frame rfl silent,
        fun task request => (runs.next task request).frame rfl silent⟩
  | call k c a x events found quiet moved =>
      refine ⟨fun d mem => ?_, fun task request => (runs.next task request).frame rfl rfl⟩
      rcases List.mem_or_eq_of_mem_set mem with old | rfl
      · exact (runs.calls d old).frame rfl rfl
      · exact (runs.calls c (List.mem_of_getElem? found)).call quiet moved rfl
  | deliver k c stream conn next effects found sent mine moved =>
      refine ⟨fun d mem => ?_, fun task request => ?_⟩
      · obtain ⟨e, there, rfl⟩ := List.mem_map.mp mem
        rcases List.mem_or_eq_of_mem_set there with old | rfl
        · exact (runs.calls e old).server moved rfl
        · exact (runs.calls c (List.mem_of_getElem? found)).deliver sent mine moved rfl
      · rw [← settle_start task request effects]
        exact (runs.next task request).server moved rfl
  | server action next effects moved =>
      refine ⟨fun d mem => ?_, fun task request => ?_⟩
      · obtain ⟨e, there, rfl⟩ := List.mem_map.mp mem
        exact (runs.calls e there).server moved rfl
      · rw [← settle_start task request effects]
        exact (runs.next task request).server moved rfl

/-- Whatever the other calls and the other clients do, each call runs as it would alone. -/
theorem runs (run : (usbPath engine own).Reach (start devid filters config devices clock) tr s) :
    Runs engine own (.new filters config devices clock) tr s := by
  have first : ∀ task request, Ran engine own (.new filters config devices clock) []
      (start devid filters config devices clock) (.start task request) := fun _ _ => .start
  refine run.invariant (I := Runs engine own (.new filters config devices clock))
    ⟨List.forall_mem_nil _, first⟩ ?_
  intro tr s a t out runs _ step
  exact runs.step step

/-! ### Where the results come from -/

theorem mem_set_of_mem {α : Type*} {l : List α} {k : Nat} {a b c : α} (found : l[k]? = some a)
    (mem : c ∈ l) : c = a ∧ b ∈ l.set k b ∨ c ∈ l.set k b := by
  obtain ⟨j, there⟩ := List.mem_iff_getElem?.mp mem
  by_cases same : k = j
  · subst same
    refine .inl ⟨Option.some.inj (there.symm.trans found), ?_⟩
    exact List.mem_set (List.getElem?_eq_some_iff.mp found).1 b
  · refine .inr (List.mem_iff_getElem?.mpr ⟨j, ?_⟩)
    rw [List.getElem?_set_ne same]
    exact there

/-- A call stays that of its task and request, and what it has returned. -/
theorem Moves.kept (move : Moves engine own s t out) {c : ProxyCall} (mem : c ∈ s.calls) :
    ∃ d ∈ t.calls, d.task = c.task ∧ d.request = c.request ∧
      ∀ result, c.proxy = .done result → d.proxy = .done result := by
  cases move with
  | bridge => exact ⟨c, List.mem_append_left _ mem, rfl, rfl, fun _ done => done⟩
  | finish => exact ⟨c, mem, rfl, rfl, fun _ done => done⟩
  | call k e a x events found quiet moved =>
      rcases mem_set_of_mem (b := ⟨e.task, e.request, x.attempts, x.proxy, x.streams⟩) found
        mem with ⟨rfl, there⟩ | there
      · refine ⟨_, there, rfl, rfl, fun result done => ?_⟩
        have free : (c.exchange s.server).freeStep engine own c.request a = some (x, events) := by
          cases a with
          | server => cases quiet
          | _ => exact moved
        cases Exchange.proxy_moves free with
        | stays attempts proxy => exact proxy.trans done
        | calls other | ends _ other | retries other => cases done.symm.trans other
      · exact ⟨c, there, rfl, rfl, fun _ done => done⟩
  | deliver k e stream conn next effects found =>
      rcases mem_set_of_mem (b := { e with streams := e.streams.set stream (.handling conn) }) found
        mem with ⟨rfl, there⟩ | there
      · exact ⟨_, List.mem_map_of_mem there, rfl, rfl, fun _ done => done⟩
      · exact ⟨_, List.mem_map_of_mem there, rfl, rfl, fun _ done => done⟩
  | server => exact ⟨_, List.mem_map_of_mem mem, rfl, rfl, fun _ done => done⟩

theorem Moves.came (move : Moves engine own s t out) {d : ProxyCall} (mem : d ∈ t.calls) :
    (∃ c ∈ s.calls, d.task = c.task ∧ d.request = c.request) ∨
      ∃ endpoint, .toProxy d.task endpoint d.request ∈ out.filterMap PathReport.event := by
  cases move with
  | bridge a b events =>
      rcases List.mem_append.mp mem with old | new
      · exact .inl ⟨d, old, rfl, rfl⟩
      · obtain ⟨event, there, opens⟩ := List.mem_filterMap.mp new
        cases event with
        | toProxy i endpoint request =>
            obtain rfl := Option.some.inj opens
            rw [(reported_bridge events).1]
            exact .inr ⟨endpoint, there⟩
        | _ => cases opens
  | finish => exact .inl ⟨d, mem, rfl, rfl⟩
  | call k c a x events found =>
      rcases List.mem_or_eq_of_mem_set mem with old | rfl
      · exact .inl ⟨d, old, rfl, rfl⟩
      · exact .inl ⟨c, List.mem_of_getElem? found, rfl, rfl⟩
  | deliver k c stream conn next effects found =>
      obtain ⟨e, there, rfl⟩ := List.mem_map.mp mem
      rcases List.mem_or_eq_of_mem_set there with old | rfl
      · exact .inl ⟨e, old, rfl, rfl⟩
      · exact .inl ⟨c, List.mem_of_getElem? found, rfl, rfl⟩
  | server =>
      obtain ⟨e, there, rfl⟩ := List.mem_map.mp mem
      exact .inl ⟨e, there, rfl, rfl⟩

/-- The bridge stays as it is or takes a step. A task gets only what a call of its own returns. -/
theorem Moves.bridge_cases (move : Moves engine own s t out) :
    t.bridge = s.bridge ∧ out.filterMap PathReport.event = [] ∨
      ∃ a, s.bridge.Moves a t.bridge (out.filterMap PathReport.event) ∧
        ∀ i result, a = .task i (.proxyReturn result) →
          ∃ c ∈ t.calls, c.task = i ∧ c.proxy = .done result := by
  cases move with
  | bridge a b events moved unreturned =>
      rw [(reported_bridge events).1]
      exact .inr ⟨a, SocketBridge.step_moves moved, fun i result same =>
        absurd same (unreturned i result)⟩
  | finish k c result b events found done moved =>
      rw [(reported_bridge events).1]
      refine .inr ⟨_, SocketBridge.step_moves moved, fun i other same => ?_⟩
      cases same
      exact ⟨c, List.mem_of_getElem? found, rfl, done⟩
  | call => exact .inl ⟨rfl, rfl⟩
  | deliver | server =>
      rw [(reported_transfer _).1]
      exact .inl ⟨rfl, rfl⟩

end UsbPath

/-- The response that the task has got and not written yet. -/
def TaskPhase.carries (response : UsbResponse) : TaskPhase → Prop
  | .returned result => result = .ok response
  | .unregistered r | .runningChecked r | .unlinkChecked r | .sending r => r = response
  | _ => False

namespace SocketBridge
variable {s rest s' : SocketBridge} {i : Nat} {t : SubmitTask} {phase : TaskPhase}
  {out : List BridgeEvent}

/-- A response comes from the proxy, and is carried on. -/
theorem TaskMove.carries {a : TaskStep} (move : TaskMove s i t a rest phase out)
    {response : UsbResponse} (carries : phase.carries response) :
    t.phase.carries response ∨ a = .proxyReturn (.ok response) := by
  cases move with
  | quiet quiet =>
      generalize t.phase = before at quiet
      cases quiet with
      | returned result =>
          obtain rfl : result = .ok response := carries
          exact .inr rfl
      | runs | linked | stillRuns => exact .inl carries
      | detached | stopped | stoppedLate | writeFailed => exact carries.elim
  | unregister returned =>
      rename_i result
      rw [returned]
      cases result with
      | error => exact carries.elim
      | ok => exact .inl (congrArg Except.ok carries)
  | ask | register | submit | suppress | write | release => exact carries.elim

theorem Moves.devid {a : BridgeStep} (move : s.Moves a s' out) : s'.devid = s.devid := by
  cases move with
  | task present move =>
      cases move with
      | release => rw [dropGuard]; split <;> rfl
      | _ => rfl
  | reader move => cases move <;> rfl

end SocketBridge

/-- The request of the call is the translation of the CMD_SUBMIT of the task. -/
def ProxyCall.Translates (c : ProxyCall) (t : SubmitTask) : Prop :=
  ∃ handle, usbipToUsbRequest (some handle) t.header t.cmd t.data = .ok c.request

namespace UsbPath
variable {engine : PolicyEngine} {own : ConnId → Bool} {s t : UsbPath} {tr out : List PathReport}
  {devid : UInt32}

/-- A call of the task has returned the response. -/
def Gave (s : UsbPath) (i : Nat) (response : UsbResponse) : Prop :=
  ∃ c ∈ s.calls, c.task = i ∧ c.proxy = .done (.ok response)

/-- Calls are for the tasks that have made them, and what a task has got and what it has written
came from its call. -/
structure Attributed (devid : UInt32) (tr : List PathReport) (s : UsbPath) : Prop where
  number : s.bridge.devid = devid
  calls : ∀ c ∈ s.calls, ∃ t, s.bridge.tasks[c.task]? = some t ∧ c.Translates t
  results : ∀ i t response, s.bridge.tasks[i]? = some t → t.phase.carries response →
    s.Gave i response
  written : ∀ i n message, .retSubmit i n message ∈ tr.filterMap PathReport.event →
    ∃ t response, s.bridge.tasks[i]? = some t ∧ t.seqnum = n ∧ s.Gave i response ∧
      message = retSubmitMessage devid t.header (convertResponse t.header t.cmd response)

theorem Moves.gave (move : Moves engine own s t out) {i : Nat} {response : UsbResponse}
    (gave : s.Gave i response) : t.Gave i response := by
  obtain ⟨c, mem, same, done⟩ := gave
  obtain ⟨d, there, task, -, kept⟩ := move.kept mem
  exact ⟨d, there, task.trans same, kept _ done⟩

theorem Moves.task_kept (move : Moves engine own s t out) {i : Nat} {u : SubmitTask}
    (found : s.bridge.tasks[i]? = some u) :
    ∃ phase, t.bridge.tasks[i]? = some { u with phase } := by
  rcases move.bridge_cases with ⟨same, -⟩ | ⟨a, moved, -⟩
  · rw [same]
    exact ⟨u.phase, found⟩
  · exact moved.keeps found

theorem Attributed.results_step (hs : Attributed devid tr s) (move : Moves engine own s t out)
    {i : Nat} {u : SubmitTask} {response : UsbResponse} (found : t.bridge.tasks[i]? = some u)
    (carries : u.phase.carries response) : t.Gave i response := by
  rcases move.bridge_cases with ⟨same, -⟩ | ⟨a, moved, returns⟩
  · rw [same] at found
    exact move.gave (hs.results i u response found carries)
  generalize t.bridge = b, out.filterMap PathReport.event = events at moved found
  cases moved with
  | reader moved =>
      rcases moved.task found with old | ⟨header, cmd, data, -, -, rfl⟩
      · exact move.gave (hs.results i u response old carries)
      · exact carries.elim
  | task present moved =>
      rcases moved.task present found with ⟨rfl, rfl⟩ | ⟨-, old⟩
      · rcases moved.carries carries with before | rfl
        · exact move.gave (hs.results i _ response present before)
        · exact returns i _ rfl
      · exact move.gave (hs.results i u response old carries)

theorem Attributed.calls_step (hs : Attributed devid tr s) (move : Moves engine own s t out)
    {d : ProxyCall} (mem : d ∈ t.calls) :
    ∃ u, t.bridge.tasks[d.task]? = some u ∧ d.Translates u := by
  rcases move.came mem with ⟨c, old, task, request⟩ | ⟨endpoint, called⟩
  · obtain ⟨u, found, handle, same⟩ := hs.calls c old
    obtain ⟨phase, kept⟩ := move.task_kept found
    refine ⟨_, task ▸ kept, handle, ?_⟩
    rw [request]
    exact same
  · rcases move.bridge_cases with ⟨-, silent⟩ | ⟨a, moved, -⟩
    · rw [silent] at called
      cases called
    generalize t.bridge = b, out.filterMap PathReport.event = events at moved called
    cases moved with
    | reader moved => cases moved <;> simp at called
    | task present moved =>
        have after := moved.moved present
        cases moved with
        | submit registered translated =>
            cases List.mem_singleton.mp called
            exact ⟨_, after, _, translated⟩
        | _ => simp at called

theorem Attributed.written_step (hs : Attributed devid tr s) (move : Moves engine own s t out)
    {i : Nat} {n : UInt32} {message : List UInt8}
    (mem : .retSubmit i n message ∈ (tr ++ out).filterMap PathReport.event) :
    ∃ u response, t.bridge.tasks[i]? = some u ∧ u.seqnum = n ∧ t.Gave i response ∧
      message = retSubmitMessage devid u.header (convertResponse u.header u.cmd response) := by
  rw [List.filterMap_append] at mem
  rcases List.mem_append.mp mem with old | new
  · obtain ⟨u, response, found, number, gave, same⟩ := hs.written i n message old
    obtain ⟨phase, kept⟩ := move.task_kept found
    exact ⟨_, response, kept, number, move.gave gave, same⟩
  rcases move.bridge_cases with ⟨-, silent⟩ | ⟨a, moved, -⟩
  · rw [silent] at new
    cases new
  have gave := fun i u response found carries => move.gave (hs.results i u response found carries)
  generalize t.bridge = b, out.filterMap PathReport.event = events at moved new
  cases moved with
  | reader moved => cases moved <;> simp at new
  | task present moved =>
      have after := moved.moved present
      cases moved with
      | @write response sending =>
          cases List.mem_singleton.mp new
          refine ⟨_, response, after, rfl, gave _ _ _ present ?_, ?_⟩
          · rw [sending]
            rfl
          · rw [hs.number]
      | _ => simp at new

variable {filters : List String} {config : SharingConfig} {devices : List RusbDevice}
  {clock : ClockReading}

theorem attributed
    (run : (usbPath engine own).Reach (start devid filters config devices clock) tr s) :
    Attributed devid tr s := by
  refine run.invariant (I := Attributed devid) ⟨rfl, List.forall_mem_nil _, ?_, ?_⟩ ?_
  · intro i t response found
    cases found
  · intro i n message seen
    cases seen
  intro tr s a t out hs _ step
  have move := step_moves step
  refine ⟨?_, fun d mem => hs.calls_step move mem,
    fun i u response found carries => hs.results_step move found carries,
    fun i n message mem => hs.written_step move mem⟩
  rcases move.bridge_cases with ⟨same, -⟩ | ⟨a, moved, -⟩
  · rw [same, hs.number]
  · rw [moved.devid, hs.number]

/-- Whatever the kernel submits and unlinks, whatever the network loses, and whoever else uses the
server: a CMD_SUBMIT is answered at most once, and the answer is made from the result that a device
has given for the translation of this CMD_SUBMIT, or from not found. -/
theorem completion_genuine
    (run : (usbPath engine own).Reach (start devid filters config devices clock) tr s) {i : Nat}
    {n : UInt32} {message : List UInt8} (written : .bridge (.retSubmit i n message) ∈ tr) :
    (tr.filterMap PathReport.event).countP (BridgeEvent.answers i) = 1 ∧
      ∃ t handle response, s.bridge.tasks[i]? = some t ∧ t.seqnum = n ∧
        message = retSubmitMessage devid t.header (convertResponse t.header t.cmd response) ∧
        Genuine own ⟨⟨n.toNat⟩, handle, usbipToTransfer t.header t.cmd t.data⟩
          (tr.filterMap PathReport.report) response := by
  have seen : .retSubmit i n message ∈ tr.filterMap PathReport.event :=
    List.mem_filterMap.mpr ⟨_, written, rfl⟩
  have hs := attributed run
  obtain ⟨t, response, found, rfl, ⟨c, mem, rfl, done⟩, same⟩ := hs.written i n message seen
  refine ⟨?_, ?_⟩
  · have tallied := (SocketBridge.accounts (bridge_reach run)).tallied c.task t found
    have positive : 0 < (tr.filterMap PathReport.event).countP (BridgeEvent.answers c.task) :=
      List.countP_pos_iff.mpr ⟨_, seen, beq_self_eq_true _⟩
    by_cases ended : t.phase.endsAs .written
    · exact tallied.answered ended
    · have none := tallied.unanswered ended
      omega
  · obtain ⟨u, there, handle, translated⟩ := hs.calls c mem
    obtain rfl : t = u := Option.some.inj (found.symm.trans there)
    have settled := Exchange.returned ((runs run).calls c mem) (.ok response) done
    refine ⟨t, handle, response, found, rfl, same, ?_⟩
    have request := Except.ok.inj translated
    rw [← request] at settled
    exact settled.1

/-- Device 1 is attached; a write of the kernel goes all the way to it, and is answered. -/
def oneWrite : List PathStep :=
  (Server.attachRun 0 "a").map .server ++
    [.bridge .check, .bridge (.read (.ok (.submit exampleHeader exampleCmd [7, 8, 9]))),
      .bridge (.task 0 .register), .bridge (.task 0 (.submit (some ⟨1⟩))), .call 0 .call,
      .server (.connection 0 .accept), .call 0 (.deliver 0 0), .server (.connection 0 .release),
      .server (.connection 0 .enqueue)] ++ Server.serve.map .server ++
    [.server (.connection 0 .resume), .call 0 .reply, .finish 0, .bridge (.task 0 .unregister),
      .bridge (.task 0 .checkRunning), .bridge (.task 0 .checkUnlinked),
      .bridge (.task 0 .recheckRunning), .bridge (.task 0 (.write none))]

theorem completion_genuine_write : ∃ tr s message,
    (usbPath ⟨[], 0⟩ (· == 0)).Reach (start 1 [] (UsbWorkerThread.exampleConfig .exclusive)
      [DeviceManager.exampleDevice 0 1 1] ⟨0, 0⟩) tr s ∧
      .bridge (.retSubmit 0 exampleHeader.seqnum message) ∈ tr ∧
      (tr.filterMap PathReport.event).countP (BridgeEvent.answers 0) = 1 := by
  have run := Machine.Reach.of_run (rfl : (usbPath ⟨[], 0⟩ (· == 0)).run (start 1 []
    (UsbWorkerThread.exampleConfig .exclusive) [DeviceManager.exampleDevice 0 1 1] ⟨0, 0⟩)
    oneWrite = some (_, _))
  refine ⟨_, _, _, run, List.mem_of_getLast? rfl, ?_⟩
  exact (completion_genuine run (List.mem_of_getLast? rfl)).1

end UsbPath
end P2pUsb
