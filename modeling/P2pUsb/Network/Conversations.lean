import P2pUsb.Network.Handles

/-! What a client is told. Every request on a connection gets one answer, the answers come in the
order of the requests, and each is what the worker said to a command of that very request. -/
namespace P2pUsb

/-- A message as a connection reads it, with the handles that are in its map then. -/
structure Asking where
  payload : MessagePayload
  attached : List DeviceHandle

/-- What a run shows, with the messages that the connections read. -/
inductive Report where
  | asked (conn : ConnId) (asking : Asking)
  | shown (effect : Effect)

/-- The message that the handler reads in this step. -/
def ClientConnection.asked (c : ClientConnection) (i : ConnId) : ConnectionAction → List Report
  | .message payload => [.asked i ⟨payload, c.attachedDevices.keys⟩]
  | _ => []

def Server.asked (s : Server) : Action → List Report
  | .connection i action => (s.conns.lookup i).elim [] fun c => c.asked i action
  | _ => []

/-- The server with what it is asked. -/
def conversing (engine : PolicyEngine) : Machine Server Action Report where
  step s action := (s.step engine action).map fun next =>
    (next.1, s.asked action ++ next.2.map .shown)

def Report.effect : Report → Option Effect
  | .asked _ _ => none
  | .shown effect => some effect

inductive Line where
  | request (asking : Asking)
  | response (payload : MessagePayload)

def Report.line (i : ConnId) : Report → Option Line
  | .asked j asking => if j = i then some (.request asking) else none
  | .shown (.connection j (.responded payload)) => if j = i then some (.response payload) else none
  | .shown _ => none

@[simp] theorem line_responded (i j : ConnId) (payload : MessagePayload) :
    Report.line i (.shown (.connection j (.responded payload))) =
      if j = i then some (.response payload) else none := rfl

@[simp] theorem line_checked (i j : ConnId) (token : Nat) (id : DeviceId) (wall : Nat)
    (info : DeviceInfo) (decision : PolicyDecision) :
    Report.line i (.shown (.connection j (.checked token id wall info decision))) = none := rfl

/-- What is said on one connection. -/
def dialogue (i : ConnId) (tr : List Report) : List Line := tr.filterMap (Report.line i)

/-- A request with its answer. The commands sent for it are those with the tokens from `first` to
before `last`. -/
structure Inquiry where
  request : Asking
  first : Nat
  last : Nat
  response : MessagePayload

def Inquiry.lines (e : Inquiry) : List Line := [.request e.request, .response e.response]

/-- The worker has answered this command, one of those of the inquiry. -/
def Worked (tr : List Report) (i : ConnId) (first last : Nat) (cmd : UsbCommand)
    (reply : UsbReply) : Prop :=
  ∃ token, first ≤ token ∧ token < last ∧ Report.shown (.answered i token cmd reply) ∈ tr

/-- The messages that `handle_message` has a branch for. -/
def MessagePayload.Supported : MessagePayload → Prop
  | .listDevicesRequest | .attachDeviceRequest _ | .detachDeviceRequest _ | .submitTransfer _
  | .ping | .heartbeat _ _ | .getSharingStatusRequest _ | .lockDeviceRequest _ _ _
  | .unlockDeviceRequest _ => True
  | _ => False

/-- How an attach request ends: with the worker's reply to its command, with the reason that the
policy check gave, or without the device in the worker's list. -/
inductive Inquiry.Attached (tr : List Report) (i : ConnId) (e : Inquiry) (id : DeviceId) :
    Except AttachError DeviceHandle → Prop
  | replied {client : String} {result : Except AttachError DeviceHandle}
      (worked : Worked tr i e.first e.last (.attachDevice id client) (.attached result)) :
      e.Attached tr i id result
  | denied (wall : Nat) (info : DeviceInfo) (reason : PolicyDenialReason)
      (checked : .shown (.connection i (.checked e.last id wall info (.deny reason))) ∈ tr) :
      e.Attached tr i id (.error (policyDenialToAttachError reason))
  | missing {devices : List DeviceInfo}
      (worked : Worked tr i e.first e.last .listDevices (.devices devices))
      (absent : ∀ info ∈ devices, info.id ≠ id) : e.Attached tr i id (.error .deviceNotFound)

/-- The response is of the request's kind, and what the worker said where it was asked; it was
asked unless a transfer, a lock or an unlock was for a handle that the connection does not have. -/
def Inquiry.Answered (tr : List Report) (i : ConnId) (e : Inquiry) : Prop :=
  match e.request.payload, e.response with
  | .listDevicesRequest, .listDevicesResponse devices =>
      Worked tr i e.first e.last .listDevices (.devices devices)
  | .attachDeviceRequest id, .attachDeviceResponse result => e.Attached tr i id result
  | .detachDeviceRequest h, .detachDeviceResponse result =>
      Worked tr i e.first e.last (.detachDevice h) (.detached result)
  | .submitTransfer request, .transferComplete response => response.id = request.id ∧
      if request.handle ∈ e.request.attached then
        Worked tr i e.first e.last (.submitTransfer request.handle request) (.transferred response)
      else response.result = .error .notFound
  | .ping, .pong => True
  | .heartbeat sequence timestampMs, .heartbeatAck sequence' clientTimestampMs _ =>
      sequence' = sequence ∧ clientTimestampMs = timestampMs
  | .getSharingStatusRequest id, .getSharingStatusResponse result =>
      ∃ h, Worked tr i e.first e.last (.getSharingStatus id h) (.sharingStatus result)
  | .lockDeviceRequest h w _, .lockDeviceResponse result =>
      if h ∈ e.request.attached then Worked tr i e.first e.last (.lockDevice h w) (.locked result)
      else result = .notAvailable "Device not attached"
  | .unlockDeviceRequest h, .unlockDeviceResponse result =>
      if h ∈ e.request.attached then Worked tr i e.first e.last (.unlockDevice h) (.unlocked result)
      else result = .notHeld
  | payload, .error message => ¬ payload.Supported ∧ message = "Unsupported message type"
  | _, _ => False

/-- The handler goes on so for a request, not for a session that has ended. -/
def Continuation.ForRequest : Continuation → Prop
  | .expire _ _ | .cleanup _ => False
  | _ => True

/-- The handler has read a request and not answered it. -/
def ClientConnection.Working (c : ClientConnection) : Prop :=
  match c.phase with
  | .throttled _ => True
  | .sending _ next | .awaiting _ next _ => next.ForRequest
  | .selecting | .reading | .stopped => False

/-- The whole of what was said on a connection: answered requests, and at most one that is still
worked on. -/
structure Conversed (tr : List Report) (i : ConnId) (c : ClientConnection)
    (inquiries : List Inquiry) (pending : Option Asking) : Prop where
  said : dialogue i tr = inquiries.flatMap Inquiry.lines ++ (pending.map Line.request).toList
  answered : ∀ e ∈ inquiries, e.Answered tr i
  apart : inquiries.Pairwise fun e e' => e.last ≤ e'.first
  working : pending.isSome ↔ c.Working

/-! ### Commands and their replies -/

/-- The command is sent for this request, and the handler goes on so. -/
inductive Serves : Asking → UsbCommand → Continuation → Prop
  | listDevices (attached : List DeviceHandle) :
      Serves ⟨.listDevicesRequest, attached⟩ .listDevices .listDevices
  | attachInfo (id : DeviceId) (attached : List DeviceHandle) :
      Serves ⟨.attachDeviceRequest id, attached⟩ .listDevices (.attachInfo id)
  | attach (id : DeviceId) (client : String) (info : DeviceInfo) (attached : List DeviceHandle) :
      Serves ⟨.attachDeviceRequest id, attached⟩ (.attachDevice id client) (.attach id info)
  | detach (h : DeviceHandle) (attached : List DeviceHandle) :
      Serves ⟨.detachDeviceRequest h, attached⟩ (.detachDevice h) (.detach h)
  | submit (request : UsbRequest) (attached : List DeviceHandle)
      (mine : request.handle ∈ attached) :
      Serves ⟨.submitTransfer request, attached⟩ (.submitTransfer request.handle request) .submit
  | sharingStatus (id : DeviceId) (h : Option DeviceHandle) (attached : List DeviceHandle) :
      Serves ⟨.getSharingStatusRequest id, attached⟩ (.getSharingStatus id h) .sharingStatus
  | lock (h : DeviceHandle) (w : Bool) (timeoutSecs : Nat) (attached : List DeviceHandle)
      (mine : h ∈ attached) :
      Serves ⟨.lockDeviceRequest h w timeoutSecs, attached⟩ (.lockDevice h w) .lock
  | unlock (h : DeviceHandle) (attached : List DeviceHandle) (mine : h ∈ attached) :
      Serves ⟨.unlockDeviceRequest h, attached⟩ (.unlockDevice h) .unlock

theorem Serves.for_request {asking : Asking} {cmd : UsbCommand} {next : Continuation}
    (serves : Serves asking cmd next) : next.ForRequest := by
  cases serves <;> trivial

/-- The reply is of the command's kind. -/
inductive UsbCommand.Fits : UsbCommand → UsbReply → Prop
  | listDevices (devices : List DeviceInfo) : Fits .listDevices (.devices devices)
  | attachDevice (id : DeviceId) (client : String) (result : Except AttachError DeviceHandle) :
      Fits (.attachDevice id client) (.attached result)
  | detachDevice (h : DeviceHandle) (result : Except DetachError Unit) :
      Fits (.detachDevice h) (.detached result)
  | submitTransfer (h : DeviceHandle) (request : UsbRequest) (response : UsbResponse)
      (same : response.id = request.id) : Fits (.submitTransfer h request) (.transferred response)
  | resetDevice (h : DeviceHandle) (result : Except UsbError Unit) :
      Fits (.resetDevice h) (.reset result)
  | getSharingStatus (id : DeviceId) (h : Option DeviceHandle)
      (result : Except AttachError DeviceSharingStatus) :
      Fits (.getSharingStatus id h) (.sharingStatus result)
  | lockDevice (h : DeviceHandle) (w : Bool) (result : LockResult) :
      Fits (.lockDevice h w) (.locked result)
  | unlockDevice (h : DeviceHandle) (result : UnlockResult) :
      Fits (.unlockDevice h) (.unlocked result)

theorem handle_command_fits (m : DeviceManager) (env : UsbEnv) (cmd : UsbCommand) :
    cmd.Fits (m.handleCommandInner env cmd).1 := by
  cases cmd with
  | listDevices => exact .listDevices _
  | attachDevice id client => exact .attachDevice id client _
  | detachDevice h => exact .detachDevice h _
  | submitTransfer h request => exact .submitTransfer h request _ rfl
  | resetDevice h => exact .resetDevice h _
  | getSharingStatus id h => exact .getSharingStatus id h _
  | lockDevice h w => exact .lockDevice h w _
  | unlockDevice h => exact .unlockDevice h _

/-! ### One handler -/

section
variable {tr out : List Report} {queue : List QueuedCommand} {i : ConnId} {c d : ClientConnection}
  {first : Nat} {asking : Asking} {engine : PolicyEngine}

theorem Worked.mono {last : Nat} {cmd : UsbCommand} {reply : UsbReply}
    (worked : Worked tr i first last cmd reply) (out : List Report) :
    Worked (tr ++ out) i first last cmd reply := by
  obtain ⟨token, lower, upper, answered⟩ := worked
  exact ⟨token, lower, upper, List.mem_append_left out answered⟩

theorem Inquiry.Attached.mono {e : Inquiry} {id : DeviceId}
    {result : Except AttachError DeviceHandle} (attached : e.Attached tr i id result)
    (out : List Report) : e.Attached (tr ++ out) i id result := by
  cases attached with
  | replied worked => exact .replied (worked.mono out)
  | denied wall info reason checked =>
      exact .denied wall info reason (List.mem_append_left out checked)
  | missing worked absent => exact .missing (worked.mono out) absent

theorem Inquiry.Answered.mono {e : Inquiry} (answered : e.Answered tr i) (out : List Report) :
    e.Answered (tr ++ out) i := by
  have either : ∀ {p refused : Prop} [Decidable p] {cmd : UsbCommand} {reply : UsbReply},
      (if p then Worked tr i e.first e.last cmd reply else refused) →
      if p then Worked (tr ++ out) i e.first e.last cmd reply else refused := by
    intro p refused _ cmd reply h
    split at h
    case isTrue mine => exact (if_pos mine).mpr (h.mono out)
    case isFalse away => exact (if_neg away).mpr h
  unfold Inquiry.Answered at answered ⊢
  split at answered
  case h_1 | h_3 => exact answered.mono out
  case h_2 => exact answered.mono out
  case h_4 => exact ⟨answered.1, either answered.2⟩
  case h_7 => exact answered.imp fun h worked => worked.mono out
  case h_8 | h_9 => exact either answered
  case h_5 | h_6 | h_10 => exact answered
  case h_11 => exact answered.elim

/-- Where the handler stands with the request that it works on. -/
inductive Stands (tr : List Report) (queue : List QueuedCommand) (i : ConnId)
    (c : ClientConnection) (first : Nat) : Option Asking → Prop
  | free (idle : ¬ c.Working) : Stands tr queue i c first none
  | throttled (request : UsbRequest) (attached : List DeviceHandle)
      (at' : c.phase = .throttled request) (mine : request.handle ∈ attached) :
      Stands tr queue i c first (some ⟨.submitTransfer request, attached⟩)
  | sending (asking : Asking) (cmd : UsbCommand) (next : Continuation)
      (at' : c.phase = .sending cmd next) (serves : Serves asking cmd next) :
      Stands tr queue i c first (some asking)
  | waiting (asking : Asking) (cmd : UsbCommand) (next : Continuation) (token : Nat)
      (at' : c.phase = .awaiting token next none) (serves : Serves asking cmd next)
      (lower : first ≤ token) (upper : token < c.sent)
      (queued : ∀ q ∈ queue, q.conn = i → q.token = token → q.cmd = cmd) :
      Stands tr queue i c first (some asking)
  | replied (asking : Asking) (cmd : UsbCommand) (next : Continuation) (token : Nat)
      (reply : UsbReply) (at' : c.phase = .awaiting token next (some reply))
      (serves : Serves asking cmd next) (fits : cmd.Fits reply)
      (worked : Worked tr i first c.sent cmd reply) : Stands tr queue i c first (some asking)

theorem Stands.working {pending : Option Asking}
    (stands : Stands tr queue i c first pending) :
    pending.isSome ↔ c.Working := by
  unfold ClientConnection.Working
  cases stands with
  | free idle => exact iff_of_false Bool.false_ne_true idle
  | throttled request attached at' mine =>
      rw [at']
      exact iff_of_true rfl trivial
  | sending asking cmd next at' serves =>
      rw [at']
      exact iff_of_true rfl serves.for_request
  | waiting asking cmd next token at' serves =>
      rw [at']
      exact iff_of_true rfl serves.for_request
  | replied asking cmd next token reply at' serves =>
      rw [at']
      exact iff_of_true rfl serves.for_request

theorem Stands.mono {pending : Option Asking} (stands : Stands tr queue i c first pending)
    (out : List Report) {queue' : List QueuedCommand}
    (fewer : ∀ q ∈ queue', q.conn = i → q ∈ queue) :
    Stands (tr ++ out) queue' i c first pending := by
  cases stands with
  | free idle => exact .free idle
  | throttled request attached at' mine => exact .throttled request attached at' mine
  | sending asking cmd next at' serves => exact .sending asking cmd next at' serves
  | waiting asking cmd next token at' serves lower upper queued =>
      exact .waiting asking cmd next token at' serves lower upper fun q mem own =>
        queued q (fewer q mem own) own
  | replied asking cmd next token reply at' serves fits worked =>
      exact .replied asking cmd next token reply at' serves fits (worked.mono out)

/-- How a handler goes on with a request: it answers, or it works on. -/
inductive Proceeds (tr : List Report) (queue : List QueuedCommand) (i : ConnId) (first : Nat)
    (asking : Asking) : ClientConnection × List ConnectionEffect → Prop
  | works (d : ClientConnection) (effects : List ConnectionEffect) (kept : first ≤ d.sent)
      (silent : dialogue i ((effects.map (.connection i)).map .shown) = [])
      (stands : Stands tr queue i d first (some asking)) :
      Proceeds tr queue i first asking (d, effects)
  | answers (d : ClientConnection) (effects : List ConnectionEffect) (response : MessagePayload)
      (kept : first ≤ d.sent)
      (said : dialogue i ((effects.map (.connection i)).map .shown) = [.response response])
      (idle : ¬ d.Working)
      (answered : Inquiry.Answered (tr ++ (effects.map (.connection i)).map .shown) i
        ⟨asking, first, d.sent, response⟩) :
      Proceeds tr queue i first asking (d, effects)

namespace Proceeds

theorem respond {response : MessagePayload} (kept : first ≤ c.sent)
    (answered : Inquiry.Answered tr i ⟨asking, first, c.sent, response⟩) :
    Proceeds tr queue i first asking (c.respond response) :=
  .answers _ _ response kept (by simp [dialogue]) not_false (answered.mono _)

theorem send (kept : first ≤ c.sent) {cmd : UsbCommand} {next : Continuation}
    (serves : Serves asking cmd next) :
    Proceeds tr queue i first asking (c.sendCommand cmd next) :=
  .works _ _ kept rfl (.sending asking cmd next rfl serves)

theorem attach (kept : first ≤ c.sent) (wall : Nat) (id : DeviceId) (info : DeviceInfo)
    (attached : List DeviceHandle) :
    Proceeds tr queue i first ⟨.attachDeviceRequest id, attached⟩
      (c.attachWithInfo engine wall id info) := by
  rcases c.attach_with_info_cases engine wall id info with sent | ⟨reason, denied⟩
  · rw [sent]
    exact .works _ _ kept rfl (.sending _ _ _ rfl (.attach id c.endpointId.text info attached))
  · rw [denied]
    refine .answers _ _ (.attachDeviceResponse (.error (policyDenialToAttachError reason))) kept
      (by simp [dialogue, List.filterMap_cons]) not_false ?_
    refine Inquiry.Attached.denied wall info reason (List.mem_append_right _ ?_)
    exact List.mem_map_of_mem (List.mem_map_of_mem List.mem_cons_self)

theorem message (c : ClientConnection) (now : ClockReading) (payload : MessagePayload) :
    Proceeds tr queue i c.sent ⟨payload, c.attachedDevices.keys⟩
      (c.handleMessage engine now payload) := by
  cases payload with
  | listDevicesRequest => exact send le_rfl (.listDevices _)
  | attachDeviceRequest id =>
      change Proceeds tr queue i c.sent _ (c.handleAttachDevice engine now.wall id)
      unfold ClientConnection.handleAttachDevice
      split
      · exact attach le_rfl _ id _ _
      · exact send le_rfl (.attachInfo id _)
  | detachDeviceRequest h => exact send le_rfl (.detach h _)
  | submitTransfer request =>
      change Proceeds tr queue i c.sent _ (c.handleSubmitTransfer request)
      unfold ClientConnection.handleSubmitTransfer
      split
      case isTrue away => exact respond le_rfl ⟨rfl, (if_neg away).mpr rfl⟩
      case isFalse mine =>
        exact .works _ _ le_rfl rfl (.throttled request _ rfl (not_not.mp mine))
  | ping => exact respond le_rfl trivial
  | heartbeat sequence timestampMs =>
      exact respond (c := { c with lastActivity := now.instant }) le_rfl ⟨rfl, rfl⟩
  | getSharingStatusRequest id => exact send le_rfl (.sharingStatus id _ _)
  | lockDeviceRequest h w timeoutSecs =>
      change Proceeds tr queue i c.sent _ (c.handleLockDevice h w)
      unfold ClientConnection.handleLockDevice
      split
      case isTrue away => exact respond le_rfl ((if_neg away).mpr rfl)
      case isFalse mine => exact send le_rfl (.lock h w timeoutSecs _ (not_not.mp mine))
  | unlockDeviceRequest h =>
      change Proceeds tr queue i c.sent _ (c.handleUnlockDevice h)
      unfold ClientConnection.handleUnlockDevice
      split
      case isTrue away => exact respond le_rfl ((if_neg away).mpr rfl)
      case isFalse mine => exact send le_rfl (.unlock h _ (not_not.mp mine))
  | listDevicesResponse | attachDeviceResponse | detachDeviceResponse | transferComplete | pong
  | heartbeatAck | error | getSharingStatusResponse | lockDeviceResponse | unlockDeviceResponse
  | other => exact respond le_rfl ⟨not_false, rfl⟩

/-- The reply is answered, or the attach request goes on to its policy check. -/
theorem resume {cmd : UsbCommand} {next : Continuation} {reply : UsbReply}
    (serves : Serves asking cmd next) (fits : cmd.Fits reply)
    (worked : Worked tr i first c.sent cmd reply) (now : ClockReading) (sessions : ActiveSessions) :
    Proceeds tr queue i first asking (c.resume engine now sessions next reply).1 := by
  have kept : first ≤ c.sent := by
    obtain ⟨token, lower, upper, -⟩ := worked
    exact lower.trans upper.le
  cases serves with
  | listDevices =>
      cases fits
      exact respond kept worked
  | attachInfo id =>
      cases fits with
      | listDevices devices =>
          dsimp only [ClientConnection.resume]
          split
          case h_1 info found => exact attach (c := c.cacheDevices devices) kept now.wall id info _
          case h_2 absent =>
            refine respond (c := c.cacheDevices devices) kept (.missing worked fun info there => ?_)
            simpa using List.find?_eq_none.mp absent info there
  | attach id client info =>
      cases fits with
      | attachDevice _ _ result =>
          cases result with
          | ok h =>
              exact respond (c := { c with attachedDevices := c.attachedDevices.insert h id })
                kept (.replied worked)
          | error e => exact respond kept (.replied worked)
  | detach h =>
      cases fits with
      | detachDevice _ result =>
          cases result with
          | ok =>
              exact respond (c := { c with attachedDevices := c.attachedDevices.erase h }) kept
                worked
          | error e => exact respond kept worked
  | submit request attached mine =>
      cases fits with
      | submitTransfer _ _ response same => exact respond kept ⟨same, (if_pos mine).mpr worked⟩
  | sharingStatus id h =>
      cases fits
      exact respond kept ⟨h, worked⟩
  | lock h w timeoutSecs attached mine =>
      cases fits
      exact respond kept ((if_pos mine).mpr worked)
  | unlock h attached mine =>
      cases fits
      exact respond kept ((if_pos mine).mpr worked)

end Proceeds

/-- A connection whose requests so far are answered, but for the one that it works on. -/
def Talking (tr : List Report) (queue : List QueuedCommand) (i : ConnId) (c : ClientConnection) :
    Prop :=
  ∃ inquiries pending first, Conversed tr i c inquiries pending ∧
    Stands tr queue i c first pending ∧ (∀ e ∈ inquiries, e.last ≤ first) ∧ first ≤ c.sent

theorem dialogue_append (i : ConnId) (tr out : List Report) :
    dialogue i (tr ++ out) = dialogue i tr ++ dialogue i out :=
  List.filterMap_append

/-- Nothing of another connection is said on this one. -/
theorem dialogue_other {j : ConnId} (other : j ≠ i) (effects : List ConnectionEffect) :
    dialogue i ((effects.map (.connection j)).map .shown) = [] := by
  rw [dialogue, List.map_map, List.filterMap_map, List.filterMap_eq_nil_iff]
  intro effect _
  cases effect with
  | checked => rfl
  | responded payload => exact if_neg other

theorem dialogue_worker (i : ConnId) (q : QueuedCommand) (reply : UsbReply) (m : DeviceManager) :
    dialogue i ((.answered q.conn q.token q.cmd reply :: Server.executions m q).map .shown) =
      [] := by
  rw [dialogue, List.filterMap_map, List.filterMap_eq_nil_iff]
  intro effect mem
  rcases List.mem_cons.mp mem with rfl | executed
  · rfl
  · obtain ⟨h, device, transfer, rfl⟩ := executed_of_mem executed
    rfl

/-- Steps that say nothing on the connection, and leave it where it is. -/
theorem Talking.frame (talking : Talking tr queue i c) {queue' : List QueuedCommand}
    (fewer : ∀ q ∈ queue', q.conn = i → q ∈ queue) (silent : dialogue i out = []) :
    Talking (tr ++ out) queue' i c := by
  obtain ⟨inquiries, pending, first, conversed, stands, before, kept⟩ := talking
  refine ⟨inquiries, pending, first, ⟨?_, ?_, conversed.apart, conversed.working⟩,
    stands.mono out fewer, before, kept⟩
  · rw [dialogue_append, silent, List.append_nil, conversed.said]
  · exact fun e mem => (conversed.answered e mem).mono out

/-- A handler that works on no request does something else. -/
theorem Talking.idle (talking : Talking tr queue i c) (was : ¬ c.Working) (now : ¬ d.Working)
    (sent : c.sent ≤ d.sent) {queue' : List QueuedCommand} (silent : dialogue i out = []) :
    Talking (tr ++ out) queue' i d := by
  obtain ⟨inquiries, pending, first, conversed, stands, before, kept⟩ := talking
  obtain rfl : pending = none := by
    rw [← Option.not_isSome_iff_eq_none, conversed.working]
    exact was
  refine ⟨inquiries, none, first, ⟨?_, ?_, conversed.apart, ?_⟩, .free now, before, kept.trans sent⟩
  · rw [dialogue_append, silent, List.append_nil, conversed.said]
  · exact fun e mem => (conversed.answered e mem).mono out
  · exact iff_of_false Bool.false_ne_true now

/-- A step of the handler on the request that it works on. -/
theorem Proceeds.talking {effects : List ConnectionEffect} {inquiries : List Inquiry}
    (proceeds : Proceeds tr queue i first asking (d, effects))
    (said : dialogue i tr = inquiries.flatMap Inquiry.lines ++ [.request asking])
    (answered : ∀ e ∈ inquiries, e.Answered tr i)
    (apart : inquiries.Pairwise fun e e' => e.last ≤ e'.first)
    (before : ∀ e ∈ inquiries, e.last ≤ first) :
    Talking (tr ++ (effects.map (.connection i)).map .shown) queue i d := by
  have older := fun e mem =>
    (answered e mem).mono ((effects.map (Effect.connection i)).map Report.shown)
  cases proceeds with
  | works _ _ kept silent stands =>
      have stands := stands.mono ((effects.map (Effect.connection i)).map Report.shown)
        fun q mem _ => mem
      refine ⟨inquiries, some asking, first, ⟨?_, older, apart, stands.working⟩, stands, before,
        kept⟩
      rw [dialogue_append, silent, List.append_nil, said]
      rfl
  | answers _ _ response kept replied idle own =>
      refine ⟨inquiries ++ [⟨asking, first, d.sent, response⟩], none, d.sent,
        ⟨?_, ?_, ?_, iff_of_false Bool.false_ne_true idle⟩, .free idle, ?_, le_rfl⟩
      · rw [dialogue_append, said, replied, List.flatMap_append]
        simp [Inquiry.lines]
      · intro e mem
        rcases List.mem_append.mp mem with old | new
        · exact older e old
        · obtain rfl := List.mem_singleton.mp new
          exact own
      · refine List.pairwise_append.mpr ⟨apart, List.pairwise_singleton _ _, ?_⟩
        intro e old e' new
        obtain rfl := List.mem_singleton.mp new
        exact before e old
      · intro e mem
        rcases List.mem_append.mp mem with old | new
        · exact (before e old).trans kept
        · obtain rfl := List.mem_singleton.mp new
          exact le_rfl

/-- The handler reads a request. -/
theorem Talking.message (talking : Talking tr queue i c) (at' : c.phase = .reading)
    (now : ClockReading) (payload : MessagePayload) :
    Talking (tr ++ .asked i ⟨payload, c.attachedDevices.keys⟩ ::
        ((c.handleMessage engine now payload).2.map (.connection i)).map .shown) queue i
      (c.handleMessage engine now payload).1 := by
  have was : ¬ c.Working := by
    rw [ClientConnection.Working, at']
    exact not_false
  obtain ⟨inquiries, pending, first, conversed, -, before, kept⟩ := talking
  obtain rfl : pending = none := by
    rw [← Option.not_isSome_iff_eq_none, conversed.working]
    exact was
  have heard : dialogue i [.asked i ⟨payload, c.attachedDevices.keys⟩] =
      [.request ⟨payload, c.attachedDevices.keys⟩] := by
    simp [dialogue, Report.line]
  have proceeds : Proceeds (tr ++ [.asked i ⟨payload, c.attachedDevices.keys⟩]) queue i c.sent
      ⟨payload, c.attachedDevices.keys⟩ (c.handleMessage engine now payload) :=
    .message c now payload
  have said : dialogue i (tr ++ [.asked i ⟨payload, c.attachedDevices.keys⟩]) =
      inquiries.flatMap Inquiry.lines ++ [.request ⟨payload, c.attachedDevices.keys⟩] := by
    rw [dialogue_append, heard, conversed.said]
    exact congrArg (· ++ _) (List.append_nil _)
  have after := proceeds.talking said (fun e mem => (conversed.answered e mem).mono _)
    conversed.apart (fun e mem => (before e mem).trans kept)
  rwa [List.append_assoc, List.singleton_append] at after

theorem Talking.release (talking : Talking tr queue i c) {request : UsbRequest}
    (at' : c.phase = .throttled request) : Talking tr queue i
      { c with phase := .sending (.submitTransfer request.handle request) .submit } := by
  obtain ⟨inquiries, pending, first, conversed, stands, before, kept⟩ := talking
  cases stands with
  | throttled request' attached here mine =>
      obtain rfl := Phase.throttled.inj (at'.symm.trans here)
      exact ⟨inquiries, _, first, { conversed with working := iff_of_true rfl trivial },
        .sending _ _ _ rfl (.submit request attached mine), before, kept⟩
  | free idle =>
      refine absurd ?_ idle
      rw [ClientConnection.Working, at']
      trivial
  | sending _ _ _ here | waiting _ _ _ _ here | replied _ _ _ _ _ here =>
      exact Phase.noConfusion (at'.symm.trans here)

theorem Talking.enqueue (talking : Talking tr queue i c) {cmd : UsbCommand} {next : Continuation}
    (at' : c.phase = .sending cmd next) (older : ∀ q ∈ queue, q.conn = i → q.token < c.sent) :
    Talking tr (queue ++ [⟨i, c.sent, cmd⟩]) i
      { c with phase := .awaiting c.sent next none, sent := c.sent + 1 } := by
  obtain ⟨inquiries, pending, first, conversed, stands, before, kept⟩ := talking
  cases stands with
  | sending asking cmd' next' here serves =>
      obtain ⟨rfl, rfl⟩ := Phase.sending.inj (at'.symm.trans here)
      refine ⟨inquiries, _, first,
        { conversed with working := iff_of_true rfl serves.for_request },
        .waiting asking cmd next c.sent rfl serves kept (Nat.lt_succ_self _) ?_, before,
        Nat.le_succ_of_le kept⟩
      intro q mem own same
      rcases List.mem_append.mp mem with old | new
      · exact absurd same (Nat.ne_of_lt (older q old own))
      · rw [List.mem_singleton.mp new]
  | free idle =>
      have idle : ¬ ClientConnection.Working
          { c with phase := .awaiting c.sent next none, sent := c.sent + 1 } := by
        rwa [ClientConnection.Working, at'] at idle
      exact ⟨inquiries, none, first,
        { conversed with working := iff_of_false Bool.false_ne_true idle }, .free idle, before,
        Nat.le_succ_of_le kept⟩
  | throttled _ _ here | waiting _ _ _ _ here | replied _ _ _ _ _ here =>
      exact Phase.noConfusion (at'.symm.trans here)

/-- The reply to the command reaches the handler that waits for it. -/
theorem Talking.receive {rest : List QueuedCommand} {q : QueuedCommand}
    (talking : Talking tr (q :: rest) q.conn c) {reply : UsbReply} (fits : q.cmd.Fits reply)
    (answered : Report.shown (.answered q.conn q.token q.cmd reply) ∈ tr) :
    Talking tr rest q.conn (c.receive q.token reply) := by
  have fewer : ∀ p ∈ rest, p.conn = q.conn → p ∈ q :: rest := fun p mem _ =>
    List.mem_cons_of_mem q mem
  rcases c.receive_cases q.token reply with ⟨same, -⟩ | ⟨next, at', here⟩
  · rw [same, ← List.append_nil tr]
    exact talking.frame fewer rfl
  rw [here]
  obtain ⟨inquiries, pending, first, conversed, stands, before, kept⟩ := talking
  cases stands with
  | waiting asking cmd next' token there serves lower upper queued =>
      obtain ⟨rfl, rfl, -⟩ := Phase.awaiting.inj (at'.symm.trans there)
      obtain rfl := queued q List.mem_cons_self rfl rfl
      exact ⟨inquiries, _, first,
        { conversed with working := iff_of_true rfl serves.for_request },
        .replied asking q.cmd next q.token reply rfl serves fits ⟨q.token, lower, upper, answered⟩,
        before, kept⟩
  | free idle =>
      have idle : ¬ ClientConnection.Working
          { c with phase := .awaiting q.token next (some reply) } := by
        rwa [ClientConnection.Working, at'] at idle
      exact ⟨inquiries, none, first,
        { conversed with working := iff_of_false Bool.false_ne_true idle }, .free idle, before,
        kept⟩
  | throttled _ _ there | sending _ _ _ there | replied _ _ _ _ _ there =>
      cases at'.symm.trans there

theorem Talking.resume (talking : Talking tr queue i c) {token : Nat} {next : Continuation}
    {reply : UsbReply} (at' : c.phase = .awaiting token next (some reply)) (working : c.Working)
    (now : ClockReading) (sessions : ActiveSessions) :
    Talking (tr ++ ((c.resume engine now sessions next reply).1.2.map (.connection i)).map .shown)
      queue i (c.resume engine now sessions next reply).1.1 := by
  obtain ⟨inquiries, pending, first, conversed, stands, before, kept⟩ := talking
  cases stands with
  | replied asking cmd next' token' reply' here serves fits worked =>
      obtain ⟨rfl, rfl, same⟩ := Phase.awaiting.inj (at'.symm.trans here)
      obtain rfl := Option.some.inj same
      exact (Proceeds.resume serves fits worked now sessions).talking conversed.said
        conversed.answered conversed.apart before
  | free idle => exact absurd working idle
  | throttled _ _ here | sending _ _ _ here | waiting _ _ _ _ here =>
      cases at'.symm.trans here

end

/-! ### The server -/

namespace ClientConnection

theorem usb_event_working (c : ClientConnection) (event : UsbEvent) :
    ((c.handleUsbEvent event).Working ↔ c.Working) ∧ (c.handleUsbEvent event).sent = c.sent := by
  cases event <;> exact ⟨Iff.rfl, rfl⟩

theorem expired_sessions_idle (c : ClientConnection) (events : List SessionExpiredEvent) :
    ¬ (c.handleExpiredSessions events).Working ∧
      (c.handleExpiredSessions events).sent = c.sent := by
  induction events with
  | nil => exact ⟨not_false, rfl⟩
  | cons event rest ih =>
      unfold handleExpiredSessions
      split
      · exact ⟨not_false, rfl⟩
      · exact ih

theorem cleanup_idle (c : ClientConnection) (order : List DeviceHandle) :
    ¬ (c.cleanup order).Working ∧ (c.cleanup order).sent = c.sent := by
  cases order <;> exact ⟨not_false, rfl⟩

/-- What is done for no request ends in nothing that a client could hear. -/
theorem resume_idle (c : ClientConnection) (engine : PolicyEngine) (now : ClockReading)
    (sessions : ActiveSessions) {next : Continuation} (reply : UsbReply)
    (other : ¬ next.ForRequest) :
    ¬ (c.resume engine now sessions next reply).1.1.Working ∧
      (c.resume engine now sessions next reply).1.1.sent = c.sent ∧
      (c.resume engine now sessions next reply).1.2 = [] := by
  cases next with
  | expire event rest =>
      have idle := c.expired_sessions_idle rest
      cases reply <;> exact ⟨idle.1, idle.2, rfl⟩
  | cleanup rest =>
      have idle := c.cleanup_idle rest
      cases reply <;> exact ⟨idle.1, idle.2, rfl⟩
  | listDevices | attachInfo | attach | detach | submit | sharingStatus | lock | unlock =>
      exact absurd trivial other

end ClientConnection

namespace Server
variable {engine : PolicyEngine} {s t : Server} {tr : List Report} {i : ConnId}
  {c : ClientConnection} {action : ConnectionAction} {out : List Effect}

theorem asked_connection (found : s.conns.lookup i = some c) (action : ConnectionAction) :
    s.asked (.connection i action) = c.asked i action := by
  rw [asked, found, Option.elim_some]

/-- Nothing is asked in a step, or one message by one connection. -/
theorem asked_eq (s : Server) (action : Action) :
    s.asked action = [] ∨ ∃ i asking, s.asked action = [.asked i asking] := by
  cases action with
  | connection i action =>
      simp only [asked]
      cases s.conns.lookup i with
      | none => exact .inl rfl
      | some c =>
          cases action with
          | message payload => exact .inr ⟨i, _, rfl⟩
          | _ => exact .inl rfl
  | _ => exact .inl rfl

theorem mem_asked {action : Action} {report : Report} (mem : report ∈ s.asked action) :
    ∃ i asking, report = .asked i asking := by
  rcases s.asked_eq action with none | ⟨i, asking, one⟩
  · rw [none] at mem
    cases mem
  · rw [one, List.mem_singleton] at mem
    exact ⟨i, asking, mem⟩

/-- One connection has gone on, and no other has heard anything of it. -/
structure Spoke (s : Server) (i : ConnId) (c : ClientConnection) (action : ConnectionAction)
    (tr : List Report) (t : Server) (out : List Effect) (d : ClientConnection) : Prop where
  conns : t.conns = s.conns.insert i d
  talking : Talking (tr ++ (c.asked i action ++ out.map .shown)) t.commands i d
  queue : ∀ q ∈ t.commands, q.conn ≠ i → q ∈ s.commands
  others : ∀ j, j ≠ i → dialogue j (c.asked i action ++ out.map .shown) = []

theorem Spoke.leave_loop {order : List DeviceHandle} (talking : Talking tr s.commands i c)
    (was : ¬ c.Working) (silent : c.asked i action = [])
    (step : s.leaveLoop i c order = some (t, out)) : ∃ d, Spoke s i c action tr t out d := by
  obtain ⟨-, rfl, rfl⟩ := leave_loop_eq step
  have idle := c.cleanup_idle order
  refine ⟨c.cleanup order, rfl, ?_, fun q mem _ => mem, fun j _ => ?_⟩
  all_goals rw [silent]
  · exact talking.idle was idle.1 idle.2.ge rfl
  · rfl

theorem connection_step_spoke (talking : Talking tr s.commands i c)
    (older : ∀ q ∈ s.commands, q.conn = i → q.token < c.sent)
    (step : s.connectionStep engine i c action = some (t, out)) :
    ∃ d, Spoke s i c action tr t out d := by
  have working : ∀ {phase : Phase}, c.phase = phase →
      ¬ ClientConnection.Working { c with phase := phase } → ¬ c.Working := by
    rintro phase rfl idle
    exact idle
  have quiet : ∀ {d : ClientConnection}, ¬ c.Working → ¬ d.Working → c.sent ≤ d.sent →
      Talking (tr ++ []) s.commands i d := fun was now sent => talking.idle was now sent rfl
  have kept : ∀ q ∈ s.commands, q.conn ≠ i → q ∈ s.commands := fun q mem _ => mem
  have nothing : ∀ j, j ≠ i → dialogue j [] = [] := fun j _ => rfl
  unfold connectionStep at step
  split at step
  case h_1 at' =>
    obtain ⟨rfl, rfl⟩ := Prod.mk.inj (Option.some.inj step)
    exact ⟨_, rfl, quiet (working at' not_false) not_false le_rfl, kept, nothing⟩
  case h_2 at' =>
    split at step
    · cases step
    case h_2 event rest _ =>
      obtain ⟨rfl, rfl⟩ := Prod.mk.inj (Option.some.inj step)
      have same := c.usb_event_working event
      have was := working at' not_false
      exact ⟨_, rfl, quiet was (mt same.1.mp was) same.2.ge, kept, nothing⟩
  case h_3 order at' =>
    have was := working at' not_false
    split at step
    · exact Spoke.leave_loop talking was rfl step
    · obtain ⟨rfl, rfl⟩ := Prod.mk.inj (Option.some.inj step)
      have idle := c.expired_sessions_idle (s.sessions.checkExpiredSessions s.clock.instant)
      exact ⟨_, rfl, quiet was idle.1 idle.2.ge, kept, nothing⟩
  case h_4 order at' => exact Spoke.leave_loop talking (working at' not_false) rfl step
  case h_5 at' =>
    obtain ⟨rfl, rfl⟩ := Prod.mk.inj (Option.some.inj step)
    exact ⟨_, rfl, quiet (working at' not_false) not_false le_rfl, kept, nothing⟩
  case h_6 payload at' =>
    obtain ⟨rfl, rfl⟩ := Prod.mk.inj (Option.some.inj step)
    refine ⟨_, rfl, talking.message at' s.clock payload, kept, fun j other => ?_⟩
    rw [dialogue_append, dialogue_other (Ne.symm other), List.append_nil]
    simp [ClientConnection.asked, dialogue, Report.line, Ne.symm other]
  case h_7 request at' =>
    obtain ⟨rfl, rfl⟩ := Prod.mk.inj (Option.some.inj step)
    refine ⟨_, rfl, ?_, kept, nothing⟩
    change Talking (tr ++ []) _ _ _
    rw [List.append_nil]
    exact talking.release at'
  case h_8 cmd next at' =>
    split at step
    · obtain ⟨rfl, rfl⟩ := Prod.mk.inj (Option.some.inj step)
      refine ⟨_, rfl, ?_, fun q mem other => ?_, nothing⟩
      · change Talking (tr ++ []) _ _ _
        rw [List.append_nil]
        exact talking.enqueue at' older
      · rcases List.mem_append.mp mem with old | new
        · exact old
        · rw [List.mem_singleton.mp new] at other
          exact absurd rfl other
    · cases step
  case h_9 token next reply at' =>
    obtain ⟨rfl, rfl⟩ := Prod.mk.inj (Option.some.inj step)
    by_cases asked : next.ForRequest
    · have was : c.Working := by
        rw [ClientConnection.Working, at']
        exact asked
      exact ⟨_, rfl, talking.resume at' was s.clock s.sessions, kept, fun j other =>
        dialogue_other (Ne.symm other) _⟩
    · obtain ⟨idle, sent, silent⟩ := c.resume_idle engine s.clock s.sessions reply asked
      refine ⟨_, rfl, ?_, kept, fun j other => dialogue_other (Ne.symm other) _⟩
      have nothing : dialogue i (((c.resume engine s.clock s.sessions next reply).1.2.map
          (.connection i)).map .shown) = [] := by
        rw [silent]
        rfl
      exact talking.idle (working at' asked) idle sent.ge nothing
  case h_10 token event rest at' =>
    obtain ⟨rfl, rfl⟩ := Prod.mk.inj (Option.some.inj step)
    have idle := c.expired_sessions_idle rest
    exact ⟨_, rfl, quiet (working at' not_false) idle.1 idle.2.ge, kept, nothing⟩
  case h_11 => cases step

/-- What is so of every connection, and that nothing is said where there is none. -/
structure Conversations (tr : List Report) (s : Server) : Prop where
  talking : ∀ i c, s.conns.lookup i = some c → Talking tr s.commands i c
  fresh : ∀ i ∉ s.conns, dialogue i tr = []

namespace Conversations

/-- The connections stay as they are, and nothing is said. -/
theorem frame (hs : Conversations tr s) {out : List Report} (same : t.conns = s.conns)
    (fewer : ∀ q ∈ t.commands, q ∈ s.commands) (silent : ∀ i, dialogue i out = []) :
    Conversations (tr ++ out) t where
  talking i c found := (hs.talking i c (same ▸ found)).frame (fun q mem _ => fewer q mem) (silent i)
  fresh i away := by
    rw [dialogue_append, silent, List.append_nil]
    exact hs.fresh i (same ▸ away)

theorem connect (hs : Conversations tr s) (endpointId : EndpointId) (free : i ∉ s.conns) :
    Conversations (tr ++ []) (s.setConn i (.new endpointId s.clock.instant)) where
  talking j d found := by
    rcases AList.lookup_insert_eq_some.mp found with ⟨rfl, rfl⟩ | ⟨other, found⟩
    · have idle : (none : Option MessagePayload).isSome ↔ False :=
        iff_of_false Bool.false_ne_true not_false
      refine ⟨[], none, 0, ⟨?_, List.forall_mem_nil _, .nil, idle⟩, .free not_false,
        List.forall_mem_nil _, le_rfl⟩
      rw [List.append_nil, hs.fresh j free]
      rfl
    · exact (hs.talking j d found).frame (fun q mem _ => mem) rfl
  fresh j away := by
    rw [List.append_nil]
    exact hs.fresh j fun there => away (AList.mem_insert _ |>.mpr (.inr there))

theorem spoke (hs : Conversations tr s) {d : ClientConnection} (found : s.conns.lookup i = some c)
    (spoke : Spoke s i c action tr t out d) :
    Conversations (tr ++ (c.asked i action ++ out.map .shown)) t where
  talking j e there := by
    rw [spoke.conns] at there
    rcases AList.lookup_insert_eq_some.mp there with ⟨rfl, rfl⟩ | ⟨other, there⟩
    · exact spoke.talking
    · refine (hs.talking j e there).frame (fun q mem own => ?_) (spoke.others j other)
      exact spoke.queue q mem (own ▸ other)
  fresh j away := by
    rw [spoke.conns, AList.mem_insert, not_or] at away
    rw [dialogue_append, spoke.others j away.1, List.append_nil]
    exact hs.fresh j away.2

theorem command (hs : Conversations tr s) {q : QueuedCommand}
    {rest : List QueuedCommand} (head : s.commands = q :: rest) {reply : UsbReply}
    (fits : q.cmd.Fits reply) (conns : t.conns = s.deliver q reply) (commands : t.commands = rest) :
    Conversations (tr ++ (.answered q.conn q.token q.cmd reply ::
      executions s.manager q).map .shown) t where
  talking j d there := by
    rw [conns, lookup_deliver, Option.map_eq_some_iff] at there
    obtain ⟨c, found, rfl⟩ := there
    have talking := (hs.talking j c found).frame (fun p mem _ => mem)
      (dialogue_worker j q reply s.manager)
    rw [head] at talking
    rw [commands]
    split
    case isTrue own =>
      subst own
      refine talking.receive fits (List.mem_append_right _ ?_)
      exact List.mem_map_of_mem List.mem_cons_self
    case isFalse other =>
      rw [← List.append_nil (tr ++ _)]
      exact talking.frame (fun p mem _ => List.mem_cons_of_mem q mem) rfl
  fresh j away := by
    rw [dialogue_append, dialogue_worker, List.append_nil]
    refine hs.fresh j fun there => away ?_
    rw [conns]
    exact AList.mem_modify.mpr there

/-- A step of the server that no handler takes. -/
theorem elsewhere (hs : Conversations tr s) {a : Action}
    (other : ∀ i action, a ≠ .connection i action) (step : Transition engine s a t out) :
    Conversations (tr ++ out.map .shown) t := by
  have nothing : ∀ i, dialogue i [] = [] := fun _ => rfl
  cases step with
  | monitor => exact hs.frame rfl (fun q mem => mem) nothing
  | connect i endpointId free => exact hs.connect endpointId free
  | handler i action => exact absurd rfl (other i action)
  | enqueue i action => exact absurd rfl (other i action)
  | command env q rest head =>
      exact hs.command head (handle_command_fits _ _ q.cmd) rfl rfl
  | worker => exact hs.frame rfl (fun q mem => mem) nothing
  | fire => exact hs.frame rfl (fun q mem => mem) nothing
  | emit => exact hs.frame rfl (fun q mem => mem) nothing

theorem next (hs : Conversations tr s) {trace : List Effect} (authority : Authority engine trace s)
    {a : Action} (step : s.step engine a = some (t, out)) :
    Conversations (tr ++ (s.asked a ++ out.map .shown)) t := by
  cases a with
  | connection i action =>
      obtain ⟨c, found, moved⟩ := Option.bind_eq_some_iff.mp step
      rw [asked_connection found]
      have older : ∀ q ∈ s.commands, q.conn = i → q.token < c.sent := by
        rintro q mem rfl
        obtain ⟨d, there, queued⟩ := authority.queue q mem
        rw [found] at there
        obtain rfl := Option.some.inj there
        exact queued.old
      obtain ⟨d, spoke⟩ := connection_step_spoke (hs.talking i c found) older moved
      exact hs.spoke found spoke
  | tick | connect | command | hotplug | collect | fire | emit | monitorTick | monitorExpire =>
      exact hs.elsewhere (fun _ _ => Action.noConfusion) (step_cases step)

end Conversations

/-- The run without the questions is a run of the server. -/
theorem effects_reach {s₀ : Server} (run : (conversing engine).Reach s₀ tr s) :
    (server engine).Reach s₀ (tr.filterMap Report.effect) s := by
  refine run.projects (f := id) fun s a t out step => ?_
  obtain ⟨⟨u, effects⟩, moved, same⟩ := Option.map_eq_some_iff.mp step
  obtain ⟨rfl, rfl⟩ := Prod.mk.inj same
  have unasked : (s.asked a).filterMap Report.effect = [] := by
    rw [List.filterMap_eq_nil_iff]
    intro report mem
    obtain ⟨i, asking, rfl⟩ := mem_asked mem
    rfl
  have shown : (effects.map Report.shown).filterMap Report.effect = effects := by
    rw [List.filterMap_map]
    exact List.filterMap_some
  rw [List.filterMap_append, unasked, shown, List.nil_append]
  exact .of_step moved

variable {filters : List String} {config : SharingConfig} {devices : List RusbDevice}
  {clock : ClockReading}

theorem Conversations.reach
    (run : (conversing engine).Reach (new filters config devices clock) tr s) :
    Conversations tr s := by
  refine run.invariantAlong ⟨fun i c wrong => (nomatch wrong), fun _ _ => rfl⟩ ?_
  intro tr s a t out before hs _ step
  obtain ⟨⟨u, effects⟩, moved, same⟩ := Option.map_eq_some_iff.mp step
  obtain ⟨rfl, rfl⟩ := Prod.mk.inj same
  exact hs.next (Authority.reach (effects_reach before)) moved

/-- Whatever the order of messages, commands and events, a connection's requests are answered one
by one: what was said is the requests in turn, each followed by its one answer, and each answer is
the worker's to a command of that request's own, or what the policy check or the connection's map
of handles gave for it. -/
theorem requests_answered (run : (conversing engine).Reach (new filters config devices clock) tr s)
    (found : s.conns.lookup i = some c) :
    ∃ inquiries pending, Conversed tr i c inquiries pending := by
  obtain ⟨inquiries, pending, -, conversed, -⟩ := (Conversations.reach run).talking i c found
  exact ⟨inquiries, pending, conversed⟩

/-- The client attaches the device, and then submits a transfer for a handle that it does not
have. -/
theorem requests_answered_attach : ∃ tr s c inquiries pending,
    (conversing ⟨[], 0⟩).Reach (oneDevice .exclusive) tr s ∧ s.conns.lookup 0 = some c ∧
      Conversed tr 0 c inquiries pending ∧
      dialogue 0 tr = [.request ⟨.attachDeviceRequest ⟨1⟩, []⟩,
        .response (.attachDeviceResponse (.ok ⟨1⟩)),
        .request ⟨.submitTransfer ⟨⟨1⟩, ⟨2⟩, .bulk 1 [7] 0 none⟩, [⟨1⟩]⟩,
        .response (.transferComplete ⟨⟨1⟩, .error .notFound⟩)] := by
  have run := Machine.Reach.of_run (rfl : (conversing ⟨[], 0⟩).run (oneDevice .exclusive)
    (attachRun 0 "a" ++ [.connection 0 .accept,
      .connection 0 (.message (.submitTransfer ⟨⟨1⟩, ⟨2⟩, .bulk 1 [7] 0 none⟩))]) = some (_, _))
  obtain ⟨inquiries, pending, conversed⟩ :=
    requests_answered run (rfl : AList.lookup (0 : ConnId) _ = some _)
  exact ⟨_, _, _, inquiries, pending, run, rfl, conversed, rfl⟩

end Server
end P2pUsb
