import P2pUsb.Library.Machine
import P2pUsb.Network.Connection

/-! The whole server in service mode: any number of connections, the command and
event channels between them and the USB worker, and the expiration monitor of
the policy engine. Each step is what one party does between two waits. -/
namespace P2pUsb

abbrev ConnId := Nat

/-- A command in the channel, with the one-shot channel its reply goes to. -/
structure QueuedCommand where
  conn : ConnId
  token : Nat
  cmd : UsbCommand

/-- Where the worker is in its loop; while it emits, its `send_blocking` waits
for a slot in the event channel. -/
inductive WorkerPhase where
  | receive
  | poll
  | firing (todo : List DebouncedEvent)
  | emitting (event : UsbEvent) (todo : List DebouncedEvent)

/-- The ready events are worked off, then the loop starts again. -/
def WorkerPhase.next (todo : List DebouncedEvent) : WorkerPhase :=
  if todo.isEmpty then .receive else .firing todo

structure Server where
  clock : ClockReading
  manager : DeviceManager
  worker : WorkerPhase
  conns : AList fun _ : ConnId => ClientConnection
  commands : List QueuedCommand
  events : List UsbEvent
  sessions : ActiveSessions
  monitor : List SessionExpiredEvent

/-- Both channels of `create_usb_bridge` are bounded by this. -/
def CHANNEL_CAPACITY : Nat := 256

/-- What the handler of one connection does next. Hash maps are iterated in an
order of their own, so the order of the cleanup is given with the step. -/
inductive ConnectionAction where
  | accept
  | readError
  | message (payload : MessagePayload)
  | release
  | event
  | expiryTick (order : List DeviceHandle)
  | disconnect (order : List DeviceHandle)
  | enqueue
  | resume
  | giveUp

inductive Action where
  | tick (now : ClockReading)
  | connect (conn : ConnId) (endpointId : EndpointId)
  | connection (conn : ConnId) (action : ConnectionAction)
  | command (env : UsbEnv)
  | hotplug (bus address : UInt8) (eventType : PendingHotplugEvent)
  | collect (order : List DebouncedEvent)
  | fire (env : UsbEnv)
  | emit
  | monitorTick
  | monitorExpire

inductive Effect where
  | connection (conn : ConnId) (effect : ConnectionEffect)
  | answered (conn : ConnId) (token : Nat) (cmd : UsbCommand) (reply : UsbReply)
  | executed (conn : ConnId) (handle : DeviceHandle) (device : UsbDevice) (transfer : TransferType)

namespace Server

def new (filters : List String) (config : SharingConfig) (devices : List RusbDevice)
    (clock : ClockReading) : Server where
  clock := clock
  manager := (DeviceManager.withSharingConfig filters config).enumerateDevices devices
  worker := .receive
  conns := ∅
  commands := []
  events := []
  sessions := ∅
  monitor := []

def setConn (s : Server) (i : ConnId) (c : ClientConnection) : Server :=
  { s with conns := s.conns.insert i c }

/-- The cleanup after the loop, its handles in the order of the hash map. -/
def leaveLoop (s : Server) (i : ConnId) (c : ClientConnection) (order : List DeviceHandle) :
    Option (Server × List Effect) :=
  if order.isPerm c.attachedDevices.keys then some (s.setConn i (c.cleanup order), []) else none

def connectionStep (engine : PolicyEngine) (s : Server) (i : ConnId) (c : ClientConnection)
    (action : ConnectionAction) : Option (Server × List Effect) :=
  match c.phase, action with
  | .selecting, .accept =>
      some (s.setConn i { c with phase := .reading, lastActivity := s.clock.instant }, [])
  | .selecting, .event =>
      match s.events with
      | [] => none
      | event :: rest => some (setConn { s with events := rest } i (c.handleUsbEvent event), [])
  | .selecting, .expiryTick order =>
      if s.clock.instant - c.lastActivity > IDLE_LIMIT then s.leaveLoop i c order
      else
        let expired := s.sessions.checkExpiredSessions s.clock.instant
        some (s.setConn i (c.handleExpiredSessions expired), [])
  | .selecting, .disconnect order => s.leaveLoop i c order
  | .reading, .readError => some (s.setConn i { c with phase := .selecting }, [])
  | .reading, .message payload =>
      let (c, effects) := c.handleMessage engine s.clock payload
      some (s.setConn i c, effects.map (.connection i))
  | .throttled request, .release =>
      let cmd := UsbCommand.submitTransfer request.handle request
      some (s.setConn i { c with phase := .sending cmd .submit }, [])
  | .sending cmd next, .enqueue =>
      if s.commands.length < CHANNEL_CAPACITY then
        some (setConn { s with commands := s.commands ++ [⟨i, c.sent, cmd⟩] } i
          { c with phase := .awaiting c.sent next none, sent := c.sent + 1 }, [])
      else none
  | .awaiting _ next (some reply), .resume =>
      let ((c, effects), sessions) := c.resume engine s.clock s.sessions next reply
      some (setConn { s with sessions := sessions } i c, effects.map (.connection i))
  | .awaiting _ (.expire event rest) none, .giveUp =>
      -- the five seconds are over; the command stays in the channel
      some (setConn { s with sessions := s.sessions.unregisterSession event.handle } i
        (c.handleExpiredSessions rest), [])
  | _, _ => none

def deliver (s : Server) (q : QueuedCommand) (reply : UsbReply) :
    AList fun _ : ConnId => ClientConnection :=
  s.conns.modify q.conn fun c => c.receive q.token reply

/-- The transfers that a command carries out. -/
def executions (m : DeviceManager) (q : QueuedCommand) : List Effect :=
  match q.cmd with
  | .submitTransfer handle request =>
      (m.openDevice handle).toList.map fun device =>
        .executed q.conn handle device request.transfer
  | _ => []

/-- `try_recv_command` and the handling of the command, if there was one. -/
def commandStep (s : Server) (env : UsbEnv) : Server × List Effect :=
  match s.commands with
  | [] => ({ s with worker := .poll }, [])
  | q :: rest =>
      let (reply, manager) := s.manager.handleCommandInner { env with now := s.clock.instant } q.cmd
      ({ s with
          manager := manager
          worker := .poll
          commands := rest
          conns := s.deliver q reply },
        .answered q.conn q.token q.cmd reply :: executions s.manager q)

def workerStep (s : Server) (action : Action) : Option (Server × List Effect) :=
  match s.worker, action with
  | .receive, .command env => some (s.commandStep env)
  | .poll, .hotplug bus address eventType =>
      some ({ s with
        manager := s.manager.scheduleDebouncedEvent s.clock.instant bus address eventType }, [])
  | .poll, .collect order =>
      if order.isPerm (s.manager.readyEvents s.clock.instant) then
        some ({ s with
          manager := s.manager.takeReadyEvents s.clock.instant
          worker := .next order }, [])
      else none
  | .firing (event :: todo), .fire env =>
      match s.manager.processReadyEvent { env with now := s.clock.instant } event with
      | (some event, manager) =>
          some ({ s with manager := manager, worker := .emitting event todo }, [])
      | (none, manager) => some ({ s with manager := manager, worker := .next todo }, [])
  | .emitting event todo, .emit =>
      if s.events.length < CHANNEL_CAPACITY then
        some ({ s with events := s.events ++ [event], worker := .next todo }, [])
      else none
  | _, _ => none

def step (engine : PolicyEngine) (s : Server) (action : Action) : Option (Server × List Effect) :=
  match action with
  | .tick now => if s.clock.instant ≤ now.instant then some ({ s with clock := now }, []) else none
  | .connect i endpointId =>
      if i ∈ s.conns then none
      else some (s.setConn i (.new endpointId s.clock.instant), [])
  | .connection i action => (s.conns.lookup i).bind fun c => s.connectionStep engine i c action
  | .monitorTick =>
      if s.monitor.isEmpty then
        some ({ s with monitor := s.sessions.checkExpiredSessions s.clock.instant }, [])
      else none
  | .monitorExpire =>
      match s.monitor with
      | [] => none
      | event :: rest =>
          some ({ s with sessions := s.sessions.erase event.handle, monitor := rest }, [])
  | _ => s.workerStep action

end Server

/-- The server under one policy configuration. -/
def server (engine : PolicyEngine) : Machine Server Action Effect where
  step s action := s.step engine action

end P2pUsb
