import P2pUsb.Network.AggregatorContents
import P2pUsb.Network.Conversations

/-! The server with what it tells its clients of the devices. A connection gathers the events
that it takes from the channel and pushes them in batches; the lists that its client asks for
go to the same client, on streams of their own. -/
namespace P2pUsb

/-- What is on its way to a client. -/
inductive Announcement where
  | devices (devices : List DeviceInfo)
  | batch (notifications : List AggregatedNotification)

/-- The side of a connection that announces devices, and the client behind it. `underWay` are
the streams that the client has not read, in the order in which they were opened. -/
structure Announcer where
  clientSupportsPush : Bool
  notificationAggregator : NotificationAggregator
  underWay : List Announcement
  client : KnownDevices

/-- What the handler of a connection makes of an event of its devices. -/
def UsbEvent.pending : UsbEvent → PendingNotification
  | .deviceArrived device => .arrived device
  | .deviceLeft deviceId invalidatedHandles _ => .removed deviceId invalidatedHandles .unplugged

namespace KnownDevices

def updateDevices (k : KnownDevices) (deviceInfos : List DeviceInfo) : KnownDevices :=
  { k with devices := deviceInfos }

def receive (k : KnownDevices) : Announcement → KnownDevices
  | .devices devices => k.updateDevices devices
  | .batch notifications => k.handleNotification (.aggregatedNotifications notifications)

end KnownDevices

namespace Announcer

/-- After the exchange of capabilities. The client may know devices from earlier. -/
def new (supportsPushNotifications : Bool) (devices : List DeviceInfo) : Announcer where
  clientSupportsPush := supportsPushNotifications
  notificationAggregator := .new
  underWay := []
  client := ⟨devices, []⟩

def queueDeviceNotification (l : Announcer) (notification : PendingNotification) (now : Instant) :
    Announcer :=
  { l with notificationAggregator := l.notificationAggregator.add notification now }

/-- `sent` is whether a stream could be opened and written. -/
def sendPushNotification (l : Announcer) (payload : Announcement) (sent : Bool) : Announcer :=
  if !l.clientSupportsPush then l
  else if sent then { l with underWay := l.underWay ++ [payload] } else l

def flushAggregatedNotifications (l : Announcer) (sent : Bool) : Announcer :=
  match l.notificationAggregator.flush with
  | (some notifications, aggregator) =>
      let l := { l with notificationAggregator := aggregator }
      if notifications.isEmpty then l else l.sendPushNotification (.batch notifications) sent
  | (none, aggregator) => { l with notificationAggregator := aggregator }

/-- The event at the head of the channel, where the handler takes it. -/
def takeEvent (l : Announcer) (s : Server) : ConnectionAction → Announcer
  | .event =>
      match s.events with
      | event :: _ => l.queueDeviceNotification event.pending s.clock.instant
      | [] => l
  | _ => l

def respond (l : Announcer) : Effect → Announcer
  | .connection _ (.responded (.listDevicesResponse devices)) =>
      { l with underWay := l.underWay ++ [.devices devices] }
  | _ => l

/-- The client reads one of the streams. -/
def deliver (l : Announcer) (n : Nat) : Option Announcer :=
  l.underWay[n]?.map fun announcement =>
    { l with underWay := l.underWay.eraseIdx n, client := l.client.receive announcement }

/-- What the client knows once it has read all that is under way. -/
def foreseen (l : Announcer) : KnownDevices := l.underWay.foldl KnownDevices.receive l.client

end Announcer

structure AnnouncedServer where
  server : Server
  lines : AList fun _ : ConnId => Announcer

/-- A connection is made with the capabilities of its client. A flush comes between two waits
of the handler. -/
inductive AnnouncedAction where
  | server (action : Action)
  | connect (conn : ConnId) (endpointId : EndpointId) (supportsPushNotifications : Bool)
      (devices : List DeviceInfo)
  | flush (conn : ConnId) (sent : Bool)
  | deliver (conn : ConnId) (n : Nat)

namespace AnnouncedServer

def new (s : Server) : AnnouncedServer := ⟨s, ∅⟩

def follow (x : AnnouncedServer) (action : Action) (out : List Effect) :
    AList fun _ : ConnId => Announcer :=
  match action with
  | .connection i action =>
      x.lines.modify i fun l => out.foldl Announcer.respond (l.takeEvent x.server action)
  | _ => x.lines

def step (engine : PolicyEngine) (x : AnnouncedServer) :
    AnnouncedAction → Option (AnnouncedServer × List Effect)
  | .server (.connect _ _) => none
  | .server action => (x.server.step engine action).map fun (s, out) =>
      (⟨s, x.follow action out⟩, out)
  | .connect i endpointId supports devices =>
      (x.server.step engine (.connect i endpointId)).map fun (s, out) =>
        (⟨s, x.lines.insert i (.new supports devices)⟩, out)
  | .flush i sent =>
      match x.server.conns.lookup i, x.lines.lookup i with
      | some c, some l =>
          match c.phase, l.notificationAggregator.shouldFlush x.server.clock.instant with
          | .selecting, true =>
              some ({ x with lines := x.lines.insert i (l.flushAggregatedNotifications sent) }, [])
          | _, _ => none
      | _, _ => none
  | .deliver i n =>
      ((x.lines.lookup i).bind fun l => l.deliver n).map fun l =>
        ({ x with lines := x.lines.insert i l }, [])

/-- What the client of a connection knows once it has read all that is under way. -/
def foreseen (x : AnnouncedServer) (i : ConnId) : KnownDevices :=
  match x.lines.lookup i with
  | some l => l.foreseen
  | none => ⟨[], []⟩

end AnnouncedServer

def announcing (engine : PolicyEngine) : Machine AnnouncedServer AnnouncedAction Effect where
  step x action := x.step engine action

/-- The events that no connection has taken. -/
def Server.news (s : Server) : List UsbEvent :=
  s.events ++ match s.worker with
    | .emitting event _ => [event]
    | .receive | .poll | .firing _ => []

/-- A list of devices was given to this connection. -/
def Listed (tr : List Effect) (i : ConnId) : Prop :=
  ∃ devices, Effect.connection i (.responded (.listDevicesResponse devices)) ∈ tr

/-- The client has given the handle back. -/
def Returned (tr : List Effect) (h : DeviceHandle) : Prop :=
  ∃ i token, Effect.answered i token (.detachDevice h) (.detached (.ok ())) ∈ tr

end P2pUsb
