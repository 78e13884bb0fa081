import P2pUsb.Library.Coalescing
import P2pUsb.Library.Machine
import P2pUsb.Protocol.Types

/-! The aggregator of device notifications. It keeps the latest notification of each device,
so the client does not see what the earlier ones of the same window said. -/
namespace P2pUsb

inductive DeviceRemovalReason where
  | unplugged
  | serverShutdown
  | deviceError (message : String)
  | adminAction
  deriving DecidableEq, Repr

inductive DeviceStatusChangeReason where
  | deviceReset
  | sharingStatusChanged (shared : Bool)
  | configurationChanged
  | capabilitiesUpdated
  | interfaceChange
  | powerStateChange
  | other (description : String)
  deriving DecidableEq, Repr

/-- New information on a device. The type narrows the `StatusChanged` of the source, whose
`device_info` may be under any id, to that of its own `device_id`; the server itself sends none. -/
abbrev UpdatedInfo (deviceId : DeviceId) := { info : DeviceInfo // info.id = deviceId }

inductive PendingNotification where
  | arrived (device : DeviceInfo)
  | removed (deviceId : DeviceId) (invalidatedHandles : List DeviceHandle)
      (reason : DeviceRemovalReason)
  | statusChanged (deviceId : DeviceId) (deviceInfo : Option (UpdatedInfo deviceId))
      (reason : DeviceStatusChangeReason)

inductive AggregatedNotification where
  | arrived (device : DeviceInfo)
  | removed (deviceId : DeviceId) (invalidatedHandles : List DeviceHandle)
      (reason : DeviceRemovalReason)
  | statusChanged (deviceId : DeviceId) (deviceInfo : Option (UpdatedInfo deviceId))
      (reason : DeviceStatusChangeReason)

/-- The payloads in which devices are announced to a client. -/
inductive DeviceMessage where
  | deviceArrivedNotification (device : DeviceInfo)
  | deviceRemovedNotification (deviceId : DeviceId) (invalidatedHandles : List DeviceHandle)
      (reason : DeviceRemovalReason)
  | deviceStatusChangedNotification (deviceId : DeviceId)
      (deviceInfo : Option (UpdatedInfo deviceId)) (reason : DeviceStatusChangeReason)
  | aggregatedNotifications (notifications : List AggregatedNotification)

namespace PendingNotification

def deviceId : PendingNotification → DeviceId
  | .arrived info => info.id
  | .removed deviceId _ _ => deviceId
  | .statusChanged deviceId _ _ => deviceId

def aggregated : PendingNotification → AggregatedNotification
  | .arrived device => .arrived device
  | .removed deviceId invalidatedHandles reason => .removed deviceId invalidatedHandles reason
  | .statusChanged deviceId deviceInfo reason => .statusChanged deviceId deviceInfo reason

/-- The message that would announce this notification alone. -/
def message : PendingNotification → DeviceMessage
  | .arrived device => .deviceArrivedNotification device
  | .removed deviceId invalidatedHandles reason =>
      .deviceRemovedNotification deviceId invalidatedHandles reason
  | .statusChanged deviceId deviceInfo reason =>
      .deviceStatusChangedNotification deviceId deviceInfo reason

end PendingNotification

structure NotificationAggregator where
  pending : AList fun _ : DeviceId => PendingNotification
  pendingOrder : List DeviceId
  windowStart : Option Instant

namespace NotificationAggregator

def new : NotificationAggregator := ⟨∅, [], none⟩

def add (a : NotificationAggregator) (notification : PendingNotification) (now : Instant) :
    NotificationAggregator :=
  let deviceId := notification.deviceId
  { windowStart := a.windowStart.or (some now)
    pendingOrder := if deviceId ∈ a.pending then a.pendingOrder else a.pendingOrder ++ [deviceId]
    pending := a.pending.insert deviceId notification }

def flush (a : NotificationAggregator) :
    Option (List AggregatedNotification) × NotificationAggregator :=
  if a.pending.size = 0 then (none, a)
  else
    (some ((a.pendingOrder.filterMap fun id => a.pending.lookup id).map
      PendingNotification.aggregated), new)

end NotificationAggregator

/-- What a client has heard of the devices of a server: its list of them, and the handles
that it was told to detach. -/
structure KnownDevices where
  devices : List DeviceInfo
  detached : List DeviceHandle

namespace KnownDevices

def addDevice (k : KnownDevices) (deviceInfo : DeviceInfo) : KnownDevices :=
  if k.devices.any fun d => d.id = deviceInfo.id then k
  else { k with devices := k.devices ++ [deviceInfo] }

def removeDevice (k : KnownDevices) (deviceId : DeviceId) (invalidatedHandles : List DeviceHandle) :
    KnownDevices :=
  { devices := k.devices.filter fun d => d.id ≠ deviceId
    detached := k.detached ++ invalidatedHandles }

def updateDeviceInfo (k : KnownDevices) (deviceId : DeviceId)
    (newInfo : Option (UpdatedInfo deviceId)) : KnownDevices :=
  match k.devices.findIdx? fun d => d.id = deviceId, newInfo with
  | some i, some info => { k with devices := k.devices.set i info.val }
  | _, _ => k

def handleAggregated (k : KnownDevices) : AggregatedNotification → KnownDevices
  | .arrived device => k.addDevice device
  | .removed deviceId invalidatedHandles _ => k.removeDevice deviceId invalidatedHandles
  | .statusChanged deviceId deviceInfo _ => k.updateDeviceInfo deviceId deviceInfo

def handleNotification (k : KnownDevices) : DeviceMessage → KnownDevices
  | .deviceArrivedNotification device => k.addDevice device
  | .deviceRemovedNotification deviceId invalidatedHandles _ =>
      k.removeDevice deviceId invalidatedHandles
  | .deviceStatusChangedNotification deviceId deviceInfo _ =>
      k.updateDeviceInfo deviceId deviceInfo
  | .aggregatedNotifications notifications => notifications.foldl handleAggregated k

def known (k : KnownDevices) : List DeviceId := k.devices.map DeviceInfo.id

/-- The same devices are known and the same handles were to be detached. -/
structure Agree (k l : KnownDevices) : Prop where
  known : ∀ d, d ∈ k.known ↔ d ∈ l.known
  detached : ∀ h, h ∈ k.detached ↔ h ∈ l.detached

theorem Agree.refl (k : KnownDevices) : k.Agree k := ⟨fun _ => Iff.rfl, fun _ => Iff.rfl⟩

end KnownDevices

namespace PendingNotification
variable {n : PendingNotification} {d : DeviceId} {h : DeviceHandle}

/-- What the notification says of the presence of a device. -/
def presence (d : DeviceId) : PendingNotification → Option Bool
  | .arrived device => if device.id = d then some true else none
  | .removed deviceId _ _ => if deviceId = d then some false else none
  | .statusChanged _ _ _ => none

def invalidatedHandles : PendingNotification → List DeviceHandle
  | .removed _ invalidatedHandles _ => invalidatedHandles
  | .arrived _ | .statusChanged _ _ _ => []

theorem presence_other (other : n.deviceId ≠ d) : n.presence d = none := by
  cases n with
  | arrived device => exact if_neg other
  | removed deviceId invalidatedHandles reason => exact if_neg other
  | statusChanged deviceId deviceInfo reason => rfl

/-- Of its own device only a status change does not tell the presence. -/
theorem presence_none (own : n.deviceId = d) (silent : n.presence d = none) :
    ∃ deviceInfo reason, n = .statusChanged d deviceInfo reason := by
  cases n with
  | arrived device =>
      have own : device.id = d := own
      rw [presence, if_pos own] at silent
      cases silent
  | removed deviceId invalidatedHandles reason =>
      have own : deviceId = d := own
      rw [presence, if_pos own] at silent
      cases silent
  | statusChanged deviceId deviceInfo reason =>
      obtain rfl : deviceId = d := own
      exact ⟨deviceInfo, reason, rfl⟩

end PendingNotification

namespace KnownDevices
variable {k : KnownDevices} {d : DeviceId} {h : DeviceHandle}

theorem known_add (device : DeviceInfo) :
    d ∈ (k.addDevice device).known ↔ d = device.id ∨ d ∈ k.known := by
  unfold addDevice
  split
  case isTrue already =>
    obtain ⟨old, listed, same⟩ := List.any_eq_true.mp already
    have there : device.id ∈ k.known := List.mem_map.mpr ⟨old, listed, of_decide_eq_true same⟩
    exact ⟨.inr, fun either => either.elim (fun new => new ▸ there) id⟩
  case isFalse =>
    simp only [known, List.map_append, List.map_singleton, List.mem_append, List.mem_singleton]
    exact or_comm

theorem known_remove (deviceId : DeviceId) (invalidatedHandles : List DeviceHandle) :
    d ∈ (k.removeDevice deviceId invalidatedHandles).known ↔ d ≠ deviceId ∧ d ∈ k.known := by
  simp only [known, removeDevice, List.mem_map, List.mem_filter, decide_eq_true_eq]
  constructor
  · rintro ⟨device, ⟨listed, other⟩, rfl⟩
    exact ⟨other, device, listed, rfl⟩
  · rintro ⟨other, device, listed, rfl⟩
    exact ⟨device, ⟨listed, other⟩, rfl⟩

/-- An update stays with the id it is made for. -/
theorem known_update (deviceId : DeviceId) (newInfo : Option (UpdatedInfo deviceId)) :
    (k.updateDeviceInfo deviceId newInfo).known = k.known := by
  unfold updateDeviceInfo
  split
  case h_1 i info found =>
    obtain ⟨bound, here, -⟩ := List.findIdx?_eq_some_iff_getElem.mp found
    have listed : i < (k.devices.map DeviceInfo.id).length := by rwa [List.length_map]
    have same : info.val.id = (k.devices.map DeviceInfo.id)[i] := by
      rw [List.getElem_map, of_decide_eq_true here, info.property]
    rw [known, known, List.map_set, same, List.set_getElem_self]
  case h_2 => rfl

theorem known_hear (k : KnownDevices) (n : PendingNotification) :
    d ∈ (k.handleNotification n.message).known ↔
      (n.presence d).getD (decide (d ∈ k.known)) = true := by
  cases n with
  | arrived device =>
      refine (known_add device).trans ?_
      by_cases own : device.id = d
      · simp [PendingNotification.presence, own]
      · simp [PendingNotification.presence, own, Ne.symm own]
  | removed deviceId invalidatedHandles reason =>
      refine (known_remove deviceId invalidatedHandles).trans ?_
      by_cases own : deviceId = d
      · simp [PendingNotification.presence, own]
      · simp [PendingNotification.presence, own, Ne.symm own]
  | statusChanged deviceId deviceInfo reason =>
      have same := known_update (k := k) deviceId deviceInfo
      simp only [PendingNotification.message, handleNotification, same,
        PendingNotification.presence, Option.getD_none, decide_eq_true_eq]

theorem detached_hear (k : KnownDevices) (n : PendingNotification) :
    h ∈ (k.handleNotification n.message).detached ↔ h ∈ k.detached ∨ h ∈ n.invalidatedHandles := by
  cases n with
  | arrived device =>
      simp only [PendingNotification.message, handleNotification, addDevice,
        PendingNotification.invalidatedHandles, List.not_mem_nil, or_false]
      split <;> exact Iff.rfl
  | removed deviceId invalidatedHandles reason => exact List.mem_append
  | statusChanged deviceId deviceInfo reason =>
      simp only [PendingNotification.message, handleNotification, updateDeviceInfo,
        PendingNotification.invalidatedHandles, List.not_mem_nil, or_false]
      split <;> exact Iff.rfl

/-- The notifications one after the other. -/
def hear (k : KnownDevices) (ns : List PendingNotification) : KnownDevices :=
  ns.foldl (fun k n => k.handleNotification n.message) k

/-- The last arrival or removal decides whether a device is known. -/
theorem known_hear_all (k : KnownDevices) (ns : List PendingNotification) :
    d ∈ (k.hear ns).known ↔
      (ns.filterMap (·.presence d)).getLast?.getD (decide (d ∈ k.known)) = true := by
  induction ns generalizing k with
  | nil => exact decide_eq_true_iff.symm
  | cons n rest ih =>
      rw [hear, List.foldl_cons, ← hear, ih, List.filterMap_cons]
      have first := known_hear (d := d) k n
      cases said : n.presence d with
      | none =>
          rw [said, Option.getD_none, decide_eq_true_iff] at first
          simp only [first]
      | some present =>
          rw [said, Option.getD_some] at first
          simp only [first, List.getLast?_cons, Option.getD_some, Bool.decide_eq_true]

theorem detached_hear_all (k : KnownDevices) (ns : List PendingNotification) :
    h ∈ (k.hear ns).detached ↔ h ∈ k.detached ∨ ∃ n ∈ ns, h ∈ n.invalidatedHandles := by
  induction ns generalizing k with
  | nil => simp [hear]
  | cons n rest ih =>
      rw [hear, List.foldl_cons, ← hear, ih, detached_hear]
      simp only [List.mem_cons, exists_eq_or_imp, or_assoc]

end KnownDevices

/-- One client hears the batches, another one every notification at once. `window` are the
notifications since the last flush. -/
structure Feed where
  aggregator : NotificationAggregator
  window : List PendingNotification
  batched : KnownDevices
  single : KnownDevices

inductive FeedCall where
  | add (notification : PendingNotification) (now : Instant)
  | flush

namespace Feed
open Coalescing (latest)
variable {s : Feed} {k l : KnownDevices} {window : List PendingNotification}

def start (k : KnownDevices) : Feed := ⟨.new, [], k, k⟩

def feed : Machine Feed FeedCall Empty where
  step s
    | .add notification now => some ({ s with
        aggregator := s.aggregator.add notification now
        window := s.window ++ [notification]
        single := s.single.handleNotification notification.message }, [])
    | .flush => some ({ s with
        aggregator := s.aggregator.flush.2
        window := []
        batched := match s.aggregator.flush.1 with
          | some notifications =>
              s.batched.handleNotification (.aggregatedNotifications notifications)
          | none => s.batched }, [])

/-- What the batch of a window leaves out is known to the client already: the presence of a
device whose last notification is a status change, and the handles of every removal that a
later notification of its device has replaced. -/
structure Lossless (k : KnownDevices) (window : List PendingNotification) : Prop where
  status : ∀ d deviceInfo reason,
    latest PendingNotification.deviceId window d = some (.statusChanged d deviceInfo reason) →
    ∀ present, (window.filterMap (·.presence d)).getLast? = some present →
      (present = true ↔ d ∈ k.known)
  handles : ∀ n ∈ window, ∀ h ∈ n.invalidatedHandles, h ∈ k.detached ∨
    ∃ m, latest PendingNotification.deviceId window m.deviceId = some m ∧ h ∈ m.invalidatedHandles

/-- The aggregator holds the latest notifications of the window, and before the window the
two clients agreed. -/
structure FeedInv (s : Feed) : Prop where
  pending : Coalescing.Holds PendingNotification.deviceId s.aggregator.pending
    s.aggregator.pendingOrder s.window
  heard : ∃ k, s.batched.Agree k ∧ s.single = k.hear s.window

/-- The items of a batch have the effect of the notifications that they were made from. -/
theorem handle_batch (k : KnownDevices) (ns : List PendingNotification) :
    k.handleNotification (.aggregatedNotifications (ns.map PendingNotification.aggregated)) =
      k.hear ns := by
  have same : ∀ (k : KnownDevices) (n : PendingNotification),
      k.handleAggregated n.aggregated = k.handleNotification n.message := by
    intro k n
    cases n <;> rfl
  simp only [KnownDevices.handleNotification, KnownDevices.hear, List.foldl_map, same]

theorem flush_batched {a : NotificationAggregator}
    (pending : Coalescing.Holds PendingNotification.deviceId a.pending a.pendingOrder window) :
    (match a.flush.1 with
      | some notifications => k.handleNotification (.aggregatedNotifications notifications)
      | none => k) = k.hear (a.pendingOrder.filterMap fun id => a.pending.lookup id) := by
  by_cases empty : a.pending.size = 0
  · have nothing : a.pendingOrder = [] := by
      refine List.eq_nil_iff_forall_not_mem.mpr fun d listed => ?_
      exact AList.size_eq_zero.mp empty d ((pending.keys d).mp listed)
    simp only [NotificationAggregator.flush, empty, if_true, nothing]
    rfl
  · simp only [NotificationAggregator.flush, empty, if_false]
    exact handle_batch k _

/-- After a flush nothing is pending. -/
theorem flush_pending {a : NotificationAggregator}
    (pending : Coalescing.Holds PendingNotification.deviceId a.pending a.pendingOrder window) :
    Coalescing.Holds PendingNotification.deviceId a.flush.2.pending a.flush.2.pendingOrder [] := by
  unfold NotificationAggregator.flush
  split
  case isTrue empty =>
    refine ⟨fun d => ?_, pending.once, pending.keys⟩
    exact AList.lookup_eq_none.mpr (AList.size_eq_zero.mp empty d)
  case isFalse => exact .empty

/-- The batch of a window says of each device what its latest notification says. -/
theorem known_batch {order : List DeviceId}
    {m : AList fun _ : DeviceId => PendingNotification}
    (pending : Coalescing.Holds PendingNotification.deviceId m order window) (d : DeviceId) :
    d ∈ (k.hear (order.filterMap fun id => m.lookup id)).known ↔
      ((latest PendingNotification.deviceId window d).bind (·.presence d)).getD
        (decide (d ∈ k.known)) = true := by
  rw [KnownDevices.known_hear_all,
    pending.flush_reading fun n => PendingNotification.presence_other]
  cases (latest PendingNotification.deviceId window d).bind (·.presence d) <;> rfl

theorem known_agree_iff {order : List DeviceId}
    {m : AList fun _ : DeviceId => PendingNotification}
    (pending : Coalescing.Holds PendingNotification.deviceId m order window) (agree : k.Agree l) :
    (∀ d, d ∈ (k.hear (order.filterMap fun id => m.lookup id)).known ↔
        d ∈ (l.hear window).known) ↔
      ∀ d deviceInfo reason,
        latest PendingNotification.deviceId window d = some (.statusChanged d deviceInfo reason) →
        ∀ present, (window.filterMap (·.presence d)).getLast? = some present →
          (present = true ↔ d ∈ k.known) := by
  have before : ∀ d, decide (d ∈ l.known) = decide (d ∈ k.known) := fun d =>
    decide_eq_decide.mpr (agree.known d).symm
  simp only [known_batch pending, KnownDevices.known_hear_all, before]
  refine forall_congr' fun d => ⟨?_, fun status => ?_⟩
  · intro same deviceInfo reason last present seen
    rw [last, seen] at same
    simpa [PendingNotification.presence] using same.symm
  · have other : ∀ n : PendingNotification, n.deviceId ≠ d → n.presence d = none :=
      fun n => PendingNotification.presence_other
    cases last : latest PendingNotification.deviceId window d with
    | none =>
        rw [Coalescing.no_reading other last]
        rfl
    | some n =>
        cases said : n.presence d with
        | some present =>
            rw [Option.bind_some, said, Coalescing.last_reading other last said]
        | none =>
            obtain ⟨deviceInfo, reason, rfl⟩ :=
              PendingNotification.presence_none (Coalescing.key_of_latest last) said
            have kept := status deviceInfo reason last
            cases seen : (window.filterMap (·.presence d)).getLast? with
            | none => rfl
            | some present =>
                rw [Option.bind_some, said, Option.getD_none, Option.getD_some, decide_eq_true_iff]
                exact (kept present seen).symm

theorem detached_agree_iff {order : List DeviceId}
    {m : AList fun _ : DeviceId => PendingNotification}
    (pending : Coalescing.Holds PendingNotification.deviceId m order window) (agree : k.Agree l) :
    (∀ h, h ∈ (k.hear (order.filterMap fun id => m.lookup id)).detached ↔
        h ∈ (l.hear window).detached) ↔
      ∀ n ∈ window, ∀ h ∈ n.invalidatedHandles, h ∈ k.detached ∨
        ∃ m, latest PendingNotification.deviceId window m.deviceId = some m ∧
          h ∈ m.invalidatedHandles := by
  simp only [KnownDevices.detached_hear_all, pending.mem_flush, ← agree.detached]
  constructor
  · intro same n heard h invalidated
    exact (same h).mpr (.inr ⟨n, heard, invalidated⟩)
  · intro handles h
    constructor
    · rintro (told | ⟨n, last, invalidated⟩)
      · exact .inl told
      · exact .inr ⟨n, Coalescing.mem_of_latest last, invalidated⟩
    · rintro (told | ⟨n, heard, invalidated⟩)
      · exact .inl told
      · exact handles n heard h invalidated

theorem agree_iff_lossless {a : NotificationAggregator}
    (pending : Coalescing.Holds PendingNotification.deviceId a.pending a.pendingOrder window)
    (agree : k.Agree l) :
    (k.hear (a.pendingOrder.filterMap fun id => a.pending.lookup id)).Agree (l.hear window) ↔
      Lossless k window := by
  constructor
  · intro same
    exact ⟨(known_agree_iff pending agree).mp same.known,
      (detached_agree_iff pending agree).mp same.detached⟩
  · intro lossless
    exact ⟨(known_agree_iff pending agree).mpr lossless.status,
      (detached_agree_iff pending agree).mpr lossless.handles⟩

namespace FeedInv

theorem start (k : KnownDevices) : FeedInv (start k) where
  pending := .empty
  heard := ⟨k, .refl k, rfl⟩

theorem add (hs : s.FeedInv) (n : PendingNotification) (now : Instant) :
    FeedInv { s with
      aggregator := s.aggregator.add n now
      window := s.window ++ [n]
      single := s.single.handleNotification n.message } where
  pending := hs.pending.add n
  heard := by
    obtain ⟨k, agree, heard⟩ := hs.heard
    refine ⟨k, agree, ?_⟩
    rw [heard, KnownDevices.hear, KnownDevices.hear, List.foldl_append]
    rfl

end FeedInv

theorem batches_agree_iff_lossless (k : KnownDevices) (calls : List FeedCall) :
    feed.EveryStep (fun _ call t _ => call = .flush → t.batched.Agree t.single) (start k) calls ↔
      feed.EveryStep (fun s call _ _ => call = .flush → Lossless s.batched s.window)
        (start k) calls := by
  refine Machine.everyStep_congr (I := FeedInv) ?_ ?_ (FeedInv.start k) calls
  · intro s call t out hs step
    cases call with
    | add n now => exact iff_of_true (fun wrong => (nomatch wrong)) fun wrong => (nomatch wrong)
    | flush =>
        obtain ⟨rfl, -⟩ := Prod.mk.inj (Option.some.inj step)
        obtain ⟨l, agree, heard⟩ := hs.heard
        simp only [flush_batched hs.pending, heard, forall_const]
        exact agree_iff_lossless hs.pending agree
  · intro s call t out hs step lossless
    cases call with
    | add n now =>
        obtain ⟨rfl, -⟩ := Prod.mk.inj (Option.some.inj step)
        exact hs.add n now
    | flush =>
        obtain ⟨rfl, -⟩ := Prod.mk.inj (Option.some.inj step)
        obtain ⟨l, agree, heard⟩ := hs.heard
        refine ⟨?_, s.single, ?_, rfl⟩
        · exact flush_pending hs.pending
        · simp only [flush_batched hs.pending, heard]
          exact (agree_iff_lossless hs.pending agree).mpr (lossless rfl)

def exampleKeyboard : DeviceInfo where
  id := ⟨1⟩
  vendorId := 0x1234
  productId := 0x5678
  busNumber := 1
  deviceAddress := 1
  manufacturer := none
  product := none
  serialNumber := none
  deviceClass := 3
  subclass := 1
  protocol := 1
  speed := .low
  numConfigurations := 1

/-- A status change hides the arrival before it, and an arrival hides the handle of the
removal before it. -/
theorem batch_hides_arrival_and_handle :
    (¬ feed.EveryStep (fun _ call t _ => call = .flush → t.batched.Agree t.single) (start ⟨[], []⟩)
      [.add (.arrived exampleKeyboard) 0,
        .add (.statusChanged ⟨1⟩ none (.sharingStatusChanged true)) 1, .flush]) ∧
    ¬ feed.EveryStep (fun _ call t _ => call = .flush → t.batched.Agree t.single)
      (start ⟨[exampleKeyboard], []⟩)
      [.add (.removed ⟨1⟩ [⟨1⟩] .unplugged) 0, .add (.arrived exampleKeyboard) 1, .flush] := by
  constructor
  · intro every
    have agree := (((every _ _ rfl).2 _ _ rfl).2 _ _ rfl).1 rfl
    exact absurd ((agree.known ⟨1⟩).mpr (by decide)) (by decide)
  · intro every
    have agree := (((every _ _ rfl).2 _ _ rfl).2 _ _ rfl).1 rfl
    exact absurd ((agree.detached ⟨1⟩).mpr (by decide)) (by decide)

end Feed
end P2pUsb
