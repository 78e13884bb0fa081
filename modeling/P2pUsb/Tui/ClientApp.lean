import P2pUsb.Library.FiniteMap
import P2pUsb.Library.ListCursor
import P2pUsb.Library.Machine
import P2pUsb.Protocol.Types

/-! The lists of the client's TUI: the servers and their devices, the places that are selected in
them, and what Enter does there. The toasts are left out. -/
namespace P2pUsb

inductive ServerStatus where
  | disconnected | connecting | connected | failed
  deriving DecidableEq, Repr

inductive DeviceStatus where
  | available | attaching | attached | busy | detaching
  deriving DecidableEq, Repr

structure ServerInfo where
  endpointId : EndpointId
  name : Option String
  status : ServerStatus
  deviceCount : Nat
  error : Option String
  deriving DecidableEq, Repr

structure RemoteDevice where
  info : DeviceInfo
  status : DeviceStatus
  handle : Option DeviceHandle
  error : Option String
  deriving DecidableEq, Repr

inductive ActivePane where
  | servers | devices
  deriving DecidableEq, Repr

inductive AppAction where
  | none
  | connectServer (endpointId : EndpointId)
  | attachDevice (endpointId : EndpointId) (device : DeviceId)
  | detachDevice (endpointId : EndpointId) (handle : DeviceHandle)
  deriving DecidableEq, Repr

/-- `App` of the client. -/
structure ClientApp where
  servers : AList fun _ : EndpointId => ServerInfo
  serverOrder : List EndpointId
  devices : AList fun _ : EndpointId => List RemoteDevice
  activePane : ActivePane
  selectedServer : Nat
  selectedDevice : AList fun _ : EndpointId => Nat

namespace ClientApp

def new : ClientApp := ⟨∅, [], ∅, .servers, 0, ∅⟩

def addServer (app : ClientApp) (endpointId : EndpointId) (name : Option String) : ClientApp :=
  if endpointId ∈ app.servers then app
  else
    { app with
      servers := app.servers.insert endpointId ⟨endpointId, name, .disconnected, 0, none⟩
      serverOrder := app.serverOrder ++ [endpointId] }

def removeServer (app : ClientApp) (endpointId : EndpointId) : ClientApp :=
  let serverOrder := app.serverOrder.filter (· != endpointId)
  { app with
    servers := app.servers.erase endpointId
    serverOrder := serverOrder
    devices := app.devices.erase endpointId
    selectedServer :=
      if app.selectedServer ≥ serverOrder.length ∧ app.selectedServer > 0 then
        app.selectedServer - 1
      else app.selectedServer
    selectedDevice := app.selectedDevice.erase endpointId }

def updateServerStatus (app : ClientApp) (endpointId : EndpointId) (status : ServerStatus) :
    ClientApp :=
  { app with
    servers := app.servers.modify endpointId fun server =>
      { server with
        status := status
        error := if status = .connected then none else server.error } }

def setDeviceCount (app : ClientApp) (endpointId : EndpointId) (count : Nat) : ClientApp :=
  { app with
    servers := app.servers.modify endpointId fun server => { server with deviceCount := count } }

/-- What is kept of a device that is already known; of equal ids the last one counts. -/
def existingStatus (devices : List RemoteDevice) (id : DeviceId) :
    DeviceStatus × Option DeviceHandle :=
  match devices.reverse.find? fun d => d.info.id == id with
  | some d => (d.status, d.handle)
  | none => (.available, none)

def deviceList (app : ClientApp) (endpointId : EndpointId) : List RemoteDevice :=
  (app.devices.lookup endpointId).getD []

def updateDevices (app : ClientApp) (endpointId : EndpointId) (infos : List DeviceInfo) :
    ClientApp :=
  let devices := infos.map fun info =>
    let (status, handle) := existingStatus (app.deviceList endpointId) info.id
    (⟨info, status, handle, none⟩ : RemoteDevice)
  setDeviceCount { app with devices := app.devices.insert endpointId devices } endpointId
    devices.length

def addDevice (app : ClientApp) (endpointId : EndpointId) (info : DeviceInfo) : ClientApp :=
  if (app.deviceList endpointId).any fun d => d.info.id == info.id then app
  else
    let devices := app.deviceList endpointId ++ [⟨info, .available, none, none⟩]
    setDeviceCount { app with devices := app.devices.insert endpointId devices } endpointId
      devices.length

def removeDevice (app : ClientApp) (endpointId : EndpointId) (id : DeviceId) : ClientApp :=
  match app.devices.lookup endpointId with
  | none => app
  | some devices =>
      let devices := devices.filter fun d => d.info.id != id
      setDeviceCount { app with devices := app.devices.insert endpointId devices } endpointId
        devices.length

/-- The first device with the id. -/
def updateDeviceStatus (app : ClientApp) (endpointId : EndpointId) (id : DeviceId)
    (status : DeviceStatus) (handle : Option DeviceHandle) : ClientApp :=
  { app with
    devices := app.devices.modify endpointId fun devices =>
      devices.modify (devices.findIdx fun d => d.info.id == id) fun d =>
        { d with
          status := status
          handle := handle
          error := if status = .attached ∨ status = .available then none else d.error } }

def selectedServerId (app : ClientApp) : Option EndpointId := app.serverOrder[app.selectedServer]?

/-- `selected_server` -/
def getSelectedServer (app : ClientApp) : Option ServerInfo :=
  app.selectedServerId.bind fun id => app.servers.lookup id

def deviceIndex (app : ClientApp) (endpointId : EndpointId) : Nat :=
  (app.selectedDevice.lookup endpointId).getD 0

/-- `selected_device` -/
def getSelectedDevice (app : ClientApp) : Option RemoteDevice :=
  app.selectedServerId.bind fun id =>
    (app.devices.lookup id).bind fun devices => devices[app.deviceIndex id]?

def togglePane (app : ClientApp) : ClientApp :=
  { app with
    activePane := match app.activePane with
      | .servers => .devices
      | .devices => .servers }

def navigateUp (app : ClientApp) : ClientApp :=
  match app.activePane with
  | .servers => { app with selectedServer := app.selectedServer - 1 }
  | .devices =>
      match app.selectedServerId with
      | none => app
      | some id =>
          { app with selectedDevice := app.selectedDevice.insert id (app.deviceIndex id - 1) }

def navigateDown (app : ClientApp) : ClientApp :=
  match app.activePane with
  | .servers =>
      if app.serverOrder ≠ [] ∧ app.selectedServer < app.serverOrder.length - 1 then
        { app with selectedServer := app.selectedServer + 1 }
      else app
  | .devices =>
      match app.selectedServerId with
      | none => app
      | some id =>
          match app.devices.lookup id with
          | none => app
          | some devices =>
              let idx := app.deviceIndex id
              { app with
                selectedDevice := app.selectedDevice.insert id
                  (if devices ≠ [] ∧ idx < devices.length - 1 then idx + 1 else idx) }

def handleEnter (app : ClientApp) : ClientApp × AppAction :=
  match app.activePane with
  | .servers =>
      match app.getSelectedServer with
      | none => (app, .none)
      | some server =>
          match server.status with
          | .disconnected | .failed => (app, .connectServer server.endpointId)
          | .connected => ({ app with activePane := .devices }, .none)
          | .connecting => (app, .none)
  | .devices =>
      match app.selectedServerId, app.getSelectedDevice with
      | some id, some device =>
          match device.status with
          | .available => (app, .attachDevice id device.info.id)
          | .attached =>
              match device.handle with
              | some handle => (app, .detachDevice id handle)
              | none => (app, .none)
          | _ => (app, .none)
      | _, _ => (app, .none)

end ClientApp

inductive ClientCall where
  | addServer (endpointId : EndpointId) (name : Option String)
  | removeServer (endpointId : EndpointId)
  | updateServerStatus (endpointId : EndpointId) (status : ServerStatus)
  | updateDevices (endpointId : EndpointId) (infos : List DeviceInfo)
  | addDevice (endpointId : EndpointId) (info : DeviceInfo)
  | removeDevice (endpointId : EndpointId) (id : DeviceId)
  | updateDeviceStatus (endpointId : EndpointId) (id : DeviceId) (status : DeviceStatus)
      (handle : Option DeviceHandle)
  | togglePane
  | navigateUp
  | navigateDown
  | enter

open ClientApp in
/-- A step shows the action of an Enter. -/
def clientApp : Machine ClientApp ClientCall AppAction where
  step app
    | .addServer endpointId name => some (app.addServer endpointId name, [])
    | .removeServer endpointId => some (app.removeServer endpointId, [])
    | .updateServerStatus endpointId status => some (app.updateServerStatus endpointId status, [])
    | .updateDevices endpointId infos => some (app.updateDevices endpointId infos, [])
    | .addDevice endpointId info => some (app.addDevice endpointId info, [])
    | .removeDevice endpointId id => some (app.removeDevice endpointId id, [])
    | .updateDeviceStatus endpointId id status handle =>
        some (app.updateDeviceStatus endpointId id status handle, [])
    | .togglePane => some (app.togglePane, [])
    | .navigateUp => some (app.navigateUp, [])
    | .navigateDown => some (app.navigateDown, [])
    | .enter => some (app.handleEnter.1, [app.handleEnter.2])

namespace ClientApp
open ListCursor (Within)

/-! ### Selection -/

/-- What the operator can rely on in one state. -/
structure Valid (app : ClientApp) : Prop where
  keys : ∀ id, id ∈ app.servers ↔ id ∈ app.serverOrder
  distinct : app.serverOrder.Nodup
  server : app.serverOrder ≠ [] → app.getSelectedServer.isSome
  device : ∀ id, app.selectedServerId = some id → app.deviceList id ≠ [] →
    app.getSelectedDevice.isSome

/-- The next Enter acts on the same server or device. -/
structure Stable (app app' : ClientApp) : Prop where
  server : app'.selectedServerId = app.selectedServerId
  device : app'.getSelectedDevice = app.getSelectedDevice
  enter : app'.handleEnter.2 = app.handleEnter.2

/-- The call takes away a server or a device that is not selected. -/
def RemovesOther (app : ClientApp) : ClientCall → Prop
  | .removeServer endpointId => app.selectedServerId ≠ some endpointId
  | .removeDevice endpointId id => app.selectedServerId = some endpointId →
      ∀ device, app.getSelectedDevice = some device → device.info.id ≠ id
  | _ => False

/-- The call leaves no index of a list beside the element that it was set to. -/
def KeepsPlaces (app : ClientApp) : ClientCall → Prop
  | .removeServer endpointId => app.selectedServerId = some endpointId ∨
      app.selectedServer + 1 = app.serverOrder.length ∨
      endpointId ∉ app.serverOrder.take app.selectedServer
  | .updateDevices endpointId infos => Within (app.deviceIndex endpointId) infos
  | .addDevice endpointId _ =>
      app.deviceIndex endpointId ≤ (app.deviceList endpointId).length
  | .removeDevice endpointId id =>
      Within (app.deviceIndex endpointId)
          ((app.deviceList endpointId).filter fun d => d.info.id != id) ∧
        (app.RemovesOther (.removeDevice endpointId id) →
          app.selectedServerId = some endpointId →
          ∀ d ∈ (app.deviceList endpointId).take (app.deviceIndex endpointId), d.info.id ≠ id)
  | _ => True

/-- Every index is within its list, also those of the servers that are not selected. -/
structure Indexed (app : ClientApp) : Prop where
  keys : ∀ id, id ∈ app.servers ↔ id ∈ app.serverOrder
  distinct : app.serverOrder.Nodup
  server : app.selectedServer ≤ app.serverOrder.length - 1
  device : ∀ id, Within (app.deviceIndex id) (app.deviceList id)

variable {app : ClientApp} {endpointId : EndpointId} {id : DeviceId}

theorem selected_device_eq (app : ClientApp) : app.getSelectedDevice =
    app.selectedServerId.bind fun id => (app.deviceList id)[app.deviceIndex id]? := by
  unfold getSelectedDevice deviceList
  congr
  funext id
  cases app.devices.lookup id <;> rfl

theorem Indexed.valid (h : Indexed app) : Valid app where
  keys := h.keys
  distinct := h.distinct
  server := by
    intro filled
    have inside : app.selectedServer < app.serverOrder.length := by
      have := List.length_pos_of_ne_nil filled
      have := h.server
      omega
    have own : app.selectedServerId = some app.serverOrder[app.selectedServer] :=
      List.getElem?_eq_getElem inside
    rw [getSelectedServer, own, Option.bind_some, AList.lookup_isSome, h.keys]
    exact List.getElem_mem inside
  device := by
    intro id selected filled
    rw [selected_device_eq, selected]
    exact (h.device id).isSome filled

/-! What each call does to the lists of devices and to the places in them. -/

theorem device_list_insert (app : ClientApp) (endpointId id : EndpointId)
    (devices : List RemoteDevice) :
    deviceList { app with devices := app.devices.insert endpointId devices } id =
      if id = endpointId then devices else app.deviceList id := by
  unfold deviceList
  rw [AList.lookup_insert_eq]
  split <;> rfl

theorem device_index_insert (app : ClientApp) (endpointId id : EndpointId) (n : Nat) :
    deviceIndex { app with selectedDevice := app.selectedDevice.insert endpointId n } id =
      if id = endpointId then n else app.deviceIndex id := by
  unfold deviceIndex
  rw [AList.lookup_insert_eq]
  split <;> rfl

/-- Another list of devices for one server, with a place within it. -/
theorem Indexed.insert_devices (h : Indexed app) {devices : List RemoteDevice}
    (within : Within (app.deviceIndex endpointId) devices) (count : Nat) :
    Indexed (setDeviceCount { app with devices := app.devices.insert endpointId devices }
      endpointId count) where
  keys := fun id => AList.mem_modify.trans (h.keys id)
  distinct := h.distinct
  server := h.server
  device := by
    intro id
    have list := device_list_insert app endpointId id devices
    change Within (app.deviceIndex id)
      (deviceList { app with devices := app.devices.insert endpointId devices } id)
    rw [list]
    split
    case isTrue same => exact same ▸ within
    case isFalse => exact h.device id

theorem Indexed.insert_index (h : Indexed app) {n : Nat}
    (within : Within n (app.deviceList endpointId)) :
    Indexed { app with selectedDevice := app.selectedDevice.insert endpointId n } where
  keys := h.keys
  distinct := h.distinct
  server := h.server
  device := by
    intro id
    rw [device_index_insert]
    split
    case isTrue same => exact same ▸ within
    case isFalse => exact h.device id

theorem Indexed.addServer (h : Indexed app) (endpointId : EndpointId) (name : Option String) :
    Indexed (app.addServer endpointId name) := by
  unfold ClientApp.addServer
  split
  case isTrue => exact h
  case isFalse absent =>
    refine ⟨fun id => ?_, ?_, ?_, h.device⟩
    · rw [AList.mem_insert, h.keys, List.mem_append, List.mem_singleton, or_comm]
    · exact h.distinct.append (List.nodup_singleton endpointId) (by
        simpa using mt (h.keys endpointId).mpr absent)
    · have := h.server
      simp only [List.length_append, List.length_singleton]
      omega

theorem remove_server_list (app : ClientApp) (endpointId id : EndpointId) :
    (app.removeServer endpointId).deviceList id =
      if id = endpointId then [] else app.deviceList id := by
  unfold deviceList ClientApp.removeServer
  rw [AList.lookup_erase_eq]
  split <;> rfl

theorem remove_server_index {id : EndpointId} (other : id ≠ endpointId) :
    (app.removeServer endpointId).deviceIndex id = app.deviceIndex id := by
  unfold deviceIndex ClientApp.removeServer
  rw [AList.lookup_erase_eq, if_neg other]

theorem Indexed.removeServer (h : Indexed app) (endpointId : EndpointId) :
    Indexed (app.removeServer endpointId) where
  keys := by
    intro id
    change id ∈ app.servers.erase endpointId ↔ id ∈ app.serverOrder.filter (· != endpointId)
    rw [AList.mem_erase, h.keys, List.mem_filter, bne_iff_ne, and_comm]
  distinct := h.distinct.filter _
  server := ListCursor.clamp_le h.distinct h.server
  device := by
    intro id
    rw [remove_server_list]
    split
    case isTrue => exact .inl rfl
    case isFalse other =>
      rw [remove_server_index other]
      exact h.device id

theorem Indexed.updateDeviceStatus (h : Indexed app) (endpointId : EndpointId) (id : DeviceId)
    (status : DeviceStatus) (handle : Option DeviceHandle) :
    Indexed (app.updateDeviceStatus endpointId id status handle) where
  keys := h.keys
  distinct := h.distinct
  server := h.server
  device := by
    intro other
    have length : ((app.updateDeviceStatus endpointId id status handle).deviceList other).length =
        (app.deviceList other).length := by
      unfold deviceList ClientApp.updateDeviceStatus
      rw [AList.lookup_modify_eq]
      split
      case isTrue same =>
        rw [same]
        cases app.devices.lookup endpointId with
        | none => rfl
        | some devices => exact List.length_modify ..
      case isFalse => rfl
    have within := h.device other
    unfold Within at within ⊢
    rw [← List.length_eq_zero_iff] at within ⊢
    rw [length]
    exact within

theorem Indexed.navigateUp (h : Indexed app) : Indexed app.navigateUp := by
  unfold ClientApp.navigateUp
  split
  case h_1 =>
    exact ⟨h.keys, h.distinct, (Nat.sub_le _ 1).trans h.server, h.device⟩
  case h_2 =>
    split
    case h_1 => exact h
    case h_2 id selected =>
      exact h.insert_index ((h.device id).imp_right (Nat.sub_le _ 1).trans_lt)

theorem Indexed.navigateDown (h : Indexed app) : Indexed app.navigateDown := by
  unfold ClientApp.navigateDown
  split
  case h_1 =>
    split
    case isTrue next =>
      refine ⟨h.keys, h.distinct, ?_, h.device⟩
      have := next.2
      change app.selectedServer + 1 ≤ app.serverOrder.length - 1
      omega
    case isFalse => exact h
  case h_2 =>
    split
    case h_1 => exact h
    case h_2 id selected =>
      split
      case h_1 => exact h
      case h_2 devices found =>
        have list : app.deviceList id = devices := by
          rw [deviceList, found]
          rfl
        refine h.insert_index ?_
        have within := h.device id
        rw [list] at within ⊢
        refine within.imp_right fun inside => ?_
        split <;> omega

/-- A step within the condition keeps every index within its list. -/
theorem Indexed.step (h : Indexed app) {call : ClientCall} (keeps : app.KeepsPlaces call)
    {app' : ClientApp} {out : List AppAction} (step : clientApp.step app call = some (app', out)) :
    Indexed app' := by
  cases call <;> obtain ⟨rfl, -⟩ := Prod.mk.inj (Option.some.inj step)
  case addServer endpointId name => exact h.addServer endpointId name
  case removeServer endpointId => exact h.removeServer endpointId
  case updateServerStatus endpointId status =>
    exact ⟨fun id => AList.mem_modify.trans (h.keys id), h.distinct, h.server, h.device⟩
  case updateDevices endpointId infos =>
    refine h.insert_devices ?_ _
    have within : Within (app.deviceIndex endpointId) infos := keeps
    unfold Within at within ⊢
    rwa [List.map_eq_nil_iff, List.length_map]
  case addDevice endpointId info =>
    unfold addDevice
    split
    · exact h
    · have place : app.deviceIndex endpointId ≤ (app.deviceList endpointId).length := keeps
      refine h.insert_devices (.inr ?_) _
      rw [List.length_append, List.length_singleton]
      omega
  case removeDevice endpointId id =>
    have within := keeps.1
    change Indexed (app.removeDevice endpointId id)
    unfold removeDevice
    split
    case h_1 => exact h
    case h_2 devices found =>
      rw [deviceList, found] at within
      exact h.insert_devices within _
  case updateDeviceStatus endpointId id status handle =>
    exact h.updateDeviceStatus endpointId id status handle
  case togglePane => exact ⟨h.keys, h.distinct, h.server, h.device⟩
  case navigateUp => exact h.navigateUp
  case navigateDown => exact h.navigateDown
  case enter =>
    have same : app.handleEnter.1 = app ∨ app.handleEnter.1 =
      { app with activePane := .devices } := by
      unfold handleEnter
      repeat' split
      all_goals first | exact .inl rfl | exact .inr rfl
    change Indexed app.handleEnter.1
    obtain same | same := same <;> rw [same]
    · exact h
    · exact ⟨h.keys, h.distinct, h.server, h.device⟩

/-! What is selected when something else goes. -/

/-- Enter looks at the pane, at the selected server's id and status and at the selected device. -/
theorem enter_congr {app' : ClientApp} (pane : app'.activePane = app.activePane)
    (server : app'.selectedServerId = app.selectedServerId)
    (status : (app'.getSelectedServer.map fun s => (s.endpointId, s.status)) =
      app.getSelectedServer.map fun s => (s.endpointId, s.status))
    (device : app'.getSelectedDevice = app.getSelectedDevice) :
    app'.handleEnter.2 = app.handleEnter.2 := by
  unfold handleEnter
  rw [pane, server, device]
  cases app.activePane with
  | servers =>
      cases before : app.getSelectedServer <;> cases after : app'.getSelectedServer <;>
        rw [before, after] at status
      case none.some => cases status
      case some.none => cases status
      case some.some s s' =>
        obtain ⟨own, same⟩ := Prod.mk.inj (Option.some.inj status)
        simp only [own, same]
        cases s.status <;> rfl
  | devices =>
      dsimp only
      cases app.selectedServerId <;> cases app.getSelectedDevice
      case some.some id device =>
        dsimp only
        cases device.status <;> first | rfl | (cases device.handle <;> rfl)
      all_goals rfl

/-- The place of the selected server is still its own. -/
theorem remove_server_selected (h : Indexed app) (other : app.selectedServerId ≠ some endpointId)
    (keeps : app.KeepsPlaces (.removeServer endpointId)) :
    (app.removeServer endpointId).selectedServerId = app.selectedServerId := by
  have placed := keeps.resolve_left other
  cases own : app.selectedServerId with
  | none =>
      -- no server is there at all
      have short := List.getElem?_eq_none_iff.mp own
      have empty : app.serverOrder = [] := by
        rw [← List.length_eq_zero_iff]
        have := h.server
        omega
      unfold selectedServerId removeServer
      rw [empty]
      rfl
  | some selected =>
      by_cases final : app.selectedServer + 1 = app.serverOrder.length
      · exact ListCursor.getElem?_clamp_last h.distinct own final fun same => other (same ▸ own)
      · have before := placed.resolve_left final
        have kept : (app.serverOrder.filter (· != endpointId))[app.selectedServer]? =
            some selected := by
          rw [ListCursor.getElem?_filter_of_before]
          · exact own
          · exact fun id mem => bne_iff_ne.mpr fun same => before (same ▸ mem)
          · exact fun id mem => bne_iff_ne.mpr fun same => other (same ▸ mem)
        have inside := (List.getElem?_eq_some_iff.mp kept).1
        unfold selectedServerId removeServer
        dsimp only
        rw [if_neg (by omega), kept]

theorem remove_server_stable (h : Indexed app) (other : app.selectedServerId ≠ some endpointId)
    (keeps : app.KeepsPlaces (.removeServer endpointId)) :
    Stable app (app.removeServer endpointId) := by
  have server := remove_server_selected h other keeps
  have apart : ∀ id, app.selectedServerId = some id → id ≠ endpointId :=
    fun id own same => other (same ▸ own)
  have device : (app.removeServer endpointId).getSelectedDevice = app.getSelectedDevice := by
    rw [selected_device_eq, selected_device_eq, server]
    refine Option.bind_congr fun id own => ?_
    rw [remove_server_list, if_neg (apart id own), remove_server_index (apart id own)]
  have entry : (app.removeServer endpointId).getSelectedServer = app.getSelectedServer := by
    unfold getSelectedServer
    rw [server]
    refine Option.bind_congr fun id own => ?_
    unfold removeServer
    rw [AList.lookup_erase_eq, if_neg (apart id own)]
  exact ⟨server, device, enter_congr rfl server (by rw [entry]) device⟩

theorem set_device_count_status (app : ClientApp) (endpointId : EndpointId) (count : Nat) :
    ((app.setDeviceCount endpointId count).getSelectedServer.map fun s =>
      (s.endpointId, s.status)) =
      app.getSelectedServer.map fun s => (s.endpointId, s.status) := by
  change (app.selectedServerId.bind fun id =>
    (app.setDeviceCount endpointId count).servers.lookup id).map
    _ = _
  unfold getSelectedServer setDeviceCount
  cases app.selectedServerId with
  | none => rfl
  | some selected =>
      simp only [Option.bind_some, AList.lookup_modify_eq]
      split
      case isTrue same =>
        rw [same]
        cases app.servers.lookup endpointId <;> rfl
      case isFalse => rfl

theorem remove_device_stable (keeps : app.KeepsPlaces (.removeDevice endpointId id))
    (other : app.RemovesOther (.removeDevice endpointId id)) :
    Stable app (app.removeDevice endpointId id) := by
  have placed := keeps.2 other
  unfold removeDevice
  split
  case h_1 => exact ⟨rfl, rfl, rfl⟩
  case h_2 devices found =>
    have list : app.deviceList endpointId = devices := by
      rw [deviceList, found]
      rfl
    generalize removed : devices.filter (fun d => d.info.id != id) = rest
    have device : (setDeviceCount { app with devices := app.devices.insert endpointId rest }
        endpointId rest.length).getSelectedDevice = app.getSelectedDevice := by
      rw [selected_device_eq, selected_device_eq]
      change (app.selectedServerId.bind fun server => (deviceList
        { app with devices := app.devices.insert endpointId rest } server)[app.deviceIndex
          server]?) =
          _
      cases own : app.selectedServerId with
      | none => rfl
      | some selected =>
          rw [Option.bind_some, Option.bind_some, device_list_insert]
          split
          case isTrue same =>
            subst same
            rw [list, ← removed, ListCursor.getElem?_filter_of_before]
            · exact fun d mem => bne_iff_ne.mpr (placed own d (list ▸ mem))
            · intro d at_
              refine bne_iff_ne.mpr (other own d ?_)
              rw [selected_device_eq, own, Option.bind_some, list]
              exact at_
          case isFalse => rfl
    exact ⟨rfl, device, enter_congr rfl rfl (set_device_count_status _ endpointId _) device⟩

/-- Where no call moves an element under an index, the selection stays valid, and it stays the
same when something else goes. -/
theorem selection_kept {tr : List AppAction} (run : clientApp.Exec KeepsPlaces .new tr app) :
    Valid app ∧ ∀ call app' out, app.KeepsPlaces call →
      clientApp.step app call = some (app', out) → app.RemovesOther call → Stable app app' := by
  have start : Indexed .new :=
    ⟨fun id => iff_of_false (AList.notMem_empty id) List.not_mem_nil, List.nodup_nil, le_rfl,
      fun _ => .inl rfl⟩
  have indexed : Indexed app :=
    run.stateInvariant start fun _ _ _ _ h keeps step => h.step keeps step
  refine ⟨indexed.valid, fun call app' out keeps step other => ?_⟩
  cases call <;> obtain ⟨rfl, -⟩ := Prod.mk.inj (Option.some.inj step)
  case removeServer endpointId => exact remove_server_stable indexed other keeps
  case removeDevice endpointId id => exact remove_device_stable keeps other
  all_goals exact other.elim

def exampleInfo (id : Nat) : DeviceInfo :=
  ⟨⟨id⟩, 0, 0, 0, 0, none, none, none, 0, 0, 0, .high, 1⟩

/-- Three devices of a server. -/
def exampleDevices : List DeviceInfo := [7, 8, 9].map exampleInfo

/-- The second of them is selected. -/
def exampleApp : ClientApp :=
  (((new.addServer ⟨"a"⟩ none).updateDevices ⟨"a"⟩ exampleDevices).togglePane).navigateDown

/-- The third device goes. -/
theorem selection_kept_example : Stable exampleApp (exampleApp.removeDevice ⟨"a"⟩ ⟨9⟩) := by
  have first : clientApp.Exec KeepsPlaces .new _ _ :=
    .next .start (show KeepsPlaces .new (.addServer ⟨"a"⟩ none) from trivial) rfl
  have second : clientApp.Exec KeepsPlaces .new _ _ :=
    .next first (show KeepsPlaces _ (.updateDevices ⟨"a"⟩ exampleDevices) from .inr (by decide)) rfl
  have third : clientApp.Exec KeepsPlaces .new _ _ :=
    .next second (show KeepsPlaces _ .togglePane from trivial) rfl
  have run : clientApp.Exec KeepsPlaces .new _ exampleApp :=
    .next third (show KeepsPlaces _ .navigateDown from trivial) rfl
  have other : exampleApp.RemovesOther (.removeDevice ⟨"a"⟩ ⟨9⟩) := fun _ device selected => by
    obtain rfl : (⟨exampleInfo 8, .available, none, none⟩ : RemoteDevice) = device :=
      Option.some.inj selected
    decide
  exact (selection_kept run).2 (.removeDevice ⟨"a"⟩ ⟨9⟩) _ []
    ⟨.inr (by decide), fun _ _ => by decide⟩ rfl other

/-- The first device goes, and the next Enter acts on the third. -/
theorem removal_shifts_selection :
    ¬ ∀ tr app, clientApp.Reach .new tr app → Valid app ∧ ∀ call app' out,
      clientApp.step app call = some (app', out) → app.RemovesOther call → Stable app app' := by
  intro law
  have run : clientApp.Reach .new [] exampleApp := .of_run (show clientApp.run .new
    [.addServer ⟨"a"⟩ none, .updateDevices ⟨"a"⟩ exampleDevices, .togglePane, .navigateDown] =
      some (exampleApp, []) from rfl)
  have other : exampleApp.RemovesOther (.removeDevice ⟨"a"⟩ ⟨7⟩) := fun _ device selected => by
    obtain rfl : (⟨exampleInfo 8, .available, none, none⟩ : RemoteDevice) = device :=
      Option.some.inj selected
    decide
  have stable := (law _ _ run).2 (.removeDevice ⟨"a"⟩ ⟨7⟩) _ [] rfl other
  have attaches : (exampleApp.handleEnter).2 = .attachDevice ⟨"a"⟩ ⟨8⟩ := rfl
  have shifted : (exampleApp.removeDevice ⟨"a"⟩ ⟨7⟩).handleEnter.2 = .attachDevice ⟨"a"⟩ ⟨9⟩ := rfl
  exact absurd (shifted.symm.trans (stable.enter.trans attaches)) (by decide)

end ClientApp

end P2pUsb
