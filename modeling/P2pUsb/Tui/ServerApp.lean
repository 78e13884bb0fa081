import P2pUsb.Network.Isolation
import P2pUsb.Usb.Debounce

/-! The server's TUI over the worker's device manager: the list of devices, the place that is
selected in it, and the reset of a device. What is only shown of a device is left out. -/
namespace P2pUsb

structure DeviceState where
  info : DeviceInfo
  shared : Bool

inductive Dialog where
  | none | help | deviceDetails | clients | confirmReset | qrCode
  deriving DecidableEq, Repr

/-- `Action` of the TUI. -/
inductive TuiAction where
  | quit | up | down | toggleSharing | viewDetails | viewClients | showHelp | showQrCode
  | closeDialog | refresh | resetDevice | confirm | none
  deriving DecidableEq, Repr

/-- `App` of the server. -/
structure ServerApp where
  devices : AList fun _ : Nat => DeviceState
  deviceOrder : List Nat
  selectedIndex : Nat
  dialog : Dialog
  shouldQuit : Bool
  autoShare : Bool
  pendingReset : Bool

namespace ServerApp

def new (autoShare : Bool) : ServerApp := ⟨∅, [], 0, .none, false, autoShare, false⟩

def selectedDeviceId (app : ServerApp) : Option Nat := app.deviceOrder[app.selectedIndex]?

/-- `selected_device` -/
def getSelectedDevice (app : ServerApp) : Option DeviceState :=
  app.selectedDeviceId.bind fun id => app.devices.lookup id

def handleAction (app : ServerApp) : TuiAction → ServerApp
  | .quit =>
      if app.dialog ≠ .none then { app with dialog := .none } else { app with shouldQuit := true }
  | .closeDialog => { app with dialog := .none }
  | .up =>
      if app.dialog = .none ∧ app.deviceOrder ≠ [] ∧ app.selectedIndex > 0 then
        { app with selectedIndex := app.selectedIndex - 1 }
      else app
  | .down =>
      if app.dialog = .none ∧ app.deviceOrder ≠ [] ∧
          app.selectedIndex < app.deviceOrder.length - 1 then
        { app with selectedIndex := app.selectedIndex + 1 }
      else app
  | .toggleSharing =>
      if app.dialog = .none then
        match app.selectedDeviceId with
        | none => app
        | some id =>
            { app with
              devices := app.devices.modify id fun device =>
                { device with shared := !device.shared } }
      else app
  | .viewDetails =>
      match app.dialog with
      | .none =>
          if app.getSelectedDevice.isSome then { app with dialog := .deviceDetails } else app
      | .confirmReset => { app with dialog := .none, pendingReset := true }
      | _ => app
  | .viewClients => if app.dialog = .none then { app with dialog := .clients } else app
  | .showHelp => { app with dialog := .help }
  | .showQrCode => if app.dialog = .none then { app with dialog := .qrCode } else app
  | .refresh => app
  | .resetDevice =>
      if app.dialog = .none ∧ app.getSelectedDevice.isSome then { app with dialog := .confirmReset }
      else app
  | .confirm =>
      if app.dialog = .confirmReset then { app with dialog := .none, pendingReset := true } else app
  | .none => app

/-- The command of `reset_selected_device`: the id is used as a handle. -/
def resetSelectedDevice (app : ServerApp) : Option DeviceHandle :=
  app.selectedDeviceId.map fun deviceId => ⟨deviceId⟩

def adjustSelected (selectedIndex : Nat) (deviceOrder : List Nat) : Nat :=
  if deviceOrder ≠ [] ∧ selectedIndex ≥ deviceOrder.length then deviceOrder.length - 1
  else selectedIndex

/-- `refresh_devices`, from the reply on. -/
def refreshDevices (app : ServerApp) (infos : List DeviceInfo) : ServerApp :=
  let newDevices := infos.foldl (fun devices info =>
    let shared := match app.devices.lookup info.id.val with
      | some existing => existing.shared
      | none => app.autoShare
    devices.insert info.id.val ⟨info, shared⟩) ∅
  let newOrder := infos.map fun info => info.id.val
  { app with
    devices := newDevices
    deviceOrder := newOrder
    selectedIndex := adjustSelected app.selectedIndex newOrder }

def handleUsbEvent (app : ServerApp) : UsbEvent → ServerApp
  | .deviceArrived device =>
      let id := device.id.val
      { app with
        devices := app.devices.insert id ⟨device, app.autoShare⟩
        deviceOrder := if id ∈ app.deviceOrder then app.deviceOrder else app.deviceOrder ++ [id] }
  | .deviceLeft deviceId _ _ =>
      let deviceOrder := app.deviceOrder.filter (· != deviceId.val)
      { app with
        devices := app.devices.erase deviceId.val
        deviceOrder := deviceOrder
        selectedIndex := adjustSelected app.selectedIndex deviceOrder }

end ServerApp

/-- The device that `ResetDevice` resets. -/
def DeviceManager.resetTarget (m : DeviceManager) (handle : DeviceHandle) : Option DeviceId :=
  (m.openDevice handle).map fun device => device.id

/-- The TUI and the worker. `asked` is the id that was selected when the confirmation was opened,
and `sent` the reset that the TUI waits for. -/
structure ServerTui where
  manager : DeviceManager
  app : ServerApp
  asked : Option Nat
  sent : Option DeviceHandle

/-- The steps of the TUI's loop and of the worker. Any of the USB events may come, since the
network takes them from the same channel. -/
inductive TuiStep where
  | server (call : HotplugCall)
  | key (action : TuiAction) (env : UsbEnv)
  | usbEvent (event : UsbEvent)
  | sendReset
  | takeReset (env : UsbEnv)

namespace ServerTui

def start (filters : List String) (config : SharingConfig) (devices : List RusbDevice)
    (autoShare : Bool) : ServerTui where
  manager := DeviceManager.initialized filters config devices
  app := .new autoShare
  asked := none
  sent := none

/-- The loop is at its `select!`. -/
def waiting (s : ServerTui) : Bool :=
  !s.app.pendingReset && s.sent.isNone && !s.app.shouldQuit

/-- A key; a refresh has its reply before the next event is read. -/
def afterKey (s : ServerTui) (action : TuiAction) (env : UsbEnv) : ServerTui :=
  let app := s.app.handleAction action
  { s with
    app := if action = .refresh then app.refreshDevices (s.manager.listDevices env) else app
    asked := if s.app.dialog ≠ .confirmReset ∧ app.dialog = .confirmReset then
        s.app.selectedDeviceId
      else s.asked }

end ServerTui

/-- A step shows the device that it resets. -/
def serverTui : Machine ServerTui TuiStep DeviceId where
  step s
    | .server call => (s.manager.hotplugStep call).map fun next =>
          ({ s with manager := next.1 }, [])
    | .key action env => if s.waiting then some (s.afterKey action env, []) else none
    | .usbEvent event =>
        if s.waiting then some ({ s with app := s.app.handleUsbEvent event }, []) else none
    | .sendReset =>
        if s.app.pendingReset then
          some ({ s with
            app := { s.app with pendingReset := false }
            sent := s.app.resetSelectedDevice }, [])
        else none
    | .takeReset env =>
        s.sent.map fun handle =>
          ({ s with
            manager := (s.manager.handleCommandInner env (.resetDevice handle)).2
            sent := none }, (s.manager.resetTarget handle).toList)

namespace ServerTui

/-- A reset is of the device that was selected when it was asked for. -/
def ResetsSelected (s : ServerTui) (out : List DeviceId) : TuiStep → Prop
  | .takeReset _ => ∃ d, s.asked = some d ∧ ∀ id ∈ out, id.val = d
  | _ => True

/-- The handle with the number of the id that is selected when the reset is sent belongs to that
device, or to none. -/
def HandleOfSelected (s : ServerTui) : TuiStep → Prop
  | .takeReset _ => ∀ handle id client, s.sent = some handle →
      s.manager.attached.lookup handle = some (id, client) → s.asked = some id.val
  | _ => True

/-- An open confirmation and a reset on its way were asked for at some device. -/
structure Asked (filters : List String) (s : ServerTui) : Prop where
  manager : s.manager.HotplugInv filters
  dialog : s.app.dialog = .confirmReset → s.asked.isSome
  pending : s.app.pendingReset = true → s.asked.isSome
  sent : s.sent.isSome → s.asked.isSome

end ServerTui

namespace ServerApp
variable {app : ServerApp} {action : TuiAction}

theorem opened_selected (closed : app.dialog ≠ .confirmReset)
    (opened : (app.handleAction action).dialog = .confirmReset) : app.selectedDeviceId.isSome := by
  cases action
  case resetDevice =>
    unfold handleAction at opened
    by_cases selects : app.dialog = .none ∧ app.getSelectedDevice.isSome
    · obtain ⟨device, there⟩ := Option.isSome_iff_exists.mp selects.2
      obtain ⟨id, selected, -⟩ := Option.bind_eq_some_iff.mp there
      rw [selected]
      rfl
    · rw [if_neg selects] at opened
      exact (closed opened).elim
  all_goals
    simp only [handleAction] at opened
    repeat' split at opened
    all_goals first | exact (closed opened).elim | cases opened

/-- Only a confirmed dialog makes a reset pending. -/
theorem pending_confirmed (pending : (app.handleAction action).pendingReset = true) :
    app.pendingReset = true ∨ app.dialog = .confirmReset := by
  cases action <;> simp only [handleAction] at pending
  case viewDetails =>
    split at pending
    case h_1 =>
      split at pending <;> exact .inl pending
    case h_2 confirming => exact .inr confirming
    case h_3 => exact .inl pending
  case confirm =>
    split at pending
    case isTrue confirming => exact .inr confirming
    case isFalse => exact .inl pending
  all_goals
    repeat' split at pending
    all_goals exact .inl pending

end ServerApp

theorem ServerApp.event_frame (app : ServerApp) (event : UsbEvent) :
    (app.handleUsbEvent event).dialog = app.dialog ∧
      (app.handleUsbEvent event).pendingReset = app.pendingReset := by
  cases event <;> exact ⟨rfl, rfl⟩

/-- The worker resets the device that is attached under the handle. -/
theorem DeviceManager.RegistryInv.reset_target {m : DeviceManager} (hm : m.RegistryInv)
    (handle : DeviceHandle) : m.resetTarget handle = (m.attached.lookup handle).map Prod.fst := by
  unfold resetTarget
  cases held : m.attached.lookup handle with
  | none =>
      rw [open_device_none (get_device_by_handle_none held)]
      rfl
  | some entry =>
      obtain ⟨device, reached, same, opened⟩ := hm.attached_device held
      rw [open_device_some.mpr ⟨reached, opened⟩, Option.map_some, Option.map_some, same]

namespace ServerTui
variable {filters : List String} {s t : ServerTui} {out : List DeviceId}

theorem asked_start (filters : List String) (config : SharingConfig) (devices : List RusbDevice)
    (autoShare : Bool) : Asked filters (start filters config devices autoShare) where
  manager := DeviceManager.hotplug_inv_initialized filters config devices
  dialog := fun open_ => nomatch open_
  pending := fun pending => nomatch pending
  sent := fun sent => nomatch sent

theorem after_key_app (s : ServerTui) (action : TuiAction) (env : UsbEnv) :
    (s.afterKey action env).app.dialog = (s.app.handleAction action).dialog ∧
      (s.afterKey action env).app.pendingReset = (s.app.handleAction action).pendingReset := by
  unfold afterKey
  dsimp only
  split <;> exact ⟨rfl, rfl⟩

/-- Once a device is asked for, a key leaves it or asks for another one. -/
theorem after_key_asked (s : ServerTui) (action : TuiAction) (env : UsbEnv)
    (asked : s.asked.isSome) : (s.afterKey action env).asked.isSome := by
  unfold afterKey
  dsimp only
  split
  case isTrue opens => exact ServerApp.opened_selected opens.1 opens.2
  case isFalse => exact asked

theorem Asked.key (h : Asked filters s) (action : TuiAction) (env : UsbEnv) :
    Asked filters (s.afterKey action env) where
  manager := h.manager
  dialog := by
    intro opened
    rw [(s.after_key_app action env).1] at opened
    by_cases before : s.app.dialog = .confirmReset
    · exact s.after_key_asked action env (h.dialog before)
    · unfold afterKey
      dsimp only
      rw [if_pos ⟨before, opened⟩]
      exact ServerApp.opened_selected before opened
  pending := by
    intro pending
    rw [(s.after_key_app action env).2] at pending
    refine s.after_key_asked action env ?_
    exact (ServerApp.pending_confirmed pending).elim h.pending h.dialog
  sent := fun sent => s.after_key_asked action env (h.sent sent)

theorem Asked.step (h : Asked filters s) {a : TuiStep} (step : serverTui.step s a = some (t, out)) :
    Asked filters t := by
  cases a
  case server call =>
    obtain ⟨⟨m, seen⟩, taken, same⟩ := Option.map_eq_some_iff.mp step
    obtain ⟨rfl, -⟩ := Prod.mk.inj same
    exact ⟨h.manager.step taken, h.dialog, h.pending, h.sent⟩
  case key action env =>
    simp only [serverTui] at step
    split at step
    case isTrue =>
      obtain ⟨rfl, -⟩ := Prod.mk.inj (Option.some.inj step)
      exact h.key action env
    case isFalse => cases step
  case usbEvent event =>
    simp only [serverTui] at step
    split at step
    case isTrue =>
      obtain ⟨rfl, -⟩ := Prod.mk.inj (Option.some.inj step)
      obtain ⟨dialog, pending⟩ := s.app.event_frame event
      exact ⟨h.manager, fun open_ => h.dialog (dialog ▸ open_),
        fun waits => h.pending (pending ▸ waits), h.sent⟩
    case isFalse => cases step
  case sendReset =>
    simp only [serverTui] at step
    split at step
    case isTrue pending =>
      obtain ⟨rfl, -⟩ := Prod.mk.inj (Option.some.inj step)
      have asked := h.pending pending
      exact ⟨h.manager, fun _ => asked, fun _ => asked, fun _ => asked⟩
    case isFalse => cases step
  case takeReset env =>
    obtain ⟨handle, -, same⟩ := Option.map_eq_some_iff.mp step
    obtain ⟨rfl, -⟩ := Prod.mk.inj same
    exact ⟨h.manager.command env (.resetDevice handle), h.dialog, h.pending,
      fun sent => nomatch sent⟩

theorem resets_selected_iff (h : Asked filters s) (a : TuiStep)
    (step : serverTui.step s a = some (t, out)) :
    s.ResetsSelected out a ↔ s.HandleOfSelected a := by
  cases a
  case takeReset env =>
    obtain ⟨handle, sent, same⟩ := Option.map_eq_some_iff.mp step
    obtain ⟨-, rfl⟩ := Prod.mk.inj same
    obtain ⟨d, asked⟩ := Option.isSome_iff_exists.mp (h.sent (Option.isSome_of_mem sent))
    simp only [ResetsSelected, HandleOfSelected, h.manager.registry.reset_target handle, asked,
      sent, Option.mem_toList, Option.map_eq_some_iff, Option.some.injEq]
    constructor
    · rintro ⟨_, rfl, resets⟩ _ id client rfl held
      exact (resets id ⟨(id, client), held, rfl⟩).symm
    · intro selected
      refine ⟨d, rfl, ?_⟩
      rintro _ ⟨⟨id, client⟩, held, rfl⟩
      exact (selected handle id client rfl held).symm
  all_goals exact Iff.rfl

/-- Every reset hits the device that was asked for if and only if no other device is attached,
when the worker comes to it, under the handle with the number that was sent. -/
theorem resets_selected_iff_handle_of_selected (filters : List String) (config : SharingConfig)
    (devices : List RusbDevice) (autoShare : Bool) (steps : List TuiStep) :
    serverTui.EveryStep (fun s a _ out => s.ResetsSelected out a)
        (start filters config devices autoShare) steps ↔
      serverTui.EveryStep (fun s a _ _ => s.HandleOfSelected a)
        (start filters config devices autoShare) steps :=
  Machine.everyStep_congr (I := Asked filters)
    (fun _ a _ _ asked step => resets_selected_iff asked a step)
    (fun _ _ _ _ asked step _ => asked.step step) (asked_start filters config devices autoShare)
    steps

/-- Two devices. -/
def exampleStart : ServerTui :=
  start [] .default [DeviceManager.exampleDevice 0 1 1, DeviceManager.exampleDevice 1 1 2] true

def exampleEnv : UsbEnv := DeviceManager.exampleEnv 0 []

/-- A client attaches the second device, and the operator confirms a reset of the first. -/
def exampleConfirmed : List TuiStep :=
  [.server (.command exampleEnv (.attachDevice ⟨2⟩ "a")), .key .refresh exampleEnv,
    .key .down exampleEnv, .key .resetDevice exampleEnv, .key .confirm exampleEnv, .sendReset]

/-- The first device was asked for, and the second one is reset. -/
theorem reset_hits_other_device :
    ¬ serverTui.EveryStep (fun s a _ out => s.ResetsSelected out a) exampleStart
      (exampleConfirmed ++ [.takeReset exampleEnv]) := by
  intro law
  have last := Machine.EveryStep.after law
    (show serverTui.run exampleStart exampleConfirmed = some _ from rfl)
  obtain ⟨d, asked, resets⟩ := (last _ [⟨2⟩] rfl).1
  have first : some 1 = some d := asked
  have second : 2 = d := resets ⟨2⟩ (List.mem_singleton.mpr rfl)
  exact absurd (first.trans (congrArg some second.symm)) (by decide)

end ServerTui
end P2pUsb
