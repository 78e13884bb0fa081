import P2pUsb.Library.Machine
import P2pUsb.Usb.Waiters

/-! Debounced hotplug events: callbacks for any devices, calls of `process_debounced_events`
and commands, in any order and at any times. For each device the last callback decides. -/
namespace P2pUsb

def DebouncedEvent.key (event : DebouncedEvent) : BusAddress := (event.bus, event.address)

namespace HotplugCallback

def key (c : HotplugCallback) : BusAddress := (c.bus, c.address)

/-- The event that is pending after the callback. -/
def pending (c : HotplugCallback) : DebouncedEvent where
  eventType := c.eventType
  fireAt := c.now + HOTPLUG_DEBOUNCE_DURATION
  bus := c.bus
  address := c.address

end HotplugCallback

/-- The ready events of one call fire in the order of the hash map, each with what libusb
shows at that moment. -/
inductive HotplugCall where
  | callback (c : HotplugCallback)
  | process (now : Instant) (fired : List (UsbEnv × DebouncedEvent))
  | command (env : UsbEnv) (cmd : UsbCommand)

/-- A callback is recorded with the number of the next handle to be issued. -/
inductive HotplugEvent where
  | scheduled (c : HotplugCallback) (nextHandleId : Nat)
  | fired (now : Instant) (env : UsbEnv) (event : DebouncedEvent)

namespace HotplugEvent

def callbackAt (key : BusAddress) : HotplugEvent → Option HotplugCallback
  | .scheduled c _ => if c.key = key then some c else none
  | .fired .. => none

def firingAt (key : BusAddress) : HotplugEvent → Option (Instant × UsbEnv × DebouncedEvent)
  | .scheduled .. => none
  | .fired now env event => if event.key = key then some (now, env, event) else none

end HotplugEvent

/-- The last of the observations that a test picks. -/
def latest {β : Type} (pick : HotplugEvent → Option β) (tr : List HotplugEvent) : Option β :=
  (tr.filterMap pick).getLast?

def lastCallback (key : BusAddress) : List HotplugEvent → Option HotplugCallback :=
  latest (HotplugEvent.callbackAt key)

def lastFiring (key : BusAddress) :
    List HotplugEvent → Option (Instant × UsbEnv × DebouncedEvent) :=
  latest (HotplugEvent.firingAt key)

/-- The enumeration succeeds and this is the device that it has at the address. -/
def UsbEnv.Shows (env : UsbEnv) (key : BusAddress) (device : RusbDevice) : Prop :=
  ∃ devices, env.devices = .ok devices ∧
    devices.find? (fun device => device.busNumber == key.1 && device.address == key.2) = some device

/-- The descriptor can be read, the filters let the device pass, and it is no root hub. -/
structure RusbDevice.Sharable (filters : List String) (device : RusbDevice) : Prop where
  allowed : (device.deviceDescriptor 0).toOption.any (fun desc =>
    DeviceManager.checkFilter desc.vendorId desc.productId filters) = true
  notHub : DeviceManager.isRootHub device = false
  readable : ∃ desc, device.deviceDescriptor 2 = .ok desc

namespace DeviceManager

def hotplugStep (m : DeviceManager) : HotplugCall → Option (DeviceManager × List HotplugEvent)
  | .callback c =>
      some (m.scheduleDebouncedEvent c.now c.bus c.address c.eventType,
        [.scheduled c m.nextHandleId])
  | .process now fired =>
      if (fired.map Prod.snd).isPerm (m.readyEvents now) then
        some (UsbWorkerThread.afterEvents (m.takeReadyEvents now) fired,
          fired.map fun f => .fired now f.1 f.2)
      else none
  | .command env cmd => some ((m.handleCommandInner env cmd).2, [])

end DeviceManager

def hotplugCalls : Machine DeviceManager HotplugCall HotplugEvent where
  step := DeviceManager.hotplugStep

namespace DeviceManager
variable {m : DeviceManager} {env : UsbEnv} {key : BusAddress} {device : RusbDevice}
  {event : DebouncedEvent} {fired : List (UsbEnv × DebouncedEvent)} {now : Instant}

theorem shows_key (shown : env.Shows key device) : (device.busNumber, device.address) = key := by
  obtain ⟨devices, -, found⟩ := shown
  have same := List.find?_some found
  rw [Bool.and_eq_true, beq_iff_eq, beq_iff_eq] at same
  exact Prod.ext same.1 same.2

theorem device_arrived_shown {bus address : UInt8} (shown : env.Shows (bus, address) device) :
    (m.handleDeviceArrivedInternal env bus address).2 = (m.addDevice device).2 := by
  obtain ⟨devices, enumerated, found⟩ := shown
  simp only [handleDeviceArrivedInternal, enumerated, found]
  split <;> rename_i added <;> rw [added]

/-- What an arrival adds is the device that the enumeration shows. -/
theorem device_arrived_shows (m : DeviceManager) (env : UsbEnv) (bus address : UInt8) :
    (m.handleDeviceArrivedInternal env bus address).2 = m ∨ ∃ device,
      env.Shows (bus, address) device ∧
      (m.handleDeviceArrivedInternal env bus address).2 = (m.addDevice device).2 := by
  by_cases shown : ∃ device, env.Shows (bus, address) device
  · obtain ⟨device, shown⟩ := shown
    exact .inr ⟨device, shown, device_arrived_shown shown⟩
  · refine .inl ?_
    unfold handleDeviceArrivedInternal
    split
    · rfl
    · rename_i devices enumerated
      split
      · rfl
      · rename_i device found
        exact absurd ⟨device, devices, enumerated, found⟩ shown

/-- Adding a device changes the entry of its own address, and only where there is none. -/
theorem add_device_lookup (m : DeviceManager) (device : RusbDevice) (key : BusAddress) :
    (m.addDevice device).2.devices.lookup key = m.devices.lookup key ∨
      (device.busNumber, device.address) = key ∧ m.devices.lookup key = none ∧
        ∃ d, (m.addDevice device).2.devices.lookup key = some d ∧ d.device = device := by
  rcases m.add_device_cases device with ⟨same, -⟩ | ⟨burnt, -⟩ | ⟨d, free, ofDevice, -, -, added⟩
  · exact .inl (by rw [same])
  · exact .inl (by rw [burnt])
  · rw [added]
    by_cases own : (device.busNumber, device.address) = key
    · subst own
      exact .inr ⟨rfl, free, d, AList.lookup_insert _, ofDevice⟩
    · exact .inl (AList.lookup_insert_ne (Ne.symm own))

theorem add_device_present (sharable : device.Sharable m.allowedFilters) :
    (device.busNumber, device.address) ∈ (m.addDevice device).2.devices := by
  obtain ⟨desc, read⟩ := sharable.readable
  have allowed : m.isDeviceAllowed device = true := sharable.allowed
  unfold addDevice
  simp only [allowed, Bool.not_true, Bool.false_eq_true, if_false]
  cases tracked : m.devices.lookup (device.busNumber, device.address) with
  | some d => exact AList.mem_of_lookup tracked
  | none =>
      simp only [sharable.notHub, Bool.false_eq_true, if_false, UsbDevice.new, read, Except.map]
      exact (AList.mem_insert _).mpr (.inl rfl)

theorem device_left_lookup (m : DeviceManager) (bus address : UInt8) (key : BusAddress) :
    (m.handleDeviceLeftInternal bus address).2.devices.lookup key =
      if key = (bus, address) then none else m.devices.lookup key := by
  cases tracked : m.devices.lookup (bus, address) with
  | none =>
      simp only [handleDeviceLeftInternal, removeDevice, tracked]
      split
      · rename_i own
        rw [own, tracked]
      · rfl
  | some device =>
      simp only [handleDeviceLeftInternal, removeDevice, tracked]
      exact AList.lookup_erase_eq _ _ _

/-- What one event can do to the entries: none but that of its own address changes. -/
theorem process_ready_event_lookup (m : DeviceManager) (env : UsbEnv) (event : DebouncedEvent)
    (key : BusAddress) :
    (m.processReadyEvent env event).2.devices.lookup key = m.devices.lookup key ∨
      event.key = key ∧ (event.eventType = .left ∧
          (m.processReadyEvent env event).2.devices.lookup key = none ∨
        event.eventType = .arrived ∧ m.devices.lookup key = none ∧ ∃ d,
          (m.processReadyEvent env event).2.devices.lookup key = some d ∧
            env.Shows key d.device) := by
  unfold processReadyEvent
  split
  · rename_i arrival
    rcases m.device_arrived_shows env event.bus event.address with same | ⟨device, shown, added⟩
    · exact .inl (by rw [same])
    · rw [added]
      rcases m.add_device_lookup device key with same | ⟨own, free, d, found, rfl⟩
      · exact .inl same
      · have here : event.key = key := (shows_key shown).symm.trans own
        exact .inr ⟨here, .inr ⟨arrival, free, d, found, here ▸ shown⟩⟩
  · rename_i departure
    rw [device_left_lookup]
    by_cases own : event.key = key
    · exact .inr ⟨own, .inl ⟨departure, if_pos own.symm⟩⟩
    · exact .inl (if_neg (Ne.symm own))

theorem departure_removes (departure : event.eventType = .left) :
    event.key ∉ (m.processReadyEvent env event).2.devices := by
  unfold processReadyEvent
  rw [departure]
  refine AList.lookup_eq_none.mp ?_
  rw [device_left_lookup]
  exact if_pos rfl

theorem arrival_adds (arrival : event.eventType = .arrived) (shown : env.Shows event.key device)
    (sharable : device.Sharable m.allowedFilters) :
    event.key ∈ (m.processReadyEvent env event).2.devices := by
  unfold processReadyEvent
  rw [arrival]
  dsimp only
  rw [device_arrived_shown shown, ← shows_key shown]
  exact add_device_present sharable

/-- Filters are given once, when the manager is made. -/
theorem Update.allowed_filters {m' : DeviceManager} (step : m.Update m') :
    m'.allowedFilters = m.allowedFilters := by
  cases step with
  | refl | burn | track | grant | locks | debounce => rfl
  | remove bus address device tracked => simp only [removeDevice, tracked]
  | detach h id client held =>
      simp only [detachDevice, held]
      split
      · rfl
      · split <;> rfl

theorem add_device_pending (m : DeviceManager) (device : RusbDevice) :
    (m.addDevice device).2.debounceState = m.debounceState := by
  rcases m.add_device_cases device with ⟨same, -⟩ | ⟨burnt, -⟩ | ⟨d, -, -, -, -, added⟩
  · rw [same]
  · rw [burnt]
  · rw [added]
    rfl

theorem process_ready_event_pending (m : DeviceManager) (env : UsbEnv) (event : DebouncedEvent) :
    (m.processReadyEvent env event).2.debounceState = m.debounceState := by
  unfold processReadyEvent
  split
  · rcases m.device_arrived_shows env event.bus event.address with same | ⟨device, -, added⟩
    · rw [same]
    · rw [added, add_device_pending]
  · cases tracked : m.devices.lookup (event.bus, event.address) with
    | none => simp only [handleDeviceLeftInternal, removeDevice, tracked]
    | some device => simp only [handleDeviceLeftInternal, removeDevice, tracked]

/-- The pending events are filed under their own addresses, the filters are the configured
ones, and the registry is consistent. -/
structure HotplugInv (filters : List String) (m : DeviceManager) : Prop where
  registry : m.RegistryInv
  filters : m.allowedFilters = filters
  keyed : ∀ key e, m.debounceState.lookup key = some e → e.key = key

variable {filters : List String}

theorem HotplugInv.ready_event (h : m.HotplugInv filters) (env : UsbEnv) (event : DebouncedEvent) :
    (m.processReadyEvent env event).2.HotplugInv filters where
  registry := h.registry.update (m.process_ready_event_update env event)
  filters := (m.process_ready_event_update env event).allowed_filters.trans h.filters
  keyed := by
    rw [process_ready_event_pending]
    exact h.keyed

theorem HotplugInv.events (h : m.HotplugInv filters) (fired : List (UsbEnv × DebouncedEvent)) :
    (UsbWorkerThread.afterEvents m fired).HotplugInv filters := by
  induction fired generalizing m with
  | nil => exact h
  | cons f rest ih => exact ih (h.ready_event f.1 f.2)

theorem HotplugInv.command (h : m.HotplugInv filters) (env : UsbEnv) (cmd : UsbCommand) :
    (m.handleCommandInner env cmd).2.HotplugInv filters where
  registry := h.registry.update (m.handle_command_update env cmd)
  filters := (m.handle_command_update env cmd).allowed_filters.trans h.filters
  keyed := by
    rw [(m.command_frame env cmd).2]
    exact h.keyed

theorem HotplugInv.callback (h : m.HotplugInv filters) (c : HotplugCallback) :
    (m.scheduleDebouncedEvent c.now c.bus c.address c.eventType).HotplugInv filters where
  registry := h.registry.update (.debounce _)
  filters := h.filters
  keyed key e found := by
    rcases AList.lookup_insert_eq_some.mp found with ⟨rfl, rfl⟩ | ⟨-, old⟩
    · rfl
    · exact h.keyed key e old

theorem HotplugInv.take (h : m.HotplugInv filters) (now : Instant) :
    (m.takeReadyEvents now).HotplugInv filters where
  registry := h.registry.update (.debounce _)
  filters := h.filters
  keyed key e found := by
    rw [takeReadyEvents, AList.lookup_retain, Option.filter_eq_some_iff] at found
    exact h.keyed key e found.1

/-- What a call fires, as it is recorded. -/
def report (now : Instant) (fired : List (UsbEnv × DebouncedEvent)) : List HotplugEvent :=
  fired.map fun f => .fired now f.1 f.2

/-- What each call does. -/
inductive HotplugDoes (m : DeviceManager) : HotplugCall → DeviceManager → List HotplugEvent → Prop
  | callback (c : HotplugCallback) :
      HotplugDoes m (.callback c) (m.scheduleDebouncedEvent c.now c.bus c.address c.eventType)
        [.scheduled c m.nextHandleId]
  | process (now : Instant) (fired : List (UsbEnv × DebouncedEvent))
      (batch : (fired.map Prod.snd).Perm (m.readyEvents now)) :
      HotplugDoes m (.process now fired) (UsbWorkerThread.afterEvents (m.takeReadyEvents now) fired)
        (report now fired)
  | command (env : UsbEnv) (cmd : UsbCommand) :
      HotplugDoes m (.command env cmd) (m.handleCommandInner env cmd).2 []

theorem hotplug_step_does {c : HotplugCall} {m' : DeviceManager} {out : List HotplugEvent}
    (taken : m.hotplugStep c = some (m', out)) : m.HotplugDoes c m' out := by
  cases c with
  | callback c =>
      obtain ⟨rfl, rfl⟩ := Prod.mk.inj (Option.some.inj taken)
      exact .callback c
  | process now fired =>
      rw [hotplugStep] at taken
      split at taken
      · rename_i batch
        obtain ⟨rfl, rfl⟩ := Prod.mk.inj (Option.some.inj taken)
        exact .process now fired (List.isPerm_iff.mp batch)
      · cases taken
  | command env cmd =>
      obtain ⟨rfl, rfl⟩ := Prod.mk.inj (Option.some.inj taken)
      exact .command env cmd

theorem HotplugInv.step (h : m.HotplugInv filters) {c : HotplugCall} {m' : DeviceManager}
    {out : List HotplugEvent} (taken : m.hotplugStep c = some (m', out)) :
    m'.HotplugInv filters := by
  cases hotplug_step_does taken with
  | callback c => exact h.callback c
  | process now fired batch => exact (h.take now).events fired
  | command env cmd => exact h.command env cmd

/-- The manager when the first callback can come. -/
def initialized (filters : List String) (config : SharingConfig) (devices : List RusbDevice) :
    DeviceManager :=
  (withSharingConfig filters config).enumerateDevices devices

theorem enumerate_frame (m : DeviceManager) (devices : List RusbDevice) :
    (m.enumerateDevices devices).debounceState = m.debounceState ∧
      (m.enumerateDevices devices).allowedFilters = m.allowedFilters := by
  induction devices generalizing m with
  | nil => exact ⟨rfl, rfl⟩
  | cons device rest ih =>
      obtain ⟨pending, filters⟩ := ih (m.addDevice device).2
      exact ⟨pending.trans (m.add_device_pending device),
        filters.trans (m.add_device_update device).allowed_filters⟩

theorem initialized_pending (filters : List String) (config : SharingConfig)
    (devices : List RusbDevice) : (initialized filters config devices).debounceState = ∅ :=
  (enumerate_frame _ devices).1

theorem hotplug_inv_initialized (filters : List String) (config : SharingConfig)
    (devices : List RusbDevice) : (initialized filters config devices).HotplugInv filters where
  registry := (UsbWorkerThread.enumerate_devices_new devices (.new filters config)
    fun _ _ wrong => nomatch wrong).1
  filters := (enumerate_frame _ devices).2
  keyed key e found := by
    rw [initialized_pending] at found
    cases found

theorem mem_ready_events (keyed : ∀ key e, m.debounceState.lookup key = some e → e.key = key) :
    event ∈ m.readyEvents now ↔
      m.debounceState.lookup event.key = some event ∧ event.fireAt ≤ now := by
  rw [readyEvents, List.mem_map]
  constructor
  · rintro ⟨⟨key, e⟩, present, rfl⟩
    obtain ⟨there, ready⟩ := List.mem_filter.mp present
    have found := AList.lookup_eq_some.mpr there
    exact ⟨(keyed key e found).symm ▸ found, of_decide_eq_true ready⟩
  · rintro ⟨found, ready⟩
    exact ⟨⟨event.key, event⟩, List.mem_filter.mpr ⟨AList.lookup_eq_some.mp found,
      decide_eq_true ready⟩, rfl⟩

theorem ready_keys_nodup (keyed : ∀ key e, m.debounceState.lookup key = some e → e.key = key)
    (now : Instant) : ((m.readyEvents now).map DebouncedEvent.key).Nodup := by
  have keys : (m.readyEvents now).map DebouncedEvent.key =
      (m.debounceState.retain fun _ event => decide (now ≥ event.fireAt)).keys := by
    rw [readyEvents, List.map_map]
    refine List.map_congr_left fun e present => ?_
    exact keyed e.1 e.2 (AList.lookup_eq_some.mpr (List.mem_filter.mp present).1)
  rw [keys]
  exact AList.keys_nodup _

/-- For one address a call fires nothing, or the one event that is pending there. -/
theorem batch_cases (keyed : ∀ key e, m.debounceState.lookup key = some e → e.key = key)
    (batch : (fired.map Prod.snd).Perm (m.readyEvents now)) (key : BusAddress) :
    ((∀ f ∈ fired, f.2.key ≠ key) ∧
        ∀ e, m.debounceState.lookup key = some e → ¬ e.fireAt ≤ now) ∨
      ∃ before env e after, fired = before ++ (env, e) :: after ∧
        (∀ f ∈ before, f.2.key ≠ key) ∧ (∀ f ∈ after, f.2.key ≠ key) ∧
        e.key = key ∧ m.debounceState.lookup key = some e ∧ e.fireAt ≤ now := by
  have nodup : (fired.map fun f => f.2.key).Nodup := by
    have keys := (batch.map DebouncedEvent.key).nodup_iff.mpr (ready_keys_nodup keyed now)
    rwa [List.map_map] at keys
  by_cases fires : ∃ f ∈ fired, f.2.key = key
  · obtain ⟨⟨env, e⟩, present, own⟩ := fires
    have ready := (mem_ready_events keyed).mp
      (batch.mem_iff.mp (List.mem_map_of_mem (f := Prod.snd) present))
    obtain ⟨before, after, split⟩ := List.append_of_mem present
    rw [split, List.map_append, List.map_cons] at nodup
    obtain ⟨-, later, apart⟩ := List.nodup_append.mp nodup
    refine .inr ⟨before, env, e, after, split, fun f there same => ?_, fun f there same => ?_,
      own, own ▸ ready⟩
    · exact apart _ (List.mem_map_of_mem there) e.key List.mem_cons_self (same.trans own.symm)
    · exact (List.nodup_cons.mp later).1 (List.mem_map.mpr ⟨f, there, same.trans own.symm⟩)
  · refine .inl ⟨fun f there same => fires ⟨f, there, same⟩, fun e found ready => ?_⟩
    have own := keyed key e found
    have listed := batch.mem_iff.mpr ((mem_ready_events keyed).mpr ⟨own.symm ▸ found, ready⟩)
    obtain ⟨f, there, rfl⟩ := List.mem_map.mp listed
    exact fires ⟨f, there, own⟩

theorem after_events_lookup (others : ∀ f ∈ fired, f.2.key ≠ key) :
    (UsbWorkerThread.afterEvents m fired).devices.lookup key = m.devices.lookup key := by
  induction fired generalizing m with
  | nil => rfl
  | cons f rest ih =>
      obtain ⟨other, later⟩ := List.forall_mem_cons.mp others
      refine (ih (m := (m.processReadyEvent f.1 f.2).2) later).trans ?_
      rcases m.process_ready_event_lookup f.1 f.2 key with same | ⟨own, -⟩
      · exact same
      · exact absurd own other

theorem after_events_pending (m : DeviceManager) (fired : List (UsbEnv × DebouncedEvent)) :
    (UsbWorkerThread.afterEvents m fired).debounceState = m.debounceState := by
  induction fired generalizing m with
  | nil => rfl
  | cons f rest ih =>
      exact (ih (m.processReadyEvent f.1 f.2).2).trans (m.process_ready_event_pending f.1 f.2)

theorem after_events_split (m : DeviceManager) (before after : List (UsbEnv × DebouncedEvent))
    (env : UsbEnv) (e : DebouncedEvent) :
    UsbWorkerThread.afterEvents m (before ++ (env, e) :: after) = UsbWorkerThread.afterEvents
      ((UsbWorkerThread.afterEvents m before).processReadyEvent env e).2 after := by
  rw [UsbWorkerThread.afterEvents, List.foldl_append]
  rfl

theorem take_ready_pending (m : DeviceManager) (now : Instant) (key : BusAddress) :
    (m.takeReadyEvents now).debounceState.lookup key =
      (m.debounceState.lookup key).filter fun e => !decide (now ≥ e.fireAt) :=
  AList.lookup_retain _ _ _

/-- What a call leaves pending for a device that it fires nothing for. -/
theorem batch_pending (waits : ∀ e, m.debounceState.lookup key = some e → ¬ e.fireAt ≤ now)
    (fired : List (UsbEnv × DebouncedEvent)) :
    (UsbWorkerThread.afterEvents (m.takeReadyEvents now) fired).debounceState.lookup key =
      m.debounceState.lookup key := by
  rw [after_events_pending, take_ready_pending]
  cases found : m.debounceState.lookup key with
  | none => rfl
  | some e => exact Option.filter_eq_some_iff.mpr ⟨rfl, by simpa using waits e found⟩

theorem batch_fired {e : DebouncedEvent} (found : m.debounceState.lookup key = some e)
    (ready : e.fireAt ≤ now) (fired : List (UsbEnv × DebouncedEvent)) :
    (UsbWorkerThread.afterEvents (m.takeReadyEvents now) fired).debounceState.lookup key =
      none := by
  rw [after_events_pending, take_ready_pending, found]
  refine Option.filter_eq_none_iff.mpr fun e' same => ?_
  obtain rfl := Option.mem_some.mp same
  simpa using ready

/-- The entry that a call leaves is that of the one event for its device. -/
theorem batch_entry {after : List (UsbEnv × DebouncedEvent)} (later : ∀ f ∈ after, f.2.key ≠ key)
    (m : DeviceManager) (before : List (UsbEnv × DebouncedEvent)) (env : UsbEnv)
    (e : DebouncedEvent) :
    (UsbWorkerThread.afterEvents m (before ++ (env, e) :: after)).devices.lookup key =
      ((UsbWorkerThread.afterEvents m before).processReadyEvent env e).2.devices.lookup key := by
  rw [after_events_split, after_events_lookup later]

section Traces
variable {β : Type} {pick : HotplugEvent → Option β} {tr out : List HotplugEvent}

theorem latest_quiet (quiet : ∀ e ∈ out, pick e = none) :
    latest pick (tr ++ out) = latest pick tr := by
  rw [latest, List.filterMap_append, List.filterMap_eq_nil_iff.mpr quiet, List.append_nil]
  rfl

theorem latest_picked {x : HotplugEvent} {b : β} (picked : pick x = some b)
    (quiet : ∀ e ∈ out, pick e = none) : latest pick (tr ++ x :: out) = some b := by
  have last : latest pick (tr ++ [x] ++ out) = latest pick (tr ++ [x]) := latest_quiet quiet
  rw [List.append_assoc, List.singleton_append] at last
  rw [last, latest, List.filterMap_append, List.filterMap_cons, picked]
  exact List.getLast?_concat

/-- A place in a run that goes on is in the first part or in the second. -/
theorem split_append {x : HotplugEvent} {before after : List HotplugEvent}
    (h : tr ++ out = before ++ x :: after) :
    (∃ rest, tr = before ++ x :: rest ∧ after = rest ++ out) ∨
      ∃ front, before = tr ++ front ∧ out = front ++ x :: after := by
  rcases List.append_eq_append_iff.mp h with ⟨front, rfl, rest⟩ | ⟨front, rfl, rest⟩
  · exact .inr ⟨front, rfl, rest⟩
  · cases front with
    | nil => exact .inr ⟨[], by simp, rest.symm⟩
    | cons y front =>
        obtain ⟨rfl, rfl⟩ := List.cons.inj rest
        exact .inl ⟨front, rfl, rfl⟩

end Traces

/-- For one device: what is pending is its last callback; once nothing is, that callback has
fired and the registry shows it; and everything fired after its time. -/
structure Follows (filters : List String) (key : BusAddress) (tr : List HotplugEvent)
    (m : DeviceManager) : Prop where
  pending : ∀ e, m.debounceState.lookup key = some e →
    ∃ c, lastCallback key tr = some c ∧ e = c.pending
  decided : m.debounceState.lookup key = none → ∀ c, lastCallback key tr = some c →
    ∃ now env, lastFiring key tr = some (now, env, c.pending) ∧
      (c.eventType = .left → m.devices.lookup key = none) ∧
      (c.eventType = .arrived → ∀ device, env.Shows key device → device.Sharable filters →
        m.devices.lookup key ≠ none)
  timely : ∀ before now env e after, tr = before ++ .fired now env e :: after → e.key = key →
    ∃ c, lastCallback key before = some c ∧ c.now + HOTPLUG_DEBOUNCE_DURATION ≤ now ∧
      e = c.pending

variable {filters : List String} {tr out : List HotplugEvent} {m' : DeviceManager}

/-- Steps that neither schedule nor fire anything for the device. -/
theorem Follows.idle (h : Follows filters key tr m)
    (pending : m'.debounceState.lookup key = m.debounceState.lookup key)
    (entry : m'.devices.lookup key = none ↔ m.devices.lookup key = none)
    (noCallback : ∀ e ∈ out, e.callbackAt key = none)
    (noFiring : ∀ e ∈ out, e.firingAt key = none) : Follows filters key (tr ++ out) m' where
  pending e found := by
    rw [lastCallback, latest_quiet noCallback]
    exact h.pending e (pending ▸ found)
  decided none c last := by
    rw [lastCallback, latest_quiet noCallback] at last
    obtain ⟨now, env, fired, gone, there⟩ := h.decided (pending ▸ none) c last
    rw [lastFiring, latest_quiet noFiring]
    refine ⟨now, env, fired, fun departure => entry.mpr (gone departure), ?_⟩
    exact fun arrival device shown sharable => mt entry.mp (there arrival device shown sharable)
  timely before now env e after split own := by
    rcases split_append split with ⟨rest, here, -⟩ | ⟨front, -, late⟩
    · exact h.timely before now env e rest here own
    · have silent := noFiring (.fired now env e) (late ▸ List.mem_append_right _ List.mem_cons_self)
      rw [HotplugEvent.firingAt, if_pos own] at silent
      cases silent

/-- A callback for the device replaces what was pending. -/
theorem Follows.callback (h : Follows filters key tr m) (c : HotplugCallback) (n : Nat)
    (own : c.key = key) : Follows filters key (tr ++ [.scheduled c n])
      (m.scheduleDebouncedEvent c.now c.bus c.address c.eventType) where
  pending e found := by
    have last : lastCallback key (tr ++ [.scheduled c n]) = some c :=
      latest_picked (if_pos own) fun e wrong => nomatch wrong
    refine ⟨c, last, ?_⟩
    have there : (m.scheduleDebouncedEvent c.now c.bus c.address c.eventType).debounceState.lookup
        c.key = some c.pending := AList.lookup_insert _
    rw [own] at there
    exact Option.some.inj (found.symm.trans there)
  decided none := by
    have there : (m.scheduleDebouncedEvent c.now c.bus c.address c.eventType).debounceState.lookup
        c.key = some c.pending := AList.lookup_insert _
    rw [own, none] at there
    cases there
  timely before now env e after split at_ := by
    rcases split_append split with ⟨rest, here, -⟩ | ⟨front, -, late⟩
    · exact h.timely before now env e rest here at_
    · have present : HotplugEvent.fired now env e ∈ [HotplugEvent.scheduled c n] :=
        late ▸ List.mem_append_right _ List.mem_cons_self
      cases List.mem_singleton.mp present

theorem report_callback (now : Instant) (fired : List (UsbEnv × DebouncedEvent)) :
    ∀ e ∈ report now fired, e.callbackAt key = none := by
  intro e shown
  obtain ⟨f, -, rfl⟩ := List.mem_map.mp shown
  rfl

theorem report_firing (others : ∀ f ∈ fired, f.2.key ≠ key) :
    ∀ e ∈ report now fired, e.firingAt key = none := by
  intro e shown
  obtain ⟨f, there, rfl⟩ := List.mem_map.mp shown
  exact if_neg (others f there)

/-- The event that was pending for the device fires. -/
theorem Follows.fire (h : Follows filters key tr m) (inv : m.HotplugInv filters)
    {before after : List (UsbEnv × DebouncedEvent)} {env : UsbEnv} {e : DebouncedEvent}
    (earlier : ∀ f ∈ before, f.2.key ≠ key) (later : ∀ f ∈ after, f.2.key ≠ key)
    (own : e.key = key) (found : m.debounceState.lookup key = some e) (ready : e.fireAt ≤ now) :
    Follows filters key (tr ++ report now (before ++ (env, e) :: after))
      (UsbWorkerThread.afterEvents (m.takeReadyEvents now) (before ++ (env, e) :: after)) := by
  obtain ⟨c, last, rfl⟩ := h.pending e found
  have lastNow : lastCallback key (tr ++ report now (before ++ (env, c.pending) :: after)) =
    some c :=
    (latest_quiet (report_callback now _)).trans last
  have firing : lastFiring key (tr ++ report now (before ++ (env, c.pending) :: after)) =
      some (now, env, c.pending) := by
    rw [report, List.map_append, List.map_cons, ← List.append_assoc]
    exact latest_picked (if_pos own) (report_firing later)
  have reached := ((inv.take now).events before).filters
  have taken := batch_fired found ready (before ++ (env, c.pending) :: after)
  refine ⟨fun e wrong => ?_, fun _ c' last' => ?_, ?_⟩
  · rw [taken] at wrong
    cases wrong
  · obtain rfl := Option.some.inj (lastNow.symm.trans last')
    refine ⟨now, env, firing, fun departure => ?_, fun arrival device shown sharable => ?_⟩
    · rw [batch_entry later, ← own]
      exact AList.lookup_eq_none.mpr (departure_removes departure)
    · rw [batch_entry later, ← own]
      have present := arrival_adds arrival (own ▸ shown) (reached ▸ sharable)
      exact fun absent => AList.lookup_eq_none.mp absent present
  · intro front at' env' e' rest split own'
    rcases split_append split with ⟨rest', here, -⟩ | ⟨mid, rfl, late⟩
    · exact h.timely front at' env' e' rest' here own'
    · have quiet : ∀ x ∈ mid, x.callbackAt key = none := fun x there =>
        report_callback now _ x (late ▸ List.mem_append_left _ there)
      have shown : HotplugEvent.fired at' env' e' ∈ report now
        (before ++ (env, c.pending) :: after) :=
        late ▸ List.mem_append_right _ List.mem_cons_self
      obtain ⟨f, there, same⟩ := List.mem_map.mp shown
      obtain ⟨rfl, rfl, rfl⟩ := HotplugEvent.fired.inj same
      refine ⟨c, (latest_quiet quiet).trans last, ?_⟩
      rcases List.mem_append.mp there with wrong | there
      · exact absurd own' (earlier f wrong)
      · rcases List.mem_cons.mp there with rfl | wrong
        · exact ⟨ready, rfl⟩
        · exact absurd own' (later f wrong)

/-- The entries are those of the registered ids, and commands register nothing. -/
theorem command_entry (inv : m.RegistryInv) (env : UsbEnv) (cmd : UsbCommand) (key : BusAddress) :
    (m.handleCommandInner env cmd).2.devices.lookup key = none ↔ m.devices.lookup key = none := by
  have entry : ∀ {m : DeviceManager}, m.RegistryInv →
      (m.devices.lookup key = none ↔ ∀ id, m.deviceIds.lookup id ≠ some key) := by
    intro m inv
    constructor
    · intro none id registered
      obtain ⟨d, there, -⟩ := inv.id_device id key registered
      rw [none] at there
      cases there
    · intro nobody
      cases there : m.devices.lookup key with
      | none => rfl
      | some d => exact absurd (inv.device_key key d there) (nobody d.id)
  rw [entry (inv.update (m.handle_command_update env cmd)), entry inv, (m.command_frame env cmd).1]

theorem Follows.step (h : Follows filters key tr m) (inv : m.HotplugInv filters) {c : HotplugCall}
    (taken : m.hotplugStep c = some (m', out)) : Follows filters key (tr ++ out) m' := by
  cases hotplug_step_does taken with
  | callback c =>
      by_cases own : c.key = key
      · exact h.callback c m.nextHandleId own
      · refine h.idle (AList.lookup_insert_ne (Ne.symm own)) Iff.rfl ?_ fun e shown => ?_
        · intro e shown
          rw [List.mem_singleton.mp shown]
          exact if_neg own
        · rw [List.mem_singleton.mp shown]
          rfl
  | process now fired batch =>
      rcases batch_cases inv.keyed batch key with
        ⟨others, waits⟩ | ⟨before, env, e, after, rfl, earlier, later, own, found, ready⟩
      · refine h.idle (batch_pending waits fired) ?_ (report_callback now fired)
          (report_firing others)
        rw [after_events_lookup others]
        exact Iff.rfl
      · exact h.fire inv earlier later own found ready
  | command env cmd =>
      refine h.idle ?_ (command_entry inv.registry env cmd key) (fun e wrong => nomatch wrong)
        fun e wrong => nomatch wrong
      rw [(m.command_frame env cmd).2]

theorem follows_run {config : SharingConfig} {devices : List RusbDevice}
    (run : hotplugCalls.Reach (initialized filters config devices) tr m) :
    m.HotplugInv filters ∧ ∀ key, Follows filters key tr m := by
  refine run.invariant (I := fun tr m => m.HotplugInv filters ∧ ∀ key, Follows filters key tr m)
    ⟨hotplug_inv_initialized filters config devices, fun key => ?_⟩ ?_
  · refine ⟨fun e found => ?_, fun _ c wrong => (nomatch wrong), ?_⟩
    · rw [initialized_pending] at found
      cases found
    · intro before now env e after wrong
      exact absurd wrong.symm (List.append_ne_nil_of_right_ne_nil _ (List.cons_ne_nil _ _))
  · intro tr m c m' out ⟨inv, follows⟩ _ taken
    exact ⟨inv.step taken, fun key => (follows key).step inv taken⟩

/-- Debouncing converges to the last callback: in any order of callbacks, calls and commands,
each event fires a debounce period after the most recent callback of its device or later, and
a device with nothing pending is registered if and only if its last callback was an arrival
(of a device that libusb showed when it fired, and that can be shared). -/
theorem debounce_converges {config : SharingConfig} {devices : List RusbDevice}
    (run : hotplugCalls.Reach (initialized filters config devices) tr m) :
    (∀ before now env event after, tr = before ++ .fired now env event :: after →
      ∃ c, lastCallback event.key before = some c ∧ event.eventType = c.eventType ∧
        c.now + HOTPLUG_DEBOUNCE_DURATION ≤ now) ∧
      ∀ key c, lastCallback key tr = some c → key ∉ m.debounceState →
        ∃ now env event, lastFiring key tr = some (now, env, event) ∧
          ((c.eventType = .arrived →
              ∃ device, env.Shows key device ∧ device.Sharable filters) →
            (key ∈ m.devices ↔ c.eventType = .arrived)) := by
  obtain ⟨-, follows⟩ := follows_run run
  constructor
  · intro before now env event after split
    obtain ⟨c, last, late, same⟩ := (follows event.key).timely before now env event after split rfl
    exact ⟨c, last, congrArg DebouncedEvent.eventType same, late⟩
  · intro key c last settled
    obtain ⟨now, env, firing, gone, there⟩ :=
      (follows key).decided (AList.lookup_eq_none.mpr settled) c last
    refine ⟨now, env, c.pending, firing, fun plugged => ⟨fun present => ?_, fun arrival => ?_⟩⟩
    · cases type : c.eventType with
      | arrived => rfl
      | left => exact absurd present (AList.lookup_eq_none.mp (gone type))
    · obtain ⟨device, shown, sharable⟩ := plugged arrival
      exact (AList.lookup_isSome.mp (Option.isSome_iff_ne_none.mpr
        (there arrival device shown sharable)))

def callbackAt (millis : Nat) (eventType : PendingHotplugEvent) : HotplugCallback where
  now := Duration.fromMillis millis
  bus := 1
  address := 1
  eventType := eventType

/-- Plugged in, out and in again within the debounce period. -/
theorem debounce_converges_flicker :
    ∃ tr m, hotplugCalls.Reach (initialized [] .default []) tr m ∧ (1, 1) ∈ m.devices := by
  have run : hotplugCalls.Reach (initialized [] .default []) _ _ :=
    (((Machine.Exec.start.next (a := HotplugCall.callback (callbackAt 0 .arrived)) trivial rfl).next
      (a := HotplugCall.callback (callbackAt 100 .left)) trivial rfl).next
      (a := HotplugCall.callback (callbackAt 200 .arrived)) trivial rfl).next
      (a := HotplugCall.process (Duration.fromMillis 700)
        [(exampleEnv (Duration.fromMillis 700) [exampleDevice 0 1 1],
          (callbackAt 200 .arrived).pending)]) trivial rfl
  refine ⟨_, _, run, ?_⟩
  obtain ⟨now, env, event, firing, decided⟩ :=
    (debounce_converges run).2 (1, 1) (callbackAt 200 .arrived) rfl (by decide)
  obtain ⟨rfl, rfl, rfl⟩ := Prod.mk.inj (Option.some.inj firing)
  exact (decided fun _ => ⟨exampleDevice 0 1 1, ⟨_, rfl, rfl⟩, rfl, rfl, _, rfl⟩).mpr rfl

end DeviceManager
end P2pUsb
