import P2pUsb.Library.Machine
import P2pUsb.Usb.ManagerSteps

/-! The registry invariant of the device manager: its maps, its counters and the
access tracker agree in every reachable state, whatever libusb answers. -/
namespace P2pUsb
namespace DeviceManager
variable {m : DeviceManager}

/-- Registered devices, attachments, tracker and counters agree. -/
structure RegistryInv (m : DeviceManager) : Prop where
  device_key : ∀ key d, m.devices.lookup key = some d → m.deviceIds.lookup d.id = some key
  id_device : ∀ id key, m.deviceIds.lookup id = some key →
    ∃ d, m.devices.lookup key = some d ∧ d.id = id
  address : ∀ key d, m.devices.lookup key = some d → (d.busNumber, d.deviceAddress) = key
  registered : ∀ id, id ∈ m.deviceIds ↔ ∃ s, m.accessTracker.getState id = some s
  attached_state : ∀ h id client, m.attached.lookup h = some (id, client) →
    ∃ s, m.accessTracker.getState id = some s ∧ h ∈ s.attachedClients
  state_attached : ∀ id s h, m.accessTracker.getState id = some s → h ∈ s.attachedClients →
    ∃ client, m.attached.lookup h = some (id, client)
  ids_below : ∀ id ∈ m.deviceIds, id.val < m.nextDeviceId
  handles_below : ∀ h ∈ m.attached, h.val < m.nextHandleId
  open_iff : ∀ key d, m.devices.lookup key = some d →
    (d.handle.isSome ↔ ∃ h client, m.attached.lookup h = some (d.id, client))
  configured : ∀ id s, m.accessTracker.getState id = some s →
    s.mode = m.sharingConfig.defaultMode ∧ s.maxClients = m.sharingConfig.defaultMaxClients
  capacity : ∀ id s, m.accessTracker.getState id = some s →
    s.attachedClients.size ≤ if s.mode = .exclusive then 1 else s.maxClients

namespace RegistryInv
variable {m' : DeviceManager}

theorem new (filters : List String) (config : SharingConfig) :
    RegistryInv (withSharingConfig filters config) where
  device_key := fun _ _ h => nomatch h
  id_device := fun _ _ h => nomatch h
  address := fun _ _ h => nomatch h
  registered := fun _ => ⟨fun h => (nomatch h), fun ⟨_, h⟩ => (nomatch h)⟩
  attached_state := fun _ _ _ h => nomatch h
  state_attached := fun _ _ _ h => nomatch h
  ids_below := fun _ h => nomatch h
  handles_below := fun _ h => nomatch h
  open_iff := fun _ _ h => nomatch h
  configured := fun _ _ h => nomatch h
  capacity := fun _ _ h => nomatch h

theorem attached_registered (hm : m.RegistryInv) {h : DeviceHandle} {id : DeviceId}
    {client : String} (held : m.attached.lookup h = some (id, client)) : id ∈ m.deviceIds := by
  obtain ⟨s, found, -⟩ := hm.attached_state h id client held
  exact (hm.registered id).mpr ⟨s, found⟩

theorem next_id_free (hm : m.RegistryInv) : (⟨m.nextDeviceId⟩ : DeviceId) ∉ m.deviceIds :=
  fun present => lt_irrefl _ (hm.ids_below _ present)

theorem next_handle_free (hm : m.RegistryInv) : (⟨m.nextHandleId⟩ : DeviceHandle) ∉ m.attached :=
  fun present => lt_irrefl _ (hm.handles_below _ present)

theorem tracked_id (hm : m.RegistryInv) {id : DeviceId} {key : BusAddress} {device : UsbDevice}
    (registered : m.deviceIds.lookup id = some key)
    (tracked : m.devices.lookup key = some device) : device.id = id := by
  obtain ⟨d, there, same⟩ := hm.id_device id key registered
  rw [tracked] at there
  rwa [Option.some.inj there]

theorem other_id (hm : m.RegistryInv) {id : DeviceId} {key k : BusAddress} {d : UsbDevice}
    (registered : m.deviceIds.lookup id = some key) (found : m.devices.lookup k = some d)
    (other : k ≠ key) : d.id ≠ id := by
  intro same
  have there := hm.device_key k d found
  rw [same, registered] at there
  exact other (Option.some.inj there).symm

theorem burn (hm : m.RegistryInv) :
    RegistryInv { m with nextDeviceId := m.nextDeviceId + 1 } :=
  { hm with ids_below := fun id present => Nat.lt_succ_of_lt (hm.ids_below id present) }

theorem locks (hm : m.RegistryInv) {tracker : DeviceAccessTracker}
    (same : m.accessTracker.SameClients tracker) :
    RegistryInv { m with accessTracker := tracker } where
  device_key := hm.device_key
  id_device := hm.id_device
  address := hm.address
  registered := by
    intro id
    rw [hm.registered id]
    constructor
    · rintro ⟨s, found⟩
      obtain ⟨s', found', -⟩ := same.some_right found
      exact ⟨s', found'⟩
    · rintro ⟨s', found'⟩
      obtain ⟨s, found, -⟩ := same.some_left found'
      exact ⟨s, found⟩
  attached_state := by
    intro h id client held
    obtain ⟨s, found, present⟩ := hm.attached_state h id client held
    obtain ⟨s', found', kept⟩ := same.some_right found
    exact ⟨s', found', kept.mem_iff.mpr present⟩
  state_attached := by
    intro id s' h found' present
    obtain ⟨s, found, kept⟩ := same.some_left found'
    exact hm.state_attached id s h found (kept.mem_iff.mp present)
  ids_below := hm.ids_below
  handles_below := hm.handles_below
  open_iff := hm.open_iff
  configured := by
    intro id s' found'
    obtain ⟨s, found, kept⟩ := same.some_left found'
    rw [kept.mode, kept.maxClients]
    exact hm.configured id s found
  capacity := by
    intro id s' found'
    obtain ⟨s, found, kept⟩ := same.some_left found'
    rw [kept.size_eq, kept.mode, kept.maxClients]
    exact hm.capacity id s found

/-- A change to the sharing state of one device unregisters none. -/
theorem modify_registered (hm : m.RegistryInv) (id i : DeviceId)
    (f : DeviceSharingState → DeviceSharingState) :
    i ∈ m.deviceIds ↔ ∃ s, (m.accessTracker.modifyState id f).getState i = some s := by
  rw [hm.registered i, DeviceAccessTracker.get_state_modify]
  split
  case isTrue same =>
    rw [same]
    constructor
    · rintro ⟨s, found⟩
      exact ⟨f s, by rw [found, Option.map_some]⟩
    · rintro ⟨s', found⟩
      obtain ⟨s, found₀, -⟩ := Option.map_eq_some_iff.mp found
      exact ⟨s, found₀⟩
  case isFalse => exact Iff.rfl

/-- It keeps to the configuration and the capacity if it does so for the one state. -/
theorem modify_within (hm : m.RegistryInv) {id : DeviceId}
    {f : DeviceSharingState → DeviceSharingState}
    (frame : ∀ s, (f s).mode = s.mode ∧ (f s).maxClients = s.maxClients)
    (fits : ∀ s, m.accessTracker.getState id = some s →
      (f s).attachedClients.size ≤ if s.mode = .exclusive then 1 else s.maxClients)
    {i : DeviceId} {s : DeviceSharingState}
    (found : (m.accessTracker.modifyState id f).getState i = some s) :
    (s.mode = m.sharingConfig.defaultMode ∧ s.maxClients = m.sharingConfig.defaultMaxClients) ∧
      s.attachedClients.size ≤ if s.mode = .exclusive then 1 else s.maxClients := by
  rw [DeviceAccessTracker.get_state_modify] at found
  split at found
  case isTrue =>
    obtain ⟨s₀, found₀, rfl⟩ := Option.map_eq_some_iff.mp found
    rw [(frame s₀).1, (frame s₀).2]
    exact ⟨hm.configured id s₀ found₀, fits s₀ found₀⟩
  case isFalse => exact ⟨hm.configured i s found, hm.capacity i s found⟩

theorem track_device {m : DeviceManager} {key k : BusAddress} {device d : UsbDevice}
    (found : (m.track key device).devices.lookup k = some d) :
    k = key ∧ d = device ∨ m.devices.lookup k = some d := by
  rcases AList.lookup_insert_eq_some.mp found with here | ⟨-, there⟩
  · exact .inl here
  · exact .inr there

/-- A new device has no clients. -/
theorem track_state {m : DeviceManager} {key : BusAddress} {device : UsbDevice} {i : DeviceId}
    {s : DeviceSharingState} (found : (m.track key device).accessTracker.getState i = some s) :
    s = .new device.id m.sharingConfig.defaultMode m.sharingConfig.defaultMaxClients
        (Duration.fromSecs m.sharingConfig.defaultLockTimeoutSecs) ∨
      m.accessTracker.getState i = some s := by
  rcases AList.lookup_insert_eq_some.mp found with here | ⟨-, there⟩
  · exact .inl here.2
  · exact .inr there

theorem track (hm : m.RegistryInv) {key : BusAddress} {device : UsbDevice}
    (free : m.devices.lookup key = none) (id : device.id = ⟨m.nextDeviceId⟩)
    (closed : device.handle = none) (address : (device.busNumber, device.deviceAddress) = key) :
    (m.track key device).RegistryInv := by
  have unused : device.id ∉ m.deviceIds := id ▸ hm.next_id_free
  have old : ∀ {i}, i ∈ m.deviceIds → i ≠ device.id := fun present same => unused (same ▸ present)
  have state : ∀ {i}, i ≠ device.id →
      (m.track key device).accessTracker.getState i = m.accessTracker.getState i :=
    fun other => AList.lookup_insert_ne other
  constructor
  case device_key =>
    intro k d found
    rcases track_device found with ⟨rfl, rfl⟩ | there
    · exact AList.lookup_insert _
    · have registered := hm.device_key k d there
      exact (AList.lookup_insert_ne (old (AList.mem_of_lookup registered))).trans registered
  case id_device =>
    intro i k found
    rcases AList.lookup_insert_eq_some.mp found with ⟨rfl, rfl⟩ | ⟨-, before⟩
    · exact ⟨device, AList.lookup_insert _, rfl⟩
    · obtain ⟨d, there, hd⟩ := hm.id_device i k before
      refine ⟨d, (AList.lookup_insert_ne ?_).trans there, hd⟩
      rintro rfl
      rw [free] at there
      cases there
  case address =>
    intro k d found
    rcases track_device found with ⟨rfl, rfl⟩ | there
    · exact address
    · exact hm.address k d there
  case registered =>
    intro i
    by_cases hi : i = device.id
    · subst hi
      exact ⟨fun _ => ⟨_, AList.lookup_insert _⟩, fun _ => (AList.mem_insert _).mpr (.inl rfl)⟩
    · rw [state hi, ← hm.registered i]
      exact (AList.mem_insert _).trans (or_iff_right hi)
  case attached_state =>
    intro h i client held
    obtain ⟨s, found, present⟩ := hm.attached_state h i client held
    exact ⟨s, (state (old (hm.attached_registered held))).trans found, present⟩
  case state_attached =>
    intro i s h found present
    rcases track_state found with rfl | there
    · exact absurd present (AList.notMem_empty h)
    · exact hm.state_attached i s h there present
  case ids_below =>
    intro i present
    rcases (AList.mem_insert _).mp present with rfl | before
    · rw [id]
      exact Nat.lt_succ_self _
    · exact Nat.lt_succ_of_lt (hm.ids_below i before)
  case handles_below => exact hm.handles_below
  case open_iff =>
    intro k d found
    rcases track_device found with ⟨rfl, rfl⟩ | there
    · simp only [closed, Option.isSome_none, Bool.false_eq_true, false_iff]
      rintro ⟨h, client, held⟩
      exact unused (hm.attached_registered held)
    · exact hm.open_iff k d there
  case configured =>
    intro i s found
    rcases track_state found with rfl | there
    · exact ⟨rfl, rfl⟩
    · exact hm.configured i s there
  case capacity =>
    intro i s found
    rcases track_state found with rfl | there
    · exact Nat.zero_le _
    · exact hm.capacity i s there

theorem remove (hm : m.RegistryInv) {bus address : UInt8} {device : UsbDevice}
    (tracked : m.devices.lookup (bus, address) = some device) :
    (m.removeDevice bus address).2.RegistryInv := by
  have here := hm.device_key _ _ tracked
  simp only [removeDevice, tracked]
  have device_at : ∀ {k d}, (m.devices.erase (bus, address)).lookup k = some d ↔
      k ≠ (bus, address) ∧ m.devices.lookup k = some d := AList.lookup_erase_eq_some
  have key_of : ∀ {i k}, (m.deviceIds.erase device.id).lookup i = some k ↔
      i ≠ device.id ∧ m.deviceIds.lookup i = some k := AList.lookup_erase_eq_some
  have state : ∀ {i s}, (m.accessTracker.unregisterDevice device.id).getState i = some s ↔
      i ≠ device.id ∧ m.accessTracker.getState i = some s := AList.lookup_erase_eq_some
  have kept : ∀ {h i client}, (m.attached.retain fun _ e => e.1 != device.id).lookup h =
      some (i, client) ↔ m.attached.lookup h = some (i, client) ∧ i ≠ device.id := by
    intro h i client
    rw [AList.lookup_retain, Option.filter_eq_some_iff, bne_iff_ne]
  constructor <;> dsimp only
  case device_key =>
    intro k d found
    obtain ⟨hk, there⟩ := device_at.mp found
    exact key_of.mpr ⟨hm.other_id here there hk, hm.device_key k d there⟩
  case id_device =>
    intro i k found
    obtain ⟨hi, registered⟩ := key_of.mp found
    obtain ⟨d, there, hd⟩ := hm.id_device i k registered
    refine ⟨d, device_at.mpr ⟨?_, there⟩, hd⟩
    rintro rfl
    exact hi (hm.tracked_id registered tracked).symm
  case address =>
    intro k d found
    exact hm.address k d (device_at.mp found).2
  case registered =>
    intro i
    simp only [AList.mem_erase, state, hm.registered i, exists_and_left]
  case attached_state =>
    intro h i client held
    obtain ⟨before, hi⟩ := kept.mp held
    obtain ⟨s, found, present⟩ := hm.attached_state h i client before
    exact ⟨s, state.mpr ⟨hi, found⟩, present⟩
  case state_attached =>
    intro i s h found present
    obtain ⟨hi, there⟩ := state.mp found
    obtain ⟨client, held⟩ := hm.state_attached i s h there present
    exact ⟨client, kept.mpr ⟨held, hi⟩⟩
  case ids_below =>
    intro i present
    exact hm.ids_below i (AList.mem_erase.mp present).2
  case handles_below =>
    intro h present
    obtain ⟨e, held, -⟩ := AList.mem_retain.mp present
    exact hm.handles_below h (AList.mem_of_lookup held)
  case open_iff =>
    intro k d found
    obtain ⟨hk, there⟩ := device_at.mp found
    rw [hm.open_iff k d there]
    refine exists_congr fun h => exists_congr fun client => ?_
    rw [kept, and_iff_left (hm.other_id here there hk)]
  case configured =>
    intro i s found
    exact hm.configured i s (state.mp found).2
  case capacity =>
    intro i s found
    exact hm.capacity i s (state.mp found).2

section Grant
variable {key : BusAddress} {device opened : UsbDevice} {id : DeviceId} {client : String}
  {now : Instant}

theorem not_next_handle (hm : m.RegistryInv) {h : DeviceHandle} {e : DeviceId × String}
    (held : m.attached.lookup h = some e) : h ≠ ⟨m.nextHandleId⟩ := by
  rintro rfl
  exact hm.next_handle_free (AList.mem_of_lookup held)

theorem granted_lookup (m : DeviceManager) (h : DeviceHandle) :
    (m.grant key opened id client now).attached.lookup h =
      if h = ⟨m.nextHandleId⟩ then some (id, client) else m.attached.lookup h :=
  AList.lookup_insert_eq _ _ _ _

theorem granted_state (m : DeviceManager) (i : DeviceId) :
    (m.grant key opened id client now).accessTracker.getState i =
      if i = id then (m.accessTracker.getState id).map
        fun s => s.attachClient client ⟨m.nextHandleId⟩ now
      else m.accessTracker.getState i :=
  m.accessTracker.get_state_modify id _ i

/-- The new handle is not among the clients yet, so there is room for it. -/
theorem grant_fits (hm : m.RegistryInv) (allowed : m.accessTracker.canAttach id = true)
    {s : DeviceSharingState} (found : m.accessTracker.getState id = some s) :
    (s.attachClient client ⟨m.nextHandleId⟩ now).attachedClients.size ≤
      if s.mode = .exclusive then 1 else s.maxClients := by
  have newcomer : (⟨m.nextHandleId⟩ : DeviceHandle) ∉ s.attachedClients := by
    intro present
    obtain ⟨c, held⟩ := hm.state_attached id s _ found present
    exact hm.not_next_handle held rfl
  have room : s.canAttach = true := by
    simpa only [DeviceAccessTracker.canAttach, found, Option.map_some, Option.getD_some]
      using allowed
  exact DeviceSharingState.attach_client_size room newcomer client now

/-- After a grant every device is the one it was, and open if a handle is attached to it. -/
theorem granted_device (hm : m.RegistryInv) (registered : m.deviceIds.lookup id = some key)
    (tracked : m.devices.lookup key = some device) (same : device.SameDevice opened)
    (isOpen : opened.handle.isSome) {k : BusAddress} {d : UsbDevice}
    (found : (m.grant key opened id client now).devices.lookup k = some d) :
    ∃ d₀, m.devices.lookup k = some d₀ ∧ d₀.SameDevice d ∧ (d.handle.isSome ↔
      ∃ h c, (m.grant key opened id client now).attached.lookup h = some (d.id, c)) := by
  have hid := hm.tracked_id registered tracked
  simp only [DeviceManager.grant, AList.lookup_modify_eq, tracked, Option.map_some] at found
  split at found
  case isTrue hk =>
    obtain rfl := Option.some.inj found
    refine ⟨device, hk ▸ tracked, same, iff_of_true isOpen ⟨⟨m.nextHandleId⟩, client, ?_⟩⟩
    rw [granted_lookup, if_pos rfl, ← same.2.1, hid]
  case isFalse hk =>
    have other := (hm.other_id registered found hk).symm
    refine ⟨d, found, .refl d, (hm.open_iff k d found).trans ?_⟩
    refine exists_congr fun h => exists_congr fun c => ?_
    rw [granted_lookup]
    split
    case isTrue hh =>
      refine ⟨fun held => absurd hh (hm.not_next_handle held), fun new => ?_⟩
      exact absurd (Prod.mk.inj (Option.some.inj new)).1 other
    case isFalse => exact Iff.rfl

theorem grant_attached_state (hm : m.RegistryInv) (registered : m.deviceIds.lookup id = some key)
    {h : DeviceHandle} {i : DeviceId} {c : String}
    (held : (m.grant key opened id client now).attached.lookup h = some (i, c)) :
    ∃ s, (m.grant key opened id client now).accessTracker.getState i = some s ∧
      h ∈ s.attachedClients := by
  rw [granted_lookup] at held
  split at held
  case isTrue hh =>
    obtain ⟨rfl, rfl⟩ := Prod.mk.inj (Option.some.inj held)
    obtain ⟨s, found⟩ := (hm.registered id).mp (AList.mem_of_lookup registered)
    refine ⟨s.attachClient client ⟨m.nextHandleId⟩ now, ?_, (AList.mem_insert _).mpr (.inl hh)⟩
    rw [granted_state, if_pos rfl, found, Option.map_some]
  case isFalse =>
    obtain ⟨s, found, present⟩ := hm.attached_state h i c held
    rw [granted_state]
    split
    case isTrue hi =>
      refine ⟨s.attachClient client ⟨m.nextHandleId⟩ now, ?_,
        (AList.mem_insert _).mpr (.inr present)⟩
      rw [← hi, found, Option.map_some]
    case isFalse => exact ⟨s, found, present⟩

theorem grant_state_attached (hm : m.RegistryInv) {i : DeviceId} {s : DeviceSharingState}
    {h : DeviceHandle}
    (found : (m.grant key opened id client now).accessTracker.getState i = some s)
    (present : h ∈ s.attachedClients) :
    ∃ c, (m.grant key opened id client now).attached.lookup h = some (i, c) := by
  rw [granted_state] at found
  rw [granted_lookup]
  split at found
  case isTrue hi =>
    obtain ⟨s₀, found₀, rfl⟩ := Option.map_eq_some_iff.mp found
    rcases (AList.mem_insert _).mp present with new | old
    · exact ⟨client, by rw [if_pos new, hi]⟩
    · obtain ⟨c, held⟩ := hm.state_attached id s₀ h found₀ old
      exact ⟨c, by rw [if_neg (hm.not_next_handle held), held, hi]⟩
  case isFalse =>
    obtain ⟨c, held⟩ := hm.state_attached i s h found present
    exact ⟨c, by rw [if_neg (hm.not_next_handle held), held]⟩

end Grant

theorem grant (hm : m.RegistryInv) {key : BusAddress} {device opened : UsbDevice}
    {id : DeviceId} (client : String) (now : Instant)
    (registered : m.deviceIds.lookup id = some key)
    (allowed : m.accessTracker.canAttach id = true)
    (tracked : m.devices.lookup key = some device) (same : device.SameDevice opened)
    (isOpen : opened.handle.isSome) : (m.grant key opened id client now).RegistryInv := by
  have device_at : ∀ {k d}, (m.grant key opened id client now).devices.lookup k = some d →
      ∃ d₀, m.devices.lookup k = some d₀ ∧ d₀.SameDevice d ∧ (d.handle.isSome ↔
        ∃ h c, (m.grant key opened id client now).attached.lookup h = some (d.id, c)) :=
    fun found => hm.granted_device registered tracked same isOpen found
  have within := fun {i s} => hm.modify_within (f := fun s => s.attachClient client
    ⟨m.nextHandleId⟩ now) (fun _ => ⟨rfl, rfl⟩) (fun _ => hm.grant_fits allowed) (i := i) (s := s)
  constructor
  case device_key =>
    intro k d found
    obtain ⟨d₀, there, same, -⟩ := device_at found
    rw [← same.2.1]
    exact hm.device_key k d₀ there
  case id_device =>
    intro i k found
    obtain ⟨d, there, hd⟩ := hm.id_device i k found
    simp only [DeviceManager.grant, AList.lookup_modify_eq, tracked, Option.map_some]
    split
    case isTrue hk =>
      rw [hk, tracked] at there
      exact ⟨opened, rfl, by rw [← same.2.1, Option.some.inj there, hd]⟩
    case isFalse => exact ⟨d, there, hd⟩
  case address =>
    intro k d found
    obtain ⟨d₀, there, same, -⟩ := device_at found
    rw [← hm.address k d₀ there]
    simp only [UsbDevice.busNumber, UsbDevice.deviceAddress, same.1]
  case registered => exact fun i => hm.modify_registered id i _
  case attached_state => exact fun h i c held => hm.grant_attached_state registered held
  case state_attached => exact fun i s h found present => hm.grant_state_attached found present
  case ids_below => exact hm.ids_below
  case handles_below =>
    intro h present
    rcases (AList.mem_insert _).mp present with rfl | before
    · exact Nat.lt_succ_self _
    · exact Nat.lt_succ_of_lt (hm.handles_below h before)
  case open_iff =>
    intro k d found
    obtain ⟨-, -, -, isOpen⟩ := device_at found
    exact isOpen
  case configured => exact fun i s found => (within found).1
  case capacity =>
    exact fun i s found => (within found).2

/-- After a detach the device is closed or it stays, and either way it is the
same device, open for as long as another handle is attached to it. -/
theorem detached_device (hm : m.RegistryInv) {h : DeviceHandle} {id : DeviceId} {client : String}
    {key : BusAddress} (held : m.attached.lookup h = some (id, client))
    (registered : m.deviceIds.lookup id = some key) {k : BusAddress} {d : UsbDevice}
    (found : (if (m.attached.erase h).entries.any (fun e => e.2.1 == id) then
      m.devices else m.devices.modify key UsbDevice.close).lookup k = some d) :
    ∃ d₀, m.devices.lookup k = some d₀ ∧ d₀.SameDevice d ∧
      (d.handle.isSome ↔ ∃ j c, (m.attached.erase h).lookup j = some (d.id, c)) := by
  have left : ∀ {j e}, (m.attached.erase h).lookup j = some e ↔
      j ≠ h ∧ m.attached.lookup j = some e := AList.lookup_erase_eq_some
  by_cases others : (m.attached.erase h).entries.any (fun e => e.2.1 == id) = true
  · rw [if_pos others] at found
    refine ⟨d, found, .refl d, (hm.open_iff k d found).trans ?_⟩
    constructor
    · rintro ⟨j, c, before⟩
      by_cases hj : j = h
      · rw [hj, held] at before
        obtain ⟨rfl, -⟩ := Prod.mk.inj (Option.some.inj before)
        obtain ⟨j', ⟨i, c'⟩, there, same⟩ := AList.any_entries.mp others
        exact ⟨j', c', (beq_iff_eq.mp same) ▸ there⟩
      · exact ⟨j, c, left.mpr ⟨hj, before⟩⟩
    · rintro ⟨j, c, after⟩
      exact ⟨j, c, (left.mp after).2⟩
  · have nobody : ¬ ∃ j c, (m.attached.erase h).lookup j = some (id, c) := by
      rintro ⟨j, c, after⟩
      exact others (AList.any_entries.mpr ⟨j, (id, c), after, beq_iff_eq.mpr rfl⟩)
    rw [if_neg others, AList.lookup_modify_eq] at found
    split at found
    case isTrue hk =>
      obtain ⟨d₀, there, rfl⟩ := Option.map_eq_some_iff.mp found
      refine ⟨d₀, hk ▸ there, d₀.close_same, ?_⟩
      have closed : d₀.close.handle.isSome = false := rfl
      have same : d₀.id = id := hm.tracked_id registered there
      have named : d₀.close.id = id := same
      rw [closed, named]
      exact iff_of_false Bool.false_ne_true nobody
    case isFalse hk =>
      refine ⟨d, found, .refl d, (hm.open_iff k d found).trans ?_⟩
      refine exists_congr fun j => exists_congr fun c => ?_
      rw [left]
      refine ⟨fun before => ⟨?_, before⟩, And.right⟩
      rintro rfl
      rw [held] at before
      exact hm.other_id registered found hk (Prod.mk.inj (Option.some.inj before)).1.symm

theorem detach (hm : m.RegistryInv) {h : DeviceHandle} {id : DeviceId} {client : String}
    (held : m.attached.lookup h = some (id, client)) : (m.detachDevice h).2.RegistryInv := by
  obtain ⟨key, registered⟩ := AList.mem_iff.mp (hm.attached_registered held)
  rw [detach_device_eq held registered]
  have state := m.accessTracker.get_state_modify id fun s => (s.detachClient h).2
  have left : ∀ {j e}, (m.attached.erase h).lookup j = some e ↔
      j ≠ h ∧ m.attached.lookup j = some e := AList.lookup_erase_eq_some
  have frame : ∀ s : DeviceSharingState, (s.detachClient h).2.mode = s.mode ∧
      (s.detachClient h).2.maxClients = s.maxClients :=
    fun s => ⟨(s.detach_client_frame h).1, (s.detach_client_frame h).2.1⟩
  have fits : ∀ s, m.accessTracker.getState id = some s →
      (s.detachClient h).2.attachedClients.size ≤
        if s.mode = .exclusive then 1 else s.maxClients :=
    fun s found => (s.detach_client_frame h).2.2.trans (hm.capacity id s found)
  constructor <;> dsimp only
  case device_key =>
    intro k d found
    obtain ⟨d₀, there, same, -⟩ := hm.detached_device held registered found
    rw [← same.2.1]
    exact hm.device_key k d₀ there
  case id_device =>
    intro i k found
    obtain ⟨d₀, there, hd⟩ := hm.id_device i k found
    split
    · exact ⟨d₀, there, hd⟩
    · rw [AList.lookup_modify_eq]
      split
      case isTrue hk => exact ⟨d₀.close, by rw [← hk, there, Option.map_some], hd⟩
      case isFalse => exact ⟨d₀, there, hd⟩
  case address =>
    intro k d found
    obtain ⟨d₀, there, same, -⟩ := hm.detached_device held registered found
    rw [← hm.address k d₀ there]
    simp only [UsbDevice.busNumber, UsbDevice.deviceAddress, same.1]
  case registered => exact fun i => hm.modify_registered id i _
  case attached_state =>
    intro j i c after
    obtain ⟨hj, before⟩ := left.mp after
    obtain ⟨s, found, present⟩ := hm.attached_state j i c before
    rw [state]
    split
    case isTrue hi =>
      refine ⟨(s.detachClient h).2, by rw [← hi, found, Option.map_some], ?_⟩
      exact DeviceSharingState.mem_detach_client.mpr ⟨hj, present⟩
    case isFalse => exact ⟨s, found, present⟩
  case state_attached =>
    intro i s j found present
    rw [state] at found
    split at found
    case isTrue hi =>
      obtain ⟨s₀, found₀, rfl⟩ := Option.map_eq_some_iff.mp found
      obtain ⟨hj, before⟩ := DeviceSharingState.mem_detach_client.mp present
      obtain ⟨c, there⟩ := hm.state_attached id s₀ j found₀ before
      exact ⟨c, left.mpr ⟨hj, hi ▸ there⟩⟩
    case isFalse hi =>
      obtain ⟨c, there⟩ := hm.state_attached i s j found present
      refine ⟨c, left.mpr ⟨?_, there⟩⟩
      rintro rfl
      rw [held] at there
      exact hi (Prod.mk.inj (Option.some.inj there)).1.symm
  case ids_below => exact hm.ids_below
  case handles_below =>
    intro j present
    exact hm.handles_below j (AList.mem_erase.mp present).2
  case open_iff =>
    intro k d found
    obtain ⟨-, -, -, isOpen⟩ := hm.detached_device held registered found
    exact isOpen
  case configured => exact fun i s found => (hm.modify_within frame fits found).1
  case capacity =>
    exact fun i s found => (hm.modify_within frame fits found).2

theorem update (hm : m.RegistryInv) (step : m.Update m') : m'.RegistryInv := by
  cases step with
  | refl => exact hm
  | burn => exact hm.burn
  | track key device free id closed address => exact hm.track free id closed address
  | remove bus address device tracked => exact hm.remove tracked
  | grant key device opened id client now registered allowed tracked same isOpen =>
      exact hm.grant client now registered allowed tracked same isOpen
  | detach h id client held => exact hm.detach held
  | locks tracker same => exact hm.locks same
  | debounce pending => exact { hm with }

/-- The handles attached to one device, as the attachments count them. -/
theorem attached_count (hm : m.RegistryInv) {id : DeviceId} {s : DeviceSharingState}
    (found : m.accessTracker.getState id = some s) :
    (m.attached.retain fun _ e => e.1 == id).size ≤
      if s.mode = .exclusive then 1 else s.maxClients := by
  refine le_trans (AList.countP_le_size ?_) (hm.capacity id s found)
  rintro h ⟨i, client⟩ held same
  obtain rfl : i = id := beq_iff_eq.mp same
  obtain ⟨s', found', present⟩ := hm.attached_state h i client (AList.lookup_eq_some.mpr held)
  rw [found] at found'
  rwa [Option.some.inj found']

end RegistryInv
inductive ManagerOp where
  | addDevice (device : RusbDevice)
  | removeDevice (bus address : UInt8)
  | attachDevice (env : UsbEnv) (deviceId : DeviceId) (clientId : String)
  | detachDevice (handle : DeviceHandle)
  | acquireLock (now : Instant) (handle : DeviceHandle) (writeAccess : Bool)
  | releaseLock (handle : DeviceHandle)
  | processDeviceQueue (now : Instant) (deviceId : DeviceId)
  | processAllQueues (now : Instant)

/-- An identifier given out for the first time. -/
inductive Issued where
  | device (id : DeviceId)
  | handle (h : DeviceHandle)
  deriving DecidableEq, Repr

def operate (m : DeviceManager) : ManagerOp → DeviceManager × List Issued
  | .addDevice device =>
      let (result, m') := m.addDevice device
      (m', match result with
        | .ok id => if id ∈ m.deviceIds then [] else [.device id]
        | .error _ => [])
  | .removeDevice bus address => ((m.removeDevice bus address).2, [])
  | .attachDevice env deviceId clientId =>
      let (result, m') := m.attachDevice env deviceId clientId
      (m', match result with
        | .ok handle => [.handle handle]
        | .error _ => [])
  | .detachDevice handle => ((m.detachDevice handle).2, [])
  | .acquireLock now handle writeAccess => ((m.acquireLock now handle writeAccess).2, [])
  | .releaseLock handle => ((m.releaseLock handle).2, [])
  | .processDeviceQueue now deviceId => ((m.processDeviceQueue now deviceId).2, [])
  | .processAllQueues now => ((m.processAllQueues now).2, [])

def registry : Machine DeviceManager ManagerOp Issued where
  step m op := some (m.operate op)

def Below (m : DeviceManager) : Issued → Prop
  | .device id => id.val < m.nextDeviceId
  | .handle h => h.val < m.nextHandleId

theorem operate_update (m : DeviceManager) (op : ManagerOp) : m.Update (m.operate op).1 := by
  cases op with
  | addDevice device => exact m.add_device_update device
  | removeDevice bus address => exact m.remove_device_update bus address
  | attachDevice env id client => exact m.attach_device_update env id client
  | detachDevice h => exact m.detach_device_update h
  | acquireLock now h w => exact m.acquire_lock_update now h w
  | releaseLock h => exact m.release_lock_update h
  | processDeviceQueue now id => exact m.process_device_queue_update now id
  | processAllQueues now => exact m.process_all_queues_update now

/-- Identifiers are given out one at a time, each from its counter. -/
theorem RegistryInv.operate_issued (hm : m.RegistryInv) (op : ManagerOp) :
    (m.operate op).2 = [] ∨ ∃ i, (m.operate op).2 = [i] ∧ ¬ m.Below i ∧
      (m.operate op).1.Below i := by
  cases op with
  | addDevice device =>
      rcases m.add_device_cases device with ⟨-, tracked⟩ | ⟨-, e, failed⟩ | ⟨d, -, -, -, -, added⟩
      · left
        simp only [operate]
        split
        case h_1 id ok =>
          obtain ⟨key, d, there, rfl⟩ := tracked id ok
          exact if_pos (AList.mem_of_lookup (hm.device_key key d there))
        case h_2 => rfl
      · left
        simp only [operate, failed]
      · right
        simp only [operate, added, if_neg hm.next_id_free]
        exact ⟨_, rfl, lt_irrefl _, Nat.lt_succ_self _⟩
  | attachDevice env id client =>
      rcases m.attach_device_cases env id client with ⟨e, failed⟩ |
        ⟨_, _, _, _, _, _, _, _, granted⟩
      · left
        simp only [operate, failed]
      · right
        simp only [operate, granted]
        exact ⟨_, rfl, lt_irrefl _, Nat.lt_succ_self _⟩
  | removeDevice | detachDevice | acquireLock | releaseLock | processDeviceQueue
  | processAllQueues => exact .inl rfl

theorem Below.mono {m' : DeviceManager} {i : Issued} (h : m.Below i)
    (devices : m.nextDeviceId ≤ m'.nextDeviceId) (handles : m.nextHandleId ≤ m'.nextHandleId) :
    m'.Below i := by
  cases i with
  | device id => exact lt_of_lt_of_le h devices
  | handle h' => exact lt_of_lt_of_le h handles

/-- No identifier is given out twice. -/
theorem issued_run {filters : List String} {config : SharingConfig} {tr : List Issued}
    {m : DeviceManager} (run : registry.Reach (withSharingConfig filters config) tr m) :
    m.RegistryInv ∧ tr.Nodup ∧ ∀ i ∈ tr, m.Below i := by
  refine run.invariant (I := fun tr m => m.RegistryInv ∧ tr.Nodup ∧ ∀ i ∈ tr, m.Below i)
    ⟨.new filters config, .nil, fun _ h => absurd h List.not_mem_nil⟩ ?_
  intro tr m op m' out ⟨hm, nodup, below⟩ _ step
  have taken : m.operate op = (m', out) := Option.some.inj step
  obtain rfl : (m.operate op).1 = m' := congrArg Prod.fst taken
  obtain rfl : (m.operate op).2 = out := congrArg Prod.snd taken
  have update := m.operate_update op
  have older : ∀ i ∈ tr, (m.operate op).1.Below i := fun i hi =>
    (below i hi).mono update.counters.1 update.counters.2
  refine ⟨hm.update update, ?_⟩
  rcases hm.operate_issued op with none | ⟨i, one, fresh, belowNow⟩
  · rw [none, List.append_nil]
    exact ⟨nodup, older⟩
  · rw [one]
    constructor
    · refine nodup.append (List.nodup_singleton i) ?_
      intro j hj hi
      exact fresh (List.mem_singleton.mp hi ▸ below j hj)
    · intro j hj
      rcases List.mem_append.mp hj with old | new
      · exact older j old
      · rwa [List.mem_singleton.mp new]

theorem registry_consistent {filters : List String} {config : SharingConfig} {tr : List Issued}
    {m : DeviceManager} (run : registry.Reach (withSharingConfig filters config) tr m) :
    m.RegistryInv ∧
      (∀ h i client j s, m.attached.lookup h = some (i, client) →
        m.accessTracker.getState j = some s → h ∈ s.attachedClients → j = i) ∧
      (∀ id s, m.accessTracker.getState id = some s →
        (m.attached.retain fun _ e => e.1 == id).size ≤
          if s.mode = .exclusive then 1 else s.maxClients) ∧
      tr.Nodup ∧ (∀ i ∈ tr, m.Below i) ∧
      (∀ env id client e, (m.attachDevice env id client).1 = .error e →
        (m.attachDevice env id client).2 = m) ∧
      (∀ h e, (m.detachDevice h).1 = .error e → (m.detachDevice h).2 = m) := by
  obtain ⟨hm, nodup, below⟩ := issued_run run
  refine ⟨hm, ?_, fun id s found => hm.attached_count found, nodup, below, ?_, ?_⟩
  · intro h i client j s held found present
    obtain ⟨c, held'⟩ := hm.state_attached j s h found present
    rw [held] at held'
    exact (Prod.mk.inj (Option.some.inj held')).1.symm
  · exact fun env id client e failed => attach_device_error failed
  · intro h e failed
    rcases m.detach_device_cases h with ⟨-, same⟩ | ⟨id, client, -, ok⟩
    · rw [same]
    · rw [ok] at failed
      cases failed

def exampleDevice (ref : Nat) (bus address : UInt8) : RusbDevice where
  ref := ref
  busNumber := bus
  address := address
  speed := .high
  deviceDescriptor := fun _ => .ok {
    vendorId := 0x1234
    productId := 0x5678
    classCode := 3
    subClassCode := 0
    protocolCode := 0
    numConfigurations := 1 }

/-- A libusb that never fails and sees the given devices. -/
def exampleEnv (now : Instant) (devices : List RusbDevice) : UsbEnv where
  now := now
  devices := .ok devices
  openDevice := fun _ => .ok ()
  strings := fun _ => none
  errorText := fun _ => "error"
  executeTransfer := fun _ _ => .success [] none
  resetDevice := fun _ => .ok ()

/-- Plug in, attach, unplug, and plug another device into the same place. -/
theorem registry_consistent_replug :
    ∃ tr m, registry.Reach (withSharingConfig [] .default) tr m ∧
      tr = [.device ⟨1⟩, .handle ⟨1⟩, .device ⟨2⟩] ∧ m.RegistryInv := by
  have run : registry.Reach (withSharingConfig [] .default) _ _ :=
    .next (.next (.next (.next .start
      (a := .addDevice (exampleDevice 0 1 1)) trivial rfl)
      (a := .attachDevice (exampleEnv 0 []) ⟨1⟩ "a") trivial rfl)
      (a := .removeDevice 1 1) trivial rfl)
      (a := .addDevice (exampleDevice 1 1 1)) trivial rfl
  exact ⟨_, _, run, rfl, (registry_consistent run).1⟩

end DeviceManager
end P2pUsb
