import P2pUsb.Library.Ledger
import P2pUsb.Network.Steps

/-! The handles that the worker has granted in a run, kept as a ledger over the
attachments of the device manager, and what stays true of a device and of a
handle for as long as the server runs. -/
namespace P2pUsb

/-- A granted handle, by the command that it answers. -/
structure Grant where
  conn : ConnId
  token : Nat
  deviceId : DeviceId
  client : String

/-- What the device manager keeps of a grant. -/
def Grant.view (g : Grant) : DeviceId × String := (g.deviceId, g.client)

def Effect.grant : Effect → Option (DeviceHandle × Grant)
  | .answered conn token (.attachDevice deviceId client) (.attached (.ok handle)) =>
      some (handle, ⟨conn, token, deviceId, client⟩)
  | _ => none

theorem Effect.grant_eq_none {i : ConnId} {token : Nat} {cmd : UsbCommand} {reply : UsbReply}
    (refused : ∀ h, reply ≠ .attached (.ok h)) : (answered i token cmd reply).grant = none := by
  unfold Effect.grant
  split
  case h_1 same => exact absurd (Effect.answered.inj same).2.2.2 (refused _)
  case h_2 => rfl

def grants (tr : List Effect) : List (DeviceHandle × Grant) := tr.filterMap Effect.grant

/-- The handle was granted on this connection, for this device. -/
def Granted (tr : List Effect) (i : ConnId) (h : DeviceHandle) (id : DeviceId) : Prop :=
  ∃ g, (h, g) ∈ grants tr ∧ g.conn = i ∧ g.deviceId = id

theorem grants_append (tr out : List Effect) : grants (tr ++ out) = grants tr ++ grants out :=
  List.filterMap_append

theorem mem_grants {tr : List Effect} {h : DeviceHandle} {g : Grant} : (h, g) ∈ grants tr ↔
    Effect.answered g.conn g.token (.attachDevice g.deviceId g.client) (.attached (.ok h)) ∈
      tr := by
  unfold grants
  rw [List.mem_filterMap]
  constructor
  · rintro ⟨e, mem, shown⟩
    unfold Effect.grant at shown
    split at shown
    · obtain ⟨rfl, rfl⟩ := Prod.mk.inj (Option.some.inj shown)
      exact mem
    · cases shown
  · exact fun mem => ⟨_, mem, rfl⟩

theorem Granted.mono {tr : List Effect} {i : ConnId} {h : DeviceHandle} {id : DeviceId}
    (granted : Granted tr i h id) (out : List Effect) : Granted (tr ++ out) i h id := by
  obtain ⟨g, mem, conn, device⟩ := granted
  refine ⟨g, ?_, conn, device⟩
  rw [grants_append]
  exact List.mem_append_left _ mem

theorem grants_connection (i : ConnId) (effects : List ConnectionEffect) :
    grants (effects.map (.connection i)) = [] := by
  unfold grants
  rw [List.filterMap_eq_nil_iff]
  intro e mem
  obtain ⟨effect, -, rfl⟩ := List.mem_map.mp mem
  rfl

theorem executions_cases (m : DeviceManager) (q : QueuedCommand) :
    Server.executions m q = [] ∨ ∃ h request device, q.cmd = .submitTransfer h request ∧
      m.getDeviceByHandle h = some device ∧ device.handle.isSome = true ∧
      Server.executions m q = [.executed q.conn h device request.transfer] := by
  unfold Server.executions
  split
  case h_1 h request submit =>
    cases target : m.openDevice h with
    | none => exact .inl rfl
    | some device =>
        obtain ⟨reached, opened⟩ := DeviceManager.open_device_some.mp target
        exact .inr ⟨h, request, device, submit, reached, opened, rfl⟩
  case h_2 => exact .inl rfl

theorem executed_of_mem {m : DeviceManager} {q : QueuedCommand} {e : Effect}
    (mem : e ∈ Server.executions m q) :
    ∃ h device transfer, e = .executed q.conn h device transfer := by
  rcases executions_cases m q with none | ⟨h, request, device, -, -, -, one⟩
  · rw [none] at mem
    exact absurd mem List.not_mem_nil
  · rw [one] at mem
    exact ⟨h, device, request.transfer, List.mem_singleton.mp mem⟩

theorem grants_executions (m : DeviceManager) (q : QueuedCommand) :
    grants (Server.executions m q) = [] := by
  unfold grants
  rw [List.filterMap_eq_nil_iff]
  intro e mem
  obtain ⟨h, device, transfer, rfl⟩ := executed_of_mem mem
  rfl

/-- The grants of a run as the ledger that the attachments are the live part of. -/
def ledger (tr : List Effect) (m : DeviceManager) :
    Ledger DeviceHandle Grant (DeviceId × String) :=
  ⟨grants tr, m.attached.lookup⟩

theorem ledger_revoke {tr out : List Effect} {m m' : DeviceManager} (none : grants out = [])
    (shrinks : m.Shrinks m') :
    Ledger.Step Grant.view (ledger tr m) (ledger (tr ++ out) m') := by
  have same : ledger (tr ++ out) m' = ⟨(ledger tr m).issued, m'.attached.lookup⟩ := by
    unfold ledger
    rw [grants_append, none, List.append_nil]
  rw [same]
  exact .revoke _ _ shrinks

namespace DeviceManager
variable {m m' : DeviceManager}

/-- Whatever is registered under this identifier, now or later, is such a device. -/
def Known (m : DeviceManager) (id : DeviceId) (P : UsbDevice → Prop) : Prop :=
  id.val < m.nextDeviceId ∧ ∀ key d, m.devices.lookup key = some d → d.id = id → P d

theorem Known.update {id : DeviceId} {P : UsbDevice → Prop} (known : m.Known id P)
    (stable : ∀ d e : UsbDevice, d.SameDevice e → P d → P e) (step : m.Update m') :
    m'.Known id P := by
  refine ⟨lt_of_lt_of_le known.1 step.counters.1, ?_⟩
  rintro key d found rfl
  rcases step.device_origin found with ⟨d₀, there, same⟩ | new
  · exact stable d₀ d same (known.2 key d₀ there same.2.1)
  · have below := known.1
    rw [new] at below
    exact absurd below (lt_irrefl _)

/-- The device information is of the one device that ever has this identifier. -/
def InfoOk (m : DeviceManager) (info : DeviceInfo) : Prop :=
  m.Known info.id fun d => d.Describes info

theorem InfoOk.update {info : DeviceInfo} (ok : m.InfoOk info) (step : m.Update m') :
    m'.InfoOk info :=
  Known.update ok (fun _ _ same => same.describes) step

theorem RegistryInv.list_devices_ok (hm : m.RegistryInv) (env : UsbEnv) :
    ∀ info ∈ m.listDevices env, m.InfoOk info := by
  intro info listed
  obtain ⟨⟨key, d⟩, mem, rfl⟩ := List.mem_map.mp listed
  have there : m.devices.lookup key = some d := AList.lookup_eq_some.mpr mem
  have registered := hm.device_key key d there
  refine ⟨hm.ids_below d.id (AList.mem_of_lookup registered), ?_⟩
  intro key' d' there' same
  obtain rfl : key' = key := by
    by_contra other
    exact hm.other_id registered there' other same
  rw [there] at there'
  obtain rfl := Option.some.inj there'
  exact d.device_info_describes env

/-- The handle is not attached and never will be again. -/
def Dead (m : DeviceManager) (h : DeviceHandle) : Prop :=
  h ∉ m.attached ∧ h.val < m.nextHandleId

theorem Dead.update {h : DeviceHandle} (dead : m.Dead h) (step : m.Update m') : m'.Dead h := by
  refine ⟨fun present => ?_, lt_of_lt_of_le dead.2 step.counters.2⟩
  obtain ⟨entry, held⟩ := AList.mem_iff.mp present
  rcases step.attached_origin held with before | rfl
  · exact dead.1 (AList.mem_of_lookup before)
  · exact lt_irrefl _ dead.2

end DeviceManager

/-- The grants and the attachments of a run agree. -/
structure Ledgered (tr : List Effect) (s : Server) : Prop where
  registry : s.manager.RegistryInv
  valid : (ledger tr s.manager).Valid Grant.view
  below : ∀ h g, (h, g) ∈ grants tr → h.val < s.manager.nextHandleId

namespace Ledgered
variable {engine : PolicyEngine} {tr out : List Effect} {s t : Server} {a : Action}

theorem new (filters : List String) (config : SharingConfig) (devices : List RusbDevice)
    (clock : ClockReading) : Ledgered [] (Server.new filters config devices clock) := by
  obtain ⟨registry, states⟩ := UsbWorkerThread.enumerate_devices_new devices
    (DeviceManager.RegistryInv.new filters config) fun id s wrong => (nomatch wrong)
  refine ⟨registry, ⟨fun h g g' wrong => absurd wrong List.not_mem_nil, ?_⟩, ?_⟩
  · -- a new sharing state has no clients, so nothing is attached yet
    rintro h ⟨id, client⟩ held
    obtain ⟨state, found, present⟩ := registry.attached_state h id client held
    obtain ⟨_, _, _, _, rfl⟩ := states id state found
    exact absurd present (AList.notMem_empty h)
  · exact fun h g wrong => absurd wrong List.not_mem_nil

/-- A step that grants nothing. -/
theorem quiet (hs : Ledgered tr s) (none : grants out = []) (update : s.manager.Update t.manager)
    (shrinks : s.manager.Shrinks t.manager) : Ledgered (tr ++ out) t := by
  refine ⟨hs.registry.update update, hs.valid.step (ledger_revoke none shrinks), ?_⟩
  intro h g mem
  rw [grants_append, none, List.append_nil] at mem
  exact lt_of_lt_of_le (hs.below h g mem) update.counters.2

theorem next (hs : Ledgered tr s) (step : Transition engine s a t out) :
    Ledgered (tr ++ out) t := by
  cases step with
  | monitor | connect | enqueue | emit => exact hs.quiet rfl .refl (.refl _)
  | handler i action c c' effects => exact hs.quiet (grants_connection i effects) .refl (.refl _)
  | worker a manager worker update shrinks => exact hs.quiet rfl update shrinks
  | fire env ready event manager todo at' fired =>
      have update := s.manager.process_ready_event_update { env with now := s.clock.instant } ready
      have shrinks := s.manager.process_ready_event_shrinks { env with now := s.clock.instant }
        ready
      rw [fired] at update shrinks
      exact hs.quiet rfl update shrinks
  | command env q rest head =>
      generalize ({ env with now := s.clock.instant } : UsbEnv) = env
      have update := s.manager.handle_command_update env q.cmd
      rcases s.manager.handle_command_attached env q.cmd with
        ⟨id, client, attach, granted, attached, counter⟩ | ⟨refused, shrinks⟩
      · have one : grants (.answered q.conn q.token q.cmd
          (s.manager.handleCommandInner env q.cmd).1 ::
            Server.executions s.manager q) =
              [(⟨s.manager.nextHandleId⟩, ⟨q.conn, q.token, id, client⟩)] := by
          rw [granted, attach]
          exact congrArg (_ :: ·) (grants_executions s.manager q)
        have fresh : ∀ g, ((⟨s.manager.nextHandleId⟩ : DeviceHandle), g) ∉ grants tr :=
          fun g mem => lt_irrefl _ (hs.below _ g mem)
        refine ⟨hs.registry.update update, ?_, ?_⟩
        · have issue := hs.valid.step (Ledger.Step.issue (ledger tr s.manager)
            ⟨s.manager.nextHandleId⟩ ⟨q.conn, q.token, id, client⟩ fresh)
          have live : (s.manager.handleCommandInner env q.cmd).2.attached.lookup =
              Function.update s.manager.attached.lookup ⟨s.manager.nextHandleId⟩
                (some (id, client)) := by
            funext h
            rw [attached, AList.lookup_insert_eq, Function.update_apply]
          unfold ledger
          rw [grants_append, one, live]
          exact issue
        · intro h g mem
          rw [grants_append, one] at mem
          show h.val < (s.manager.handleCommandInner env q.cmd).2.nextHandleId
          rw [counter]
          rcases List.mem_append.mp mem with old | new
          · exact Nat.lt_succ_of_lt (hs.below h g old)
          · obtain ⟨rfl, -⟩ := Prod.mk.inj (List.mem_singleton.mp new)
            exact Nat.lt_succ_self _
      · refine hs.quiet ?_ update shrinks
        unfold grants
        rw [List.filterMap_cons, Effect.grant_eq_none refused]
        exact grants_executions s.manager q

/-- A handle is granted once: on one connection and for one device. -/
theorem granted_unique (hs : Ledgered tr s) {h : DeviceHandle} {i j : ConnId} {id id' : DeviceId}
    (one : Granted tr i h id) (other : Granted tr j h id') : i = j ∧ id = id' := by
  obtain ⟨g, mem, rfl, rfl⟩ := one
  obtain ⟨g', mem', rfl, rfl⟩ := other
  obtain rfl := hs.valid.functional h g g' mem mem'
  exact ⟨rfl, rfl⟩

theorem attached_granted (hs : Ledgered tr s) {h : DeviceHandle} {i : ConnId} {id id' : DeviceId}
    {client : String} (granted : Granted tr i h id)
    (held : s.manager.attached.lookup h = some (id', client)) : id' = id := by
  obtain ⟨g, mem, -, rfl⟩ := granted
  exact (Prod.mk.inj (hs.valid.live_view mem held)).1

end Ledgered
end P2pUsb
