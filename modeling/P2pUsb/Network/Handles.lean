import P2pUsb.Network.Authority

/-! What a handle is good for: commands on it come from the connection that it
was granted on, act on the device that it was granted for, and it was granted
only because the policy allowed it. -/
namespace P2pUsb

/-- The handle that a transfer or a lock command is for. -/
def UsbCommand.usedHandle : UsbCommand → Option DeviceHandle
  | .submitTransfer h _ | .lockDevice h _ | .unlockDevice h => some h
  | _ => none

/-- The answer to such a command on a handle that is not attached. -/
def UsbCommand.Refusal : UsbCommand → UsbReply → Prop
  | .submitTransfer _ request, reply => reply = .transferred ⟨request.id, .error .notFound⟩
  | .lockDevice _ _, reply => reply = .locked (.notAvailable "Handle not found")
  | .unlockDevice _, reply => reply = .unlocked (.error "Handle not found")
  | _, _ => False

/-- The command acts on one device only: transfers reach it, and no other
device's sharing state changes. -/
structure ActsOn (id : DeviceId) (q : QueuedCommand) (h : DeviceHandle) (m m' : DeviceManager)
    (out : List Effect) : Prop where
  transfers : ∀ i j device transfer, .executed i j device transfer ∈ out →
    i = q.conn ∧ j = h ∧ device.id = id ∧ m.getDeviceById id = some device
  states : ∀ j, j ≠ id → m'.accessTracker.getState j = m.accessTracker.getState j
  registry : m' = { m with accessTracker := m'.accessTracker }

/-- The command is refused and changes nothing. -/
structure Refused (q : QueuedCommand) (m m' : DeviceManager) (out : List Effect) : Prop where
  unchanged : m' = m
  answer : ∃ reply, q.cmd.Refusal reply ∧ out = [.answered q.conn q.token q.cmd reply]

namespace DeviceManager
variable {m : DeviceManager} {h : DeviceHandle} {id : DeviceId} {client : String}

theorem get_device_by_handle_none (free : m.attached.lookup h = none) :
    m.getDeviceByHandle h = none := by
  unfold getDeviceByHandle
  rw [free]
  rfl

theorem get_device_by_handle_some (held : m.attached.lookup h = some (id, client)) :
    m.getDeviceByHandle h = m.getDeviceById id := by
  unfold getDeviceByHandle
  rw [held]
  rfl

theorem RegistryInv.device_of_id (hm : m.RegistryInv) {d : UsbDevice}
    (found : m.getDeviceById id = some d) : d.id = id := by
  obtain ⟨key, registered, there⟩ := Option.bind_eq_some_iff.mp found
  exact hm.tracked_id registered there

theorem acquire_lock_registry (m : DeviceManager) (now : Instant) (h : DeviceHandle) (w : Bool) :
    (m.acquireLock now h w).2 =
      { m with accessTracker := (m.acquireLock now h w).2.accessTracker } := by
  unfold acquireLock
  split
  · rfl
  · split <;> rfl

theorem release_lock_registry (m : DeviceManager) (h : DeviceHandle) :
    (m.releaseLock h).2 = { m with accessTracker := (m.releaseLock h).2.accessTracker } := by
  unfold releaseLock
  split
  · rfl
  · split <;> rfl

/-- Where the handle is not attached, a change that only concerns its clients is
none. -/
theorem RegistryInv.elsewhere (hm : m.RegistryInv)
    (held : m.attached.lookup h = some (id, client))
    {f : DeviceSharingState → DeviceSharingState} (idle : ∀ s, h ∉ s.attachedClients → f s = s)
    {j : DeviceId} (other : j ≠ id) :
    (m.accessTracker.getState j).map f = m.accessTracker.getState j := by
  cases found : m.accessTracker.getState j with
  | none => rfl
  | some s =>
      rw [Option.map_some, idle s]
      intro present
      obtain ⟨c, held'⟩ := hm.state_attached j s h found present
      rw [held] at held'
      exact other (Prod.mk.inj (Option.some.inj held')).1.symm

end DeviceManager

/-- What a transfer or lock command does, by whether its handle is attached. -/
theorem DeviceManager.RegistryInv.used_handle {m : DeviceManager} (hm : m.RegistryInv)
    (env : UsbEnv) {q : QueuedCommand} {h : DeviceHandle} (uses : q.cmd.usedHandle = some h) :
    (∀ id client, m.attached.lookup h = some (id, client) →
      ActsOn id q h m (m.handleCommandInner env q.cmd).2
        (.answered q.conn q.token q.cmd (m.handleCommandInner env q.cmd).1 ::
          Server.executions m q)) ∧
    (m.attached.lookup h = none →
      Refused q m (m.handleCommandInner env q.cmd).2
        (.answered q.conn q.token q.cmd (m.handleCommandInner env q.cmd).1 ::
          Server.executions m q)) := by
  obtain ⟨conn, token, cmd⟩ := q
  have quiet : ∀ {i j : ConnId} {k : DeviceHandle} {token : Nat} {cmd : UsbCommand}
      {reply : UsbReply} {d : UsbDevice} {transfer : TransferType},
      Effect.executed i k d transfer ∉ [Effect.answered j token cmd reply] := by
    intro i j k token cmd reply d transfer wrong
    cases List.mem_singleton.mp wrong
  cases cmd with
  | submitTransfer h' request =>
      obtain rfl := Option.some.inj uses
      constructor
      · intro id client held
        refine ⟨fun i j device transfer mem => ?_, fun _ _ => rfl, rfl⟩
        rcases List.mem_cons.mp mem with wrong | mem
        · cases wrong
        rcases executions_cases m ⟨conn, token, .submitTransfer h' request⟩ with
          none | ⟨h, r, d, same, reached, -, one⟩
        · rw [none] at mem
          exact absurd mem List.not_mem_nil
        · rw [one] at mem
          obtain ⟨rfl, rfl, rfl, rfl⟩ := Effect.executed.inj (List.mem_singleton.mp mem)
          obtain ⟨rfl, rfl⟩ := UsbCommand.submitTransfer.inj same
          rw [DeviceManager.get_device_by_handle_some held] at reached
          exact ⟨rfl, rfl, hm.device_of_id reached, reached⟩
      · intro free
        have unreached := DeviceManager.open_device_none
          (DeviceManager.get_device_by_handle_none free)
        refine ⟨rfl, _, rfl, ?_⟩
        simp only [DeviceManager.handleCommandInner, DeviceManager.submitTransfer,
          DeviceManager.transferTarget, Server.executions, unreached, Option.bind_none,
          Option.toList_none, List.map_nil]
  | lockDevice h' w =>
      obtain rfl := Option.some.inj uses
      constructor
      · intro id client held
        refine ⟨fun i j device transfer mem => absurd mem quiet, fun j other => ?_,
          m.acquire_lock_registry env.now h' w⟩
        refine (hm.acquire_lock_states env.now h' w j).trans (hm.elsewhere held ?_ other)
        intro s absent
        simp only [DeviceSharingState.acquireLock, AList.lookup_eq_none.mpr absent]
      · intro free
        have unknown : m.lockTarget h' = none := by rw [hm.lock_target, free, Option.map_none]
        refine ⟨?_, _, rfl, ?_⟩ <;>
          simp only [DeviceManager.handleCommandInner, DeviceManager.acquireLock, unknown,
            Prod.map_apply, id_eq, Server.executions]
  | unlockDevice h' =>
      obtain rfl := Option.some.inj uses
      constructor
      · intro id client held
        refine ⟨fun i j device transfer mem => absurd mem quiet, fun j other => ?_,
          m.release_lock_registry h'⟩
        refine (hm.release_lock_states h' j).trans (hm.elsewhere held ?_ other)
        intro s absent
        simp only [DeviceSharingState.releaseLock, if_pos absent]
      · intro free
        have unknown : m.lockTarget h' = none := by rw [hm.lock_target, free, Option.map_none]
        refine ⟨?_, _, rfl, ?_⟩ <;>
          simp only [DeviceManager.handleCommandInner, DeviceManager.releaseLock, unknown,
            Prod.map_apply, id_eq, Server.executions]
  | listDevices | attachDevice | detachDevice | resetDevice | getSharingStatus => cases uses

namespace Server
variable {engine : PolicyEngine} {filters : List String} {config : SharingConfig}
  {devices : List RusbDevice} {clock : ClockReading} {tr out : List Effect} {s t : Server}

theorem command_step_eq {env : UsbEnv} (step : s.step engine (.command env) = some (t, out)) :
    s.commandStep env = (t, out) := by
  simp only [Server.step, workerStep] at step
  split at step
  case h_1 here =>
    cases here
    exact Option.some.inj step
  case h_6 => cases step
  case h_2 wrong | h_3 wrong | h_4 wrong | h_5 wrong => cases wrong

/-- The worker takes the first command of the channel. -/
theorem command_step {env : UsbEnv} {q : QueuedCommand} {rest : List QueuedCommand}
    (head : s.commands = q :: rest) (step : s.step engine (.command env) = some (t, out)) :
    t.manager = (s.manager.handleCommandInner { env with now := s.clock.instant } q.cmd).2 ∧
      out = .answered q.conn q.token q.cmd
        (s.manager.handleCommandInner { env with now := s.clock.instant } q.cmd).1 ::
          executions s.manager q := by
  have taken := command_step_eq step
  simp only [commandStep, head] at taken
  obtain ⟨rfl, rfl⟩ := Prod.mk.inj taken
  exact ⟨rfl, rfl⟩

/-- Its reply goes to the connection that sent it. -/
theorem command_delivers {env : UsbEnv} {q : QueuedCommand} {rest : List QueuedCommand}
    (head : s.commands = q :: rest) (step : s.step engine (.command env) = some (t, out)) :
    t.conns = s.deliver q
      (s.manager.handleCommandInner { env with now := s.clock.instant } q.cmd).1 := by
  have taken := command_step_eq step
  simp only [commandStep, head] at taken
  obtain ⟨rfl, -⟩ := Prod.mk.inj taken
  rfl

theorem handle_authority (run : (server engine).Reach (new filters config devices clock) tr s)
    {env : UsbEnv} {q : QueuedCommand} {rest : List QueuedCommand} {h : DeviceHandle}
    (head : s.commands = q :: rest) (uses : q.cmd.usedHandle = some h)
    (step : s.step engine (.command env) = some (t, out)) :
    ∃ id, Granted tr q.conn h id ∧
      (∀ i id', Granted tr i h id' → i = q.conn ∧ id' = id) ∧
      ((∃ client, s.manager.attached.lookup h = some (id, client)) ∧
          ActsOn id q h s.manager t.manager out ∨
        h ∉ s.manager.attached ∧ Refused q s.manager t.manager out) := by
  have hs := Authority.reach run
  obtain ⟨c, -, queued⟩ := hs.queue q (head ▸ List.mem_cons_self)
  obtain ⟨id, granted⟩ : ∃ id, Granted tr q.conn h id := by
    have ok := queued.ok
    cases cmd : q.cmd with
    | submitTransfer | lockDevice | unlockDevice =>
        rw [cmd] at ok uses
        obtain rfl := Option.some.inj uses
        exact ok
    | listDevices | attachDevice | detachDevice | resetDevice | getSharingStatus =>
        rw [cmd] at uses
        cases uses
  refine ⟨id, granted, fun i id' other => hs.ledgered.granted_unique other granted, ?_⟩
  obtain ⟨manager, rfl⟩ := command_step head step
  obtain ⟨acts, refused⟩ :=
    hs.ledgered.registry.used_handle { env with now := s.clock.instant } uses
  rw [manager]
  cases held : s.manager.attached.lookup h with
  | none => exact .inr ⟨AList.lookup_eq_none.mp held, refused held⟩
  | some entry =>
      obtain ⟨id', client⟩ := entry
      obtain rfl := hs.ledgered.attached_granted granted held
      exact .inl ⟨⟨client, rfl⟩, acts id' client held⟩

/-- One device, no policies, and the channels empty. -/
def oneDevice (mode : SharingMode) : Server :=
  new [] (UsbWorkerThread.exampleConfig mode) [DeviceManager.exampleDevice 0 1 1] ⟨0, 0⟩

/-- The worker answers one command and meets no hotplug event. -/
def serve : List Action := [.command (DeviceManager.exampleEnv 0 []), .collect []]

/-- A connection is made, asks for device 1 and gets it. -/
def attachRun (i : ConnId) (client : String) : List Action :=
  [.connect i ⟨client⟩, .connection i .accept,
    .connection i (.message (.attachDeviceRequest ⟨1⟩)), .connection i .enqueue] ++ serve ++
  [.connection i .resume, .connection i .enqueue] ++ serve ++ [.connection i .resume]

/-- A request of the connection is in the channel. -/
def requestRun (i : ConnId) (payload : MessagePayload) : List Action :=
  [.connection i .accept, .connection i (.message payload), .connection i .enqueue]

theorem handle_authority_lock : ∃ tr s t out id q rest,
    (server ⟨[], 0⟩).Reach (oneDevice .shared) tr s ∧ s.commands = q :: rest ∧
      q.cmd = .lockDevice ⟨1⟩ false ∧
      s.step ⟨[], 0⟩ (.command (DeviceManager.exampleEnv 0 [])) = some (t, out) ∧
      Granted tr q.conn ⟨1⟩ id ∧ id = ⟨1⟩ := by
  have run := Machine.Reach.of_run (rfl : (server ⟨[], 0⟩).run (oneDevice .shared)
    (attachRun 0 "a" ++ requestRun 0 (.lockDeviceRequest ⟨1⟩ false 0)) = some (_, _))
  obtain ⟨id, granted, -⟩ := handle_authority run (h := ⟨1⟩) rfl rfl
    (rfl : Server.step _ _ (.command (DeviceManager.exampleEnv 0 [])) = some (_, _))
  refine ⟨_, _, _, _, id, _, _, run, rfl, rfl, rfl, granted, ?_⟩
  obtain ⟨g, mem, -, rfl⟩ := granted
  obtain rfl := (Prod.mk.inj (List.mem_singleton.mp mem)).2
  rfl

theorem attached_allowed (run : (server engine).Reach (new filters config devices clock) tr s)
    {h : DeviceHandle} {id : DeviceId} {client : String}
    (held : s.manager.attached.lookup h = some (id, client)) :
    ∃ i c token wall info before after key device,
      s.conns.lookup i = some c ∧ client = c.endpointId.text ∧
      tr = before ++ .answered i token (.attachDevice id client) (.attached (.ok h)) :: after ∧
      Effect.connection i (.checked token id wall info .allow) ∈ before ∧
      engine.checkAccess wall c.endpointId info = .allow ∧
      s.manager.devices.lookup key = some device ∧ device.id = id ∧ device.Describes info := by
  have hs := Authority.reach run
  obtain ⟨g, mem, shown⟩ := hs.ledgered.valid.backed h _ held
  obtain ⟨rfl, rfl⟩ := Prod.mk.inj shown
  obtain ⟨⟨before, after, wall, info, trace, checked⟩, c, found, client⟩ := hs.justified h g mem
  have seen : Effect.connection g.conn (.checked g.token g.deviceId wall info .allow) ∈ tr := by
    rw [trace]
    exact List.mem_append_left _ checked
  obtain ⟨c', found', decided, same, ok⟩ := hs.checks _ _ _ _ _ _ seen
  rw [found] at found'
  obtain rfl := Option.some.inj found'
  obtain ⟨key, registered⟩ := AList.mem_iff.mp (hs.ledgered.registry.attached_registered held)
  obtain ⟨device, there, named⟩ := hs.ledgered.registry.id_device _ key registered
  exact ⟨g.conn, c, g.token, wall, info, before, after, key, device, found, client, trace, checked,
    decided.symm, there, named, ok.2 key device there (named.trans same.symm)⟩

/-- The devices of one vendor are for one client. -/
def vendorPolicy : PolicyEngine where
  policies := [{
    deviceFilter := "1234:*"
    allowedClients := ["a"]
    timeWindows := none
    maxSessionDuration := none
    restrictedDeviceClasses := none }]
  timezoneOffsetHours := 0

theorem attached_allowed_attach : ∃ tr s i c wall info key device,
    (server vendorPolicy).Reach (oneDevice .exclusive) tr s ∧
      s.manager.attached.lookup ⟨1⟩ = some (⟨1⟩, "a") ∧
      s.conns.lookup i = some c ∧ "a" = c.endpointId.text ∧
      vendorPolicy.checkAccess wall c.endpointId info = .allow ∧
      s.manager.devices.lookup key = some device ∧ device.Describes info := by
  have run := Machine.Reach.of_run (rfl : (server vendorPolicy).run (oneDevice .exclusive)
    (attachRun 0 "a") = some (_, _))
  obtain ⟨i, c, _, wall, info, _, _, key, device, found, client, -, -, allowed, there, -,
    described⟩ :=
    attached_allowed run (h := ⟨1⟩) (rfl : _ = some ((⟨1⟩, "a") : DeviceId × String))
  exact ⟨_, _, i, c, wall, info, key, device, run, rfl, found, client, allowed, there, described⟩

end Server
end P2pUsb
