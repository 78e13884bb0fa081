import P2pUsb.Network.Handles

/-! Where one client can reach another's attachment: by a detach request, which
names any handle, and by a transfer, which no lock stops. Each property holds of
a run exactly as long as every step of it keeps to a condition of its own. -/
namespace P2pUsb

/-- The manager lets the handle use its device so under the locks now held. -/
def DeviceSharingState.Permits (s : DeviceSharingState) (h : DeviceHandle) (t : TransferType) :
    Prop :=
  match s.mode with
  | .exclusive => True
  | .shared => s.exclusiveLockHolder = none ∨ s.exclusiveLockHolder = some h
  | .readOnly => t.isIn = true ∨ s.writeLockHolder = some h

namespace DeviceManager
variable {m : DeviceManager}

theorem detach_device_free (m : DeviceManager) (h : DeviceHandle) :
    (m.detachDevice h).2.attached.lookup h = none := by
  simp only [detachDevice]
  split
  case h_1 free => exact free
  split
  · exact AList.lookup_erase h m.attached
  · split <;> exact AList.lookup_erase h m.attached

theorem RegistryInv.attached_device (hm : m.RegistryInv) {h : DeviceHandle} {id : DeviceId}
    {client : String} (held : m.attached.lookup h = some (id, client)) :
    ∃ device, m.getDeviceByHandle h = some device ∧ device.id = id ∧
      device.handle.isSome = true := by
  obtain ⟨key, registered⟩ := AList.mem_iff.mp (hm.attached_registered held)
  obtain ⟨device, there, rfl⟩ := hm.id_device id key registered
  refine ⟨device, ?_, rfl, (hm.open_iff key device there).mpr ⟨h, client, held⟩⟩
  rw [get_device_by_handle_some held, getDeviceById, registered, Option.bind_some, there]

/-- A handle that reaches a device is attached to it. -/
theorem RegistryInv.attached_of_device (hm : m.RegistryInv) {h : DeviceHandle} {device : UsbDevice}
    (reached : m.getDeviceByHandle h = some device) :
    ∃ client, m.attached.lookup h = some (device.id, client) := by
  obtain ⟨⟨id, client⟩, held, found⟩ := Option.bind_eq_some_iff.mp reached
  obtain rfl := hm.device_of_id found
  exact ⟨client, held⟩

end DeviceManager

namespace Server
variable {engine : PolicyEngine}

/-- The worker takes a request of this client to detach the handle. -/
def TakesDetach (s : Server) (action : Action) (client : EndpointId) (h : DeviceHandle) : Prop :=
  ∃ env q rest c, action = .command env ∧ s.commands = q :: rest ∧ q.cmd = .detachDevice h ∧
    s.conns.lookup q.conn = some c ∧ c.endpointId = client ∧
    c.phase = .awaiting q.token (.detach h) none

/-- No client's request ends the attachment of another client. -/
def DetachAuthority (s : Server) (action : Action) (t : Server) : Prop :=
  ∀ client h, s.TakesDetach action client h →
    ∀ id owner, s.manager.attached.lookup h = some (id, owner) → owner ≠ client.text →
      t.manager.attached.lookup h = some (id, owner) ∧
        t.manager.accessTracker.getState id = s.manager.accessTracker.getState id

/-- The handle of the request is attached for its client, or not at all. -/
def DetachOwn (s : Server) (action : Action) : Prop :=
  ∀ client h, s.TakesDetach action client h →
    ∀ id owner, s.manager.attached.lookup h = some (id, owner) → owner = client.text

theorem detach_authority_iff_own (filters : List String) (config : SharingConfig)
    (devices : List RusbDevice) (clock : ClockReading) (as : List Action) :
    (server engine).EveryStep (fun s a t _ => DetachAuthority s a t)
        (new filters config devices clock) as ↔
      (server engine).EveryStep (fun s a _ _ => DetachOwn s a)
        (new filters config devices clock) as := by
  refine Machine.everyStep_congr (I := fun _ => True) ?_ (fun _ _ _ _ _ _ _ => trivial) trivial as
  intro s a t out _ step
  have step : s.step engine a = some (t, out) := step
  constructor
  · intro kept client h takes id owner held
    by_contra other
    obtain ⟨after, -⟩ := kept client h takes id owner held other
    obtain ⟨env, q, rest, c, rfl, head, detach, -⟩ := takes
    obtain ⟨manager, -⟩ := command_step head step
    rw [manager, detach] at after
    have free := s.manager.detach_device_free h
    exact Option.some_ne_none _ (after.symm.trans free)
  · intro own client h takes id owner held other
    exact absurd (own client h takes id owner held) other

/-- Client "b" detaches the handle of client "a". -/
theorem stranger_detaches : ∃ (before : List Action) (s : Server) (tr : List Effect),
    (server ⟨[], 0⟩).run (oneDevice .exclusive) before = some (s, tr) ∧
      s.TakesDetach (.command (DeviceManager.exampleEnv 0 [])) ⟨"b"⟩ ⟨1⟩ ∧
      s.manager.attached.lookup ⟨1⟩ = some (⟨1⟩, "a") ∧
      ¬ (server ⟨[], 0⟩).EveryStep (fun s a t _ => DetachAuthority s a t) (oneDevice .exclusive)
        (before ++ [.command (DeviceManager.exampleEnv 0 [])]) := by
  refine ⟨attachRun 0 "a" ++ .connect 1 ⟨"b"⟩ :: requestRun 1 (.detachDeviceRequest ⟨1⟩), _, _, rfl,
    ⟨_, _, _, _, rfl, rfl, rfl, rfl, rfl, rfl⟩, rfl, fun every => ?_⟩
  obtain ⟨kept, -⟩ := every.after rfl _ _ rfl
  obtain ⟨wrong, -⟩ := kept ⟨"b"⟩ ⟨1⟩ ⟨_, _, _, _, rfl, rfl, rfl, rfl, rfl, rfl⟩ ⟨1⟩ "a" rfl
    (by decide)
  cases wrong

/-- A transfer is executed only when the locks permit it, and otherwise answered
with an error. -/
structure LocksProtect (s : Server) (out : List Effect) : Prop where
  executed : ∀ i h device transfer, .executed i h device transfer ∈ out →
    ∃ state, s.manager.accessTracker.getState device.id = some state ∧ state.Permits h transfer
  refused : ∀ i token h request reply,
    .answered i token (.submitTransfer h request) reply ∈ out →
    (∀ device, .executed i h device request.transfer ∉ out) →
    ∃ e, reply = .transferred ⟨request.id, .error e⟩

/-- The transfer that the worker takes is one that the locks permit. -/
def TransferPermitted (s : Server) (action : Action) : Prop :=
  ∀ env q rest h request, action = .command env → s.commands = q :: rest →
    q.cmd = .submitTransfer h request →
    ∀ id client state, s.manager.attached.lookup h = some (id, client) →
      s.manager.accessTracker.getState id = some state → state.Permits h request.transfer

/-- Only the worker answers commands and executes transfers. -/
theorem worker_output {s t : Server} {a : Action} {out : List Effect}
    (step : Transition engine s a t out) :
    (∃ env q rest, a = .command env ∧ s.commands = q :: rest ∧
      out = .answered q.conn q.token q.cmd
        (s.manager.handleCommandInner { env with now := s.clock.instant } q.cmd).1 ::
          executions s.manager q) ∨
    ∀ e ∈ out, ∃ i effect, e = .connection i effect := by
  cases step with
  | monitor | connect | enqueue | worker | fire | emit =>
      exact .inr fun e wrong => absurd wrong List.not_mem_nil
  | handler i action c c' effects =>
      refine .inr fun e mem => ?_
      obtain ⟨effect, -, rfl⟩ := List.mem_map.mp mem
      exact ⟨i, effect, rfl⟩
  | command env q rest head => exact .inl ⟨env, q, rest, rfl, head, rfl⟩

theorem transfer_permitted_protects {s t : Server} {a : Action} {out : List Effect}
    (hm : s.manager.RegistryInv) (step : Transition engine s a t out)
    (permitted : s.TransferPermitted a) : s.LocksProtect out := by
  rcases worker_output step with ⟨env, q, rest, rfl, head, rfl⟩ | quiet
  case inr =>
    constructor
    · intro i h device transfer mem
      obtain ⟨_, _, wrong⟩ := quiet _ mem
      cases wrong
    · intro i token h request reply mem
      obtain ⟨_, _, wrong⟩ := quiet _ mem
      cases wrong
  constructor
  · intro i h device transfer mem
    rcases List.mem_cons.mp mem with wrong | mem
    · cases wrong
    rcases executions_cases s.manager q with none | ⟨h', request, d, submit, reached, -, one⟩
    · rw [none] at mem
      exact absurd mem List.not_mem_nil
    · rw [one] at mem
      obtain ⟨rfl, rfl, rfl, rfl⟩ := Effect.executed.inj (List.mem_singleton.mp mem)
      obtain ⟨client, held⟩ := hm.attached_of_device reached
      obtain ⟨state, found, -⟩ := hm.attached_state h device.id client held
      exact ⟨state, found, permitted env q rest h request rfl head submit _ client state held found⟩
  · intro i token h request reply mem idle
    rcases List.mem_cons.mp mem with here | wrong
    · obtain ⟨rfl, rfl, submit, rfl⟩ := Effect.answered.inj here
      have executes := idle
      rw [← submit]
      have unreached : s.manager.transferTarget h = none := by
        rcases executions_cases s.manager q with none | ⟨h', request', d, submit', -, -, one⟩
        · have silent := none
          unfold executions at silent
          rw [← submit] at silent
          dsimp only at silent
          rw [List.map_eq_nil_iff, Option.toList_eq_nil_iff] at silent
          rw [DeviceManager.transferTarget, silent, Option.bind_none]
        · rw [← submit] at submit'
          obtain ⟨rfl, rfl⟩ := UsbCommand.submitTransfer.inj submit'
          rw [one] at executes
          exact absurd (List.mem_cons_of_mem _ List.mem_cons_self) (executes d)
      exact ⟨.notFound, by simp only [DeviceManager.handleCommandInner,
        DeviceManager.submitTransfer, unreached]⟩
    · obtain ⟨_, _, _, wrong⟩ := executed_of_mem wrong
      cases wrong

theorem protected_transfer_permitted {s t : Server} {a : Action} {out : List Effect}
    (hm : s.manager.RegistryInv) (step : s.step engine a = some (t, out))
    (protects : s.LocksProtect out) : s.TransferPermitted a := by
  rintro env q rest h request rfl head submit id client state held found
  obtain ⟨-, rfl⟩ := command_step head step
  obtain ⟨device, reached, rfl, opened⟩ := hm.attached_device held
  have one : executions s.manager q = [.executed q.conn h device request.transfer] := by
    unfold executions
    rw [submit]
    dsimp only
    rw [DeviceManager.open_device_some.mpr ⟨reached, opened⟩]
    rfl
  obtain ⟨state', found', permits⟩ := protects.executed q.conn h device request.transfer
    (by rw [one]; exact List.mem_cons_of_mem _ List.mem_cons_self)
  rw [found] at found'
  obtain rfl := Option.some.inj found'
  exact permits

theorem locks_protect_iff_permitted (filters : List String) (config : SharingConfig)
    (devices : List RusbDevice) (clock : ClockReading) (as : List Action) :
    (server engine).EveryStep (fun s _ _ out => LocksProtect s out)
        (new filters config devices clock) as ↔
      (server engine).EveryStep (fun s a _ _ => TransferPermitted s a)
        (new filters config devices clock) as := by
  refine Machine.everyStep_congr (I := fun s => s.manager.RegistryInv) ?_ ?_
    (Ledgered.new filters config devices clock).registry as
  · intro s a t out hm step
    have step : s.step engine a = some (t, out) := step
    exact ⟨protected_transfer_permitted hm step, transfer_permitted_protects hm (step_cases step)⟩
  · exact fun s a t out hm step _ => hm.update (step_cases step).update

def exampleWrite : UsbRequest where
  id := ⟨1⟩
  handle := ⟨2⟩
  transfer := .bulk 0x01 [0xff] 1000 none

/-- Client "a" holds the exclusive lock and the write of client "b" is executed. -/
theorem locked_out_write_executed : ∃ (before : List Action) (s : Server) (tr : List Effect)
    (state : DeviceSharingState),
    (server ⟨[], 0⟩).run (oneDevice .shared) before = some (s, tr) ∧
      s.manager.accessTracker.getState ⟨1⟩ = some state ∧
      state.exclusiveLockHolder = some ⟨1⟩ ∧ ¬ state.Permits ⟨2⟩ exampleWrite.transfer ∧
      ¬ (server ⟨[], 0⟩).EveryStep (fun s _ _ out => LocksProtect s out) (oneDevice .shared)
        (before ++ [.command (DeviceManager.exampleEnv 0 [])]) := by
  refine ⟨attachRun 0 "a" ++ attachRun 1 "b" ++ requestRun 0 (.lockDeviceRequest ⟨1⟩ true 0) ++
      serve ++ [.connection 0 .resume, .connection 1 .accept,
        .connection 1 (.message (.submitTransfer exampleWrite)), .connection 1 .release,
        .connection 1 .enqueue], _, _, _, rfl, rfl, rfl, ?_, fun every => ?_⟩
  · rintro (wrong | wrong) <;> cases wrong
  · obtain ⟨protects, -⟩ := every.after rfl _ _ rfl
    obtain ⟨state, found, permits⟩ := protects.executed 1 ⟨2⟩ _ exampleWrite.transfer
      (List.mem_cons_of_mem _ List.mem_cons_self)
    obtain rfl := Option.some.inj found
    rcases permits with wrong | wrong <;> cases wrong

end Server
end P2pUsb
