import P2pUsb.Network.ConfiguredSharing
import P2pUsb.Network.Isolation

/-! Exclusive devices are used session by session: once a transfer is carried out for one handle,
none is ever carried out again for an earlier handle of the same device. -/
namespace P2pUsb

/-- A transfer on the device, by the connection and the handle that it was submitted for. -/
def Effect.transferOn (id : DeviceId) : Effect → Option (ConnId × DeviceHandle)
  | .executed conn handle device _ => if device.id = id then some (conn, handle) else none
  | _ => none

def transfersOn (id : DeviceId) (tr : List Effect) : List (ConnId × DeviceHandle) :=
  tr.filterMap (Effect.transferOn id)

theorem transfers_append (id : DeviceId) (tr out : List Effect) :
    transfersOn id (tr ++ out) = transfersOn id tr ++ transfersOn id out :=
  List.filterMap_append

theorem transfers_connection (id : DeviceId) (i : ConnId) (effects : List ConnectionEffect) :
    transfersOn id (effects.map (.connection i)) = [] := by
  unfold transfersOn
  rw [List.filterMap_map, List.filterMap_eq_nil_iff]
  exact fun _ _ => rfl

namespace DeviceManager
variable {m : DeviceManager}

/-- An exclusive device has one attachment at most. -/
theorem RegistryInv.exclusive_handle (hm : m.RegistryInv)
    (exclusive : m.sharingConfig.defaultMode = .exclusive) {id : DeviceId} {h k : DeviceHandle}
    {client other : String} (held : m.attached.lookup h = some (id, client))
    (held' : m.attached.lookup k = some (id, other)) : h = k := by
  obtain ⟨s, found, mine⟩ := hm.attached_state h id client held
  obtain ⟨s', found', yours⟩ := hm.attached_state k id other held'
  obtain rfl := Option.some.inj (found.symm.trans found')
  have one := hm.capacity id s found
  rw [if_pos ((hm.configured id s found).1.trans exclusive), AList.size_eq_keys] at one
  by_contra apart
  have both : [h, k].Subperm s.attachedClients.keys := by
    refine List.subperm_of_subset (List.pairwise_pair.mpr apart) fun j mem => ?_
    rcases List.mem_pair.mp mem with rfl | rfl
    · exact AList.mem_keys.mp mine
    · exact AList.mem_keys.mp yours
  exact absurd both.length_le (Nat.not_le.mpr (Nat.lt_succ_of_le one))

end DeviceManager

/-- What is so of the transfers on one device, as far as the run has come. -/
structure InSessions (id : DeviceId) (tr : List Effect) (m : DeviceManager) : Prop where
  ordered : (transfersOn id tr).Pairwise fun a b => a.2.val ≤ b.2.val
  granted : ∀ x ∈ transfersOn id tr, Granted tr x.1 x.2 id
  earlier : ∀ x ∈ transfersOn id tr, ∀ h client,
    m.attached.lookup h = some (id, client) → x.2.val ≤ h.val

namespace InSessions
variable {id : DeviceId} {tr out : List Effect} {m m' : DeviceManager}

/-- Where no transfer is carried out, at most a later handle comes to the attached ones. -/
theorem quiet (hs : InSessions id tr m) (update : m.Update m') (none : transfersOn id out = [])
    (below : ∀ x ∈ transfersOn id tr, x.2.val < m.nextHandleId) :
    InSessions id (tr ++ out) m' := by
  have same : transfersOn id (tr ++ out) = transfersOn id tr := by
    rw [transfers_append, none, List.append_nil]
  refine ⟨same ▸ hs.ordered, ?_, ?_⟩
  · rw [same]
    exact fun x mem => (hs.granted x mem).mono out
  · rw [same]
    intro x mem h client held
    rcases update.attached_origin held with before | rfl
    · exact hs.earlier x mem h client before
    · exact (below x mem).le

/-- A transfer of the one handle that the device is attached by. -/
theorem transfer (hs : InSessions id tr m) {i : ConnId} {h : DeviceHandle} {client : String}
    (one : transfersOn id out = [(i, h)]) (granted : Granted tr i h id)
    (held : m.attached.lookup h = some (id, client))
    (only : ∀ k other, m.attached.lookup k = some (id, other) → k = h) :
    InSessions id (tr ++ out) m where
  ordered := by
    rw [transfers_append, one, List.pairwise_append]
    refine ⟨hs.ordered, List.pairwise_singleton _ _, fun x old y new => ?_⟩
    obtain rfl := List.mem_singleton.mp new
    exact hs.earlier x old h client held
  granted x mem := by
    rw [transfers_append, one] at mem
    rcases List.mem_append.mp mem with old | new
    · exact (hs.granted x old).mono out
    · obtain rfl := List.mem_singleton.mp new
      exact granted.mono out
  earlier x mem k other held' := by
    rw [transfers_append, one] at mem
    rcases List.mem_append.mp mem with old | new
    · exact hs.earlier x old k other held'
    · obtain rfl := List.mem_singleton.mp new
      rw [only k other held']

end InSessions

namespace Server
variable {engine : PolicyEngine} {s t : Server} {tr out : List Effect} {id : DeviceId}

/-- The one transfer that a command can carry out on the device is of an attached handle. -/
theorem executions_on (hm : s.manager.RegistryInv) (q : QueuedCommand) (id : DeviceId) :
    transfersOn id (executions s.manager q) = [] ∨ ∃ h request client,
      q.cmd = .submitTransfer h request ∧ s.manager.attached.lookup h = some (id, client) ∧
      transfersOn id (executions s.manager q) = [(q.conn, h)] := by
  rcases executions_cases s.manager q with none | ⟨h, request, device, submit, reached, -, one⟩
  · rw [none]
    exact .inl rfl
  · rw [one]
    by_cases same : device.id = id
    · obtain ⟨client, held⟩ := hm.attached_of_device reached
      rw [same] at held
      refine .inr ⟨h, request, client, submit, held, ?_⟩
      simp only [transfersOn, List.filterMap_cons, Effect.transferOn, if_pos same,
        List.filterMap_nil]
    · refine .inl ?_
      simp only [transfersOn, List.filterMap_cons, Effect.transferOn, if_neg same,
        List.filterMap_nil]

theorem sessions_next (hs : InSessions id tr s.manager) (authority : Authority engine tr s)
    (exclusive : s.manager.sharingConfig.defaultMode = .exclusive) {a : Action}
    (step : Transition engine s a t out) : InSessions id (tr ++ out) t.manager := by
  have below : ∀ x ∈ transfersOn id tr, x.2.val < s.manager.nextHandleId := by
    intro x mem
    obtain ⟨g, granted, -, -⟩ := hs.granted x mem
    exact authority.ledgered.below x.2 g granted
  have update := step.update
  cases step with
  | monitor | connect | enqueue | emit | worker | fire => exact hs.quiet update rfl below
  | handler i action c c' effects =>
      exact hs.quiet update (transfers_connection id i effects) below
  | command env q rest head =>
      rcases executions_on authority.ledgered.registry q id with
        none | ⟨h, request, client, submit, held, one⟩
      · exact hs.quiet update none below
      · have granted : Granted tr q.conn h id := by
          obtain ⟨c, -, queued⟩ := authority.queue q (head ▸ List.mem_cons_self)
          have ok := queued.ok
          rw [submit] at ok
          obtain ⟨id', granted⟩ := ok
          obtain rfl := authority.ledgered.attached_granted granted held
          exact granted
        have same : (s.manager.handleCommandInner { env with now := s.clock.instant } q.cmd).2 =
            s.manager := by
          rw [submit]
          rfl
        rw [same]
        refine hs.transfer ?_ granted held fun k other held' =>
          authority.ledgered.registry.exclusive_handle exclusive held' held
        exact one

variable {filters : List String} {config : SharingConfig} {devices : List RusbDevice}
  {clock : ClockReading}

theorem in_sessions (run : (server engine).Reach (new filters config devices clock) tr s)
    (exclusive : config.defaultMode = .exclusive) (id : DeviceId) :
    InSessions id tr s.manager := by
  refine run.invariantAlong (I := fun tr s => InSessions id tr s.manager) ?_ ?_
  · exact ⟨.nil, List.forall_mem_nil _, List.forall_mem_nil _⟩
  · intro tr s a t out before hs _ step
    refine sessions_next hs (Authority.reach before) ?_ (step_cases step)
    rw [(run_shared before).2.configured, exclusive]

/-- The transfers on a device that is not shared are carried out session by session, and each
session's are of the one connection that the handle was granted to. -/
theorem exclusive_sessions_apart
    (run : (server engine).Reach (new filters config devices clock) tr s)
    (exclusive : config.defaultMode = .exclusive) (id : DeviceId) :
    ((transfersOn id tr).Pairwise fun a b => a.2.val ≤ b.2.val ∧ (a.2 = b.2 → a.1 = b.1)) ∧
      ∀ x ∈ transfersOn id tr, Granted tr x.1 x.2 id := by
  have hs := in_sessions run exclusive id
  have ledgered := (Authority.reach run).ledgered
  refine ⟨hs.ordered.imp_of_mem ?_, hs.granted⟩
  intro a b old new order
  refine ⟨order, fun same => ?_⟩
  have granted := hs.granted a old
  rw [same] at granted
  exact (ledgered.granted_unique granted (hs.granted b new)).1

/-- The connection submits a transfer and the worker carries it out. -/
def transferRun (i : ConnId) (h : DeviceHandle) : List Action :=
  [.connection i .accept,
    .connection i (.message (.submitTransfer ⟨⟨1⟩, h, .bulk 1 [7] 0 none⟩)),
    .connection i .release, .connection i .enqueue] ++ serve ++ [.connection i .resume]

/-- The connection gives the handle back. -/
def detachRun (i : ConnId) (h : DeviceHandle) : List Action :=
  requestRun i (.detachDeviceRequest h) ++ serve ++ [.connection i .resume]

theorem exclusive_sessions_apart_turns : ∃ tr s,
    (server ⟨[], 0⟩).Reach (oneDevice .exclusive) tr s ∧
      transfersOn ⟨1⟩ tr = [(0, ⟨1⟩), (0, ⟨1⟩), (1, ⟨2⟩)] ∧
      ((transfersOn ⟨1⟩ tr).Pairwise fun a b => a.2.val ≤ b.2.val ∧ (a.2 = b.2 → a.1 = b.1)) ∧
      ∀ x ∈ transfersOn ⟨1⟩ tr, Granted tr x.1 x.2 ⟨1⟩ := by
  have run := Machine.Reach.of_run (rfl : (server ⟨[], 0⟩).run (oneDevice .exclusive)
    (attachRun 0 "a" ++ transferRun 0 ⟨1⟩ ++ transferRun 0 ⟨1⟩ ++ detachRun 0 ⟨1⟩ ++
      attachRun 1 "b" ++ transferRun 1 ⟨2⟩) = some (_, _))
  obtain ⟨apart, granted⟩ := exclusive_sessions_apart run rfl ⟨1⟩
  exact ⟨_, _, run, rfl, apart, granted⟩

end Server
end P2pUsb
