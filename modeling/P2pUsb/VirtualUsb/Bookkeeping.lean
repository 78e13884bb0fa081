import P2pUsb.VirtualUsb.PortExclusion

/-! When the maps and the bitmaps of the manager agree between two operations. -/
namespace P2pUsb
namespace LinuxVirtualUsbManager
variable {s t : LinuxVirtualUsbManager} {a : ManagerStep} {out tr : List PortEvent}
  {i j p : Nat} {g : GlobalDeviceId} {old next : ManagerTask}

/-- An operation begins when the one before it has ended. -/
def OneAtATime (s : LinuxVirtualUsbManager) (a : ManagerStep) : Prop :=
  a.task = none → ∀ task ∈ s.tasks, task.ended = true

/-- A removal with this number is a `force_detach`. -/
def forced (s : LinuxVirtualUsbManager) (i : Nat) : Bool :=
  match s.tasks[i]? with
  | some (.removal true _ _ _) => true
  | _ => false

/-- The id under which the call is about to store its device. -/
def entering (s : LinuxVirtualUsbManager) (i : Nat) : Option GlobalDeviceId :=
  match s.tasks[i]? with
  | some (.attach serverId _ (.plugged handle _)) => some ⟨serverId, handle⟩
  | _ => none

/-- No failure after a port has been allocated, none of sysfs in a `detach_device`,
and no device stored under an id that has one. -/
def Lossless (s : LinuxVirtualUsbManager) : ManagerStep → Prop
  | .createBridge _ ok | .attachToVhci _ ok => ok = true
  | .detachFromVhci i ok => ok = true ∨ s.forced i = true
  | .storeDevice i => ∀ g ∈ s.entering i, s.attachedDevices.lookup g = none
  | _ => True

def Recoverable (s : LinuxVirtualUsbManager) (a : ManagerStep) : Prop :=
  s.OneAtATime a ∧ s.Lossless a

instance (s : LinuxVirtualUsbManager) (a : ManagerStep) : Decidable (s.OneAtATime a) :=
  inferInstanceAs (Decidable (_ → _))

instance (s : LinuxVirtualUsbManager) : (a : ManagerStep) → Decidable (s.Lossless a)
  | .createBridge _ ok | .attachToVhci _ ok => inferInstanceAs (Decidable (ok = true))
  | .detachFromVhci i ok => inferInstanceAs (Decidable (ok = true ∨ s.forced i = true))
  | .storeDevice i => inferInstanceAs (Decidable (∀ g ∈ s.entering i, _))
  | .attachDevice _ _ | .detachDevice _ | .handleDeviceRemoved _ _ | .detachAllFromServer _
  | .remoteAttach _ _ | .readStatus _ _ | .allocate _ | .storeBridge _ | .look _
  | .removeBridge _ | .freePort _ | .removeDevice _ | .remoteDetach _ _ =>
      inferInstanceAs (Decidable True)

instance (s : LinuxVirtualUsbManager) (a : ManagerStep) : Decidable (s.Recoverable a) :=
  inferInstanceAs (Decidable (_ ∧ _))

/-- A status snapshot has reported the port, and no removal has freed it since. -/
def Reported (initial : Ports) (tr : List PortEvent) (p : Nat) : Prop :=
  (initial.used p = true ∧ ∀ g, .freed g p ∉ tr) ∨
    ∃ before speed kernel after, tr = before ++ .reported speed kernel :: after ∧
      kernel.used p = true ∧ ∀ g, .freed g p ∉ after

theorem Reported.seen {initial : Ports} (h : Reported initial tr p) :
    initial.used p = true ∨ ∃ speed kernel, .reported speed kernel ∈ tr ∧
      kernel.used p = true := by
  rcases h with ⟨used, -⟩ | ⟨before, speed, kernel, after, rfl, used, -⟩
  · exact .inl used
  · exact .inr ⟨speed, kernel, List.mem_append_right _ List.mem_cons_self, used⟩

/-- What is to hold of the four pieces of state between operations. -/
structure Consistent (initial : Ports) (tr : List PortEvent) (s : LinuxVirtualUsbManager) :
    Prop where
  keys : ∀ g, g ∈ s.socketBridges ↔ g ∈ s.attachedDevices
  distinct : s.PortsDistinct
  marked : ∀ g d, s.attachedDevices.lookup g = some d → s.ports.used d.vhciPort = true
  owned : ∀ p, s.ports.used p = true →
    (∃ g d, s.attachedDevices.lookup g = some d ∧ d.vhciPort = p) ∨ Reported initial tr p

/-- The device has this port. -/
def HasPort (s : LinuxVirtualUsbManager) (g : GlobalDeviceId) (p : Nat) : Prop :=
  ∃ d, s.attachedDevices.lookup g = some d ∧ d.vhciPort = p

/-- What the only call in progress relies on. -/
structure Meets (s : LinuxVirtualUsbManager) (task : ManagerTask) : Prop where
  frees : ∀ g p, task.frees = some (g, p) → s.HasPort g p
  freed : ∀ g p, task.freed = some (g, p) → s.HasPort g p ∧ s.ports.used p = false
  between : ∀ g, task.between = some g → g ∈ s.attachedDevices ∧ g ∉ s.socketBridges
  keys : ∀ g, task.between ≠ some g → (g ∈ s.socketBridges ↔ g ∈ s.attachedDevices)

/-- At most one call is in progress, and the maps are as it relies on. -/
structure Orderly (s : LinuxVirtualUsbManager) : Prop where
  alone : ∀ (i j : Nat) (task task' : ManagerTask),
    s.tasks[i]? = some task → s.tasks[j]? = some task' →
    task.ended = false → task'.ended = false → i = j
  meets : ∀ task ∈ s.tasks, task.ended = false → s.Meets task
  keys : (∀ task ∈ s.tasks, task.ended = true) →
    ∀ g, g ∈ s.socketBridges ↔ g ∈ s.attachedDevices

theorem ended_idle (ended : next.ended = true) : Idle next := by
  cases next with
  | attach serverId info phase =>
      cases phase <;> first | exact ⟨rfl, rfl, rfl, rfl⟩ | cases ended
  | removal forced globalId rest phase =>
      cases phase <;> first | exact ⟨rfl, rfl, rfl, rfl⟩ | cases ended

/-- A call that relies on nothing but the agreement of the maps. -/
theorem Meets.of_agree (frees : next.frees = none) (freed : next.freed = none)
    (between : next.between = none)
    (keys : ∀ g, g ∈ s.socketBridges ↔ g ∈ s.attachedDevices) : s.Meets next where
  frees g p h := by cases frees.symm.trans h
  freed g p h := by cases freed.symm.trans h
  between g h := by cases between.symm.trans h
  keys g _ := keys g

theorem Meets.idle (idle : Idle next)
    (keys : ∀ g, g ∈ s.socketBridges ↔ g ∈ s.attachedDevices) : s.Meets next :=
  .of_agree idle.frees idle.freed idle.between keys

/-- The maps agree unless the call is between them. -/
theorem Meets.agree (meets : s.Meets next) (between : next.between = none)
    (g : GlobalDeviceId) : g ∈ s.socketBridges ↔ g ∈ s.attachedDevices := by
  refine meets.keys g ?_
  rw [between]
  exact (Option.some_ne_none g).symm

/-- The call in progress takes a step; the others have ended. -/
theorem Orderly.turn (orderly : s.Orderly) (at' : s.tasks[i]? = some old)
    (active : old.ended = false) (tasks : t.tasks = s.tasks.set i next) (meets : t.Meets next) :
    t.Orderly := by
  have other : ∀ {j task}, j ≠ i → s.tasks[j]? = some task → task.ended = true := by
    intro j task different there
    cases ended : task.ended with
    | true => rfl
    | false => exact absurd (orderly.alone j i task old there at' ended active) different
  have place : ∀ {j task}, t.tasks[j]? = some task → task.ended = false → j = i := by
    intro j task there running
    by_contra different
    rw [tasks, List.getElem?_set_ne (Ne.symm different)] at there
    cases running.symm.trans (other different there)
  have self : t.tasks[i]? = some next := by
    rw [tasks]
    exact List.getElem?_set_self (List.getElem?_eq_some_iff.mp at').1
  constructor
  case alone =>
    intro j k task task' there there' running running'
    rw [place there running, place there' running']
  case meets =>
    intro task present running
    obtain ⟨j, there⟩ := List.getElem?_of_mem present
    obtain rfl := place there running
    cases self.symm.trans there
    exact meets
  case keys =>
    intro all g
    exact meets.agree (ended_idle (all next (List.mem_of_getElem? self))).between g

theorem Orderly.begun (orderly : s.Orderly) {tasks : List ManagerTask} (few : tasks.length ≤ 1)
    (idle : ∀ task ∈ tasks, Idle task) (ended : ∀ task ∈ s.tasks, task.ended = true) :
    (s.begin tasks).Orderly := by
  have keys := orderly.keys ended
  have fresh : ∀ {j task}, (s.tasks ++ tasks)[j]? = some task → task.ended = false →
      j = s.tasks.length := by
    intro j task there running
    rw [List.getElem?_append] at there
    split at there
    · cases running.symm.trans (ended task (List.mem_of_getElem? there))
    · have inside := (List.getElem?_eq_some_iff.mp there).1
      omega
  constructor
  case alone =>
    intro j k task task' there there' running running'
    rw [fresh there running, fresh there' running']
  case meets =>
    intro task present running
    rcases List.mem_append.mp present with earlier | new
    · cases running.symm.trans (ended task earlier)
    · exact Meets.idle (s := s.begin tasks) (idle task new) keys
  case keys => exact fun _ => keys

theorem Meets.alike (meets : s.Meets old) (alike : Alike old next) :
    (s.setTask i next).Meets next where
  frees g p h := meets.frees g p (alike.frees.symm.trans h)
  freed g p h := meets.freed g p (alike.freed.symm.trans h)
  between g h := meets.between g (alike.between.symm.trans h)
  keys g h := meets.keys g fun has => h (alike.between.trans has)

/-- A removed device had no bridge any more and no bit. -/
theorem Meets.removed {globalId : GlobalDeviceId} {forced : Bool} {rest : List GlobalDeviceId}
    {port : Nat} (meets : s.Meets (.removal forced globalId rest (.freed port))) :
    globalId ∉ s.socketBridges ∧ s.pushedOut globalId = [] ∧
      ∀ g, g ≠ globalId → (g ∈ s.socketBridges ↔ g ∈ s.attachedDevices) := by
  obtain ⟨⟨d, there, same⟩, clear⟩ := meets.freed globalId port rfl
  refine ⟨(meets.between globalId rfl).2, ?_, fun g other => meets.keys g ?_⟩
  · simp only [pushedOut, there, same, clear, Bool.false_eq_true, if_false]
  · exact fun has => other (Option.some.inj has).symm

section Turns
variable {serverId : EndpointId} {info : DeviceInfo} {handle : DeviceHandle} {port : Nat}
  {forced : Bool} {globalId : GlobalDeviceId} {rest : List GlobalDeviceId}

theorem Meets.found {device : VirtualDevice}
    (meets : s.Meets (.removal forced globalId rest .looking))
    (there : s.attachedDevices.lookup globalId = some device) :
    (s.setTask i (.removal forced globalId rest (.found device.vhciPort))).Meets
      (.removal forced globalId rest (.found device.vhciPort)) := by
  refine ⟨fun g p h => ?_, fun _ _ h => (by cases h), fun _ h => (by cases h),
    fun g _ => meets.agree rfl g⟩
  cases h
  exact ⟨_, there, rfl⟩

/-- The new device is between the maps. -/
theorem Meets.stored (meets : s.Meets (.attach serverId info (.plugged handle port)))
    (fresh : s.attachedDevices.lookup ⟨serverId, handle⟩ = none) :
    Meets { s.setTask i (.attach serverId info (.stored handle port)) with
        attachedDevices := s.attachedDevices.insert ⟨serverId, handle⟩ ⟨handle, info, port⟩ }
      (.attach serverId info (.stored handle port)) := by
  refine ⟨fun _ _ h => (by cases h), fun _ _ h => (by cases h), fun g h => ?_, fun g h => ?_⟩
  · cases h
    refine ⟨(AList.mem_insert _).mpr (.inl rfl), fun bridged => ?_⟩
    exact AList.lookup_eq_none.mp fresh ((meets.agree rfl _).mp bridged)
  · refine (meets.agree rfl g).trans ?_
    rw [AList.mem_insert]
    exact (or_iff_right fun same => h (congrArg some same).symm).symm

theorem Meets.bridgeStored (meets : s.Meets (.attach serverId info (.stored handle port))) :
    Meets { s.setTask i (.attach serverId info (.ended true)) with
        socketBridges := s.socketBridges.insert ⟨serverId, handle⟩ port }
      (.attach serverId info (.ended true)) := by
  refine .of_agree rfl rfl rfl fun g => ?_
  rw [AList.mem_insert]
  by_cases own : g = ⟨serverId, handle⟩
  · exact iff_of_true (.inl own) (own ▸ (meets.between _ rfl).1)
  · exact (or_iff_right own).trans (meets.keys g fun has => own (Option.some.inj has).symm)

/-- The device that loses its bridge is between the maps. -/
theorem Meets.unbridged (meets : s.Meets (.removal forced globalId rest (.found port))) :
    Meets { s.setTask i (.removal forced globalId rest (.unbridged port)) with
        socketBridges := s.socketBridges.erase globalId }
      (.removal forced globalId rest (.unbridged port)) := by
  have has := meets.frees globalId port rfl
  refine ⟨fun g p h => ?_, fun _ _ h => (by cases h), fun g h => ?_, fun g h => ?_⟩
  · cases h
    exact has
  · cases h
    obtain ⟨d, there, -⟩ := has
    exact ⟨AList.lookup_isSome.mp (Option.isSome_of_eq_some there), fun bridged =>
      (AList.mem_erase.mp bridged).1 rfl⟩
  · rw [AList.mem_erase]
    exact (and_iff_right fun same => h (congrArg some same).symm).trans (meets.agree rfl g)

theorem Meets.freePort (meets : s.Meets (.removal forced globalId rest (.unplugged port))) :
    Meets { s.setTask i (.removal forced globalId rest (.freed port)) with
        ports := s.ports.freePort port }
      (.removal forced globalId rest (.freed port)) := by
  refine ⟨fun _ _ h => (by cases h), fun g p h => ?_, fun g h => meets.between g h,
    fun g h => meets.keys g h⟩
  cases h
  refine ⟨meets.frees globalId port rfl, ?_⟩
  rw [Bool.eq_false_iff]
  exact fun used => (Ports.used_free.mp used).2 rfl

end Turns

/-- What a step needs to be recoverable, and that it then drops no port. -/
theorem orderly_step (orderly : s.Orderly) (recoverable : s.Recoverable a)
    (h : s.step a = some (t, out)) : t.Orderly ∧ ∀ p, .dropped p ∉ out := by
  have progress : ∀ {i task}, s.tasks[i]? = some task → task.ended = false → s.Meets task :=
    fun at' active => orderly.meets _ (List.mem_of_getElem? at') active
  have quiet : ∀ p, .dropped p ∉ ([] : List PortEvent) := fun _ => List.not_mem_nil
  cases step_does h with
  | begun tasks call few idle => exact ⟨orderly.begun few idle (recoverable.1 call), quiet⟩
  | turn at' alike =>
      exact ⟨orderly.turn at' alike.active rfl ((progress at' alike.active).alike alike), quiet⟩
  | notFound at' missing after =>
      have meets := progress at' rfl
      refine ⟨orderly.turn at' rfl rfl ?_, quiet⟩
      rcases after with rfl | rfl <;> exact .of_agree rfl rfl rfl (meets.agree rfl)
  | found at' unlocked there =>
      exact ⟨orderly.turn at' rfl rfl ((progress at' rfl).found there), quiet⟩
  | allocated at' given =>
      have meets := progress at' rfl
      exact ⟨orderly.turn at' rfl rfl (.of_agree rfl rfl rfl (meets.agree rfl)), by simp⟩
  | exhausted at' refused =>
      have meets := progress at' rfl
      exact ⟨orderly.turn at' rfl rfl (.of_agree rfl rfl rfl (meets.agree rfl)), by simp⟩
  | failed at' holding refused =>
      rcases refused with rfl | rfl
      · exact absurd recoverable.2 Bool.false_ne_true
      · exact absurd recoverable.2 Bool.false_ne_true
  | stored at' unlocked =>
      rename_i k serverId info handle port
      have fresh : s.attachedDevices.lookup ⟨serverId, handle⟩ = none :=
        recoverable.2 _ (by simp only [entering, at', Option.mem_def])
      refine ⟨orderly.turn at' rfl rfl ((progress at' rfl).stored fresh), ?_⟩
      rw [pushedOut, fresh]
      exact quiet
  | bridgeStored at' =>
      exact ⟨orderly.turn at' rfl rfl (progress at' rfl).bridgeStored, quiet⟩
  | unbridged at' => exact ⟨orderly.turn at' rfl rfl (progress at' rfl).unbridged, quiet⟩
  | gaveUp at' =>
      have tolerated := recoverable.2
      simp only [Lossless, forced, at', Bool.false_eq_true, or_self] at tolerated
  | freed at' => exact ⟨orderly.turn at' rfl rfl (progress at' rfl).freePort, by simp⟩
  | removed at' idle =>
      rename_i k forced globalId rest port next
      obtain ⟨unbridged, nobody, keys⟩ := (progress at' rfl).removed
      rw [nobody]
      refine ⟨orderly.turn at' rfl rfl (Meets.idle idle fun g => ?_), quiet⟩
      rw [AList.mem_erase]
      by_cases own : g = globalId
      · subst own
        exact iff_of_false unbridged fun there => there.1 rfl
      · exact (keys g own).trans (and_iff_right own).symm

theorem not_ended {β : Type} {hand : ManagerTask → Option β} {b : β} (has : hand next = some b)
    (empty : ∀ task, Idle task → hand task = none) : next.ended = false := by
  by_contra ended
  cases (empty next (ended_idle (Bool.of_not_eq_false ended))).symm.trans has

/-- Operations one at a time do not disturb one another. -/
theorem Orderly.undisturbed (orderly : s.Orderly) : s.Undisturbed a := by
  have same : ∀ {i : Nat} {task : ManagerTask}, s.tasks[i]? = some task → task.ended = false →
      ∀ other ∈ s.tasks, other.ended = false → other = task := by
    intro i task at' active other present running
    obtain ⟨j, there⟩ := List.getElem?_of_mem present
    obtain rfl := orderly.alone j i other task there at' running active
    exact Option.some.inj (there.symm.trans at')
  cases a with
  | storeDevice i =>
      intro port storing task present has
      obtain ⟨own, at', holding⟩ := Option.bind_eq_some_iff.mp storing
      obtain ⟨b, freed, -⟩ := Option.map_eq_some_iff.mp has
      obtain rfl := same at' (not_ended holding fun _ => Idle.holds) task present
        (not_ended freed fun _ => Idle.freed)
      cases task with
      | attach serverId info phase => cases freed
      | removal forced globalId rest phase => cases holding
  | look i =>
      intro port finding task present
      simp only [LinuxVirtualUsbManager.finding] at finding
      split at finding
      · rename_i forced globalId rest at'
        have other : ∀ {hand : ManagerTask → Option (GlobalDeviceId × Nat)},
            (∀ task, Idle task → hand task = none) →
            hand (.removal forced globalId rest .looking) = none →
            (hand task).map Prod.snd ≠ some port := by
          intro hand empty looking has
          obtain ⟨b, found, -⟩ := Option.map_eq_some_iff.mp has
          obtain rfl := same at' rfl task present (not_ended found empty)
          cases looking.symm.trans found
        exact ⟨other (fun _ => Idle.frees) rfl, other (fun _ => Idle.freed) rfl⟩
      · cases finding
  | _ => trivial

theorem orderly_new (content : String) : (new content).Orderly :=
  ⟨fun _ _ _ _ there => (by cases there), fun _ present => (by cases present),
    fun _ _ => Iff.rfl⟩

theorem recoverable_run {content : String}
    (run : linuxManager.Exec Recoverable (new content) tr s) :
    s.Orderly ∧ s.Exclusive ∧ ∀ p, .dropped p ∉ tr := by
  refine run.invariant (I := fun tr s => s.Orderly ∧ s.Exclusive ∧ ∀ p, .dropped p ∉ tr)
    ⟨orderly_new content, exclusive_new content, fun _ => List.not_mem_nil⟩ ?_
  rintro tr s a t out ⟨orderly, exclusive, kept⟩ recoverable h
  obtain ⟨next, quiet⟩ := orderly_step orderly recoverable h
  refine ⟨next, exclusive_step exclusive orderly.undisturbed h, fun p dropped => ?_⟩
  exact (List.mem_append.mp dropped).elim (kept p) (quiet p)

theorem LeftBehind.reported {initial : Ports} (left : LeftBehind initial tr p)
    (kept : ∀ p, .dropped p ∉ tr) : Reported initial tr p := by
  rcases left with initially | ⟨before, event, after, rfl, leaves, unfreed⟩
  · exact .inl initially
  · cases event with
    | reported speed kernel => exact .inr ⟨before, speed, kernel, after, rfl, leaves.2, unfreed⟩
    | dropped port => exact absurd (List.mem_append_right _ List.mem_cons_self) (kept port)
    | allocated | exhausted | freed => exact leaves.elim

/-- Between operations the maps and the bitmaps agree, after any recoverable failures. -/
theorem bookkeeping_survives {content : String}
    (run : linuxManager.Exec Recoverable (new content) tr s)
    (between : ∀ task ∈ s.tasks, task.ended = true) :
    Consistent (readKernelPortStatus content) tr s := by
  obtain ⟨orderly, exclusive, kept⟩ := recoverable_run run
  have idle : ∀ {i : Nat} {task : ManagerTask}, s.tasks[i]? = some task → Idle task := fun there =>
    ended_idle (between _ (List.mem_of_getElem? there))
  constructor
  case keys => exact orderly.keys between
  case distinct => exact exclusive.distinct
  case marked =>
    intro g d there
    rcases exclusive.deviceBit g d there with used | ⟨i, task, at', freed⟩
    · exact used
    · cases (idle at').freed.symm.trans freed
  case owned =>
    intro p used
    rcases accounted_run (run.mono fun _ _ _ => trivial) p used with
      (device | ⟨i, task, at', holds⟩) | left
    · exact .inl device
    · cases (idle at').holds.symm.trans holds
    · exact .inr (left.reported kept)

/-- The remote attach, the remote detach and the sysfs write of a `force_detach` fail. -/
def exampleRecovered : List ManagerStep :=
  [.attachDevice ⟨"a"⟩ exampleInfo, .remoteAttach 0 none] ++ exampleAttached 1 1 ++
    exampleAttached 2 2 ++ exampleAttached 3 3 ++
    [.detachDevice (exampleId 1), .look 4, .removeBridge 4, .detachFromVhci 4 true, .freePort 4,
      .removeDevice 4, .remoteDetach 4 false, .handleDeviceRemoved ⟨"a"⟩ [⟨2⟩], .look 5,
      .removeBridge 5, .detachFromVhci 5 false, .freePort 5, .removeDevice 5]

theorem bookkeeping_survives_recovered : ∃ tr s,
    s.attachedDevices.lookup (exampleId 3) = some ⟨⟨3⟩, exampleInfo, 2⟩ ∧
      Consistent (readKernelPortStatus "") tr s := by
  have run : ∃ tr s, linuxManager.Exec Recoverable (new "") tr s ∧
      s.attachedDevices.lookup (exampleId 3) = some ⟨⟨3⟩, exampleInfo, 2⟩ ∧
      ∀ task ∈ s.tasks, task.ended = true := by
    rw [new_no_status]
    refine ⟨_, _, Machine.Exec.of_within .start
      (rfl : (linuxManager.within Recoverable).run _ exampleRecovered = some (_, _)), rfl, ?_⟩
    decide
  obtain ⟨tr, s, run, there, between⟩ := run
  exact ⟨tr, s, there, bookkeeping_survives run between⟩

/-- Two operations one after the other: the socket of an `attach_device` fails, or the
sysfs write of a `detach_device`. -/
def exampleUnbridged : List ManagerStep :=
  exampleAttach 0 1 none ++ [.allocate 0, .createBridge 0 false]

def exampleGivenUp : List ManagerStep :=
  exampleAttached 0 1 ++
    [.detachDevice (exampleId 1), .look 1, .removeBridge 1, .detachFromVhci 1 false]

/-- A failing `attach_device` leaves its port allocated, a failing `detach_device` its
device without a bridge. -/
theorem failures_leave_traces :
    (∃ tr s, linuxManager.Exec OneAtATime (new "") tr s ∧ (∀ task ∈ s.tasks, task.ended = true) ∧
      s.ports.used 0 = true ∧ (∀ g, s.attachedDevices.lookup g = none) ∧
      ¬ Consistent .empty tr s) ∧
    ∃ tr s, linuxManager.Exec OneAtATime (new "") tr s ∧ (∀ task ∈ s.tasks, task.ended = true) ∧
      exampleId 1 ∈ s.attachedDevices ∧ exampleId 1 ∉ s.socketBridges ∧
      ¬ Consistent .empty tr s := by
  rw [new_no_status]
  constructor
  · refine ⟨_, _, Machine.Exec.of_within .start
      (rfl : (linuxManager.within OneAtATime).run _ exampleUnbridged = some (_, _)), by decide,
      rfl, fun _ => rfl, fun consistent => ?_⟩
    rcases consistent.owned 0 rfl with ⟨g, d, there, -⟩ | reported
    · cases there
    · rcases reported.seen with used | ⟨speed, kernel, seen, used⟩
      · exact absurd used (by decide)
      · rcases List.mem_cons.mp seen with same | later
        · cases same
          exact absurd used (by decide)
        · simp at later
  · refine ⟨_, _, Machine.Exec.of_within .start
      (rfl : (linuxManager.within OneAtATime).run _ exampleGivenUp = some (_, _)), by decide,
      by decide, by decide, fun consistent => ?_⟩
    exact absurd ((consistent.keys (exampleId 1)).mpr (by decide)) (by decide)

end LinuxVirtualUsbManager
end P2pUsb
