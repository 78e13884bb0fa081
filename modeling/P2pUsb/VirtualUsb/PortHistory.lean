import P2pUsb.VirtualUsb.LinuxManager

/-! Where the set bits of the port bitmaps come from, and when `allocate_port` fails. -/
namespace P2pUsb
namespace LinuxVirtualUsbManager
variable {s t : LinuxVirtualUsbManager} {a : ManagerStep} {out tr : List PortEvent} {p i : Nat}
  {initial kernel : Ports} {speed : DeviceSpeed}

/-- The event leaves the bit of the port set for no device of this manager. -/
def Leaves (p : Nat) : PortEvent → Prop
  | .reported speed kernel => Ports.InRange speed p ∧ kernel.used p = true
  | .dropped port => port = p
  | .allocated _ | .exhausted _ _ | .freed _ _ => False

/-- A status snapshot has reported the port, or its call failed, or its device left
the map with the bit set, and no removal has freed the port since. -/
def LeftBehind (initial : Ports) (tr : List PortEvent) (p : Nat) : Prop :=
  (initial.used p = true ∧ ∀ globalId, .freed globalId p ∉ tr) ∨
    ∃ before event after, tr = before ++ event :: after ∧ Leaves p event ∧
      ∀ globalId, .freed globalId p ∉ after

theorem LeftBehind.append (h : LeftBehind initial tr p)
    (kept : ∀ globalId, .freed globalId p ∉ out) : LeftBehind initial (tr ++ out) p := by
  rcases h with ⟨used, unfreed⟩ | ⟨before, event, after, rfl, leaves, unfreed⟩
  · refine .inl ⟨used, fun globalId freed => ?_⟩
    exact (List.mem_append.mp freed).elim (unfreed globalId) (kept globalId)
  · refine .inr ⟨before, event, after ++ out, by simp, leaves, fun globalId freed => ?_⟩
    exact (List.mem_append.mp freed).elim (unfreed globalId) (kept globalId)

theorem left_behind_now {event : PortEvent} (leaves : Leaves p event)
    (kept : ∀ globalId, .freed globalId p ∉ out) :
    LeftBehind initial (tr ++ event :: out) p :=
  .inr ⟨tr, event, out, rfl, leaves, kept⟩

theorem freed_not_pushed (globalId other : GlobalDeviceId) :
    .freed globalId p ∉ s.pushedOut other := by
  rw [pushedOut]
  split
  · split <;> simp
  · simp

/-- A device that is pushed out of the map with its bit set is seen to be. -/
theorem pushed_left_behind {globalId : GlobalDeviceId} {device : VirtualDevice}
    (there : s.attachedDevices.lookup globalId = some device)
    (used : s.ports.used device.vhciPort = true) :
    LeftBehind initial (tr ++ s.pushedOut globalId) device.vhciPort := by
  rw [pushedOut, there]
  simp only [used, if_true]
  exact left_behind_now rfl fun _ => List.not_mem_nil

/-- Every set bit is of a port that is held or was left behind. -/
def Accounted (initial : Ports) (tr : List PortEvent) (s : LinuxVirtualUsbManager) : Prop :=
  ∀ p, s.ports.used p = true → s.Held p ∨ LeftBehind initial tr p

theorem Accounted.quiet (accounted : Accounted initial tr s) (ports : t.ports = s.ports)
    (held : ∀ p, s.Held p → t.Held p) : Accounted initial (tr ++ []) t := by
  intro p used
  rw [ports] at used
  rw [List.append_nil]
  exact (accounted p used).imp_left (held p)

/-- A call without a port in hand takes a step that changes neither port nor device. -/
theorem Held.kept {old next : ManagerTask} (h : s.Held p) (at' : s.tasks[i]? = some old)
    (none : old.holds = none) : (s.setTask i next).Held p := by
  rcases h with device | ⟨j, holds⟩
  · exact .inl device
  · exact .inr ⟨j, holds.kept at' none⟩

theorem accounted_merged {ports : Ports} {next : ManagerTask} {old : ManagerTask}
    (accounted : Accounted initial tr s) (at' : s.tasks[i]? = some old) (none : old.holds = none)
    (merged : s.ports.Merged kernel speed p) (kept : ∀ globalId, .freed globalId p ∉ out) :
    Held { s.setTask i next with ports } p ∨
      LeftBehind initial (tr ++ .reported speed kernel :: out) p := by
  rcases merged with used | ⟨inside, used⟩
  · refine (accounted p used).imp (fun held => held.kept at' none) fun left => ?_
    refine left.append fun globalId freed => ?_
    rcases List.mem_cons.mp freed with same | later
    · cases same
    · exact kept globalId later
  · exact .inr (left_behind_now ⟨inside, used⟩ kept)

theorem accounted_step (accounted : Accounted initial tr s) (h : s.step a = some (t, out)) :
    Accounted initial (tr ++ out) t := by
  cases step_does h with
  | begun tasks call few idle =>
      refine accounted.quiet rfl fun p held => ?_
      exact held.imp_right fun ⟨j, holds⟩ => ⟨j, holds.begin⟩
  | turn at' alike =>
      refine accounted.quiet rfl fun p held => ?_
      exact held.imp_right fun ⟨j, holds⟩ => ⟨j, holds.turn at' alike.holds⟩
  | notFound at' | found at' | bridgeStored at' | unbridged at' | gaveUp at' =>
      exact accounted.quiet rfl fun p held => held.kept at' rfl
  | allocated at' given =>
      intro p used
      rcases ((Ports.allocate_ok given).2.2.2 p).mp used with merged | rfl
      · exact accounted_merged accounted at' rfl merged (by simp)
      · exact .inl (.inr ⟨_, shows_next at' rfl⟩)
  | exhausted at' refused =>
      intro p used
      exact accounted_merged accounted at' rfl
        (((Ports.allocate_error refused).2 p).mp used) (by simp)
  | failed at' holding =>
      intro p used
      rcases accounted p used with (device | ⟨j, holds⟩) | left
      · exact .inl (.inl device)
      · rename_i k serverId info phase port refused
        by_cases own : j = k
        · subst own
          obtain ⟨task, there, has⟩ := holds
          cases at'.symm.trans there
          cases holding.symm.trans has
          exact .inr (left_behind_now rfl fun _ => List.not_mem_nil)
        · exact .inl (.inr ⟨j, holds.other own⟩)
      · exact .inr (left.append (by simp))
  | stored at' unlocked =>
      rename_i k serverId info handle port
      intro p used
      rcases accounted p used with (⟨globalId, device, there, rfl⟩ | ⟨j, holds⟩) | left
      · by_cases own : globalId = ⟨serverId, handle⟩
        · subst own
          exact .inr (pushed_left_behind there used)
        · exact .inl (.inl ⟨globalId, device, (AList.lookup_insert_ne own).trans there, rfl⟩)
      · by_cases own : j = k
        · subst own
          obtain ⟨task, there, has⟩ := holds
          cases at'.symm.trans there
          cases has
          exact .inl (.inl ⟨_, _, AList.lookup_insert _, rfl⟩)
        · exact .inl (.inr ⟨j, holds.other own⟩)
      · exact .inr (left.append fun globalId => freed_not_pushed globalId _)
  | freed at' =>
      intro p used
      obtain ⟨before, other⟩ := Ports.used_free.mp used
      refine (accounted p before).imp (fun held => held.kept at' rfl) fun left => ?_
      refine left.append fun globalId freed => other ?_
      cases List.mem_singleton.mp freed
      rfl
  | removed at' idle =>
      rename_i k forced globalId rest port next
      intro p used
      rcases accounted p used with (⟨other, device, there, rfl⟩ | ⟨j, holds⟩) | left
      · by_cases own : other = globalId
        · subst own
          exact .inr (pushed_left_behind there used)
        · exact .inl (.inl ⟨other, device, (AList.lookup_erase_ne own).trans there, rfl⟩)
      · exact .inl (.inr ⟨j, holds.kept at' rfl⟩)
      · exact .inr (left.append fun globalId => freed_not_pushed globalId _)

theorem accounted_run {content : String} (run : linuxManager.Reach (new content) tr s) :
    Accounted (readKernelPortStatus content) tr s := by
  refine run.invariant (I := Accounted (readKernelPortStatus content)) (fun p used => ?_) ?_
  · exact .inr (.inl ⟨used, fun _ => List.not_mem_nil⟩)
  · exact fun tr s a t out accounted _ h => accounted_step accounted h

/-- What is true when `allocate_port` finds no port: each is marked or reported. -/
theorem exhausted_full (h : s.step a = some (t, out)) (failed : .exhausted speed kernel ∈ out)
    (inside : Ports.InRange speed p) : s.ports.used p = true ∨ kernel.used p = true := by
  cases step_does h with
  | exhausted at' refused =>
      simp only [List.mem_cons, List.not_mem_nil, or_false, reduceCtorEq, false_or] at failed
      cases failed
      exact (Ports.allocate_error refused).1 p inside
  | allocated | failed | freed => simp at failed
  | stored | removed =>
      simp only [pushedOut] at failed
      split at failed
      · split at failed <;> simp at failed
      · cases failed
  | _ => cases failed

/-- `allocate_port` fails for want of ports, if and only if the ports that were left
behind are wanted. -/
theorem allocation_complete_iff {content : String}
    (run : linuxManager.Reach (new content) tr s) (h : s.step a = some (t, out))
    (failed : .exhausted speed kernel ∈ out) :
    (∀ p, Ports.InRange speed p → s.Held p ∨ kernel.used p = true) ↔
      ∀ p, Ports.InRange speed p → LeftBehind (readKernelPortStatus content) tr p →
        s.Held p ∨ kernel.used p = true := by
  constructor
  · exact fun complete p inside _ => complete p inside
  · intro left p inside
    rcases exhausted_full h failed inside with used | used
    · exact (accounted_run run p used).elim .inl (left p inside)
    · exact .inr used

/-- Another process uses all the ports of USB 2.0. -/
def exampleFullStatus : String :=
  "hub port sta\nhs 0 6\nhs 1 6\nhs 2 6\nhs 3 6\nhs 4 6\nhs 5 6\nhs 6 6\nhs 7 6"

theorem read_full_status : readKernelPortStatus exampleFullStatus = ⟨255, 0⟩ := by
  decide +kernel

theorem read_no_status : readKernelPortStatus "" = .empty := by
  decide +kernel

/-- The other process has released them. -/
def exampleFreeStatus : String :=
  "hub port sta\nhs 0 4\nhs 1 4\nhs 2 4\nhs 3 4\nhs 4 4\nhs 5 4\nhs 6 4\nhs 7 4"

theorem read_free_status : readKernelPortStatus exampleFreeStatus = .empty := by
  decide +kernel

def exampleInfo : DeviceInfo where
  id := ⟨1⟩
  vendorId := 1
  productId := 1
  busNumber := 1
  deviceAddress := 1
  manufacturer := none
  product := none
  serialNumber := none
  deviceClass := 0
  subclass := 0
  protocol := 0
  speed := .high
  numConfigurations := 1

/-- An `attach_device` call up to its allocation. -/
def exampleAttach (task : Nat) (handle : Nat) (content : Option String) : List ManagerStep :=
  [.attachDevice ⟨"a"⟩ exampleInfo, .remoteAttach task (some ⟨handle⟩), .readStatus task content]

/-- The call that finds no port, before and after. -/
def exampleAsking (kernel : Ports) : LinuxVirtualUsbManager :=
  ⟨∅, ∅, .empty, [.attach ⟨"a"⟩ exampleInfo (.allocating ⟨1⟩ kernel)]⟩

def exampleRefused : LinuxVirtualUsbManager :=
  ⟨∅, ∅, ⟨255, 0⟩, [.attach ⟨"a"⟩ exampleInfo (.ended false)]⟩

theorem example_asking (initial content : String) : linuxManager.Reach (new initial) []
    ⟨∅, ∅, readKernelPortStatus initial,
      [.attach ⟨"a"⟩ exampleInfo (.allocating ⟨1⟩ (readKernelPortStatus content))]⟩ :=
  Machine.Reach.of_run
    (rfl : linuxManager.run (new initial) (exampleAttach 0 1 (some content)) = some (_, _))

theorem example_asking_again (content : String) : linuxManager.Reach exampleRefused []
    ⟨∅, ∅, ⟨255, 0⟩, [.attach ⟨"a"⟩ exampleInfo (.ended false),
      .attach ⟨"a"⟩ exampleInfo (.allocating ⟨2⟩ (readKernelPortStatus content))]⟩ :=
  Machine.Reach.of_run
    (rfl : linuxManager.run exampleRefused (exampleAttach 1 2 (some content)) = some (_, _))

theorem example_full_asking : linuxManager.Reach (new "") [] (exampleAsking ⟨255, 0⟩) := by
  have run := example_asking "" exampleFullStatus
  rwa [read_no_status, read_full_status] at run

theorem example_refused : (exampleAsking ⟨255, 0⟩).step (.allocate 0) =
    some (exampleRefused, [.reported .high ⟨255, 0⟩, .exhausted .high ⟨255, 0⟩]) := rfl

theorem allocation_complete_reported :
    (exampleAsking ⟨255, 0⟩).step (.allocate 0) =
      some (exampleRefused, [.reported .high ⟨255, 0⟩, .exhausted .high ⟨255, 0⟩]) ∧
      ∀ p, Ports.InRange .high p → (exampleAsking ⟨255, 0⟩).Held p ∨
        (⟨255, 0⟩ : Ports).used p = true := by
  have all : ∀ p < 8, (⟨255, 0⟩ : Ports).used p = true := by decide
  refine ⟨example_refused, (allocation_complete_iff example_full_asking example_refused
    (List.mem_cons_of_mem _ List.mem_cons_self)).mpr fun p inside _ => ?_⟩
  exact .inr (all p (Nat.lt_succ_of_le inside.2))

/-- The other process has released its ports, their bits are still set: nobody has the
ports, the kernel reports none, and none is given out. -/
theorem released_ports_exhausted : ∃ tr s t,
    linuxManager.Reach (new "") tr s ∧
      s.step (.allocate 1) = some (t, [.reported .high .empty, .exhausted .high .empty]) ∧
      ∀ p, Ports.InRange .high p → ¬ (s.Held p ∨ Ports.empty.used p = true) := by
  have again : linuxManager.Reach (new "") _ exampleRefused :=
    Machine.Exec.next (a := ManagerStep.allocate 0) example_full_asking trivial example_refused
  have asked := Machine.Exec.trans again (example_asking_again exampleFreeStatus)
  rw [read_free_status] at asked
  refine ⟨_, _, _, asked, rfl, fun p inside wanted => ?_⟩
  have none : ∀ p < 8, Ports.empty.used p = false := by decide
  rcases wanted with (⟨globalId, device, there, -⟩ | ⟨i, task, at', holds⟩) | used
  · cases there
  · have idle : ∀ task ∈ [ManagerTask.attach ⟨"a"⟩ exampleInfo (.ended false),
        .attach ⟨"a"⟩ exampleInfo (.allocating ⟨2⟩ .empty)], task.holds = Option.none := by decide
    cases (idle task (List.mem_of_getElem? at')).symm.trans holds
  · cases (none p (Nat.lt_succ_of_le inside.2)).symm.trans used

end LinuxVirtualUsbManager
end P2pUsb
