import P2pUsb.VirtualUsb.PortHistory

/-! When concurrent calls of the manager keep the ports of its devices apart. -/
namespace P2pUsb
namespace LinuxVirtualUsbManager
variable {s t : LinuxVirtualUsbManager} {a : ManagerStep} {out tr : List PortEvent}
  {i j p : Nat} {g g' : GlobalDeviceId} {d d' : VirtualDevice}

/-- No two virtual devices have the same port. -/
def PortsDistinct (s : LinuxVirtualUsbManager) : Prop :=
  ∀ g g' d d', s.attachedDevices.lookup g = some d → s.attachedDevices.lookup g' = some d' →
    d.vhciPort = d'.vhciPort → g = g'

/-- A port is freed for the removal of its device, not under another one. -/
def FreesOwn (s : LinuxVirtualUsbManager) (out : List PortEvent) : Prop :=
  ∀ g p, .freed g p ∈ out → ∀ g' d, s.attachedDevices.lookup g' = some d → d.vhciPort = p →
    g' = g

/-- The port of the device that the call is about to store. -/
def storing (s : LinuxVirtualUsbManager) (i : Nat) : Option Nat :=
  s.tasks[i]?.bind ManagerTask.holds

/-- The port of the device that the call is about to find. -/
def finding (s : LinuxVirtualUsbManager) (i : Nat) : Option Nat :=
  match s.tasks[i]? with
  | some (.removal _ globalId _ .looking) =>
      (s.attachedDevices.lookup globalId).map VirtualDevice.vhciPort
  | _ => none

/-- A device is stored only when no removal that has freed its port is still to remove
a device, and found only when no removal that has found its port is under way. -/
def Undisturbed (s : LinuxVirtualUsbManager) : ManagerStep → Prop
  | .storeDevice i => ∀ port ∈ s.storing i, ∀ task ∈ s.tasks,
      task.freed.map Prod.snd ≠ some port
  | .look i => ∀ port ∈ s.finding i, ∀ task ∈ s.tasks,
      task.frees.map Prod.snd ≠ some port ∧ task.freed.map Prod.snd ≠ some port
  | _ => True

instance (s : LinuxVirtualUsbManager) : (a : ManagerStep) → Decidable (s.Undisturbed a)
  | .storeDevice i => inferInstanceAs (Decidable (∀ port ∈ s.storing i, _))
  | .look i => inferInstanceAs (Decidable (∀ port ∈ s.finding i, _))
  | .attachDevice _ _ | .detachDevice _ | .handleDeviceRemoved _ _ | .detachAllFromServer _
  | .remoteAttach _ _ | .readStatus _ _ | .allocate _ | .createBridge _ _ | .attachToVhci _ _
  | .storeBridge _ | .removeBridge _ | .detachFromVhci _ _ | .freePort _ | .removeDevice _
  | .remoteDetach _ _ => inferInstanceAs (Decidable True)

/-- Who may have a port at the same time as whom, and which bits are set. A device
whose port is free already is one that a removal is about to take out of the map. -/
structure Exclusive (s : LinuxVirtualUsbManager) : Prop where
  holderBit : ∀ i p, s.Shows ManagerTask.holds i p → s.ports.used p = true
  holderOne : ∀ i j p, s.Shows ManagerTask.holds i p → s.Shows ManagerTask.holds j p → i = j
  deviceBit : ∀ g d, s.attachedDevices.lookup g = some d →
    s.ports.used d.vhciPort = true ∨ ∃ i, s.Shows ManagerTask.freed i (g, d.vhciPort)
  distinct : s.PortsDistinct
  apart : ∀ i g d, s.Shows ManagerTask.holds i d.vhciPort →
    s.attachedDevices.lookup g = some d → ∃ j, s.Shows ManagerTask.freed j (g, d.vhciPort)
  freesBit : ∀ i g p, s.Shows ManagerTask.frees i (g, p) → s.ports.used p = true
  freesOne : ∀ i j g g' p, s.Shows ManagerTask.frees i (g, p) →
    s.Shows ManagerTask.frees j (g', p) → i = j
  freesHolder : ∀ i j g p, s.Shows ManagerTask.frees i (g, p) → ¬ s.Shows ManagerTask.holds j p
  freesDevice : ∀ i g g' d, s.Shows ManagerTask.frees i (g, d.vhciPort) →
    s.attachedDevices.lookup g' = some d → g' = g

/-- A step that takes no port, frees none and touches no device. -/
theorem Exclusive.keep (exclusive : s.Exclusive) (devices : t.attachedDevices = s.attachedDevices)
    (bits : ∀ p, s.ports.used p = true → t.ports.used p = true)
    (holds : ∀ i p, t.Shows ManagerTask.holds i p → s.Shows ManagerTask.holds i p)
    (frees : ∀ i b, t.Shows ManagerTask.frees i b → s.Shows ManagerTask.frees i b)
    (freed : ∀ i b, s.Shows ManagerTask.freed i b → t.Shows ManagerTask.freed i b) :
    t.Exclusive where
  holderBit i p h := bits p (exclusive.holderBit i p (holds i p h))
  holderOne i j p h h' := exclusive.holderOne i j p (holds i p h) (holds j p h')
  deviceBit g d there := by
    rw [devices] at there
    exact (exclusive.deviceBit g d there).imp (bits _) fun ⟨i, h⟩ => ⟨i, freed i _ h⟩
  distinct := by
    rw [PortsDistinct, devices]
    exact exclusive.distinct
  apart i g d h there := by
    rw [devices] at there
    obtain ⟨j, h'⟩ := exclusive.apart i g d (holds i _ h) there
    exact ⟨j, freed j _ h'⟩
  freesBit i g p h := bits p (exclusive.freesBit i g p (frees i _ h))
  freesOne i j g g' p h h' := exclusive.freesOne i j g g' p (frees i _ h) (frees j _ h')
  freesHolder i j g p h h' := exclusive.freesHolder i j g p (frees i _ h) (holds j p h')
  freesDevice i g g' d h there := by
    rw [devices] at there
    exact exclusive.freesDevice i g g' d (frees i _ h) there

theorem Exclusive.allocates (exclusive : s.Exclusive) {old next : ManagerTask} {ports : Ports}
    (at' : s.tasks[i]? = some old) (idle : old.holds = none ∧ old.frees = none ∧ old.freed = none)
    (hand : next.holds = some p ∧ next.frees = none) (clear : s.ports.used p = false)
    (bits : ∀ q, s.ports.used q = true → ports.used q = true) (mine : ports.used p = true) :
    Exclusive { s.setTask i next with ports } := by
  have unset : ∀ {q}, s.ports.used q = true → q ≠ p := by
    rintro q used rfl
    cases clear.symm.trans used
  have holder : ∀ {j q}, (s.setTask i next).Shows ManagerTask.holds j q →
      (j = i ∧ q = p) ∨ s.Shows ManagerTask.holds j q := by
    intro j q h
    rcases shows_set h with ⟨own, has⟩ | ⟨-, before⟩
    · exact .inl ⟨own, Option.some.inj (has.symm.trans hand.1)⟩
    · exact .inr before
  have before : ∀ {j b}, (s.setTask i next).Shows ManagerTask.frees j b →
      s.Shows ManagerTask.frees j b := fun h => shows_dropped h hand.2
  constructor
  case holderBit =>
    intro j q h
    rcases holder h with ⟨-, rfl⟩ | earlier
    · exact mine
    · exact bits q (exclusive.holderBit j q earlier)
  case holderOne =>
    intro j k q h h'
    rcases holder h with ⟨rfl, rfl⟩ | first <;> rcases holder h' with ⟨rfl, same⟩ | second
    · rfl
    · exact absurd rfl (unset (exclusive.holderBit k q second))
    · exact absurd same (unset (exclusive.holderBit j q first))
    · exact exclusive.holderOne j k q first second
  case deviceBit =>
    intro g d there
    exact (exclusive.deviceBit g d there).imp (bits _) fun ⟨j, h⟩ => ⟨j, h.kept at' idle.2.2⟩
  case distinct => exact exclusive.distinct
  case apart =>
    intro j g d h there
    rcases holder h with ⟨-, same⟩ | earlier
    · rcases exclusive.deviceBit g d there with used | ⟨k, leaving⟩
      · exact absurd same (unset used)
      · exact ⟨k, leaving.kept at' idle.2.2⟩
    · obtain ⟨k, leaving⟩ := exclusive.apart j g d earlier there
      exact ⟨k, leaving.kept at' idle.2.2⟩
  case freesBit => exact fun j g q h => bits q (exclusive.freesBit j g q (before h))
  case freesOne => exact fun j k g g' q h h' => exclusive.freesOne j k g g' q (before h) (before h')
  case freesHolder =>
    intro j k g q h h'
    rcases holder h' with ⟨-, same⟩ | earlier
    · exact absurd same (unset (exclusive.freesBit j g q (before h)))
    · exact exclusive.freesHolder j k g q (before h) earlier
  case freesDevice => exact fun j g g' d h => exclusive.freesDevice j g g' d (before h)

theorem Exclusive.finds (exclusive : s.Exclusive) {old next : ManagerTask}
    (at' : s.tasks[i]? = some old) (idle : old.holds = none ∧ old.frees = none ∧ old.freed = none)
    (there : s.attachedDevices.lookup g = some d)
    (hand : next.holds = none ∧ next.frees = some (g, d.vhciPort))
    (alone : ∀ task ∈ s.tasks, task.frees.map Prod.snd ≠ some d.vhciPort ∧
      task.freed.map Prod.snd ≠ some d.vhciPort) : (s.setTask i next).Exclusive := by
  have notFrees : ∀ {j g'}, ¬ s.Shows ManagerTask.frees j (g', d.vhciPort) := by
    rintro j g' ⟨task, present, has⟩
    exact (alone task (List.mem_of_getElem? present)).1 (congrArg (Option.map Prod.snd) has)
  have notFreed : ∀ {j g'}, ¬ s.Shows ManagerTask.freed j (g', d.vhciPort) := by
    rintro j g' ⟨task, present, has⟩
    exact (alone task (List.mem_of_getElem? present)).2 (congrArg (Option.map Prod.snd) has)
  have used : s.ports.used d.vhciPort = true :=
    (exclusive.deviceBit g d there).resolve_right fun ⟨j, h⟩ => notFreed h
  have holder : ∀ {j q}, (s.setTask i next).Shows ManagerTask.holds j q →
      s.Shows ManagerTask.holds j q := fun h => shows_dropped h hand.1
  have frees : ∀ {j g' q}, (s.setTask i next).Shows ManagerTask.frees j (g', q) →
      (j = i ∧ g' = g ∧ q = d.vhciPort) ∨ s.Shows ManagerTask.frees j (g', q) := by
    intro j g' q h
    rcases shows_set h with ⟨own, has⟩ | ⟨-, before⟩
    · obtain ⟨rfl, rfl⟩ := Prod.mk.inj (Option.some.inj (has.symm.trans hand.2))
      exact .inl ⟨own, rfl, rfl⟩
    · exact .inr before
  constructor
  case holderBit => exact fun j q h => exclusive.holderBit j q (holder h)
  case holderOne => exact fun j k q h h' => exclusive.holderOne j k q (holder h) (holder h')
  case deviceBit =>
    intro g' d' there'
    exact (exclusive.deviceBit g' d' there').imp_right fun ⟨j, h⟩ => ⟨j, h.kept at' idle.2.2⟩
  case distinct => exact exclusive.distinct
  case apart =>
    intro j g' d' h there'
    obtain ⟨k, leaving⟩ := exclusive.apart j g' d' (holder h) there'
    exact ⟨k, leaving.kept at' idle.2.2⟩
  case freesBit =>
    intro j g' q h
    rcases frees h with ⟨-, -, rfl⟩ | before
    · exact used
    · exact exclusive.freesBit j g' q before
  case freesOne =>
    intro j k g₁ g₂ q h h'
    rcases frees h with ⟨rfl, -, rfl⟩ | first <;> rcases frees h' with ⟨rfl, -, same⟩ | second
    · rfl
    · exact absurd second notFrees
    · exact absurd (same ▸ first) notFrees
    · exact exclusive.freesOne j k g₁ g₂ q first second
  case freesHolder =>
    intro j k g' q h h'
    rcases frees h with ⟨-, -, rfl⟩ | before
    · obtain ⟨l, leaving⟩ := exclusive.apart k g d (holder h') there
      exact notFreed leaving
    · exact exclusive.freesHolder j k g' q before (holder h')
  case freesDevice =>
    intro j g₁ g₂ d₂ h there₂
    rcases frees h with ⟨-, rfl, same⟩ | before
    · exact exclusive.distinct g₂ g₁ d₂ d there₂ there same
    · exact exclusive.freesDevice j g₁ g₂ d₂ before there₂

theorem Exclusive.stores (exclusive : s.Exclusive) {old next : ManagerTask}
    (at' : s.tasks[i]? = some old) (holding : old.holds = some d.vhciPort)
    (idle : old.frees = none ∧ old.freed = none)
    (hand : next.holds = none ∧ next.frees = none)
    (alone : ∀ task ∈ s.tasks, task.freed.map Prod.snd ≠ some d.vhciPort) :
    Exclusive { s.setTask i next with attachedDevices := s.attachedDevices.insert g d } := by
  have mine : s.Shows ManagerTask.holds i d.vhciPort := ⟨old, at', holding⟩
  have used := exclusive.holderBit i _ mine
  have notFreed : ∀ {j g'}, ¬ s.Shows ManagerTask.freed j (g', d.vhciPort) := by
    rintro j g' ⟨task, present, has⟩
    exact alone task (List.mem_of_getElem? present) (congrArg (Option.map Prod.snd) has)
  have holder : ∀ {j q}, (s.setTask i next).Shows ManagerTask.holds j q →
      j ≠ i ∧ s.Shows ManagerTask.holds j q := by
    intro j q h
    rcases shows_set h with ⟨-, has⟩ | before
    · cases has.symm.trans hand.1
    · exact before
  have before : ∀ {j b}, (s.setTask i next).Shows ManagerTask.frees j b →
      s.Shows ManagerTask.frees j b := fun h => shows_dropped h hand.2
  -- a device of the new map is the new one or one of the old map
  have device : ∀ {g' d'}, (s.attachedDevices.insert g d).lookup g' = some d' →
      (g' = g ∧ d' = d) ∨ s.attachedDevices.lookup g' = some d' := by
    intro g' d' there
    exact (AList.lookup_insert_eq_some.mp there).imp_right And.right
  have other : ∀ {g' d'}, s.attachedDevices.lookup g' = some d' → d'.vhciPort ≠ d.vhciPort := by
    intro g' d' there same
    obtain ⟨k, leaving⟩ := exclusive.apart i g' d' (same ▸ mine) there
    exact notFreed (same ▸ leaving)
  constructor
  case holderBit => exact fun j q h => exclusive.holderBit j q (holder h).2
  case holderOne => exact fun j k q h h' => exclusive.holderOne j k q (holder h).2 (holder h').2
  case deviceBit =>
    intro g' d' there
    rcases device there with ⟨-, rfl⟩ | earlier
    · exact .inl used
    · exact (exclusive.deviceBit g' d' earlier).imp_right fun ⟨j, h⟩ => ⟨j, h.kept at' idle.2⟩
  case distinct =>
    intro g₁ g₂ d₁ d₂ there₁ there₂ same
    rcases device there₁ with ⟨rfl, rfl⟩ | first <;> rcases device there₂ with ⟨rfl, rfl⟩ | second
    · rfl
    · exact absurd same.symm (other second)
    · exact absurd same (other first)
    · exact exclusive.distinct g₁ g₂ d₁ d₂ first second same
  case apart =>
    intro j g' d' h there
    obtain ⟨elsewhere, earlier⟩ := holder h
    rcases device there with ⟨-, rfl⟩ | present
    · exact absurd (exclusive.holderOne j i _ earlier mine) elsewhere
    · obtain ⟨k, leaving⟩ := exclusive.apart j g' d' earlier present
      exact ⟨k, leaving.kept at' idle.2⟩
  case freesBit => exact fun j g' q h => exclusive.freesBit j g' q (before h)
  case freesOne =>
    exact fun j k g₁ g₂ q h h' => exclusive.freesOne j k g₁ g₂ q (before h) (before h')
  case freesHolder =>
    exact fun j k g' q h h' => exclusive.freesHolder j k g' q (before h) (holder h').2
  case freesDevice =>
    intro j g₁ g₂ d₂ h there
    rcases device there with ⟨-, rfl⟩ | present
    · exact absurd mine (exclusive.freesHolder j i g₁ _ (before h))
    · exact exclusive.freesDevice j g₁ g₂ d₂ (before h) present

theorem Exclusive.frees (exclusive : s.Exclusive) {old next : ManagerTask}
    (at' : s.tasks[i]? = some old) (finding : old.frees = some (g, p)) (idle : old.freed = none)
    (hand : next.holds = none ∧ next.frees = none ∧ next.freed = some (g, p)) :
    Exclusive { s.setTask i next with ports := s.ports.freePort p } := by
  have mine : s.Shows ManagerTask.frees i (g, p) := ⟨old, at', finding⟩
  have holder : ∀ {j q}, (s.setTask i next).Shows ManagerTask.holds j q →
      s.Shows ManagerTask.holds j q := fun h => shows_dropped h hand.1
  have before : ∀ {j b}, (s.setTask i next).Shows ManagerTask.frees j b →
      j ≠ i ∧ s.Shows ManagerTask.frees j b := by
    intro j b h
    rcases shows_set h with ⟨-, has⟩ | earlier
    · cases has.symm.trans hand.2.1
    · exact earlier
  constructor
  case holderBit =>
    intro j q h
    refine Ports.used_free.mpr ⟨exclusive.holderBit j q (holder h), ?_⟩
    rintro rfl
    exact exclusive.freesHolder i j g q mine (holder h)
  case holderOne => exact fun j k q h h' => exclusive.holderOne j k q (holder h) (holder h')
  case deviceBit =>
    intro g' d' there
    by_cases own : d'.vhciPort = p
    · subst own
      obtain rfl := exclusive.freesDevice i g g' d' mine there
      exact .inr ⟨i, shows_next at' hand.2.2⟩
    · refine (exclusive.deviceBit g' d' there).imp (fun used => ?_) fun ⟨j, h⟩ => ?_
      · exact Ports.used_free.mpr ⟨used, own⟩
      · exact ⟨j, h.kept at' idle⟩
  case distinct => exact exclusive.distinct
  case apart =>
    intro j g' d' h there
    obtain ⟨k, leaving⟩ := exclusive.apart j g' d' (holder h) there
    exact ⟨k, leaving.kept at' idle⟩
  case freesBit =>
    intro j g' q h
    obtain ⟨elsewhere, earlier⟩ := before h
    refine Ports.used_free.mpr ⟨exclusive.freesBit j g' q earlier, ?_⟩
    rintro rfl
    exact elsewhere (exclusive.freesOne j i g' g q earlier mine)
  case freesOne =>
    exact fun j k g₁ g₂ q h h' => exclusive.freesOne j k g₁ g₂ q (before h).2 (before h').2
  case freesHolder =>
    exact fun j k g' q h h' => exclusive.freesHolder j k g' q (before h).2 (holder h')
  case freesDevice => exact fun j g₁ g₂ d₂ h => exclusive.freesDevice j g₁ g₂ d₂ (before h).2

theorem Exclusive.removes (exclusive : s.Exclusive) {old next : ManagerTask}
    (at' : s.tasks[i]? = some old) (own : ∀ g' q, old.freed = some (g', q) → g' = g)
    (hand : next.holds = none ∧ next.frees = none) :
    Exclusive { s.setTask i next with attachedDevices := s.attachedDevices.erase g } := by
  have holder : ∀ {j q}, (s.setTask i next).Shows ManagerTask.holds j q →
      s.Shows ManagerTask.holds j q := fun h => shows_dropped h hand.1
  have before : ∀ {j b}, (s.setTask i next).Shows ManagerTask.frees j b →
      s.Shows ManagerTask.frees j b := fun h => shows_dropped h hand.2
  have device : ∀ {g' d'}, (s.attachedDevices.erase g).lookup g' = some d' →
      g' ≠ g ∧ s.attachedDevices.lookup g' = some d' := AList.lookup_erase_eq_some.mp
  have leaving : ∀ {g' q}, g' ≠ g → (∃ j, s.Shows ManagerTask.freed j (g', q)) →
      ∃ j, (s.setTask i next).Shows ManagerTask.freed j (g', q) := by
    rintro g' q different ⟨j, h⟩
    refine ⟨j, h.other fun same => ?_⟩
    subst same
    obtain ⟨task, there, has⟩ := h
    cases at'.symm.trans there
    exact different (own g' q has)
  constructor
  case holderBit => exact fun j q h => exclusive.holderBit j q (holder h)
  case holderOne => exact fun j k q h h' => exclusive.holderOne j k q (holder h) (holder h')
  case deviceBit =>
    intro g' d' there
    obtain ⟨different, present⟩ := device there
    exact (exclusive.deviceBit g' d' present).imp_right (leaving different)
  case distinct =>
    exact fun g₁ g₂ d₁ d₂ there₁ there₂ =>
      exclusive.distinct g₁ g₂ d₁ d₂ (device there₁).2 (device there₂).2
  case apart =>
    intro j g' d' h there
    obtain ⟨different, present⟩ := device there
    exact leaving different (exclusive.apart j g' d' (holder h) present)
  case freesBit => exact fun j g' q h => exclusive.freesBit j g' q (before h)
  case freesOne =>
    exact fun j k g₁ g₂ q h h' => exclusive.freesOne j k g₁ g₂ q (before h) (before h')
  case freesHolder =>
    exact fun j k g' q h h' => exclusive.freesHolder j k g' q (before h) (holder h')
  case freesDevice =>
    exact fun j g₁ g₂ d₂ h there => exclusive.freesDevice j g₁ g₂ d₂ (before h) (device there).2

/-- A step that leaves everybody's hand, the map of the devices and the set bits. -/
theorem Exclusive.turns (exclusive : s.Exclusive) {old next : ManagerTask}
    (at' : s.tasks[i]? = some old) (tasks : t.tasks = (s.setTask i next).tasks)
    (devices : t.attachedDevices = s.attachedDevices)
    (bits : ∀ q, s.ports.used q = true → t.ports.used q = true)
    (holds : next.holds = none ∨ next.holds = old.holds)
    (frees : next.frees = none ∨ next.frees = old.frees) (freed : next.freed = old.freed) :
    t.Exclusive := by
  have same : ∀ {β : Type} {hand : ManagerTask → Option β} {j : Nat} {b : β},
      t.Shows hand j b ↔ (s.setTask i next).Shows hand j b := by
    intro β hand j b
    rw [Shows, Shows, tasks]
  refine exclusive.keep devices bits (fun j q h => ?_) (fun j b h => ?_) fun j b h => ?_
  · exact holds.elim (shows_dropped (same.mp h)) (shows_turn (same.mp h) at')
  · exact frees.elim (shows_dropped (same.mp h)) (shows_turn (same.mp h) at')
  · exact same.mpr (h.turn at' freed)

theorem exclusive_step (exclusive : s.Exclusive) (undisturbed : s.Undisturbed a)
    (h : s.step a = some (t, out)) : t.Exclusive := by
  cases step_does h with
  | begun tasks call few idle =>
      refine exclusive.keep rfl (fun _ => id) (fun j q h => ?_) (fun j b h => ?_)
        (fun j b h => h.begin)
      · exact shows_begin h fun task present => (idle task present).holds
      · exact shows_begin h fun task present => (idle task present).frees
  | turn at' alike =>
      exact exclusive.turns at' rfl rfl (fun _ => id) (.inr alike.holds) (.inr alike.frees)
        alike.freed
  | notFound at' missing after =>
      rcases after with rfl | rfl
      · exact exclusive.turns at' rfl rfl (fun _ => id) (.inl rfl) (.inl rfl) rfl
      · exact exclusive.turns at' rfl rfl (fun _ => id) (.inl rfl) (.inl rfl) rfl
  | found at' unlocked there =>
      refine exclusive.finds at' ⟨rfl, rfl, rfl⟩ there ⟨rfl, rfl⟩ (undisturbed _ ?_)
      simp only [finding, at', there, Option.map_some, Option.mem_def]
  | allocated at' given =>
      obtain ⟨-, clear, -, bits⟩ := Ports.allocate_ok given
      exact exclusive.allocates at' ⟨rfl, rfl, rfl⟩ ⟨rfl, rfl⟩ clear
        (fun q used => (bits q).mpr (.inl (.inl used))) ((bits _).mpr (.inr rfl))
  | exhausted at' refused =>
      obtain ⟨-, bits⟩ := Ports.allocate_error refused
      exact exclusive.turns at' rfl rfl (fun q used => (bits q).mpr (.inl used)) (.inl rfl)
        (.inl rfl) rfl
  | stored at' unlocked =>
      refine exclusive.stores at' rfl ⟨rfl, rfl⟩ ⟨rfl, rfl⟩ (undisturbed _ ?_)
      simp only [storing, at', Option.bind_some, ManagerTask.holds, Option.mem_def]
  | unbridged at' => exact exclusive.turns at' rfl rfl (fun _ => id) (.inl rfl) (.inr rfl) rfl
  | failed at' | bridgeStored at' | gaveUp at' =>
      exact exclusive.turns at' rfl rfl (fun _ => id) (.inl rfl) (.inl rfl) rfl
  | freed at' => exact exclusive.frees at' rfl rfl ⟨rfl, rfl, rfl⟩
  | removed at' idle =>
      refine exclusive.removes at' (fun g' q has => ?_) ⟨idle.holds, idle.frees⟩
      cases has
      rfl

theorem Exclusive.freesOwn (exclusive : s.Exclusive) (h : s.step a = some (t, out)) :
    s.FreesOwn out := by
  intro g p freed
  cases step_does h with
  | freed at' =>
      intro g' d there same
      cases List.mem_singleton.mp freed
      subst same
      exact exclusive.freesDevice _ g g' d ⟨_, at', rfl⟩ there
  | stored | removed => exact absurd freed (freed_not_pushed g _)
  | allocated | exhausted | failed => simp at freed
  | begun | turn | notFound | found | bridgeStored | unbridged | gaveUp => cases freed

theorem exclusive_new (content : String) : (new content).Exclusive := by
  have idle : ∀ {β : Type} {hand : ManagerTask → Option β} {j : Nat} {b : β},
      ¬ (new content).Shows hand j b := by
    rintro β hand j b ⟨task, there, -⟩
    cases there
  constructor
  case deviceBit =>
    intro g d there
    cases there
  case distinct =>
    intro g g' d d' there
    cases there
  case freesHolder => exact fun i j g p h => absurd h idle
  all_goals
    intros
    exact absurd ‹Shows _ _ _ _› idle

theorem exclusive_run {content : String}
    (run : linuxManager.Exec Undisturbed (new content) tr s) : s.Exclusive :=
  run.stateInvariant (exclusive_new content)
    fun _ _ _ _ => exclusive_step

/-- In runs whose removals do not disturb one another, no two devices ever have the
same port, and a step that frees a port frees that of the device it removes. -/
theorem ports_exclusive {content : String}
    (run : linuxManager.Exec Undisturbed (new content) tr s) :
    s.PortsDistinct ∧ ∀ a t out, s.step a = some (t, out) → s.FreesOwn out :=
  ⟨(exclusive_run run).distinct, fun _ _ _ => (exclusive_run run).freesOwn⟩

/-- A whole `attach_device` call. -/
def exampleAttached (task : Nat) (handle : Nat) : List ManagerStep :=
  exampleAttach task handle none ++ [.allocate task, .createBridge task true,
    .attachToVhci task true, .storeDevice task, .storeBridge task]

def exampleId (handle : Nat) : GlobalDeviceId := ⟨⟨"a"⟩, ⟨handle⟩⟩

theorem new_no_status : new "" = ⟨∅, ∅, .empty, []⟩ := by
  rw [new, read_no_status]

/-- Two devices are attached; one of them is detached. -/
def exampleDetaching : List ManagerStep :=
  exampleAttached 0 1 ++ exampleAttached 1 2 ++
    [.detachDevice (exampleId 1), .look 2, .removeBridge 2, .detachFromVhci 2 true]

theorem example_detaching : ∃ tr s t, linuxManager.Exec Undisturbed (new "") tr s ∧
    s.attachedDevices.lookup (exampleId 2) = some ⟨⟨2⟩, exampleInfo, 1⟩ ∧
    s.step (.freePort 2) = some (t, [.freed (exampleId 1) 0]) := by
  rw [new_no_status]
  exact ⟨_, _, _, Machine.Exec.of_within .start
    (rfl : (linuxManager.within Undisturbed).run _ exampleDetaching = some (_, _)), rfl, rfl⟩

theorem ports_exclusive_detaching : ∃ s : LinuxVirtualUsbManager,
    s.attachedDevices.lookup (exampleId 2) = some ⟨⟨2⟩, exampleInfo, 1⟩ ∧ s.PortsDistinct ∧
      s.FreesOwn [.freed (exampleId 1) 0] := by
  obtain ⟨tr, s, t, run, there, h⟩ := example_detaching
  exact ⟨s, there, (ports_exclusive run).1, (ports_exclusive run).2 _ _ _ h⟩

/-- Two removal notices for one device overlap, and the second is still to free the
port when the port has been given to another device. -/
def exampleOverlap : List ManagerStep :=
  exampleAttached 0 1 ++
    [.handleDeviceRemoved ⟨"a"⟩ [⟨1⟩], .handleDeviceRemoved ⟨"a"⟩ [⟨1⟩], .look 1, .look 2,
      .removeBridge 1, .detachFromVhci 1 true, .freePort 1, .removeDevice 1] ++
    exampleAttached 3 2 ++ [.removeBridge 2, .detachFromVhci 2 true]

/-- The port of an attached device is freed under it and then given out again. -/
theorem overlapping_removals_share_port :
    (∃ tr s t, linuxManager.Reach (new "") tr s ∧
      s.step (.freePort 2) = some (t, [.freed (exampleId 1) 0]) ∧
      ¬ s.FreesOwn [.freed (exampleId 1) 0]) ∧
    ∃ tr s, linuxManager.Reach (new "") tr s ∧ ¬ s.PortsDistinct := by
  rw [new_no_status]
  constructor
  · refine ⟨_, _, _, Machine.Reach.of_run
      (rfl : linuxManager.run _ exampleOverlap = some (_, _)), rfl, fun own => ?_⟩
    have same := own (exampleId 1) 0 List.mem_cons_self (exampleId 2) ⟨⟨2⟩, exampleInfo, 0⟩ rfl rfl
    exact absurd same (by decide)
  · refine ⟨_, _, Machine.Reach.of_run (rfl : linuxManager.run _
      (exampleOverlap ++ .freePort 2 :: exampleAttached 4 3) = some (_, _)), fun distinct => ?_⟩
    have same := distinct (exampleId 2) (exampleId 3) ⟨⟨2⟩, exampleInfo, 0⟩
      ⟨⟨3⟩, exampleInfo, 0⟩ rfl rfl rfl
    exact absurd same (by decide)

end LinuxVirtualUsbManager
end P2pUsb
