import P2pUsb.Usb.Debounce

/-! A device that is replaced by another one at its address. Attachments end with the device
they were made to as long as no arrival replaces the pending departure of a registered
device; where one does, the old entry stays. -/
namespace P2pUsb
namespace DeviceManager
variable {m m' : DeviceManager} {env : UsbEnv} {key : BusAddress} {n : Nat} {filters : List String}
  {tr out part : List HotplugEvent} {now : Instant} {fired : List (UsbEnv × DebouncedEvent)}

def AttachedFrom (m : DeviceManager) (key : BusAddress) (n : Nat) : Prop :=
  ∀ h id client, m.attached.lookup h = some (id, client) → m.deviceIds.lookup id = some key →
    n ≤ h.val

def BroughtBy (m : DeviceManager) (key : BusAddress) (part : List HotplugEvent) : Prop :=
  ∀ d, m.devices.lookup key = some d → ∃ now env event, .fired now env event ∈ part ∧
    event.key = key ∧ event.eventType = .arrived ∧ env.Shows key d.device

/-- After each departure no handle from before is attached, and the entry is of a device that
arrived since. -/
def DeparturesSettled (key : BusAddress) (tr : List HotplugEvent) (m : DeviceManager) : Prop :=
  ∀ before c n after, tr = before ++ .scheduled c n :: after → c.key = key →
    c.eventType = .left → m.AttachedFrom key n ∧ m.BroughtBy key after

/-- The law of replugging, for every device with nothing pending. There is an entry if the last
callback was the arrival of a device that was shown when it fired and can be shared. -/
structure ReplugLaw (filters : List String) (tr : List HotplugEvent) (m : DeviceManager) :
    Prop where
  replaced : ∀ key ∉ m.debounceState, DeparturesSettled key tr m
  registered : ∀ key ∉ m.debounceState, ∀ c, lastCallback key tr = some c →
    c.eventType = .arrived → ∃ now env event, lastFiring key tr = some (now, env, event) ∧
      ((∃ device, env.Shows key device ∧ device.Sharable filters) → key ∈ m.devices)

/-- An arrival does not replace the pending departure of a device that is still registered. -/
def Spaced (m : DeviceManager) : HotplugCall → Prop
  | .callback c => c.eventType = .arrived → ∀ event, m.debounceState.lookup c.key = some event →
      event.eventType = .left → c.key ∉ m.devices
  | .process .. | .command .. => True

theorem vacant_settled (inv : m.RegistryInv) (free : m.devices.lookup key = none) :
    DeparturesSettled key tr m := by
  refine fun _ _ _ _ _ _ _ => ⟨fun h id client _ registered => ?_, fun d there => ?_⟩
  · obtain ⟨d, there, -⟩ := inv.id_device id key registered
    rw [free] at there
    cases there
  · rw [free] at there
    cases there

theorem AttachedFrom.update (h : m.AttachedFrom key n) (inv : m.RegistryInv) (step : m.Update m')
    (issued : n ≤ m.nextHandleId) : m'.AttachedFrom key n := by
  intro handle id client held registered
  rcases step.attached_origin held with before | rfl
  · obtain ⟨d, there, same⟩ := (inv.update step).id_device id key registered
    rcases step.device_origin there with ⟨d₀, there₀, sameDevice⟩ | new
    · have old := inv.device_key key d₀ there₀
      rw [sameDevice.2.1, same] at old
      exact h handle id client before old
    · have present := inv.attached_registered before
      rw [← same, new] at present
      exact absurd present inv.next_id_free
  · exact issued

theorem AttachedFrom.events (h : m.AttachedFrom key n) (inv : m.RegistryInv)
    (issued : n ≤ m.nextHandleId) (fired : List (UsbEnv × DebouncedEvent)) :
    (UsbWorkerThread.afterEvents m fired).AttachedFrom key n := by
  induction fired generalizing m with
  | nil => exact h
  | cons f rest ih =>
      have step := m.process_ready_event_update f.1 f.2
      exact ih (h.update inv step issued) (inv.update step) (Nat.le_trans issued step.counters.2)

theorem after_events_counter (m : DeviceManager) (fired : List (UsbEnv × DebouncedEvent)) :
    m.nextHandleId ≤ (UsbWorkerThread.afterEvents m fired).nextHandleId := by
  induction fired generalizing m with
  | nil => exact Nat.le_refl _
  | cons f rest ih =>
      have step := m.process_ready_event_update f.1 f.2
      exact Nat.le_trans step.counters.2 (ih (m.processReadyEvent f.1 f.2).2)

theorem command_entry_device (inv : m.RegistryInv) (env : UsbEnv) (cmd : UsbCommand)
    {d : UsbDevice} (there : (m.handleCommandInner env cmd).2.devices.lookup key = some d) :
    ∃ d₀, m.devices.lookup key = some d₀ ∧ d₀.SameDevice d := by
  have step := m.handle_command_update env cmd
  rcases step.device_origin there with before | new
  · exact before
  · have registered := (inv.update step).device_key key d there
    rw [new, (m.command_frame env cmd).1] at registered
    exact absurd (AList.mem_of_lookup registered) inv.next_id_free

/-- Departures stay settled when handles are not older and an entry keeps its device or comes
from an arrival that has just fired. -/
theorem DeparturesSettled.keep (h : DeparturesSettled key tr m)
    (quiet : ∀ c n, .scheduled c n ∈ out → c.key = key → c.eventType ≠ .left)
    (issued : ∀ c n, .scheduled c n ∈ tr → n ≤ m.nextHandleId)
    (attached : ∀ n ≤ m.nextHandleId, m.AttachedFrom key n → m'.AttachedFrom key n)
    (entries : ∀ d, m'.devices.lookup key = some d →
      (∃ d₀, m.devices.lookup key = some d₀ ∧ d₀.device = d.device) ∨
        ∃ now env event, .fired now env event ∈ out ∧ event.key = key ∧
          event.eventType = .arrived ∧ env.Shows key d.device) :
    DeparturesSettled key (tr ++ out) m' := by
  intro before c n after split own departure
  rcases split_append split with ⟨rest, here, rfl⟩ | ⟨front, -, late⟩
  · obtain ⟨from_, brought⟩ := h before c n rest here own departure
    have old := issued c n (here ▸ List.mem_append_right _ List.mem_cons_self)
    refine ⟨attached n old from_, fun d there => ?_⟩
    rcases entries d there with ⟨d₀, there₀, same⟩ | ⟨now, env, event, shown, rest⟩
    · obtain ⟨now, env, event, shown, at_, arrival, shows⟩ := brought d₀ there₀
      exact ⟨now, env, event, List.mem_append_left _ shown, at_, arrival, same ▸ shows⟩
    · exact ⟨now, env, event, List.mem_append_right _ shown, rest⟩
  · exact absurd departure
      (quiet c n (late ▸ List.mem_append_right _ List.mem_cons_self) own)

/-- What carries the law through a run, for one address: while no departure is pending, every
departure is settled. -/
structure Replaces (key : BusAddress) (tr : List HotplugEvent) (m : DeviceManager) : Prop where
  issued : ∀ c n, .scheduled c n ∈ tr → n ≤ m.nextHandleId
  settled : (∃ event, m.debounceState.lookup key = some event ∧ event.eventType = .left) ∨
    DeparturesSettled key tr m

theorem issued_append (issued : ∀ c n, HotplugEvent.scheduled c n ∈ tr → n ≤ m.nextHandleId)
    (counter : m.nextHandleId ≤ m'.nextHandleId)
    (new : ∀ c n, HotplugEvent.scheduled c n ∈ out → n ≤ m'.nextHandleId) :
    ∀ c n, HotplugEvent.scheduled c n ∈ tr ++ out → n ≤ m'.nextHandleId := by
  intro c n shown
  rcases List.mem_append.mp shown with old | late
  · exact Nat.le_trans (issued c n old) counter
  · exact new c n late

theorem Replaces.callback (h : Replaces key tr m) (inv : m.RegistryInv) (c : HotplugCallback)
    (spaced : m.Spaced (.callback c)) : Replaces key (tr ++ [.scheduled c m.nextHandleId])
      (m.scheduleDebouncedEvent c.now c.bus c.address c.eventType) := by
  have only : ∀ c' n, HotplugEvent.scheduled c' n ∈ [HotplugEvent.scheduled c m.nextHandleId] →
      c' = c ∧ n = m.nextHandleId :=
    fun c' n shown => HotplugEvent.scheduled.inj (List.mem_singleton.mp shown)
  have pending : (m.scheduleDebouncedEvent c.now c.bus c.address c.eventType).debounceState.lookup
      key = if key = c.key then some c.pending else m.debounceState.lookup key :=
    AList.lookup_insert_eq _ _ _ _
  refine ⟨issued_append h.issued (Nat.le_refl _) fun c' n shown => (only c' n shown).2.le, ?_⟩
  by_cases departs : c.key = key ∧ c.eventType = .left
  · exact .inl ⟨c.pending, pending.trans (if_pos departs.1.symm), departs.2⟩
  · rcases h.settled with ⟨event, found, departure⟩ | law
    · by_cases own : c.key = key
      · -- the arrival replaces a departure, so no device is registered here
        have arrival : c.eventType = .arrived := by
          cases type : c.eventType with
          | arrived => rfl
          | left => exact absurd ⟨own, type⟩ departs
        subst own
        have free := AList.lookup_eq_none.mpr (spaced arrival event found departure)
        exact .inr (vacant_settled (inv.update (.debounce _)) free)
      · exact .inl ⟨event, (pending.trans (if_neg (Ne.symm own))).trans found, departure⟩
    · exact .inr (law.keep
        (fun c' n shown own departure => departs ((only c' n shown).1 ▸ ⟨own, departure⟩))
        h.issued (fun _ _ from_ => from_) fun d there => .inl ⟨d, there, rfl⟩)

theorem report_unscheduled {c : HotplugCallback} : .scheduled c n ∉ report now fired := by
  intro shown
  obtain ⟨f, -, wrong⟩ := List.mem_map.mp shown
  cases wrong

theorem Replaces.process (h : Replaces key tr m) (inv : m.HotplugInv filters)
    (batch : (fired.map Prod.snd).Perm (m.readyEvents now)) :
    Replaces key (tr ++ report now fired)
      (UsbWorkerThread.afterEvents (m.takeReadyEvents now) fired) := by
  have taken := inv.take now
  have attached : ∀ n ≤ m.nextHandleId, m.AttachedFrom key n →
      (UsbWorkerThread.afterEvents (m.takeReadyEvents now) fired).AttachedFrom key n :=
    fun n old from_ => AttachedFrom.events (m := m.takeReadyEvents now) from_ taken.registry old
      fired
  have unscheduled : ∀ c n, .scheduled c n ∈ report now fired → c.key = key → c.eventType ≠ .left :=
    fun c n shown => absurd shown report_unscheduled
  refine ⟨issued_append h.issued (after_events_counter (m.takeReadyEvents now) fired)
    fun c n shown => absurd shown report_unscheduled, ?_⟩
  rcases batch_cases inv.keyed batch key with
    ⟨others, waits⟩ | ⟨before, env, e, after, rfl, earlier, later, own, found, ready⟩
  · rcases h.settled with ⟨event, found, departure⟩ | law
    · exact .inl ⟨event, (batch_pending waits fired).trans found, departure⟩
    · refine .inr (law.keep unscheduled h.issued attached fun d there => ?_)
      rw [after_events_lookup others] at there
      exact .inl ⟨d, there, rfl⟩
  · refine .inr ?_
    have entry := batch_entry later (m.takeReadyEvents now) before env e
    have unchanged : (UsbWorkerThread.afterEvents (m.takeReadyEvents now) before).devices.lookup
      key =
        m.devices.lookup key := after_events_lookup earlier
    cases type : e.eventType with
    | left =>
        refine vacant_settled (taken.events _).registry (entry.trans ?_)
        exact own ▸ AList.lookup_eq_none.mpr (departure_removes type)
    | arrived =>
        rcases h.settled with ⟨event, other, departure⟩ | law
        · obtain rfl := Option.some.inj (found.symm.trans other)
          cases type.symm.trans departure
        · refine law.keep unscheduled h.issued attached fun d there => ?_
          rw [entry] at there
          rcases process_ready_event_lookup (UsbWorkerThread.afterEvents (m.takeReadyEvents now)
            before) env e key with same | ⟨-, ⟨departure, -⟩ | ⟨-, -, d', new, shown⟩⟩
          · exact .inl ⟨d, unchanged.symm.trans (same.symm.trans there), rfl⟩
          · cases type.symm.trans departure
          · obtain rfl := Option.some.inj (new.symm.trans there)
            exact .inr ⟨now, env, e, List.mem_map.mpr ⟨(env, e),
              List.mem_append_right _ List.mem_cons_self, rfl⟩, own, type, shown⟩

theorem Replaces.command (h : Replaces key tr m) (inv : m.RegistryInv) (env : UsbEnv)
    (cmd : UsbCommand) : Replaces key (tr ++ []) (m.handleCommandInner env cmd).2 := by
  have step := m.handle_command_update env cmd
  refine ⟨issued_append h.issued step.counters.2 fun c n wrong => (nomatch wrong), ?_⟩
  rcases h.settled with ⟨event, found, departure⟩ | law
  · refine .inl ⟨event, ?_, departure⟩
    rw [(m.command_frame env cmd).2, found]
  · refine .inr (law.keep (fun c n wrong => nomatch wrong) h.issued
      (fun n old from_ => from_.update inv step old) fun d there => ?_)
    obtain ⟨d₀, before, same⟩ := command_entry_device inv env cmd there
    exact .inl ⟨d₀, before, same.1⟩

theorem Replaces.step (h : Replaces key tr m) (inv : m.HotplugInv filters) {c : HotplugCall}
    (spaced : m.Spaced c) (taken : m.hotplugStep c = some (m', out)) :
    Replaces key (tr ++ out) m' := by
  cases hotplug_step_does taken with
  | callback c => exact h.callback inv.registry c spaced
  | process now fired batch => exact h.process inv batch
  | command env cmd => exact h.command inv.registry env cmd

theorem replaces_run {config : SharingConfig} {devices : List RusbDevice}
    (run : hotplugCalls.Exec Spaced (initialized filters config devices) tr m) (key : BusAddress) :
    Replaces key tr m := by
  have both : m.HotplugInv filters ∧ Replaces key tr m := by
    refine run.invariant (I := fun tr m => m.HotplugInv filters ∧ Replaces key tr m) ?_ ?_
    · refine ⟨hotplug_inv_initialized filters config devices, fun c n wrong => (nomatch wrong),
        .inr ?_⟩
      intro before c n after wrong
      exact absurd wrong.symm (List.append_ne_nil_of_right_ne_nil _ (List.cons_ne_nil _ _))
    · exact fun tr m c m' out ⟨inv, h⟩ spaced taken => ⟨inv.step taken, h.step inv spaced taken⟩
  exact both.2

/-- The registered device at an address, while no departure is pending there. -/
structure Stays (key : BusAddress) (d : UsbDevice) (m : DeviceManager) : Prop where
  arrival : ∀ event, m.debounceState.lookup key = some event → event.eventType = .arrived
  entry : ∃ d', m.devices.lookup key = some d' ∧ d.SameDevice d'

theorem Stays.step {d : UsbDevice} (h : Stays key d m) (inv : m.HotplugInv filters)
    {c : HotplugCall} (taken : m.hotplugStep c = some (m', out))
    (quiet : ∀ e ∈ out, e.callbackAt key = none) : Stays key d m' := by
  obtain ⟨d', there, same⟩ := h.entry
  cases hotplug_step_does taken with
  | callback c =>
      have other : c.key ≠ key := fun own => by
        have silent := quiet _ List.mem_cons_self
        rw [HotplugEvent.callbackAt, if_pos own] at silent
        cases silent
      refine ⟨fun event found => h.arrival event ?_, h.entry⟩
      exact (AList.lookup_insert_ne (Ne.symm other)).symm.trans found
  | process now fired batch =>
      rcases batch_cases inv.keyed batch key with
        ⟨others, waits⟩ | ⟨before, env, e, after, rfl, earlier, later, own, found, ready⟩
      · have kept := after_events_lookup (m := m.takeReadyEvents now) others
        refine ⟨fun event found => h.arrival event ?_, d', kept.trans there, same⟩
        exact (batch_pending waits fired).symm.trans found
      · have arrival := h.arrival e found
        have before' := (after_events_lookup (m := m.takeReadyEvents now) earlier).trans there
        refine ⟨fun event wrong => ?_, d', ?_, same⟩
        · cases (batch_fired found ready _).symm.trans wrong
        · rw [batch_entry later]
          rcases process_ready_event_lookup (UsbWorkerThread.afterEvents (m.takeReadyEvents now)
            before) env e key with kept | ⟨-, ⟨departure, -⟩ | ⟨-, free, -⟩⟩
          · exact kept.trans before'
          · cases arrival.symm.trans departure
          · cases free.symm.trans before'
  | command env cmd =>
      refine ⟨fun event found => h.arrival event ?_, ?_⟩
      · rwa [(m.command_frame env cmd).2] at found
      · have kept := mt (command_entry inv.registry env cmd key).mp fun none =>
          Option.some_ne_none d' (there.symm.trans none)
        obtain ⟨d₂, after⟩ := Option.ne_none_iff_exists'.mp kept
        obtain ⟨d₁, before, same'⟩ := command_entry_device inv.registry env cmd after
        obtain rfl := Option.some.inj (there.symm.trans before)
        exact ⟨d₂, after, same.trans same'⟩

/-- In a run whose arrivals are spaced the law of replugging holds. After a callback that is not
the old device stays registered, until another callback for its address comes. -/
theorem replug_law {config : SharingConfig} {devices : List RusbDevice}
    (run : hotplugCalls.Exec Spaced (initialized filters config devices) tr m) :
    ReplugLaw filters tr m ∧ ∀ c, ¬ m.Spaced (.callback c) →
      ∃ d, m.devices.lookup c.key = some d ∧ ∀ rest m',
        hotplugCalls.Reach (m.scheduleDebouncedEvent c.now c.bus c.address c.eventType) rest m' →
        (∀ e ∈ rest, e.callbackAt c.key = none) →
        ∃ d', m'.devices.lookup c.key = some d' ∧ d.SameDevice d' := by
  obtain ⟨inv, follows⟩ := follows_run (run.mono fun _ _ _ => trivial)
  refine ⟨⟨fun key free => ?_, fun key free c last arrival => ?_⟩, fun c close => ?_⟩
  · rcases (replaces_run run key).settled with ⟨event, found, -⟩ | law
    · exact absurd (AList.mem_of_lookup found) free
    · exact law
  · obtain ⟨now, env, firing, -, there⟩ :=
      (follows key).decided (AList.lookup_eq_none.mpr free) c last
    refine ⟨now, env, c.pending, firing, fun ⟨device, shown, sharable⟩ => ?_⟩
    exact AList.lookup_isSome.mp (Option.isSome_iff_ne_none.mpr
      (there arrival device shown sharable))
  · simp only [Spaced, Classical.not_imp, not_forall, not_not] at close
    obtain ⟨arrival, event, found, departure, present⟩ := close
    obtain ⟨d, there⟩ := AList.mem_iff.mp present
    refine ⟨d, there, fun rest m' later quiet => ?_⟩
    have started : Stays c.key d (m.scheduleDebouncedEvent c.now c.bus c.address c.eventType) := by
      refine ⟨fun event pending => ?_, d, there, .refl d⟩
      obtain rfl := Option.some.inj ((AList.lookup_insert _).symm.trans pending)
      exact arrival
    have kept : m'.HotplugInv filters ∧
      ((∀ e ∈ rest, e.callbackAt c.key = none) → Stays c.key d m') := by
      refine later.invariant (I := fun rest m' => m'.HotplugInv filters ∧
        ((∀ e ∈ rest, e.callbackAt c.key = none) → Stays c.key d m'))
        ⟨inv.callback c, fun _ => started⟩ ?_
      intro rest m' c' m'' out ⟨inv', stays⟩ _ taken
      refine ⟨inv'.step taken, fun quiet => ?_⟩
      obtain ⟨before, last⟩ := List.forall_mem_append.mp quiet
      exact (stays before).step inv' taken last
    exact (kept.2 quiet).entry

/-- Unplugged, and replaced by another device after the departure has fired. -/
theorem replug_law_spaced : ∃ tr m, hotplugCalls.Exec Spaced
    (initialized [] .default [exampleDevice 0 1 1]) tr m ∧ ReplugLaw [] tr m ∧
      (m.devices.lookup (1, 1)).map (fun d => d.device.ref) = some 1 := by
  have left : hotplugCalls.Exec Spaced (initialized [] .default [exampleDevice 0 1 1]) _ _ :=
    (Machine.Exec.start.next (a := HotplugCall.callback (callbackAt 0 .left))
      (fun wrong => nomatch wrong) rfl).next
      (a := HotplugCall.process (Duration.fromMillis 500)
        [(exampleEnv (Duration.fromMillis 500) [], (callbackAt 0 .left).pending)]) trivial rfl
  have arrived := (left.next (a := HotplugCall.callback (callbackAt 600 .arrived))
    (fun _ event wrong => nomatch wrong) rfl).next
      (a := HotplugCall.process (Duration.fromMillis 1100)
        [(exampleEnv (Duration.fromMillis 1100) [exampleDevice 1 1 1],
          (callbackAt 600 .arrived).pending)]) trivial rfl
  exact ⟨_, _, arrived, (replug_law arrived).1, rfl⟩

/-- A device that is attached is replaced by another one within the debounce period: the entry
is still the old device and the handle is still attached. -/
theorem replug_collapsed : ∃ tr m, hotplugCalls.Reach
    (initialized [] .default [exampleDevice 0 1 1]) tr m ∧
      (m.devices.lookup (1, 1)).map (fun d => d.device.ref) = some 0 ∧
      m.attached.lookup ⟨1⟩ = some (⟨1⟩, "a") ∧ ¬ ReplugLaw [] tr m := by
  have run : hotplugCalls.Reach (initialized [] .default [exampleDevice 0 1 1]) _ _ :=
    (((Machine.Exec.start.next (a := HotplugCall.command (exampleEnv 0 []) (.attachDevice ⟨1⟩ "a"))
      trivial rfl).next (a := HotplugCall.callback (callbackAt 0 .left)) trivial rfl).next
      (a := HotplugCall.callback (callbackAt 100 .arrived)) trivial rfl).next
      (a := HotplugCall.process (Duration.fromMillis 600)
        [(exampleEnv (Duration.fromMillis 600) [exampleDevice 1 1 1],
          (callbackAt 100 .arrived).pending)]) trivial rfl
  refine ⟨_, _, run, rfl, rfl, fun law => ?_⟩
  have settled := law.replaced (1, 1) (by decide) [] (callbackAt 0 .left) 2 _ rfl rfl rfl
  exact absurd (settled.1 ⟨1⟩ ⟨1⟩ "a" rfl rfl) (by decide)

end DeviceManager
end P2pUsb
