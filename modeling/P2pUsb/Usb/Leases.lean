import P2pUsb.Usb.ZeroTimeout

/-! How long a lock is kept and how long a request waits when `process_all` runs at least once
in every period. The queue is trimmed only when the lock is free, so a request can outlive its
own timeout, by the time that the lock is still held. -/
namespace P2pUsb
namespace DeviceSharingState
variable {s t : DeviceSharingState} {h j : DeviceHandle} {now clock pass : Instant}

/-- When the client took the lock that it has. -/
def since (s : DeviceSharingState) (h : DeviceHandle) : Option Instant :=
  (s.attachedClients.lookup h).bind AttachedClient.lockAcquiredAt

def SharingOp.passes : SharingOp → Bool
  | .processAll => true
  | _ => false

/-- A device with the clock and the time of its last pass. -/
structure Paced where
  state : DeviceSharingState
  clock : Instant
  pass : Instant

/-- One device under any calls, none of them more than a period after the last pass. -/
def pacedSharing (period : Duration) : Machine Paced (SharingOp × Instant) Empty where
  step s call :=
    if s.clock ≤ call.2 ∧ call.2 ≤ s.pass + period then
      some (⟨s.state.perform call.2 call.1, call.2,
        if call.1.passes then call.2 else s.pass⟩, [])
    else none

theorem paced_sharing_step {period : Duration} {s t : Paced} {call : SharingOp × Instant}
    {out : List Empty} (step : (pacedSharing period).step s call = some (t, out)) :
    s.clock ≤ call.2 ∧ call.2 ≤ s.pass + period ∧
      t = ⟨s.state.perform call.2 call.1, call.2, if call.1.passes then call.2 else s.pass⟩ := by
  simp only [pacedSharing] at step
  split at step
  case isFalse => cases step
  case isTrue enabled => exact ⟨enabled.1, enabled.2, (Prod.mk.inj (Option.some.inj step)).1.symm⟩

theorem paced_next {period : Duration} {C : Paced → SharingOp × Instant → Prop} {s₀ s : Paced}
    {tr : List Empty} (run : (pacedSharing period).Exec C s₀ tr s) (op : SharingOp)
    (allowed : C s (op, now)) (later : s.clock ≤ now) (soon : now ≤ s.pass + period) :
    (pacedSharing period).Exec C s₀ (tr ++ [])
      ⟨s.state.perform now op, now, if op.passes then now else s.pass⟩ :=
  run.next (a := (op, now)) allowed (if_pos ⟨later, soon⟩)

/-- A client that takes the free lock by asking for it finds nobody waiting. -/
def FindsNobodyWaiting (s : DeviceSharingState) (call : SharingOp × Instant) : Prop :=
  ∀ h w, call.1 = .acquireLock h w → h ∈ s.attachedClients → s.WantsLock w →
    s.lockAvailable = true → s.accessQueue = []

/-- Who holds the lock after a call held it before, or took it just now: from the queue, which
then has no expired entry, or by asking for it. -/
inductive HolderAfter (s : DeviceSharingState) (now : Instant) (op : SharingOp)
    (t : DeviceSharingState) (j : DeviceHandle) : Prop
  | held (before : s.Holds j) (same : t.since j = s.since j)
  | served (new : t.since j = some now) (live : ∀ e ∈ t.accessQueue, e.expired now = false)
  | asked (w : Bool) (asks : op = .acquireLock j w) (attached : j ∈ s.attachedClients)
      (wants : s.WantsLock w) (free : s.lockAvailable = true) (new : t.since j = some now)
      (queue : t.accessQueue = s.accessQueue)

theorem since_mem {a : Instant} (taken : s.since h = some a) : h ∈ s.attachedClients := by
  obtain ⟨c, present, -⟩ := Option.bind_eq_some_iff.mp taken
  exact AList.mem_of_lookup present

theorem grant_lock_since (attached : h ∈ s.attachedClients) :
    (s.grantLock h now).since h = some now := by
  have granted : (s.grantLock h now).Granted h now := grant_lock_granted attached
  obtain ⟨c, present, acquired, -⟩ := granted.client
  rw [since, present, Option.bind_some, acquired]

theorem attach_since (clientId : String) (other : j ≠ h) :
    (s.attachClient clientId h now).since j = s.since j := by
  rw [since, since, attachClient, AList.lookup_insert_eq, if_neg other]

/-- A detach leaves no lock with the client that goes. -/
theorem detach_holder (held : (s.detachClient h).2.Holds j) :
    s.Holds j ∧ (s.detachClient h).2.since j = s.since j := by
  unfold detachClient at held ⊢
  cases hl : s.attachedClients.lookup h with
  | none =>
      rw [hl] at held
      exact ⟨held, rfl⟩
  | some client =>
      rw [hl] at held
      have other : ∀ {l : Option DeviceHandle},
          (if l = some h then none else l) = some j → j ≠ h := by
        rintro l kept rfl
        rw [if_pos (holder_kept kept)] at kept
        cases kept
      refine ⟨held.imp holder_kept holder_kept, ?_⟩
      rw [since, since, AList.lookup_erase_eq, if_neg (held.elim other other)]

namespace HolderAfter

theorem acquire (hs : s.QueueOrder clock) (h : DeviceHandle) (w : Bool)
    (held : (s.acquireLock h w now).2.Holds j) :
    s.HolderAfter now (.acquireLock h w) (s.acquireLock h w now).2 j := by
  have step := s.acquire_lock_acquires h w now
  generalize (s.acquireLock h w now).1 = result at step
  generalize (s.acquireLock h w now).2 = t at step held
  cases step with
  | unchanged => exact .held held rfl
  | waits => exact .held held rfl
  | takes attached wants free =>
      obtain rfl := grant_lock_holder hs free held
      exact .asked w rfl attached wants free (grant_lock_since attached) grant_lock_queue

theorem process (hs : s.QueueOrder clock) (op : SharingOp)
    (held : (s.processQueue now).2.Holds j) : s.HolderAfter now op (s.processQueue now).2 j := by
  have step := s.process_queue_serves_cases now
  generalize (s.processQueue now).2 = t at step held
  cases step with
  | idle => exact .held held rfl
  | trim queue less => exact .held held rfl
  | grant entry rest available front less =>
      have trimmed := hs.shrinks (Nat.le_refl clock)
        (.trim ((List.sublist_cons_self entry rest).trans less))
      obtain rfl := grant_lock_holder trimmed available held
      refine .served (grant_lock_since (hs.attached entry (less.subset List.mem_cons_self))) ?_
      intro e waits
      rw [grant_lock_queue] at waits
      refine hs.live_after now e ?_
      rw [front]
      exact List.mem_cons_of_mem entry waits

theorem release (hs : s.QueueOrder clock) (held : (s.releaseLock h).2.Holds j) :
    (s.releaseLock h).2 = s :=
  (hs.release_cases h).elim And.left fun nobody => absurd held (nobody j)

/-- What one call can do to the holder of the lock. -/
theorem perform (hs : s.QueueOrder clock) (attached : ∀ j, s.Holds j → j ∈ s.attachedClients)
    (op : SharingOp) (fresh : FreshAttach s (op, now)) (held : (s.perform now op).Holds j) :
    s.HolderAfter now op (s.perform now op) j := by
  cases op with
  | attachClient clientId handle =>
      refine .held held (attach_since clientId ?_)
      rintro rfl
      exact fresh clientId j rfl (attached j held)
  | detachClient handle => exact .held (detach_holder held).1 (detach_holder held).2
  | acquireLock handle writeAccess => exact .acquire hs handle writeAccess held
  | releaseLock handle =>
      have same := release hs held
      rw [DeviceSharingState.perform, same] at held ⊢
      exact .held held rfl
  | processQueue => exact .process hs .processQueue held
  | processAll =>
      simp only [DeviceSharingState.perform] at held ⊢
      rcases s.process_timeouts_cases now with ⟨holder, expired⟩ | idle
      · rw [expired] at held ⊢
        have released := hs.shrinks (Nat.le_refl clock) (s.release_shrinks holder)
        rcases hs.release_cases holder with ⟨same, -⟩ | nobody
        · rw [same] at held ⊢
          exact .process hs .processAll held
        · have after := process released .processAll held
          cases after with
          | held before => exact absurd before (nobody j)
          | served new live => exact .served new live
          | asked w asks => cases asks
      · rw [idle] at held ⊢
        exact .process hs .processAll held

end HolderAfter

/-- An entry in the queue after a call was there before, or was made just now. -/
theorem perform_queue {op : SharingOp} {e : QueueEntry}
    (waits : e ∈ (s.perform now op).accessQueue) : e ∈ s.accessQueue ∨ e.requestedAt = now := by
  rcases s.perform_joined op now with shrinks | joined
  · exact .inl (shrinks.queue.subset waits)
  · generalize s.perform now op = t at waits joined
    cases joined with
    | entry new attached absent requested =>
        refine (List.mem_append.mp waits).imp id fun last => ?_
        rw [List.mem_singleton.mp last, requested]

theorem QueueOrder.age_le (hs : s.QueueOrder clock) {e : QueueEntry} (waits : e ∈ s.accessQueue)
    (live : e.expired now = false) : now ≤ e.requestedAt + s.lockTimeout := by
  rw [QueueEntry.expired, hs.timeout e waits] at live
  have young : ¬ now - e.requestedAt > s.lockTimeout := of_decide_eq_false live
  exact Nat.sub_le_iff_le_add'.mp (Nat.le_of_not_lt young)

/-- A queue that is processed while the lock is free keeps no expired entry. -/
theorem QueueOrder.process_live (hs : s.QueueOrder clock) (nobody : ∀ h, ¬ s.Holds h) :
    ∀ e ∈ (s.processQueue now).2.accessQueue, e.expired now = false := by
  intro e waits
  by_cases exclusive : s.mode = .exclusive
  · have none := (s.process_queue_shrinks now).queue
    rw [hs.unused exclusive] at none
    exact absurd (none.subset waits) List.not_mem_nil
  have available := hs.lock_available_iff.mpr ⟨exclusive, nobody⟩
  have live := hs.live_after now
  rw [process_queue_eq, if_pos available] at waits
  split at waits
  case h_1 => exact absurd waits List.not_mem_nil
  case h_2 entry rest front =>
    refine live e ?_
    rw [front]
    refine List.mem_cons_of_mem entry ?_
    split at waits
    case isFalse => exact waits
    case isTrue =>
      dsimp only at waits
      split at waits
      case isTrue => exact waits
      case isFalse => rwa [grant_lock_queue] at waits

/-- After a pass somebody still holds the lock, or no entry in the queue has expired. -/
theorem ExpiryInv.pass_live (hs : s.ExpiryInv clock) (now : Instant) :
    (∃ j, s.Holds j ∧ (s.processTimeouts now).2.Holds j) ∨
      ∀ e ∈ (s.processTimeouts now).2.accessQueue, e.expired now = false := by
  have order := hs.toQueueOrder
  by_cases nobody : ∀ j, ¬ s.Holds j
  · right
    rcases s.process_timeouts_cases now with ⟨holder, expired⟩ | idle
    · have released := order.shrinks (Nat.le_refl clock) (s.release_shrinks holder)
      rw [expired]
      refine released.process_live ?_
      rcases order.release_cases holder with ⟨same, -⟩ | freed
      · rwa [same]
      · exact freed
    · rw [idle]
      exact order.process_live nobody
  obtain ⟨j, held⟩ := not_forall_not.mp nobody
  have busy : (s.processQueue now).2 = s := by
    rw [process_queue_eq, if_neg fun available => (order.lock_available_iff.mp available).2 j held]
  rcases s.process_timeouts_cases now with ⟨holder, expired⟩ | idle
  · rcases order.release_cases holder with ⟨same, -⟩ | freed
    · refine .inl ⟨j, held, ?_⟩
      rwa [expired, same, busy]
    · rw [expired]
      exact .inr ((order.shrinks (Nat.le_refl clock) (s.release_shrinks holder)).process_live freed)
  · refine .inl ⟨j, held, ?_⟩
    rwa [idle, busy]

/-- A lock that a pass leaves with its holder is not over age. -/
theorem ExpiryInv.kept_age (hs : s.ExpiryInv clock) (before : s.Holds j)
    (after : (s.processTimeouts now).2.Holds j) {a : Instant} (taken : s.since j = some a) :
    now ≤ a + s.lockTimeout := by
  by_contra late
  refine hs.expired_released before ?_ after
  rw [lockExpired, ← since, taken, Option.any_some]
  exact decide_eq_true (Nat.lt_of_not_le fun young => late (Nat.sub_le_iff_le_add'.mp young))

/-- The holder took the lock at most a timeout before the last pass. -/
structure LeaseInv (s : DeviceSharingState) (clock pass : Instant) : Prop
    extends s.ExpiryInv clock where
  lease : ∀ h, s.Holds h → ∃ a, s.since h = some a ∧ a ≤ clock ∧ pass ≤ a + s.lockTimeout
  passed : pass ≤ clock

/-- When the waiting clients asked, the holder had kept the lock for at most a timeout, or did
not have it yet; the last pass was at most two timeouts after that. -/
structure WaitInv (s : DeviceSharingState) (clock pass : Instant) : Prop
    extends s.LeaseInv clock pass where
  behind : ∀ j a, s.Holds j → s.since j = some a → ∀ e ∈ s.accessQueue,
    a ≤ e.requestedAt + s.lockTimeout
  waited : ∀ e ∈ s.accessQueue, pass ≤ e.requestedAt + s.lockTimeout + s.lockTimeout

namespace LeaseInv

theorem new (id : DeviceId) (mode : SharingMode) (maxClients : Nat) (timeout : Duration)
    (clock : Instant) : LeaseInv (.new id mode maxClients timeout) clock clock where
  toExpiryInv := .new id mode maxClients timeout clock
  lease := fun _ held => held.elim (fun wrong => nomatch wrong) (fun wrong => nomatch wrong)
  passed := Nat.le_refl clock

theorem holder (hs : s.LeaseInv clock pass) (op : SharingOp) (fresh : FreshAttach s (op, now))
    (held : (s.perform now op).Holds j) : s.HolderAfter now op (s.perform now op) j :=
  .perform hs.toQueueOrder (fun j held => have ⟨_, taken, _⟩ := hs.lease j held; since_mem taken)
    op fresh held

/-- A lock that is held on was taken at most a timeout before the last pass, this one included. -/
theorem held_age (hs : s.LeaseInv clock pass) (op : SharingOp) (before : s.Holds j)
    (after : (s.perform now op).Holds j) {a : Instant} (taken : s.since j = some a) :
    (if op.passes then now else pass) ≤ a + s.lockTimeout := by
  obtain ⟨b, taken', -, leased⟩ := hs.lease j before
  obtain rfl := Option.some.inj (taken.symm.trans taken')
  cases op with
  | processAll => exact hs.toExpiryInv.kept_age before after taken
  | _ => exact leased

theorem pass_le (hs : s.LeaseInv clock pass) (later : clock ≤ now) (op : SharingOp) :
    (if op.passes then now else pass) ≤ now := by
  split
  · exact Nat.le_refl now
  · exact Nat.le_trans hs.passed later

theorem perform (hs : s.LeaseInv clock pass) (later : clock ≤ now) (op : SharingOp)
    (fresh : FreshAttach s (op, now)) :
    (s.perform now op).LeaseInv now (if op.passes then now else pass) where
  toExpiryInv := hs.toExpiryInv.perform op later
  lease := by
    intro j held
    have recent := Nat.le_trans (hs.pass_le later op) (Nat.le_add_right now s.lockTimeout)
    rw [perform_timeout]
    cases hs.holder op fresh held with
    | held before same =>
        obtain ⟨a, taken, past, -⟩ := hs.lease j before
        exact ⟨a, same.trans taken, Nat.le_trans past later, hs.held_age op before held taken⟩
    | served new => exact ⟨now, new, Nat.le_refl now, recent⟩
    | asked w asks attached wants free new => exact ⟨now, new, Nat.le_refl now, recent⟩
  passed := hs.pass_le later op

end LeaseInv

namespace WaitInv

theorem new (id : DeviceId) (mode : SharingMode) (maxClients : Nat) (timeout : Duration)
    (clock : Instant) : WaitInv (.new id mode maxClients timeout) clock clock where
  toLeaseInv := .new id mode maxClients timeout clock
  behind := fun _ _ _ _ _ waits => absurd waits List.not_mem_nil
  waited := fun _ waits => absurd waits List.not_mem_nil

/-- An entry that a pass leaves is live, or waits for a holder whose time is not over. -/
theorem waited_pass (hs : s.WaitInv clock pass) {e : QueueEntry}
    (waits : e ∈ (s.perform now .processAll).accessQueue) :
    now ≤ e.requestedAt + s.lockTimeout + s.lockTimeout := by
  rcases perform_queue waits with old | new
  · rcases hs.toExpiryInv.pass_live now with ⟨j, before, after⟩ | live
    · obtain ⟨a, taken, -⟩ := hs.lease j before
      have young := hs.toExpiryInv.kept_age before after taken
      have behind := hs.behind j a before taken e old
      exact Nat.le_trans young (Nat.add_le_add_right behind s.lockTimeout)
    · have young := hs.toQueueOrder.age_le old (live e waits)
      exact Nat.le_trans young (Nat.le_add_right _ _)
  · rw [new, Nat.add_assoc]
    exact Nat.le_add_right now _

/-- Whoever takes the lock takes it from a queue of live entries, or finds nobody waiting. -/
theorem perform (hs : s.WaitInv clock pass) (later : clock ≤ now) (op : SharingOp)
    (fresh : FreshAttach s (op, now)) (nobody : s.FindsNobodyWaiting (op, now)) :
    (s.perform now op).WaitInv now (if op.passes then now else pass) where
  toLeaseInv := hs.toLeaseInv.perform later op fresh
  behind := by
    intro j a held taken e waits
    have order := hs.toQueueOrder.perform op later
    rw [perform_timeout]
    cases hs.holder op fresh held with
    | held before same =>
        rw [same] at taken
        rcases perform_queue waits with old | new
        · exact hs.behind j a before taken e old
        · obtain ⟨b, taken', past, -⟩ := hs.lease j before
          obtain rfl := Option.some.inj (taken.symm.trans taken')
          rw [new]
          exact Nat.le_trans past (Nat.le_trans later (Nat.le_add_right now _))
    | served new live =>
        obtain rfl := Option.some.inj (taken.symm.trans new)
        have young := order.age_le waits (live e waits)
        rwa [perform_timeout] at young
    | asked w asks attached wants free new queue =>
        rw [queue, nobody j w asks attached wants free] at waits
        exact absurd waits List.not_mem_nil
  waited := by
    intro e waits
    rw [perform_timeout]
    have asked : e ∈ s.accessQueue ∨ e.requestedAt = now := perform_queue waits
    have earlier : pass ≤ e.requestedAt + s.lockTimeout + s.lockTimeout := by
      rcases asked with old | new
      · exact hs.waited e old
      · rw [new, Nat.add_assoc]
        exact Nat.le_trans (Nat.le_trans hs.passed later) (Nat.le_add_right now _)
    cases op with
    | processAll => exact hs.waited_pass waits
    | _ => exact earlier

end WaitInv

section Runs
variable {id : DeviceId} {mode : SharingMode} {maxClients : Nat} {timeout period : Duration}
  {start : Instant} {tr : List Empty} {s : Paced}

theorem paced_run {C : Paced → SharingOp × Instant → Prop}
    {I : DeviceSharingState → Instant → Instant → Prop}
    (h₀ : I (.new id mode maxClients timeout) start start)
    (hstep : ∀ s op now, I s.state s.clock s.pass → C s (op, now) → s.clock ≤ now →
      I (s.state.perform now op) now (if op.passes then now else s.pass))
    (run : (pacedSharing period).Exec C ⟨.new id mode maxClients timeout, start, start⟩ tr s) :
    I s.state s.clock s.pass ∧ s.clock ≤ s.pass + period ∧ s.state.lockTimeout = timeout := by
  refine run.stateInvariant
    (I := fun s => I s.state s.clock s.pass ∧ s.clock ≤ s.pass + period ∧
      s.state.lockTimeout = timeout)
    ⟨h₀, Nat.le_add_right start period, rfl⟩ ?_
  rintro s ⟨op, now⟩ t out ⟨hi, -, same⟩ allowed step
  obtain ⟨later, soon, rfl⟩ := paced_sharing_step step
  refine ⟨hstep s op now hi allowed later, ?_, (perform_timeout s.state op now).trans same⟩
  dsimp only
  split
  · exact Nat.le_add_right now period
  · exact soon

theorem lease_bounded
    (run : (pacedSharing period).Exec (fun s call => FreshAttach s.state call)
      ⟨.new id mode maxClients timeout, start, start⟩ tr s) {h : DeviceHandle}
    (held : s.state.Holds h) :
    ∃ c a, s.state.attachedClients.lookup h = some c ∧ c.lockAcquiredAt = some a ∧
      a ≤ s.clock ∧ s.clock ≤ a + timeout + period := by
  obtain ⟨hs, soon, same⟩ := paced_run (.new id mode maxClients timeout start)
    (fun s op now hs fresh later => LeaseInv.perform hs later op fresh) run
  obtain ⟨a, taken, past, leased⟩ := hs.lease h held
  obtain ⟨c, present, acquired⟩ := Option.bind_eq_some_iff.mp taken
  rw [same] at leased
  exact ⟨c, a, present, acquired, past, Nat.le_trans soon (Nat.add_le_add_right leased period)⟩

/-- The lock of the first client is ten seconds old at the second pass, and still there. -/
theorem lease_bounded_tight :
    ∃ s tr, (pacedSharing 5).Exec (fun s call => FreshAttach s.state call)
      ⟨.new ⟨1⟩ .shared 4 10, 0, 0⟩ tr s ∧ s.state.Holds ⟨1⟩ ∧ s.clock = 0 + 10 + 5 ∧
      ∃ c a, s.state.attachedClients.lookup ⟨1⟩ = some c ∧ c.lockAcquiredAt = some a ∧
        a ≤ s.clock ∧ s.clock ≤ a + 10 + 5 := by
  have fresh : FreshAttach (new ⟨1⟩ .shared 4 10) (.attachClient "a" ⟨1⟩, 0) := by
    rintro _ _ ⟨⟩
    decide
  have run : (pacedSharing 5).Exec (fun s call => FreshAttach s.state call)
      ⟨.new ⟨1⟩ .shared 4 10, 0, 0⟩ _ _ :=
    .next (.next (.next (.next (.next .start fresh rfl)
      (a := (.acquireLock ⟨1⟩ false, 0)) (fun _ _ h => nomatch h) rfl)
      (a := (.processAll, 5)) (fun _ _ h => nomatch h) rfl)
      (a := (.processAll, 10)) (fun _ _ h => nomatch h) rfl)
      (a := (.processQueue, 15)) (fun _ _ h => nomatch h) rfl
  exact ⟨_, _, run, .inl rfl, rfl, lease_bounded run (.inl rfl)⟩

theorem wait_bounded
    (run : (pacedSharing period).Exec
      (fun s call => FreshAttach s.state call ∧ s.state.FindsNobodyWaiting call)
      ⟨.new id mode maxClients timeout, start, start⟩ tr s) {e : QueueEntry}
    (waits : e ∈ s.state.accessQueue) : s.clock ≤ e.requestedAt + 2 * timeout + period := by
  obtain ⟨hs, soon, same⟩ := paced_run (.new id mode maxClients timeout start)
    (fun s op now hs allowed later => WaitInv.perform hs later op allowed.1 allowed.2) run
  have waited := hs.waited e waits
  rw [same] at waited
  rw [Nat.two_mul, ← Nat.add_assoc]
  exact Nat.le_trans soon (Nat.add_le_add_right waited period)

/-- The second client has the lock until ten seconds after the request of the third one was
ten seconds old. -/
theorem wait_bounded_tight :
    ∃ s tr e, (pacedSharing 5).Exec
      (fun s call => FreshAttach s.state call ∧ s.state.FindsNobodyWaiting call)
      ⟨.new ⟨1⟩ .shared 4 10, 0, 0⟩ tr s ∧ e ∈ s.state.accessQueue ∧
      s.clock = e.requestedAt + 2 * 10 + 5 ∧ s.clock ≤ e.requestedAt + 2 * 10 + 5 := by
  have attached : (pacedSharing 5).Exec
      (fun s call => FreshAttach s.state call ∧ s.state.FindsNobodyWaiting call)
      ⟨.new ⟨1⟩ .shared 4 10, 0, 0⟩ _ _ :=
    .next (.next (.next .start
      (a := (.attachClient "a" ⟨1⟩, 0)) ⟨by rintro _ _ ⟨⟩; decide, fun _ _ h => (nomatch h)⟩ rfl)
      (a := (.attachClient "b" ⟨2⟩, 0)) ⟨by rintro _ _ ⟨⟩; decide, fun _ _ h => (nomatch h)⟩ rfl)
      (a := (.attachClient "c" ⟨3⟩, 0)) ⟨by rintro _ _ ⟨⟩; decide, fun _ _ h => (nomatch h)⟩ rfl
  have waiting : (pacedSharing 5).Exec
      (fun s call => FreshAttach s.state call ∧ s.state.FindsNobodyWaiting call)
      ⟨.new ⟨1⟩ .shared 4 10, 0, 0⟩ _ _ :=
    .next (.next (.next attached
      (a := (.acquireLock ⟨1⟩ false, 0)) ⟨fun _ _ h => (nomatch h), fun _ _ _ _ _ _ => rfl⟩ rfl)
      (a := (.acquireLock ⟨2⟩ false, 0))
        ⟨fun _ _ h => (nomatch h), fun _ _ _ _ _ busy => (nomatch busy)⟩ rfl)
      (a := (.acquireLock ⟨3⟩ false, 0))
        ⟨fun _ _ h => (nomatch h), fun _ _ _ _ _ busy => (nomatch busy)⟩ rfl
  have run : (pacedSharing 5).Exec
      (fun s call => FreshAttach s.state call ∧ s.state.FindsNobodyWaiting call)
      ⟨.new ⟨1⟩ .shared 4 10, 0, 0⟩ _ _ :=
    .next (.next (.next (.next (.next (.next waiting
      (a := (.processAll, 5)) ⟨fun _ _ h => (nomatch h), fun _ _ h => (nomatch h)⟩ rfl)
      (a := (.releaseLock ⟨1⟩, 10)) ⟨fun _ _ h => (nomatch h), fun _ _ h => (nomatch h)⟩ rfl)
      (a := (.processAll, 10)) ⟨fun _ _ h => (nomatch h), fun _ _ h => (nomatch h)⟩ rfl)
      (a := (.processAll, 15)) ⟨fun _ _ h => (nomatch h), fun _ _ h => (nomatch h)⟩ rfl)
      (a := (.processAll, 20)) ⟨fun _ _ h => (nomatch h), fun _ _ h => (nomatch h)⟩ rfl)
      (a := (.processQueue, 25)) ⟨fun _ _ h => (nomatch h), fun _ _ h => (nomatch h)⟩ rfl
  exact ⟨_, _, _, run, .head _, rfl, wait_bounded run (.head _)⟩

end Runs

/-- One client has the lock of a shared device, another one waits for it. -/
structure Keeps (s : DeviceSharingState) (clock : Instant) (h : DeviceHandle) (e : QueueEntry) :
    Prop extends s.QueueOrder clock where
  shared : s.mode = .shared
  holder : s.exclusiveLockHolder = some h
  client : h ∈ s.attachedClients
  queue : s.accessQueue = [e]

namespace Keeps
variable {e : QueueEntry}

theorem released (hs : s.Keeps clock h e) :
    (s.releaseLock h).2.mode = .shared ∧ (s.releaseLock h).2.lockAvailable = true ∧
      h ∈ (s.releaseLock h).2.attachedClients ∧ (s.releaseLock h).2.accessQueue = [e] := by
  rcases s.release_lock_cases h with ⟨-, missed⟩ | ⟨-, -, freed⟩ | ⟨readOnly, -, -⟩
  · exact absurd hs.holder ((missed hs.client).1 hs.shared)
  · rw [freed]
    refine ⟨hs.shared, ?_, AList.mem_modify.mpr hs.client, hs.queue⟩
    simp only [lockAvailable, hs.shared, Option.isNone_none]
  · exact absurd (hs.shared.symm.trans readOnly) SharingMode.noConfusion

/-- The holder gives the lock back and takes it again at once. -/
theorem again (hs : s.Keeps clock h e) (later : clock ≤ now) :
    ((s.perform now (.releaseLock h)).perform now (.acquireLock h false)).Keeps now h e ∧
      ((s.perform now (.releaseLock h)).perform now (.acquireLock h false)).since h = some now := by
  obtain ⟨shared, free, client, queue⟩ := hs.released
  have order := (hs.toQueueOrder.perform (.releaseLock h) later).perform
    (.acquireLock h false) (Nat.le_refl now)
  simp only [DeviceSharingState.perform] at order ⊢
  rw [acquire_lock_free client (.inl shared) free] at order ⊢
  refine ⟨⟨order, grant_lock_mode.trans shared, ?_, ?_, grant_lock_queue.trans queue⟩,
    grant_lock_since client⟩
  · rw [grantLock, if_pos shared, grantExclusive]
  · rw [grantLock, if_pos shared]
    exact AList.mem_modify.mpr client

/-- A pass that comes at that time changes nothing. -/
theorem undisturbed (hs : s.Keeps clock h e) (taken : s.since h = some now) :
    s.perform now .processAll = s := by
  have held : s.Holds h := .inl hs.holder
  have unexpired : s.checkLockTimeout now = none := by
    refine Option.eq_none_iff_forall_ne_some.mpr fun j found => ?_
    obtain ⟨other, late⟩ := (hs.toQueueOrder.check_lock_timeout now).mp found
    rcases hs.holds_cases other with ⟨-, lock⟩ | ⟨readOnly, -⟩
    · obtain rfl := Option.some.inj (hs.holder.symm.trans lock)
      rw [lockExpired, ← since, taken, Option.any_some, Nat.sub_self] at late
      exact Nat.not_lt_zero _ (of_decide_eq_true late)
    · exact absurd (hs.shared.symm.trans readOnly) SharingMode.noConfusion
  have busy : s.processQueue now = (none, s) := by
    rw [process_queue_eq, if_neg fun free => (hs.lock_available_iff.mp free).2 h held]
  simp only [DeviceSharingState.perform, processTimeouts, unexpired, busy]

end Keeps

/-- Passes at every moment do not help a client that waits while another one gives the lock
back and takes it again. -/
theorem wait_unbounded (id : DeviceId) (maxClients : Nat) (timeout : Duration) {period : Duration}
    (often : 0 < period) (n : Nat) :
    ∃ s tr e, (pacedSharing period).Exec (fun s call => FreshAttach s.state call)
      ⟨.new id .shared maxClients timeout, 0, 0⟩ tr s ∧
      e ∈ s.state.accessQueue ∧ e.requestedAt + n ≤ s.clock ∧ s.pass = s.clock := by
  suffices kept : ∃ s tr, (pacedSharing period).Exec (fun s call => FreshAttach s.state call)
      ⟨.new id .shared maxClients timeout, 0, 0⟩ tr ⟨s, n, n⟩ ∧
      ∃ e, s.Keeps n ⟨1⟩ e ∧ e.requestedAt = 0 by
    obtain ⟨s, tr, run, e, hs, asked⟩ := kept
    refine ⟨_, tr, e, run, ?_, ?_, rfl⟩
    · rw [hs.queue]
      exact List.mem_singleton_self e
    · rw [asked, Nat.zero_add]
  induction n with
  | zero =>
      have order := ((((QueueOrder.new id .shared maxClients timeout 0).perform
        (.attachClient "a" ⟨1⟩) (Nat.le_refl 0)).perform
        (.attachClient "b" ⟨2⟩) (Nat.le_refl 0)).perform
        (.acquireLock ⟨1⟩ false) (Nat.le_refl 0)).perform (.acquireLock ⟨2⟩ false) (Nat.le_refl 0)
      have first : FreshAttach (new id .shared maxClients timeout) (.attachClient "a" ⟨1⟩, 0) := by
        rintro _ _ ⟨⟩
        exact AList.notMem_empty _
      have second : FreshAttach ((new id .shared maxClients timeout).perform 0
          (.attachClient "a" ⟨1⟩)) (.attachClient "b" ⟨2⟩, 0) := by
        rintro _ _ ⟨⟩ present
        rcases (AList.mem_insert _).mp present with same | old
        · cases same
        · exact AList.notMem_empty _ old
      have empty : (pacedSharing period).Exec (fun s call => FreshAttach s.state call)
        ⟨.new id .shared maxClients timeout, 0, 0⟩ [] _ := .start
      have attached := paced_next (paced_next empty (.attachClient "a" ⟨1⟩) first
        (Nat.le_refl 0) (Nat.zero_le _)) (.attachClient "b" ⟨2⟩) second
        (Nat.le_refl 0) (Nat.zero_le _)
      have waiting := paced_next (paced_next attached (.acquireLock ⟨1⟩ false)
        (fun _ _ h => nomatch h) (Nat.le_refl 0) (Nat.zero_le _)) (.acquireLock ⟨2⟩ false)
        (fun _ _ h => nomatch h) (Nat.le_refl 0) (Nat.zero_le _)
      exact ⟨_, _, waiting, _, ⟨order, rfl, rfl, AList.mem_iff.mpr ⟨_, rfl⟩, rfl⟩, rfl⟩
  | succ n ih =>
      obtain ⟨s, tr, run, e, hs, asked⟩ := ih
      have later : n ≤ n + 1 := Nat.le_succ n
      have soon : n + 1 ≤ n + period := Nat.add_le_add_left often n
      obtain ⟨kept, taken⟩ := hs.again later
      have same := kept.undisturbed taken
      have next := paced_next (paced_next (paced_next run (.releaseLock ⟨1⟩)
        (fun _ _ h => nomatch h) later soon) (.acquireLock ⟨1⟩ false)
        (fun _ _ h => nomatch h) (Nat.le_refl _) soon) .processAll
        (fun _ _ h => nomatch h) (Nat.le_refl _) soon
      rw [same] at next
      exact ⟨_, _, next, e, kept, asked⟩

/-- The client that takes the lock of a shared device again and again, for a hundred rounds. -/
theorem wait_unbounded_hundred :
    ∃ s tr e, (pacedSharing 1).Exec (fun s call => FreshAttach s.state call)
      ⟨.new ⟨1⟩ .shared 4 10, 0, 0⟩ tr s ∧
      e ∈ s.state.accessQueue ∧ e.requestedAt + 100 ≤ s.clock ∧ s.pass = s.clock :=
  wait_unbounded ⟨1⟩ 4 10 Nat.one_pos 100

end DeviceSharingState
end P2pUsb
