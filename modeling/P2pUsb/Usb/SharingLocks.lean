import P2pUsb.Library.Machine
import P2pUsb.Usb.Sharing

/-! Who holds the locks of one device. Apart from attach, detach and a granted
acquire, every operation is a step of `Settle`: it takes access away or passes
it down the queue. -/
namespace P2pUsb
namespace DeviceSharingState
variable {s t : DeviceSharingState} {h : DeviceHandle} {now : Instant}

def Holds (s : DeviceSharingState) (h : DeviceHandle) : Prop :=
  s.exclusiveLockHolder = some h ∨ s.writeLockHolder = some h

/-- A free lock is one that nobody holds, as each lock belongs to a mode of its own. -/
theorem lock_available_iff_of_modes (noExclusive : s.mode ≠ .shared → s.exclusiveLockHolder = none)
    (noWrite : s.mode ≠ .readOnly → s.writeLockHolder = none) :
    s.lockAvailable = true ↔ s.mode ≠ .exclusive ∧ ∀ h, ¬ s.Holds h := by
  unfold lockAvailable Holds
  cases hm : s.mode with
  | exclusive => simp only [Bool.false_eq_true, ne_eq, not_true, false_and]
  | shared =>
      have unwritten := noWrite (by rw [hm]; exact SharingMode.noConfusion)
      simp only [unwritten, Option.isNone_iff_eq_none, ne_eq, reduceCtorEq, not_false_eq_true,
        or_false, true_and, Option.eq_none_iff_forall_ne_some]
  | readOnly =>
      have unlocked := noExclusive (by rw [hm]; exact SharingMode.noConfusion)
      simp only [unlocked, Option.isNone_iff_eq_none, ne_eq, reduceCtorEq, not_false_eq_true,
        false_or, true_and, Option.eq_none_iff_forall_ne_some]

/-- A holder field that a detach leaves set was set before. -/
theorem holder_kept {l : Option DeviceHandle} {j : DeviceHandle}
    (held : (if l = some h then none else l) = some j) : l = some j := by
  split at held
  · cases held
  · exact held

inductive Settle (s : DeviceSharingState) : DeviceSharingState → Prop
  | refl : Settle s s
  | releaseExclusive (h : DeviceHandle) (shared : s.mode = .shared)
      (held : s.exclusiveLockHolder = some h) : Settle s { s with
        exclusiveLockHolder := none
        attachedClients := s.attachedClients.modify h fun c =>
          { c with hasAccess := false, lockAcquiredAt := none } }
  | releaseWrite (h : DeviceHandle) (readOnly : s.mode = .readOnly)
      (held : s.writeLockHolder = some h) : Settle s { s with
        writeLockHolder := none
        attachedClients := s.attachedClients.modify h fun c =>
          { c with hasWriteLock := false, lockAcquiredAt := none } }
  | enqueue (entry : QueueEntry) (attached : entry.handle ∈ s.attachedClients)
      (busy : s.lockAvailable = false) :
      Settle s { s with accessQueue := s.accessQueue ++ [entry] }
  | trim (queue : List QueueEntry) (less : queue.Sublist s.accessQueue) :
      Settle s { s with accessQueue := queue }
  | serveExclusive (entry : QueueEntry) (rest : List QueueEntry) (now : Instant)
      (less : (entry :: rest).Sublist s.accessQueue)
      (attached : entry.handle ∈ s.attachedClients)
      (shared : s.mode = .shared) (free : s.exclusiveLockHolder = none) :
      Settle s (grantExclusive { s with accessQueue := rest } entry.handle now)
  | serveWrite (entry : QueueEntry) (rest : List QueueEntry) (now : Instant)
      (less : (entry :: rest).Sublist s.accessQueue)
      (attached : entry.handle ∈ s.attachedClients)
      (readOnly : s.mode = .readOnly) (free : s.writeLockHolder = none) :
      Settle s (grantWrite { s with accessQueue := rest } entry.handle now)

/-- A client that waits already keeps its entry. -/
theorem add_to_queue_cases (s : DeviceSharingState) (h : DeviceHandle) (w : Bool) (now : Instant) :
    (s.addToQueue h w now).2 = s ∨
      h ∉ s.accessQueue.map QueueEntry.handle ∧ ∃ entry : QueueEntry, entry.handle = h ∧
        (s.addToQueue h w now).2 = { s with accessQueue := s.accessQueue ++ [entry] } := by
  unfold addToQueue
  cases position : s.queueIndex h with
  | some pos => exact .inl rfl
  | none =>
      refine .inr ⟨?_, _, rfl, rfl⟩
      intro queued
      obtain ⟨e, he, same⟩ := List.mem_map.mp queued
      have other := List.findIdx?_eq_none_iff.mp position e he
      rw [same, beq_self_eq_true] at other
      cases other

/-- The client joins the queue of a lock that is not free, or nothing changes. -/
def Joins (s t : DeviceSharingState) : Prop :=
  t = s ∨ ∃ entry : QueueEntry, entry.handle ∈ s.attachedClients ∧ s.lockAvailable = false ∧
    t = { s with accessQueue := s.accessQueue ++ [entry] }

theorem add_to_queue_joins {w : Bool} (attached : h ∈ s.attachedClients)
    (busy : s.lockAvailable = false) : s.Joins (s.addToQueue h w now).2 := by
  rcases s.add_to_queue_cases h w now with same | ⟨-, entry, rfl, joined⟩
  · exact .inl same
  · exact .inr ⟨entry, attached, busy, joined⟩

/-- An acquire either grants a free lock or leaves the holders alone. -/
theorem acquire_lock_cases (s : DeviceSharingState) (h : DeviceHandle) (w : Bool)
    (now : Instant) :
    s.Joins (s.acquireLock h w now).2 ∧
        (h ∈ s.attachedClients → s.mode = .shared → s.exclusiveLockHolder ≠ none) ∨
      h ∈ s.attachedClients ∧ s.mode = .shared ∧ s.exclusiveLockHolder = none ∧
        s.acquireLock h w now = (.acquired, s.grantExclusive h now) ∨
      h ∈ s.attachedClients ∧ s.mode = .readOnly ∧ s.writeLockHolder = none ∧
        s.acquireLock h w now = (.acquired, s.grantWrite h now) := by
  unfold acquireLock
  cases hl : s.attachedClients.lookup h with
  | none =>
      have absent : h ∉ s.attachedClients := AList.lookup_eq_none.mp hl
      exact .inl ⟨.inl rfl, fun present => absurd present absent⟩
  | some client =>
      have attached := AList.mem_of_lookup hl
      cases hm : s.mode with
      | exclusive =>
          refine .inl ⟨?_, fun _ wrong => nomatch wrong⟩
          dsimp only
          split <;> exact .inl rfl
      | shared =>
          by_cases held : s.exclusiveLockHolder = some h
          · simp only [held, if_true]
            exact .inl ⟨.inl rfl, fun _ _ => Option.some_ne_none h⟩
          by_cases free : s.exclusiveLockHolder = none
          · simp only [free, if_true]
            exact .inr (.inl ⟨attached, trivial, trivial, rfl⟩)
          · have busy : s.lockAvailable = false := by
              simp only [lockAvailable, hm, Option.isNone_eq_false_iff, Option.isSome_iff_ne_none]
              exact free
            simp only [held, free, if_false]
            exact .inl ⟨add_to_queue_joins attached busy, fun _ _ => free⟩
      | readOnly =>
          cases w with
          | false => exact .inl ⟨.inl rfl, fun _ wrong => nomatch wrong⟩
          | true =>
              by_cases held : s.writeLockHolder = some h
              · simp only [held, if_true]
                exact .inl ⟨.inl rfl, fun _ wrong => nomatch wrong⟩
              by_cases free : s.writeLockHolder = none
              · simp only [free, if_true]
                exact .inr (.inr ⟨attached, trivial, trivial, rfl⟩)
              · have busy : s.lockAvailable = false := by
                  simp only [lockAvailable, hm, Option.isNone_eq_false_iff,
                    Option.isSome_iff_ne_none]
                  exact free
                simp only [held, free, if_false, if_true]
                exact .inl ⟨add_to_queue_joins attached busy, fun _ wrong => nomatch wrong⟩

theorem Joins.settle (joins : s.Joins t) : s.Settle t := by
  rcases joins with rfl | ⟨entry, attached, busy, rfl⟩
  · exact .refl
  · exact .enqueue entry attached busy

/-- A release gives up the lock of this mode if the client has it. -/
theorem release_lock_cases (s : DeviceSharingState) (h : DeviceHandle) :
    (s.releaseLock h).2 = s ∧
        (h ∈ s.attachedClients → (s.mode = .shared → s.exclusiveLockHolder ≠ some h) ∧
          (s.mode = .readOnly → s.writeLockHolder ≠ some h)) ∨
      s.mode = .shared ∧ s.exclusiveLockHolder = some h ∧ (s.releaseLock h).2 = { s with
        exclusiveLockHolder := none
        attachedClients := s.attachedClients.modify h fun c =>
          { c with hasAccess := false, lockAcquiredAt := none } } ∨
      s.mode = .readOnly ∧ s.writeLockHolder = some h ∧ (s.releaseLock h).2 = { s with
        writeLockHolder := none
        attachedClients := s.attachedClients.modify h fun c =>
          { c with hasWriteLock := false, lockAcquiredAt := none } } := by
  unfold releaseLock
  by_cases absent : h ∉ s.attachedClients
  · rw [if_pos absent]
    exact .inl ⟨rfl, fun present => absurd present absent⟩
  rw [if_neg absent]
  cases hm : s.mode with
  | exclusive => exact .inl ⟨rfl, fun _ =>
        ⟨fun wrong => (nomatch wrong), fun wrong => (nomatch wrong)⟩⟩
  | shared =>
      dsimp only
      by_cases held : s.exclusiveLockHolder = some h
      · rw [if_pos held]
        exact .inr (.inl ⟨rfl, held, rfl⟩)
      · rw [if_neg held]
        exact .inl ⟨rfl, fun _ => ⟨fun _ => held, fun wrong => (nomatch wrong)⟩⟩
  | readOnly =>
      dsimp only
      by_cases held : s.writeLockHolder = some h
      · rw [if_pos held]
        exact .inr (.inr ⟨rfl, held, rfl⟩)
      · rw [if_neg held]
        exact .inl ⟨rfl, fun _ => ⟨fun wrong => (nomatch wrong), fun _ => held⟩⟩

theorem release_lock_settle (s : DeviceSharingState) (h : DeviceHandle) :
    s.Settle (s.releaseLock h).2 := by
  rcases s.release_lock_cases h with ⟨same, -⟩ | ⟨shared, held, freed⟩ | ⟨readOnly, held, freed⟩
  · rw [same]
    exact .refl
  · rw [freed]
    exact .releaseExclusive h shared held
  · rw [freed]
    exact .releaseWrite h readOnly held

theorem process_queue_settle (s : DeviceSharingState) (now : Instant) :
    s.Settle (s.processQueue now).2 := by
  unfold processQueue
  split
  case isTrue => exact .refl
  case isFalse waiting =>
  have available : s.lockAvailable = true := by
    simp only [Bool.or_eq_true, Bool.not_eq_true', not_or, Bool.not_eq_false] at waiting
    exact waiting.1
  have suffix := List.dropWhile_sublist (l := s.accessQueue) (QueueEntry.expired now)
  cases hq : s.accessQueue.dropWhile (QueueEntry.expired now) with
  | nil => exact .trim [] (List.nil_sublist _)
  | cons entry rest =>
      rw [hq] at suffix
      have trimmed : rest.Sublist s.accessQueue := (List.sublist_cons_self entry rest).trans suffix
      dsimp only
      by_cases attached : entry.handle ∈ s.attachedClients
      · rw [if_pos attached]
        cases hm : s.mode with
        | exclusive =>
            simp only [← hm]
            exact .trim rest trimmed
        | shared =>
            have free : s.exclusiveLockHolder = none := by
              simpa only [lockAvailable, hm, Option.isNone_iff_eq_none] using available
            simp only [← hm]
            exact .serveExclusive entry rest now suffix attached hm free
        | readOnly =>
            have free : s.writeLockHolder = none := by
              simpa only [lockAvailable, hm, Option.isNone_iff_eq_none] using available
            simp only [← hm]
            split
            · exact .serveWrite entry rest now suffix attached hm free
            · exact .trim rest trimmed
      · rw [if_neg attached]
        exact .trim rest trimmed

/-- The same device with the same clients, whatever became of their locks. -/
structure SameClients (s t : DeviceSharingState) : Prop where
  mode : t.mode = s.mode
  maxClients : t.maxClients = s.maxClients
  keys : t.attachedClients.keys = s.attachedClients.keys

namespace SameClients

theorem refl (s : DeviceSharingState) : s.SameClients s := ⟨rfl, rfl, rfl⟩

theorem trans {u : DeviceSharingState} (h : s.SameClients t) (h' : t.SameClients u) :
    s.SameClients u :=
  ⟨h'.mode.trans h.mode, h'.maxClients.trans h.maxClients, h'.keys.trans h.keys⟩

theorem mem_iff (same : s.SameClients t) : h ∈ t.attachedClients ↔ h ∈ s.attachedClients := by
  rw [AList.mem_keys, same.keys, AList.mem_keys]

theorem size_eq (same : s.SameClients t) : t.attachedClients.size = s.attachedClients.size := by
  rw [AList.size_eq_keys, same.keys, AList.size_eq_keys]

theorem settle (step : s.Settle t) : s.SameClients t := by
  cases step with
  | refl => exact refl s
  | enqueue entry _ _ => exact ⟨rfl, rfl, rfl⟩
  | trim queue _ => exact ⟨rfl, rfl, rfl⟩
  | releaseExclusive | releaseWrite | serveExclusive | serveWrite =>
      exact ⟨rfl, rfl, AList.keys_mapVal _ _⟩

end SameClients

theorem acquire_lock_same_clients (s : DeviceSharingState) (h : DeviceHandle) (w : Bool)
    (now : Instant) : s.SameClients (s.acquireLock h w now).2 := by
  rcases acquire_lock_cases s h w now with ⟨joins, -⟩ | ⟨-, -, -, granted⟩ | ⟨-, -, -, granted⟩
  · exact .settle joins.settle
  · rw [granted]
    exact ⟨rfl, rfl, AList.keys_mapVal _ _⟩
  · rw [granted]
    exact ⟨rfl, rfl, AList.keys_mapVal _ _⟩

/-- Holders, flags and acquisition times tell the same story. -/
structure LockConsistent (s : DeviceSharingState) : Prop where
  exclusive_holder : ∀ h, s.exclusiveLockHolder = some h → s.mode = .shared ∧
    ∃ c, s.attachedClients.lookup h = some c ∧ c.hasAccess = true ∧ c.lockAcquiredAt.isSome
  write_holder : ∀ h, s.writeLockHolder = some h → s.mode = .readOnly ∧
    ∃ c, s.attachedClients.lookup h = some c ∧ c.lockAcquiredAt.isSome
  write_flag : ∀ h c, s.attachedClients.lookup h = some c →
    (c.hasWriteLock = true ↔ s.writeLockHolder = some h)

namespace LockConsistent

theorem new (id : DeviceId) (mode : SharingMode) (maxClients : Nat) (timeout : Duration) :
    LockConsistent (.new id mode maxClients timeout) :=
  ⟨fun _ held => (nomatch held), fun _ held => (nomatch held), fun _ _ held => (nomatch held)⟩

theorem no_exclusive_holder (hs : s.LockConsistent) (hm : s.mode ≠ .shared) :
    s.exclusiveLockHolder = none :=
  Option.eq_none_iff_forall_ne_some.mpr fun h held => hm (hs.exclusive_holder h held).1

theorem no_write_holder (hs : s.LockConsistent) (hm : s.mode ≠ .readOnly) :
    s.writeLockHolder = none :=
  Option.eq_none_iff_forall_ne_some.mpr fun h held => hm (hs.write_holder h held).1

theorem attach (hs : s.LockConsistent) (clientId : String) (now : Instant)
    (fresh : h ∉ s.attachedClients) : (s.attachClient clientId h now).LockConsistent := by
  have others : ∀ {j c}, s.attachedClients.lookup j = some c → j ≠ h := by
    rintro j c present rfl
    exact fresh (AList.mem_of_lookup present)
  constructor
  · intro j held
    obtain ⟨hm, c, present, rest⟩ := hs.exclusive_holder j held
    refine ⟨hm, c, ?_, rest⟩
    rw [attachClient, AList.lookup_insert_ne (others present), present]
  · intro j held
    obtain ⟨hm, c, present, rest⟩ := hs.write_holder j held
    refine ⟨hm, c, ?_, rest⟩
    rw [attachClient, AList.lookup_insert_ne (others present), present]
  · intro j c present
    simp only [attachClient, AList.lookup_insert_eq] at present
    split at present
    case isTrue hj =>
      subst hj
      obtain rfl := Option.some.inj present
      refine ⟨fun wrong => (nomatch wrong), fun held => ?_⟩
      obtain ⟨-, c, old, -⟩ := hs.write_holder j held
      exact absurd (AList.mem_of_lookup old) fresh
    case isFalse => exact hs.write_flag j c present

theorem grantExclusive (hs : s.LockConsistent) (now : Instant) (attached : h ∈ s.attachedClients)
    (shared : s.mode = .shared) : (s.grantExclusive h now).LockConsistent := by
  have unwritten := hs.no_write_holder (by rw [shared]; exact SharingMode.noConfusion)
  obtain ⟨c, present⟩ := AList.mem_iff.mp attached
  constructor
  · rintro j held
    obtain rfl := Option.some.inj held
    have found : (s.grantExclusive h now).attachedClients.lookup h =
        some { c with hasAccess := true, lockAcquiredAt := some now } := by
      simp only [DeviceSharingState.grantExclusive, AList.lookup_modify_self, present,
        Option.map_some]
    exact ⟨shared, _, found, rfl, rfl⟩
  · intro j held
    exact absurd (unwritten.symm.trans held) (Option.some_ne_none j).symm
  · intro j d found
    simp only [DeviceSharingState.grantExclusive, AList.lookup_modify_eq] at found
    split at found
    case isTrue hj =>
      obtain ⟨c', old, rfl⟩ := Option.map_eq_some_iff.mp found
      exact hj ▸ hs.write_flag h c' old
    case isFalse => exact hs.write_flag j d found

theorem grantWrite (hs : s.LockConsistent) (now : Instant) (attached : h ∈ s.attachedClients)
    (readOnly : s.mode = .readOnly) (free : s.writeLockHolder = none) :
    (s.grantWrite h now).LockConsistent := by
  have unlocked := hs.no_exclusive_holder (by rw [readOnly]; exact SharingMode.noConfusion)
  obtain ⟨c, present⟩ := AList.mem_iff.mp attached
  constructor
  · intro j held
    exact absurd (unlocked.symm.trans held) (Option.some_ne_none j).symm
  · rintro j held
    obtain rfl := Option.some.inj held
    have found : (s.grantWrite h now).attachedClients.lookup h =
        some { c with hasWriteLock := true, lockAcquiredAt := some now } := by
      simp only [DeviceSharingState.grantWrite, AList.lookup_modify_self, present, Option.map_some]
    exact ⟨readOnly, _, found, rfl⟩
  · intro j d found
    simp only [DeviceSharingState.grantWrite, AList.lookup_modify_eq] at found ⊢
    split at found
    case isTrue hj =>
      obtain ⟨c', -, rfl⟩ := Option.map_eq_some_iff.mp found
      exact ⟨fun _ => hj ▸ rfl, fun _ => rfl⟩
    case isFalse hj =>
      have unflagged := hs.write_flag j d found
      rw [free] at unflagged
      exact ⟨fun flag => (nomatch unflagged.mp flag),
        fun held => absurd (Option.some.inj held).symm hj⟩

theorem detach (hs : s.LockConsistent) (h : DeviceHandle) :
    (s.detachClient h).2.LockConsistent := by
  unfold detachClient
  split
  · exact hs
  constructor <;> dsimp only
  · intro j held
    split at held
    · cases held
    · obtain ⟨hm, c, present, rest⟩ := hs.exclusive_holder j held
      refine ⟨hm, c, ?_, rest⟩
      rw [AList.lookup_erase_ne (by rintro rfl; contradiction), present]
  · intro j held
    split at held
    · cases held
    · obtain ⟨hm, c, present, rest⟩ := hs.write_holder j held
      refine ⟨hm, c, ?_, rest⟩
      rw [AList.lookup_erase_ne (by rintro rfl; contradiction), present]
  · intro j c present
    obtain ⟨hj, there⟩ := AList.lookup_erase_eq_some.mp present
    rw [hs.write_flag j c there]
    split
    case isTrue held =>
      rw [held]
      exact ⟨fun same => absurd (Option.some.inj same).symm hj, fun wrong => nomatch wrong⟩
    case isFalse => exact Iff.rfl

theorem settle (hs : s.LockConsistent) (step : s.Settle t) : t.LockConsistent := by
  cases step with
  | refl => exact hs
  | releaseExclusive h shared held =>
      have unwritten := hs.no_write_holder (by rw [shared]; exact SharingMode.noConfusion)
      refine ⟨fun j wrong => (nomatch wrong), ?_, ?_⟩
      · intro j held
        exact absurd (unwritten.symm.trans held) (Option.some_ne_none j).symm
      · intro j c found
        rw [AList.lookup_modify_eq] at found
        split at found
        case isTrue hj =>
          obtain ⟨c', old, rfl⟩ := Option.map_eq_some_iff.mp found
          exact hj ▸ hs.write_flag h c' old
        case isFalse => exact hs.write_flag j c found
  | releaseWrite h readOnly held =>
      have unlocked := hs.no_exclusive_holder (by rw [readOnly]; exact SharingMode.noConfusion)
      refine ⟨?_, fun j wrong => (nomatch wrong), ?_⟩
      · intro j held
        exact absurd (unlocked.symm.trans held) (Option.some_ne_none j).symm
      · intro j c found
        rw [AList.lookup_modify_eq] at found
        split at found
        case isTrue =>
          obtain ⟨c', -, rfl⟩ := Option.map_eq_some_iff.mp found
          exact ⟨fun wrong => (nomatch wrong), fun wrong => (nomatch wrong)⟩
        case isFalse hj =>
          refine ⟨fun flag => ?_, fun wrong => (nomatch wrong)⟩
          have same := (hs.write_flag j c found).mp flag
          exact absurd (Option.some.inj (same.symm.trans held)) hj
  | enqueue entry _ _ => exact ⟨hs.exclusive_holder, hs.write_holder, hs.write_flag⟩
  | trim queue _ => exact ⟨hs.exclusive_holder, hs.write_holder, hs.write_flag⟩
  | serveExclusive entry rest now _ attached shared _ =>
      have trimmed : LockConsistent { s with accessQueue := rest } :=
        ⟨hs.exclusive_holder, hs.write_holder, hs.write_flag⟩
      exact trimmed.grantExclusive now attached shared
  | serveWrite entry rest now _ attached readOnly free =>
      have trimmed : LockConsistent { s with accessQueue := rest } :=
        ⟨hs.exclusive_holder, hs.write_holder, hs.write_flag⟩
      exact trimmed.grantWrite now attached readOnly free

theorem acquire (hs : s.LockConsistent) (h : DeviceHandle) (w : Bool) (now : Instant) :
    (s.acquireLock h w now).2.LockConsistent := by
  rcases acquire_lock_cases s h w now with ⟨joins, -⟩ | ⟨attached, shared, -, granted⟩ |
    ⟨attached, readOnly, free, granted⟩
  · exact hs.settle joins.settle
  · rw [granted]
    exact hs.grantExclusive now attached shared
  · rw [granted]
    exact hs.grantWrite now attached readOnly free

/-- Only one attached client carries the write flag. -/
theorem one_writer (hs : s.LockConsistent) {j k : DeviceHandle} {c d : AttachedClient}
    (hc : s.attachedClients.lookup j = some c) (hd : s.attachedClients.lookup k = some d)
    (cWrites : c.hasWriteLock = true) (dWrites : d.hasWriteLock = true) : j = k := by
  have held := (hs.write_flag j c hc).mp cWrites
  rw [(hs.write_flag k d hd).mp dWrites] at held
  exact (Option.some.inj held).symm

end LockConsistent

/-- An expired lock is released first; then the queue is processed. -/
theorem process_timeouts_cases (s : DeviceSharingState) (now : Instant) :
    (∃ holder, (s.processTimeouts now).2 = ((s.releaseLock holder).2.processQueue now).2) ∨
      (s.processTimeouts now).2 = (s.processQueue now).2 := by
  unfold processTimeouts
  cases s.checkLockTimeout now with
  | none =>
      refine .inr ?_
      dsimp only
      split
      case h_1 served => rw [served]
      case h_2 idle => rw [idle]
  | some holder =>
      refine .inl ⟨holder, ?_⟩
      dsimp only
      split
      case h_1 served => rw [served]
      case h_2 idle => rw [idle]

theorem process_timeouts_settle (s : DeviceSharingState) (now : Instant) :
    ∃ u, s.Settle u ∧ u.Settle (s.processTimeouts now).2 := by
  rcases s.process_timeouts_cases now with ⟨holder, expired⟩ | idle
  · rw [expired]
    exact ⟨_, s.release_lock_settle holder, process_queue_settle _ now⟩
  · rw [idle]
    exact ⟨s, .refl, s.process_queue_settle now⟩

inductive SharingOp where
  | attachClient (clientId : String) (handle : DeviceHandle)
  | detachClient (handle : DeviceHandle)
  | acquireLock (handle : DeviceHandle) (writeAccess : Bool)
  | releaseLock (handle : DeviceHandle)
  | processQueue
  | processAll

def perform (s : DeviceSharingState) (now : Instant) : SharingOp → DeviceSharingState
  | .attachClient clientId handle => s.attachClient clientId handle now
  | .detachClient handle => (s.detachClient handle).2
  | .acquireLock handle writeAccess => (s.acquireLock handle writeAccess now).2
  | .releaseLock handle => (s.releaseLock handle).2
  | .processQueue => (s.processQueue now).2
  | .processAll => (s.processTimeouts now).2

/-- One device under any calls at any clock readings, monotonic or not. -/
def sharing : Machine DeviceSharingState (SharingOp × Instant) Empty where
  step s call := some (s.perform call.2 call.1, [])

def FreshAttach (s : DeviceSharingState) (call : SharingOp × Instant) : Prop :=
  ∀ clientId handle, call.1 = .attachClient clientId handle → handle ∉ s.attachedClients

theorem LockConsistent.perform (hs : s.LockConsistent) (call : SharingOp × Instant)
    (fresh : FreshAttach s call) : (s.perform call.2 call.1).LockConsistent := by
  obtain ⟨op, now⟩ := call
  cases op with
  | attachClient clientId handle => exact hs.attach clientId now (fresh clientId handle rfl)
  | detachClient handle => exact hs.detach handle
  | acquireLock handle writeAccess => exact hs.acquire handle writeAccess now
  | releaseLock handle => exact hs.settle (s.release_lock_settle handle)
  | processQueue => exact hs.settle (s.process_queue_settle now)
  | processAll =>
      obtain ⟨u, first, second⟩ := s.process_timeouts_settle now
      exact (hs.settle first).settle second

theorem lock_holders_consistent {id : DeviceId} {mode : SharingMode} {maxClients : Nat}
    {timeout : Duration} {tr : List Empty} {s : DeviceSharingState}
    (run : sharing.Exec FreshAttach (new id mode maxClients timeout) tr s) :
    s.LockConsistent ∧
      (∀ j k c d, s.attachedClients.lookup j = some c → s.attachedClients.lookup k = some d →
        c.hasWriteLock = true → d.hasWriteLock = true → j = k) ∧
      (s.mode = .exclusive → s.exclusiveLockHolder = none ∧ s.writeLockHolder = none) := by
  have consistent : s.LockConsistent := by
    refine run.stateInvariant (LockConsistent.new id mode maxClients timeout) ?_
    intro s call t out hs fresh step
    obtain ⟨rfl, -⟩ := Prod.mk.inj (Option.some.inj step)
    exact hs.perform call fresh
  refine ⟨consistent, fun j k c d hc hd => consistent.one_writer hc hd, fun hm => ?_⟩
  have notShared : s.mode ≠ .shared := by rw [hm]; exact SharingMode.noConfusion
  have notReadOnly : s.mode ≠ .readOnly := by rw [hm]; exact SharingMode.noConfusion
  exact ⟨consistent.no_exclusive_holder notShared, consistent.no_write_holder notReadOnly⟩

/-- Two clients in turn hold the lock of a shared device, the second one after
the first one's lock has timed out. -/
theorem lock_holders_consistent_handover :
    ∃ s tr, sharing.Exec FreshAttach (new ⟨1⟩ .shared 4 10) tr s ∧
      s.exclusiveLockHolder = some ⟨2⟩ ∧ s.LockConsistent := by
  have fresh₁ : FreshAttach (new ⟨1⟩ .shared 4 10) (.attachClient "a" ⟨1⟩, 0) := by
    rintro _ _ ⟨⟩
    decide
  have fresh₂ : FreshAttach ((new ⟨1⟩ .shared 4 10).attachClient "a" ⟨1⟩ 0)
      (.attachClient "b" ⟨2⟩, 0) := by
    rintro _ _ ⟨⟩
    decide
  have attached : sharing.Exec FreshAttach (new ⟨1⟩ .shared 4 10) _ _ :=
    .next (.next .start fresh₁ rfl) fresh₂ rfl
  have run : sharing.Exec FreshAttach (new ⟨1⟩ .shared 4 10) _ _ :=
    .next (.next (.next attached (a := (.acquireLock ⟨1⟩ false, 1)) (fun _ _ h => nomatch h) rfl)
      (a := (.acquireLock ⟨2⟩ false, 2)) (fun _ _ h => nomatch h) rfl)
      (a := (.processAll, 12)) (fun _ _ h => nomatch h) rfl
  exact ⟨_, _, run, rfl, (lock_holders_consistent run).1⟩

end DeviceSharingState
end P2pUsb
