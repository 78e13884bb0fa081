import P2pUsb.Usb.ExpiryPass
import P2pUsb.Usb.SharedAccess

/-! The position of a waiting client. The queue, the lock and the flags of a client all bear
on it, and a flag can be set while the client waits: the first client has one that no lock
stands behind, and an acquire leaves the entry of its client in the queue. -/
namespace P2pUsb
namespace DeviceSharingState
variable {s t : DeviceSharingState} {h j : DeviceHandle} {w : Bool} {now clock : Instant}

/-- Every function that computes the position of a waiting client gives its place in the
queue, and position 0 is not given to a client that waits for the lock. -/
structure PositionsAgree (s : DeviceSharingState) : Prop where
  queued : ∀ n e, s.accessQueue[n]? = some e →
    s.getQueuePosition e.handle = n + 1 ∧
    (s.getStatus (some e.handle)).queuePosition = n + 1 ∧
    (∀ position, (e.handle, position) ∈ s.getAllQueuePositions ↔ position = n + 1) ∧
    ∀ w now position, (s.acquireLock e.handle w now).1 = .queued position → position = n + 1
  absent : ∀ h, s.getQueuePosition h = 0 → s.Holds h ∨ ¬ s.Queued h

/-- A flag of the client is set. -/
def Flagged (s : DeviceSharingState) (j : DeviceHandle) : Prop :=
  ∃ c, s.attachedClients.lookup j = some c ∧ (c.hasAccess = true ∨ c.hasWriteLock = true)

/-- An attached client that asks for a free lock has no entry in the queue, and one that asks
for the lock of another client does not have access already. -/
def AsksWithoutAccess (s : DeviceSharingState) (call : SharingOp × Instant) : Prop :=
  ∀ h w, call.1 = .acquireLock h w → h ∈ s.attachedClients → s.WantsLock w →
    (s.lockAvailable = true → ¬ s.Queued h) ∧
    (s.lockAvailable = false → ¬ s.Holds h → ¬ s.HasAccess h)

theorem queued_iff :
    s.Queued j ↔ ∃ (n : Nat) (e : QueueEntry), s.accessQueue[n]? = some e ∧ e.handle = j := by
  rw [Queued, List.mem_map]
  constructor
  · rintro ⟨e, waits, own⟩
    obtain ⟨n, place⟩ := List.mem_iff_getElem?.mp waits
    exact ⟨n, e, place, own⟩
  · rintro ⟨n, e, place, own⟩
    exact ⟨e, List.mem_of_getElem? place, own⟩

theorem queue_index_at (once : (s.accessQueue.map QueueEntry.handle).Nodup) {n : Nat}
    {e : QueueEntry} (place : s.accessQueue[n]? = some e) : s.queueIndex e.handle = some n := by
  obtain ⟨bound, here⟩ := List.getElem?_eq_some_iff.mp place
  refine List.findIdx?_eq_some_iff_getElem.mpr ⟨bound, ?_, fun i before same => ?_⟩
  · rw [here]
    exact beq_self_eq_true _
  · have twice : (s.accessQueue.map QueueEntry.handle)[n]? =
        (s.accessQueue.map QueueEntry.handle)[i]? := by
      rw [List.getElem?_map, List.getElem?_map, place, Option.map_some,
        List.getElem?_eq_getElem (before.trans bound), Option.map_some, eq_of_beq same]
    have index := (List.getElem?_inj (by rwa [List.length_map]) once).mp twice
    omega

theorem get_queue_position_flagged (flagged : s.Flagged j) : s.getQueuePosition j = 0 := by
  obtain ⟨c, present, flag⟩ := flagged
  rw [getQueuePosition, present]
  exact if_pos (Bool.or_eq_true_iff.mpr flag)

theorem get_queue_position_unflagged (plain : ¬ s.Flagged j) :
    s.getQueuePosition j = ((s.queueIndex j).map (· + 1)).getD 0 := by
  unfold getQueuePosition
  cases present : s.attachedClients.lookup j with
  | none => rfl
  | some c => exact if_neg fun flag => plain ⟨c, present, Bool.or_eq_true_iff.mp flag⟩

/-- An acquire that is queued answers with what `add_to_queue` returns. -/
theorem acquire_queued {position : Nat} (answer : (s.acquireLock h w now).1 = .queued position) :
    ∃ v, position = (s.addToQueue h v now).1 := by
  unfold acquireLock at answer
  split at answer
  · cases answer
  dsimp only at answer
  split at answer
  · split at answer <;> cases answer
  · split at answer
    · cases answer
    split at answer
    · cases answer
    · exact ⟨w, (LockResult.queued.inj answer).symm⟩
  · split at answer
    · split at answer
      · cases answer
      split at answer
      · cases answer
      · exact ⟨true, (LockResult.queued.inj answer).symm⟩
    · cases answer

/-- The positions agree as long as no waiting client has a flag. -/
theorem positions_agree_iff_plain (once : (s.accessQueue.map QueueEntry.handle).Nodup) :
    s.PositionsAgree ↔ ∀ j, s.Queued j → ¬ s.Flagged j := by
  constructor
  · intro agree j queued flagged
    obtain ⟨n, e, place, rfl⟩ := queued_iff.mp queued
    have position := (agree.queued n e place).1
    rw [get_queue_position_flagged flagged] at position
    omega
  · intro plain
    have position : ∀ n e, s.accessQueue[n]? = some e → s.getQueuePosition e.handle = n + 1 := by
      intro n e place
      rw [get_queue_position_unflagged (plain _ (queued_iff.mpr ⟨n, e, place, rfl⟩)),
        queue_index_at once place, Option.map_some, Option.getD_some]
    refine ⟨fun n e place => ⟨position n e place, position n e place, fun p => ?_, ?_⟩, ?_⟩
    · have index : (s.accessQueue.map QueueEntry.handle)[n]? = some e.handle := by
        rw [List.getElem?_map, place, Option.map_some]
      rw [get_all_queue_positions_eq, List.mk_mem_zipIdx_iff_le_and_getElem?_sub]
      constructor
      · rintro ⟨first, same⟩
        have bound := (List.getElem?_eq_some_iff.mp index).1
        have twice := (List.getElem?_inj bound once).mp (index.trans same.symm)
        omega
      · rintro rfl
        exact ⟨Nat.le_add_left 1 n, index⟩
    · intro w now p answer
      obtain ⟨v, rfl⟩ := acquire_queued answer
      rw [addToQueue, queue_index_at once place]
    · intro h zero
      refine .inr fun queued => ?_
      obtain ⟨n, e, place, rfl⟩ := queued_iff.mp queued
      have other := position n e place
      omega

theorem flagged_grant (flagged : (s.grantLock h now).Flagged j) : j = h ∨ s.Flagged j := by
  obtain ⟨c, present, flag⟩ := flagged
  unfold grantLock at present
  split at present
  all_goals
    rcases AList.lookup_modify_eq_some.mp present with ⟨same, -⟩ | ⟨-, old⟩
    · exact .inl same
    · exact .inr ⟨c, old, flag⟩

theorem flagged_grant_self (attached : h ∈ s.attachedClients) : (s.grantLock h now).Flagged h := by
  obtain ⟨c, present⟩ := AList.mem_iff.mp attached
  unfold grantLock
  split
  case isTrue =>
    exact ⟨_, AList.lookup_modify_eq_some.mpr (.inl ⟨rfl, c, present, rfl⟩), .inl rfl⟩
  case isFalse =>
    exact ⟨_, AList.lookup_modify_eq_some.mpr (.inl ⟨rfl, c, present, rfl⟩), .inr rfl⟩

/-- The holder keeps its lock. -/
theorem QueueOrder.acquire_lock_held (hs : s.QueueOrder clock) (held : s.Holds h)
    (wants : s.WantsLock w) (now : Instant) : (s.acquireLock h w now).2 = s := by
  unfold acquireLock
  cases s.attachedClients.lookup h with
  | none => rfl
  | some client =>
      rcases wants with shared | ⟨readOnly, rfl⟩
      all_goals rcases hs.holds_cases held with ⟨mode, own⟩ | ⟨mode, own⟩
      · simp only [mode, own, if_true]
      · exact absurd (shared.symm.trans mode) SharingMode.noConfusion
      · exact absurd (readOnly.symm.trans mode) SharingMode.noConfusion
      · simp only [mode, own, if_true]

/-- A lock that another client holds is waited for. -/
theorem acquire_lock_busy (attached : h ∈ s.attachedClients) (wants : s.WantsLock w)
    (busy : s.lockAvailable = false) (other : ¬ s.Holds h) (now : Instant) :
    ∃ v, (s.acquireLock h w now).2 = (s.addToQueue h v now).2 := by
  obtain ⟨client, present⟩ := AList.mem_iff.mp attached
  rw [Holds, not_or] at other
  rcases wants with shared | ⟨readOnly, rfl⟩
  · have held : s.exclusiveLockHolder ≠ none := by
      simpa only [lockAvailable, shared, Option.isNone_eq_false_iff,
        Option.isSome_iff_ne_none] using busy
    refine ⟨w, ?_⟩
    simp only [acquireLock, present, shared, other.1, held, if_false]
  · have held : s.writeLockHolder ≠ none := by
      simpa only [lockAvailable, readOnly, Option.isNone_eq_false_iff,
        Option.isSome_iff_ne_none] using busy
    refine ⟨true, ?_⟩
    simp only [acquireLock, present, readOnly, other.2, held, if_false, if_true]

theorem acquire_lock_idle (idle : h ∈ s.attachedClients → ¬ s.WantsLock w) (now : Instant) :
    (s.acquireLock h w now).2 = s := by
  unfold acquireLock
  cases present : s.attachedClients.lookup h with
  | none => rfl
  | some client =>
      have wants := idle (AList.mem_of_lookup present)
      rw [WantsLock, not_or] at wants
      cases hm : s.mode with
      | exclusive => dsimp only; split <;> rfl
      | shared => exact absurd hm wants.1
      | readOnly => exact congrArg Prod.snd (if_neg fun write => wants.2 ⟨hm, write⟩)

theorem add_to_queue_queued (s : DeviceSharingState) (h : DeviceHandle) (w : Bool) (now : Instant) :
    (s.addToQueue h w now).2.Queued h := by
  unfold addToQueue
  cases position : s.queueIndex h with
  | some n =>
      obtain ⟨bound, own, -⟩ := List.findIdx?_eq_some_iff_getElem.mp position
      exact List.mem_map.mpr ⟨_, List.getElem_mem bound, eq_of_beq own⟩
  | none => exact List.mem_map.mpr ⟨_, List.mem_append_right _ List.mem_cons_self, rfl⟩

/-- Only a writer has the flag of the write lock, and no waiting client has any. -/
structure PositionInv (s : DeviceSharingState) (clock : Instant) : Prop
    extends QueueOrder s clock where
  writer : ∀ j c, s.attachedClients.lookup j = some c → c.hasWriteLock = true →
    s.writeLockHolder = some j
  plain : ∀ j, s.Queued j → ¬ s.Flagged j

namespace PositionInv

theorem new (id : DeviceId) (mode : SharingMode) (maxClients : Nat) (timeout : Duration)
    (clock : Instant) : PositionInv (.new id mode maxClients timeout) clock where
  toQueueOrder := .new id mode maxClients timeout clock
  writer := fun _ _ present => (nomatch present)
  plain := fun _ queued => absurd queued List.not_mem_nil

theorem idle (hs : s.PositionInv clock) (later : clock ≤ now) : s.PositionInv now where
  toQueueOrder := hs.toQueueOrder.shrinks later (.refl s)
  writer := hs.writer
  plain := hs.plain

theorem trim (hs : s.PositionInv clock) {queue : List QueueEntry}
    (less : queue.Sublist s.accessQueue) : PositionInv { s with accessQueue := queue } clock where
  toQueueOrder := hs.toQueueOrder.shrinks (Nat.le_refl clock) (.trim less)
  writer := hs.writer
  plain := fun j queued => hs.plain j (queued.of_sublist less)

theorem grantLock (hs : s.PositionInv clock) (later : clock ≤ now)
    (available : s.lockAvailable = true) (absent : ¬ s.Queued h) :
      (s.grantLock h now).PositionInv now where
  toQueueOrder := hs.toQueueOrder.shrinks later (.grantLock available h now)
  writer := by
    intro j c present flag
    have unwritten : s.writeLockHolder = none := by
      refine Option.eq_none_iff_forall_ne_some.mpr fun k held => ?_
      exact (hs.lock_available_iff.mp available).2 k (.inr held)
    have nobody : ∀ c', s.attachedClients.lookup j = some c' → c'.hasWriteLock = true → False :=
      fun c' old flag => Option.some_ne_none j ((hs.writer j c' old flag).symm.trans unwritten)
    unfold DeviceSharingState.grantLock at present ⊢
    split at present
    case isTrue =>
      rcases AList.lookup_modify_eq_some.mp present with ⟨rfl, old, there, rfl⟩ | ⟨-, old⟩
      · exact (nobody old there flag).elim
      · exact (nobody c old flag).elim
    case isFalse notShared =>
      rw [if_neg notShared]
      rcases AList.lookup_modify_eq_some.mp present with ⟨rfl, -⟩ | ⟨-, old⟩
      · rfl
      · exact (nobody c old flag).elim
  plain := by
    intro j queued flagged
    rw [Queued, grant_lock_queue] at queued
    rcases flagged_grant flagged with rfl | old
    · exact absent queued
    · exact hs.plain j queued old

theorem attach (hs : s.PositionInv clock) (later : clock ≤ now) (clientId : String)
    (h : DeviceHandle) : (s.attachClient clientId h now).PositionInv now where
  toQueueOrder := hs.toQueueOrder.shrinks later (s.attach_shrinks clientId h now)
  writer := by
    intro j c present flag
    rcases AList.lookup_insert_eq_some.mp present with ⟨-, rfl⟩ | ⟨-, old⟩
    · cases flag
    · exact hs.writer j c old flag
  plain := by
    rintro j queued ⟨c, present, flag⟩
    obtain ⟨e, waits, rfl⟩ := List.mem_map.mp queued
    rcases AList.lookup_insert_eq_some.mp present with ⟨rfl, rfl⟩ | ⟨-, old⟩
    · -- a queued client is attached, so the new one is not the first
      have used : s.mode ≠ .exclusive := by
        intro exclusive
        have gone : e ∈ [] := hs.unused exclusive ▸ waits
        exact List.not_mem_nil gone
      have others : s.attachedClients.size ≠ 0 := fun empty =>
        AList.size_eq_zero.mp empty e.handle (hs.attached e waits)
      simp [used, others] at flag
    · exact hs.plain e.handle queued ⟨c, old, flag⟩

theorem detach (hs : s.PositionInv clock) (later : clock ≤ now) (h : DeviceHandle) :
    (s.detachClient h).2.PositionInv now := by
  have order := hs.toQueueOrder.shrinks later (s.detach_shrinks h)
  unfold detachClient at order ⊢
  split
  · exact hs.idle later
  case h_2 client there =>
    rw [there] at order
    refine ⟨order, ?_, ?_⟩
    · intro j c present flag
      obtain ⟨other, old⟩ := AList.lookup_erase_eq_some.mp present
      have own := hs.writer j c old flag
      dsimp only
      rw [own, if_neg fun same => other (Option.some.inj same)]
    · rintro j queued ⟨c, present, flag⟩
      obtain ⟨-, old⟩ := AList.lookup_erase_eq_some.mp present
      exact hs.plain j (queued.of_sublist List.filter_sublist) ⟨c, old, flag⟩

theorem release (hs : s.PositionInv clock) (h : DeviceHandle) :
    (s.releaseLock h).2.PositionInv clock := by
  have order := hs.toQueueOrder.shrinks (Nat.le_refl clock) (s.release_shrinks h)
  rcases s.release_lock_cases h with ⟨same, -⟩ | ⟨shared, held, freed⟩ | ⟨readOnly, held, freed⟩
  · rwa [same]
  · rw [freed] at order ⊢
    refine ⟨order, ?_, ?_⟩
    · intro j c present flag
      rcases AList.lookup_modify_eq_some.mp present with ⟨rfl, old, there, rfl⟩ | ⟨-, old⟩
      · exact hs.writer j old there flag
      · exact hs.writer j c old flag
    · rintro j queued ⟨c, present, flag⟩
      rcases AList.lookup_modify_eq_some.mp present with ⟨rfl, old, there, rfl⟩ | ⟨-, old⟩
      · exact hs.plain j queued ⟨old, there, flag.imp (fun wrong => (nomatch wrong)) id⟩
      · exact hs.plain j queued ⟨c, old, flag⟩
  · rw [freed] at order ⊢
    refine ⟨order, ?_, ?_⟩
    · intro j c present flag
      rcases AList.lookup_modify_eq_some.mp present with ⟨rfl, old, there, rfl⟩ | ⟨other, old⟩
      · cases flag
      · have own := hs.writer j c old flag
        exact absurd (Option.some.inj (own.symm.trans held)) other
    · rintro j queued ⟨c, present, flag⟩
      rcases AList.lookup_modify_eq_some.mp present with ⟨rfl, old, there, rfl⟩ | ⟨-, old⟩
      · exact hs.plain j queued ⟨old, there, flag.imp id fun wrong => (nomatch wrong)⟩
      · exact hs.plain j queued ⟨c, old, flag⟩

theorem process (hs : s.PositionInv clock) (later : clock ≤ now) :
    (s.processQueue now).2.PositionInv now := by
  have step := s.process_queue_serves_cases now
  generalize (s.processQueue now).2 = t at step
  cases step with
  | idle => exact hs.idle later
  | trim queue less => exact (hs.trim less).idle later
  | grant entry rest available front less =>
      have once := hs.once.sublist (less.map QueueEntry.handle)
      have trimmed := hs.trim ((List.sublist_cons_self entry rest).trans less)
      exact trimmed.grantLock later available (List.nodup_cons.mp once).1

theorem process_timeouts (hs : s.PositionInv clock) (later : clock ≤ now) :
    (s.processTimeouts now).2.PositionInv now := by
  rcases s.process_timeouts_cases now with ⟨holder, expired⟩ | idle
  · rw [expired]
    exact (hs.release holder).process later
  · rw [idle]
    exact hs.process later

/-- A client that waits for the lock of another one has no flag of its own. -/
theorem unflagged (hs : s.PositionInv clock) (other : ¬ s.Holds h) (plain : ¬ s.HasAccess h) :
    ¬ s.Flagged h := by
  rintro ⟨c, present, access | write⟩
  · exact plain ⟨c, present, access⟩
  · exact other (.inr (hs.writer h c present write))

theorem enqueue (hs : s.PositionInv clock) (later : clock ≤ now) (v : Bool)
    (order : (s.addToQueue h v now).2.QueueOrder now) (plain : ¬ s.Flagged h) :
    (s.addToQueue h v now).2.PositionInv now := by
  rcases s.add_to_queue_cases h v now with same | ⟨-, entry, own, joined⟩
  · rw [same]
    exact hs.idle later
  · rw [joined] at order ⊢
    refine ⟨order, hs.writer, fun j queued => ?_⟩
    obtain ⟨e, waits, rfl⟩ := List.mem_map.mp queued
    rcases List.mem_append.mp waits with old | new
    · exact hs.plain e.handle (List.mem_map_of_mem old)
    · obtain rfl := List.mem_singleton.mp new
      rw [own]
      exact plain

theorem acquire (hs : s.PositionInv clock) (later : clock ≤ now)
    (asks : s.AsksWithoutAccess (.acquireLock h w, now)) :
    (s.acquireLock h w now).2.PositionInv now := by
  by_cases attached : h ∈ s.attachedClients
  case neg =>
    rw [acquire_lock_idle fun present => absurd present attached]
    exact hs.idle later
  by_cases wants : s.WantsLock w
  case neg =>
    rw [acquire_lock_idle fun _ => wants]
    exact hs.idle later
  obtain ⟨free, busy⟩ := asks h w rfl attached wants
  cases available : s.lockAvailable with
  | true =>
      rw [acquire_lock_free attached wants available]
      exact hs.grantLock later available (free available)
  | false =>
      by_cases held : s.Holds h
      · rw [hs.acquire_lock_held held wants]
        exact hs.idle later
      · have order := hs.toQueueOrder.perform (.acquireLock h w) later
        rw [DeviceSharingState.perform] at order
        obtain ⟨v, waits⟩ := acquire_lock_busy attached wants available held now
        rw [waits] at order ⊢
        exact hs.enqueue later v order (hs.unflagged held (busy available held))

theorem perform (hs : s.PositionInv clock) (op : SharingOp) (later : clock ≤ now)
    (asks : s.AsksWithoutAccess (op, now)) : (s.perform now op).PositionInv now := by
  cases op with
  | attachClient clientId handle => exact hs.attach later clientId handle
  | detachClient handle => exact hs.detach later handle
  | acquireLock handle writeAccess => exact hs.acquire later asks
  | releaseLock handle => exact (hs.release handle).idle later
  | processQueue => exact hs.process later
  | processAll => exact hs.process_timeouts later

/-- The condition is exact at each call. -/
theorem agree_perform (hs : s.PositionInv clock) (op : SharingOp) (later : clock ≤ now) :
    (s.perform now op).PositionsAgree ↔ s.AsksWithoutAccess (op, now) := by
  have order := hs.toQueueOrder.perform op later
  refine ⟨fun agree => ?_, fun asks => ?_⟩
  · have plain := (positions_agree_iff_plain order.once).mp agree
    rintro h w rfl attached wants
    refine ⟨fun available queued => ?_, fun available other access => ?_⟩
    · have granted := congrArg Prod.snd (acquire_lock_free attached wants available now)
      simp only [DeviceSharingState.perform, granted] at plain
      refine plain h ?_ (flagged_grant_self attached)
      rw [Queued, grant_lock_queue]
      exact queued
    · obtain ⟨v, waits⟩ := acquire_lock_busy attached wants available other now
      simp only [DeviceSharingState.perform, waits] at plain
      obtain ⟨c, present, flag⟩ := access
      refine plain h (s.add_to_queue_queued h v now) ⟨c, ?_, .inl flag⟩
      rcases s.add_to_queue_cases h v now with same | ⟨-, entry, -, joined⟩
      · rwa [same]
      · rwa [joined]
  · exact (positions_agree_iff_plain order.once).mpr (hs.perform op later asks).plain

end PositionInv

theorem positions_agree_iff_asks (id : DeviceId) (mode : SharingMode) (maxClients : Nat)
    (timeout : Duration) (start : Instant) (calls : List (SharingOp × Instant)) :
    timedSharing.EveryStep (fun _ _ t _ => t.1.PositionsAgree)
        (new id mode maxClients timeout, start) calls ↔
      timedSharing.EveryStep (fun s call _ _ => s.1.AsksWithoutAccess call)
        (new id mode maxClients timeout, start) calls := by
  refine Machine.everyStep_congr (I := fun s => s.1.PositionInv s.2) ?_ ?_
    (PositionInv.new id mode maxClients timeout start) calls
  · intro s call t out hs step
    obtain ⟨later, rfl⟩ := timed_sharing_step step
    exact hs.agree_perform call.1 later
  · intro s call t out hs step asks
    obtain ⟨later, rfl⟩ := timed_sharing_step step
    exact hs.perform call.1 later asks

/-- The first client has access without a lock. When it asks for the lock that the second
client took, it waits as number 1 and is told position 0. -/
theorem first_client_waits_at_zero :
    ∃ s clock tr, timedSharing.Reach (new ⟨1⟩ .shared 4 (Duration.fromSecs 300), 0) tr (s, clock) ∧
      s.exclusiveLockHolder = some ⟨2⟩ ∧ s.getAllQueuePositions = [(⟨1⟩, 1)] ∧
      s.getQueuePosition ⟨1⟩ = 0 ∧ ¬ s.PositionsAgree := by
  have attached : timedSharing.Reach (new ⟨1⟩ .shared 4 (Duration.fromSecs 300), 0) _ _ :=
    .next (.next .start (a := (.attachClient "a" ⟨1⟩, 0)) trivial rfl)
      (a := (.attachClient "b" ⟨2⟩, 1)) trivial rfl
  have run : timedSharing.Reach (new ⟨1⟩ .shared 4 (Duration.fromSecs 300), 0) _ _ :=
    .next (.next attached (a := (.acquireLock ⟨2⟩ false, 2)) trivial rfl)
      (a := (.acquireLock ⟨1⟩ false, 3)) trivial rfl
  refine ⟨_, _, _, run, rfl, rfl, rfl, fun agree => ?_⟩
  exact absurd (agree.queued 0 _ rfl).1 (by decide)

end DeviceSharingState
end P2pUsb
