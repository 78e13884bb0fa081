import Mathlib.Data.List.TakeWhile
import P2pUsb.Usb.SharingLocks

/-! The order of the access queue. `process_queue` serves it from the front, but
an acquire looks at the holder only: between the release of a lock and the next
`process_queue` it can overtake the queue, or leave its own entry behind. -/
namespace P2pUsb
namespace DeviceSharingState
variable {s t : DeviceSharingState} {h j : DeviceHandle} {w : Bool} {now : Instant}

def Queued (s : DeviceSharingState) (j : DeviceHandle) : Prop :=
  j ∈ s.accessQueue.map QueueEntry.handle

/-- An entry that `process_queue` would serve. -/
def Live (s : DeviceSharingState) (now : Instant) (entry : QueueEntry) : Prop :=
  entry.expired now = false ∧ entry.handle ∈ s.attachedClients

/-- A live entry of another client stands before every entry of this one. -/
def LiveAhead (s : DeviceSharingState) (now : Instant) (h : DeviceHandle) : Prop :=
  ∃ entry ∈ s.accessQueue.takeWhile fun e => e.handle != h, s.Live now entry

/-- The request is for the lock of this mode; reading in `ReadOnly` takes none. -/
def WantsLock (s : DeviceSharingState) (writeAccess : Bool) : Prop :=
  s.mode = .shared ∨ s.mode = .readOnly ∧ writeAccess = true

/-- Nobody overtakes a live entry, and no holder is left in the queue. -/
structure FirstComeFirstServed (s : DeviceSharingState) (call : SharingOp × Instant)
    (t : DeviceSharingState) : Prop where
  keepsOrder : ∀ h w, call.1 = .acquireLock h w → s.WantsLock w → s.LiveAhead call.2 h →
    (s.acquireLock h w call.2).1 ≠ .acquired
  holderLeaves : ∀ j, t.Holds j → ¬ t.Queued j

/-- An attached client that asks for a free lock has no entry of its own and finds
no live one. -/
def TakesItsTurn (s : DeviceSharingState) (call : SharingOp × Instant) : Prop :=
  ∀ h w, call.1 = .acquireLock h w → h ∈ s.attachedClients → s.WantsLock w →
    s.lockAvailable = true → ¬ s.Queued h ∧ ∀ entry ∈ s.accessQueue, ¬ s.Live call.2 entry

/-- Each lock is used in its own mode, each client waits once and no holder waits. -/
structure QueueInv (s : DeviceSharingState) : Prop where
  exclusiveLock : s.exclusiveLockHolder ≠ none → s.mode = .shared
  writeLock : s.writeLockHolder ≠ none → s.mode = .readOnly
  once : (s.accessQueue.map QueueEntry.handle).Nodup
  holderLeft : ∀ j, s.Holds j → ¬ s.Queued j

theorem Queued.of_sublist {queue : List QueueEntry} (less : queue.Sublist s.accessQueue)
    (queued : Queued { s with accessQueue := queue } j) : s.Queued j :=
  (less.map QueueEntry.handle).subset queued

theorem LiveAhead.live (ahead : s.LiveAhead now h) : ∃ e ∈ s.accessQueue, s.Live now e := by
  obtain ⟨e, before, live⟩ := ahead
  exact ⟨e, (List.takeWhile_sublist _).subset before, live⟩

/-- Of a client without an entry every live one is ahead. -/
theorem LiveAhead.of_live (absent : ¬ s.Queued h) {e : QueueEntry} (he : e ∈ s.accessQueue)
    (live : s.Live now e) : s.LiveAhead now h := by
  have whole : s.accessQueue.takeWhile (fun e => e.handle != h) = s.accessQueue := by
    refine List.takeWhile_eq_self_iff.mpr fun e' he' => ?_
    rw [bne_iff_ne]
    rintro rfl
    exact absent (List.mem_map_of_mem he')
  exact ⟨e, whole.symm ▸ he, live⟩

/-- The state after a granted acquire. -/
def grantLock (s : DeviceSharingState) (h : DeviceHandle) (now : Instant) : DeviceSharingState :=
  if s.mode = .shared then s.grantExclusive h now else s.grantWrite h now

/-- What an acquire does to the queue and to the holders. -/
inductive Acquires (s : DeviceSharingState) (h : DeviceHandle) (w : Bool) (now : Instant) :
    LockResult → DeviceSharingState → Prop
  | unchanged {result : LockResult} (refused : s.WantsLock w → result ≠ .acquired) :
      Acquires s h w now result s
  | waits (position : Nat) (entry : QueueEntry) (own : entry.handle = h) (absent : ¬ s.Queued h)
      (shared : s.mode = .shared → s.exclusiveLockHolder ≠ some h)
      (readOnly : s.mode = .readOnly → s.writeLockHolder ≠ some h) :
      Acquires s h w now (.queued position) { s with accessQueue := s.accessQueue ++ [entry] }
  | takes (attached : h ∈ s.attachedClients) (wants : s.WantsLock w)
      (free : s.lockAvailable = true) : Acquires s h w now .acquired (s.grantLock h now)

theorem add_to_queue_acquires (s : DeviceSharingState) (w v : Bool) (now : Instant)
    (shared : s.mode = .shared → s.exclusiveLockHolder ≠ some h)
    (readOnly : s.mode = .readOnly → s.writeLockHolder ≠ some h) :
    Acquires s h w now (.queued (s.addToQueue h v now).1) (s.addToQueue h v now).2 := by
  rcases s.add_to_queue_cases h v now with same | ⟨absent, entry, own, joined⟩
  · rw [same]
    exact .unchanged fun _ => LockResult.noConfusion
  · rw [joined]
    exact .waits _ entry own absent shared readOnly

theorem acquire_lock_acquires (s : DeviceSharingState) (h : DeviceHandle) (w : Bool)
    (now : Instant) : Acquires s h w now (s.acquireLock h w now).1 (s.acquireLock h w now).2 := by
  unfold acquireLock
  cases hl : s.attachedClients.lookup h with
  | none => exact .unchanged fun _ => LockResult.noConfusion
  | some client =>
      have attached := AList.mem_of_lookup hl
      cases hm : s.mode with
      | exclusive =>
          dsimp only
          split <;> exact .unchanged fun _ => LockResult.noConfusion
      | shared =>
          by_cases held : s.exclusiveLockHolder = some h
          · simp only [held, if_true]
            exact .unchanged fun _ => LockResult.noConfusion
          by_cases free : s.exclusiveLockHolder = none
          · have taken : Acquires s h w now _ _ := .takes attached (.inl hm)
              (by simp only [lockAvailable, hm, free, Option.isNone_none])
            rw [grantLock, if_pos hm] at taken
            simpa only [if_neg held, if_pos free] using taken
          · simp only [held, free, if_false]
            refine s.add_to_queue_acquires w w now (fun _ => held) fun wrong => ?_
            rw [hm] at wrong
            cases wrong
      | readOnly =>
          cases w with
          | false =>
              refine .unchanged fun wants => ?_
              simp only [WantsLock, hm, reduceCtorEq, Bool.false_eq_true, and_false,
                or_false] at wants
          | true =>
              by_cases held : s.writeLockHolder = some h
              · simp only [held, if_true]
                exact .unchanged fun _ => LockResult.noConfusion
              by_cases free : s.writeLockHolder = none
              · have taken : Acquires s h true now _ _ := .takes attached (.inr ⟨hm, rfl⟩)
                  (by simp only [lockAvailable, hm, free, Option.isNone_none])
                rw [grantLock, if_neg (by rw [hm]; exact SharingMode.noConfusion)] at taken
                simpa only [if_neg held, if_pos free, if_true] using taken
              · simp only [held, free, if_false, if_true]
                refine s.add_to_queue_acquires true true now (fun wrong => ?_) fun _ => held
                rw [hm] at wrong
                cases wrong

theorem Acquires.took {result : LockResult} (step : Acquires s h w now result t)
    (acquired : result = .acquired) (wants : s.WantsLock w) :
    h ∈ s.attachedClients ∧ s.lockAvailable = true := by
  cases step with
  | unchanged refused => exact absurd acquired (refused wants)
  | waits => cases acquired
  | takes attached _ free => exact ⟨attached, free⟩

theorem acquire_lock_free (attached : h ∈ s.attachedClients) (wants : s.WantsLock w)
    (free : s.lockAvailable = true) (now : Instant) :
    s.acquireLock h w now = (.acquired, s.grantLock h now) := by
  obtain ⟨client, present⟩ := AList.mem_iff.mp attached
  rcases wants with shared | ⟨readOnly, rfl⟩
  · have unheld : s.exclusiveLockHolder = none := by
      simpa only [lockAvailable, shared, Option.isNone_iff_eq_none] using free
    simp only [acquireLock, grantLock, present, shared, unheld, reduceCtorEq, if_false, if_true]
  · have unheld : s.writeLockHolder = none := by
      simpa only [lockAvailable, readOnly, Option.isNone_iff_eq_none] using free
    simp only [acquireLock, grantLock, present, readOnly, unheld, reduceCtorEq, if_false, if_true]

theorem grant_lock_holds : (s.grantLock h now).Holds h := by
  unfold grantLock
  split
  case isTrue => exact .inl rfl
  case isFalse => exact .inr rfl

theorem grant_lock_queue : (s.grantLock h now).accessQueue = s.accessQueue := by
  unfold grantLock
  split <;> rfl

theorem QueueInv.new (id : DeviceId) (mode : SharingMode) (maxClients : Nat)
    (timeout : Duration) : QueueInv (.new id mode maxClients timeout) where
  exclusiveLock := fun held => absurd rfl held
  writeLock := fun held => absurd rfl held
  once := List.nodup_nil
  holderLeft := fun _ _ queued => absurd queued List.not_mem_nil

namespace QueueInv

theorem trim (hs : s.QueueInv) {queue : List QueueEntry} (less : queue.Sublist s.accessQueue) :
    QueueInv { s with accessQueue := queue } where
  exclusiveLock := hs.exclusiveLock
  writeLock := hs.writeLock
  once := hs.once.sublist (less.map QueueEntry.handle)
  holderLeft := fun j held queued => hs.holderLeft j held (queued.of_sublist less)

/-- A free lock goes to a client without an entry. -/
theorem grantLock (hs : s.QueueInv) (now : Instant) (free : s.lockAvailable = true)
    (absent : ¬ s.Queued h) : (s.grantLock h now).QueueInv := by
  unfold DeviceSharingState.grantLock
  split
  case isTrue shared =>
    have unwritten : s.writeLockHolder = none := by
      by_contra held
      exact absurd (shared.symm.trans (hs.writeLock held)) SharingMode.noConfusion
    refine ⟨fun _ => shared, hs.writeLock, hs.once, ?_⟩
    rintro j (held | held)
    · obtain rfl := Option.some.inj held
      exact absent
    · exact absurd (unwritten.symm.trans held) (Option.some_ne_none j).symm
  case isFalse notShared =>
    have readOnly : s.mode = .readOnly := by
      cases hm : s.mode with
      | shared => exact absurd hm notShared
      | readOnly => rfl
      | exclusive =>
          rw [lockAvailable, hm] at free
          cases free
    have unlocked : s.exclusiveLockHolder = none := by
      by_contra held
      exact notShared (hs.exclusiveLock held)
    refine ⟨hs.exclusiveLock, fun _ => readOnly, hs.once, ?_⟩
    rintro j (held | held)
    · exact absurd (unlocked.symm.trans held) (Option.some_ne_none j).symm
    · obtain rfl := Option.some.inj held
      exact absent

theorem release (hs : s.QueueInv) (h : DeviceHandle) : (s.releaseLock h).2.QueueInv := by
  rcases s.release_lock_cases h with ⟨same, -⟩ | ⟨shared, held, freed⟩ | ⟨readOnly, held, freed⟩
  · rwa [same]
  · rw [freed]
    refine ⟨fun wrong => absurd rfl wrong, hs.writeLock, hs.once, ?_⟩
    rintro j (wrong | held)
    · cases wrong
    · exact hs.holderLeft j (.inr held)
  · rw [freed]
    refine ⟨hs.exclusiveLock, fun wrong => absurd rfl wrong, hs.once, ?_⟩
    rintro j (held | wrong)
    · exact hs.holderLeft j (.inl held)
    · cases wrong

theorem detach (hs : s.QueueInv) (h : DeviceHandle) : (s.detachClient h).2.QueueInv := by
  unfold detachClient
  split
  · exact hs
  have before := hs.trim (List.filter_sublist (p := fun e => e.handle != h))
  constructor
  · intro held
    obtain ⟨j, held⟩ := Option.ne_none_iff_exists'.mp held
    exact hs.exclusiveLock fun free => (nomatch free.symm.trans (holder_kept held))
  · intro held
    obtain ⟨j, held⟩ := Option.ne_none_iff_exists'.mp held
    exact hs.writeLock fun free => (nomatch free.symm.trans (holder_kept held))
  · exact before.once
  · rintro j (held | held)
    · exact before.holderLeft j (.inl (holder_kept held))
    · exact before.holderLeft j (.inr (holder_kept held))

/-- What `process_queue` serves was the only entry of its client. -/
theorem settle (hs : s.QueueInv) (available : s.lockAvailable = true) (step : s.Settle t) :
    t.QueueInv := by
  have unqueued : ∀ {entry rest}, (entry :: rest).Sublist s.accessQueue →
      ¬ Queued { s with accessQueue := rest } entry.handle := by
    intro entry rest less
    exact (List.nodup_cons.mp (hs.once.sublist (less.map QueueEntry.handle))).1
  cases step with
  | refl => exact hs
  | releaseExclusive h shared held =>
      rw [lockAvailable, shared, held] at available
      cases available
  | releaseWrite h readOnly held =>
      rw [lockAvailable, readOnly, held] at available
      cases available
  | enqueue entry _ busy => exact absurd (available.symm.trans busy) Bool.noConfusion
  | trim queue less => exact hs.trim less
  | serveExclusive entry rest now less _ shared _ =>
      have served := (hs.trim ((List.sublist_cons_self entry rest).trans less)).grantLock now
        available (unqueued less)
      rwa [DeviceSharingState.grantLock, if_pos shared] at served
  | serveWrite entry rest now less _ readOnly _ =>
      have served := (hs.trim ((List.sublist_cons_self entry rest).trans less)).grantLock now
        available (unqueued less)
      rwa [DeviceSharingState.grantLock, if_neg (by rw [readOnly]; exact SharingMode.noConfusion)]
        at served

theorem process (hs : s.QueueInv) (now : Instant) : (s.processQueue now).2.QueueInv := by
  cases available : s.lockAvailable with
  | true => exact hs.settle available (s.process_queue_settle now)
  | false => simpa only [processQueue, available, Bool.not_false, Bool.true_or, if_true] using hs

theorem acquire (hs : s.QueueInv) {result : LockResult} (step : Acquires s h w now result t)
    (turn : s.WantsLock w → h ∈ s.attachedClients → s.lockAvailable = true → ¬ s.Queued h) :
    t.QueueInv := by
  cases step with
  | unchanged => exact hs
  | takes attached wants free => exact hs.grantLock now free (turn wants attached free)
  | waits position entry own absent shared readOnly =>
      have once : ((s.accessQueue ++ [entry]).map QueueEntry.handle).Nodup := by
        rw [List.map_append, List.map_singleton, own]
        exact List.nodup_append.mpr ⟨hs.once, List.nodup_singleton h, by
          rintro j queued k joined rfl
          obtain rfl := List.mem_singleton.mp joined
          exact absent queued⟩
      refine ⟨hs.exclusiveLock, hs.writeLock, once, ?_⟩
      intro j held queued
      obtain ⟨e, he, rfl⟩ := List.mem_map.mp queued
      rcases List.mem_append.mp he with old | new
      · exact hs.holderLeft _ held (List.mem_map_of_mem old)
      obtain rfl := List.mem_singleton.mp new
      rw [own] at held
      rcases held with held | held
      · exact shared (hs.exclusiveLock (by rw [held]; exact Option.some_ne_none h)) held
      · exact readOnly (hs.writeLock (by rw [held]; exact Option.some_ne_none h)) held

theorem perform (hs : s.QueueInv) (call : SharingOp × Instant) (turn : s.TakesItsTurn call) :
    (s.perform call.2 call.1).QueueInv := by
  obtain ⟨op, now⟩ := call
  cases op with
  | attachClient clientId handle => exact ⟨hs.exclusiveLock, hs.writeLock, hs.once, hs.holderLeft⟩
  | detachClient handle => exact hs.detach handle
  | acquireLock h w =>
      refine hs.acquire (s.acquire_lock_acquires h w now) fun wants attached free => ?_
      exact (turn h w rfl attached wants free).1
  | releaseLock handle => exact hs.release handle
  | processQueue => exact hs.process now
  | processAll =>
      rcases s.process_timeouts_cases now with ⟨holder, expired⟩ | idle
      · simpa only [DeviceSharingState.perform, expired] using (hs.release holder).process now
      · simpa only [DeviceSharingState.perform, idle] using hs.process now

/-- The condition is exact at each call. -/
theorem served_perform (hs : s.QueueInv) (call : SharingOp × Instant) :
    s.FirstComeFirstServed call (s.perform call.2 call.1) ↔ s.TakesItsTurn call := by
  obtain ⟨op, now⟩ := call
  constructor
  · rintro served h w rfl attached wants free
    have granted := acquire_lock_free attached wants free now
    have absent : ¬ s.Queued h := by
      have left := served.holderLeaves h
      simp only [DeviceSharingState.perform, granted] at left
      simpa only [Queued, grant_lock_queue] using left grant_lock_holds
    refine ⟨absent, fun e he live => ?_⟩
    exact served.keepsOrder h w rfl wants (.of_live absent he live) (congrArg Prod.fst granted)
  · intro turn
    refine ⟨?_, (hs.perform (op, now) turn).holderLeft⟩
    rintro h w rfl wants ahead acquired
    obtain ⟨attached, free⟩ := (s.acquire_lock_acquires h w now).took acquired wants
    obtain ⟨e, he, live⟩ := ahead.live
    exact (turn h w rfl attached wants free).2 e he live

end QueueInv

theorem queue_order_iff_taking_turns (id : DeviceId) (mode : SharingMode) (maxClients : Nat)
    (timeout : Duration) (calls : List (SharingOp × Instant)) :
    sharing.EveryStep (fun s call t _ => s.FirstComeFirstServed call t)
        (new id mode maxClients timeout) calls ↔
      sharing.EveryStep (fun s call _ _ => s.TakesItsTurn call)
        (new id mode maxClients timeout) calls := by
  refine Machine.everyStep_congr (I := QueueInv) ?_ ?_
    (QueueInv.new id mode maxClients timeout) calls
  · intro s call t out hs step
    obtain ⟨rfl, -⟩ := Prod.mk.inj (Option.some.inj step)
    exact hs.served_perform call
  · intro s call t out hs step turn
    obtain ⟨rfl, -⟩ := Prod.mk.inj (Option.some.inj step)
    exact hs.perform call turn

/-- After a release the same client takes the lock again before the one that
waits for it; had that one asked itself, it would hold the lock and still wait. -/
theorem released_lock_overtakes_queue :
    ∃ s tr, sharing.Reach (new ⟨1⟩ .shared 4 (Duration.fromSecs 300)) tr s ∧
      s.LiveAhead 5 ⟨1⟩ ∧ (s.acquireLock ⟨1⟩ false 5).1 = .acquired ∧
      (s.perform 5 (.acquireLock ⟨2⟩ false)).Holds ⟨2⟩ ∧
      (s.perform 5 (.acquireLock ⟨2⟩ false)).Queued ⟨2⟩ ∧
      ¬ s.FirstComeFirstServed (.acquireLock ⟨1⟩ false, 5)
        (s.perform 5 (.acquireLock ⟨1⟩ false)) := by
  have attached : sharing.Reach (new ⟨1⟩ .shared 4 (Duration.fromSecs 300)) _ _ :=
    .next (.next .start (a := (.attachClient "a" ⟨1⟩, 0)) trivial rfl)
      (a := (.attachClient "b" ⟨2⟩, 1)) trivial rfl
  have run : sharing.Reach (new ⟨1⟩ .shared 4 (Duration.fromSecs 300)) _ _ :=
    .next (.next (.next attached (a := (.acquireLock ⟨1⟩ false, 2)) trivial rfl)
      (a := (.acquireLock ⟨2⟩ false, 3)) trivial rfl) (a := (.releaseLock ⟨1⟩, 4)) trivial rfl
  refine ⟨_, _, run, ?ahead, rfl, .inl rfl, .head _, fun served =>
    served.keepsOrder ⟨1⟩ false rfl (.inl rfl) ?ahead rfl⟩
  exact ⟨_, .head _, rfl, by decide⟩

end DeviceSharingState
end P2pUsb
