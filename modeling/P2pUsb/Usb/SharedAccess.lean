import P2pUsb.Usb.SharingLocks

/-! The access flag in shared mode. A first client gets it without taking the
lock, so a later acquire by another client can make it double; every other
operation keeps the flag with one client. -/
namespace P2pUsb
namespace DeviceSharingState
variable {s t : DeviceSharingState} {h j k : DeviceHandle} {now : Instant}

def HasAccess (s : DeviceSharingState) (j : DeviceHandle) : Prop :=
  ∃ c, s.attachedClients.lookup j = some c ∧ c.hasAccess = true

theorem HasAccess.attached (hj : s.HasAccess j) : j ∈ s.attachedClients := by
  obtain ⟨c, present, -⟩ := hj
  exact AList.mem_of_lookup present

theorem has_access_grant (attached : h ∈ s.attachedClients) :
    (s.grantExclusive h now).HasAccess j ↔ j = h ∨ s.HasAccess j := by
  unfold HasAccess grantExclusive
  simp only [AList.lookup_modify_eq]
  by_cases hj : j = h
  · obtain ⟨c, present⟩ := AList.mem_iff.mp attached
    simp only [hj, if_true, present, Option.map_some, true_or, iff_true]
    exact ⟨_, rfl, rfl⟩
  · simp only [hj, if_false, false_or]

theorem has_access_release (holder : Option DeviceHandle) :
    HasAccess { s with
      exclusiveLockHolder := holder
      attachedClients := s.attachedClients.modify h fun c =>
        { c with hasAccess := false, lockAcquiredAt := none } } j ↔ j ≠ h ∧ s.HasAccess j := by
  unfold HasAccess
  simp only [AList.lookup_modify_eq]
  by_cases hj : j = h
  · simp only [hj, if_true, ne_eq, not_true, false_and, iff_false]
    rintro ⟨c, found, flag⟩
    obtain ⟨c', -, rfl⟩ := Option.map_eq_some_iff.mp found
    cases flag
  · simp only [hj, if_false, ne_eq, not_false_eq_true, true_and]

theorem has_access_detach : (s.detachClient h).2.HasAccess j ↔ j ≠ h ∧ s.HasAccess j := by
  unfold HasAccess detachClient
  cases hl : s.attachedClients.lookup h with
  | none =>
      refine ⟨fun ⟨c, present, flag⟩ => ⟨?_, c, present, flag⟩, fun found => found.2⟩
      rintro rfl
      exact absurd (hl.symm.trans present) (Option.some_ne_none c).symm
  | some client =>
      simp only [AList.lookup_erase_eq]
      by_cases hj : j = h <;> simp only [hj, if_true, if_false, ne_eq, not_true, not_false_eq_true,
        reduceCtorEq, false_and, exists_false, true_and]

theorem has_access_attach (shared : s.mode = .shared) (clientId : String) :
    (s.attachClient clientId h now).HasAccess j ↔
      if j = h then s.attachedClients.size = 0 else s.HasAccess j := by
  unfold HasAccess attachClient
  simp only [AList.lookup_insert_eq]
  by_cases hj : j = h
  · simp only [hj, if_true, Option.some.injEq, exists_eq_left', shared, Bool.or_eq_true,
      beq_iff_eq, reduceCtorEq, false_or]
  · simp only [hj, if_false]

/-- At most one attached client has access, and it is the holder if there is one. -/
structure SoleAccess (s : DeviceSharingState) : Prop where
  unique : ∀ j k, s.HasAccess j → s.HasAccess k → j = k
  holder : ∀ h, s.exclusiveLockHolder = some h → s.HasAccess h

/-- With it, what the queue adds: waiting clients are attached, and while they
wait for a free lock nobody has access. -/
structure SharedInv (s : DeviceSharingState) : Prop extends SoleAccess s where
  shared : s.mode = .shared
  waiting : ∀ e ∈ s.accessQueue, e.handle ∈ s.attachedClients
  unclaimed : s.exclusiveLockHolder = none → s.accessQueue ≠ [] → ∀ j, ¬ s.HasAccess j

namespace SharedInv

theorem new (id : DeviceId) (maxClients : Nat) (timeout : Duration) :
    SharedInv (.new id .shared maxClients timeout) where
  unique := by rintro j k ⟨c, present, -⟩; cases present
  holder := fun h held => (nomatch held)
  shared := rfl
  waiting := fun e he => absurd he List.not_mem_nil
  unclaimed := fun _ waiting => absurd rfl waiting

theorem grant (hs : s.SharedInv) (now : Instant) (attached : h ∈ s.attachedClients)
    (others : ∀ j, s.HasAccess j → j = h) : (s.grantExclusive h now).SharedInv where
  unique := by
    intro j k hj hk
    have same : ∀ i, (s.grantExclusive h now).HasAccess i → i = h := fun i hi =>
      ((has_access_grant attached).mp hi).elim id (others i)
    rw [same j hj, same k hk]
  holder := by
    intro j held
    exact (has_access_grant attached).mpr (.inl (Option.some.inj held).symm)
  shared := hs.shared
  waiting := fun e he => AList.mem_modify.mpr (hs.waiting e he)
  unclaimed := fun free => (nomatch free)

theorem attach (hs : s.SharedInv) (clientId : String) (now : Instant)
    (notHolder : s.exclusiveLockHolder ≠ some h) : (s.attachClient clientId h now).SharedInv where
  unique := by
    intro j k hj hk
    rw [has_access_attach hs.shared] at hj hk
    by_cases empty : s.attachedClients.size = 0
    · have nobody : ∀ i, ¬ s.HasAccess i := fun i hi =>
        AList.size_eq_zero.mp empty i hi.attached
      split at hj <;> split at hk
      case isTrue.isTrue jh kh => rw [jh, kh]
      all_goals exact absurd (by assumption) (nobody _)
    · split at hj <;> split at hk
      case isFalse.isFalse => exact hs.unique j k hj hk
      all_goals contradiction
  holder := by
    intro j held
    have other : j ≠ h := by
      rintro rfl
      exact notHolder held
    rw [has_access_attach hs.shared, if_neg other]
    exact hs.holder j held
  shared := hs.shared
  waiting := fun e he => (AList.mem_insert _).mpr (.inr (hs.waiting e he))
  unclaimed := by
    intro free waiting j hj
    rw [has_access_attach hs.shared] at hj
    split at hj
    · obtain ⟨e, he⟩ := List.exists_mem_of_ne_nil _ waiting
      exact AList.size_eq_zero.mp hj e.handle (hs.waiting e he)
    · exact hs.unclaimed free waiting j hj

theorem detach (hs : s.SharedInv) (h : DeviceHandle) : (s.detachClient h).2.SharedInv := by
  have access : ∀ {j}, (s.detachClient h).2.HasAccess j ↔ j ≠ h ∧ s.HasAccess j :=
    has_access_detach
  cases attached : s.attachedClients.lookup h with
  | none => simpa only [detachClient, attached] using hs
  | some client =>
      simp only [detachClient, attached] at access ⊢
      constructor
      · constructor
        · exact fun j k hj hk => hs.unique j k (access.mp hj).2 (access.mp hk).2
        · intro j held
          dsimp only at held
          split at held
          case isTrue => cases held
          case isFalse others =>
            refine access.mpr ⟨?_, hs.holder j held⟩
            rintro rfl
            exact others held
      · exact hs.shared
      · intro e he
        obtain ⟨queued, other⟩ := List.mem_filter.mp he
        exact AList.mem_erase.mpr ⟨by simpa using other, hs.waiting e queued⟩
      · intro free waiting j hj
        obtain ⟨other, had⟩ := access.mp hj
        dsimp only at free
        split at free
        case isTrue held =>
          -- the holder left, and nobody else had access
          exact other (hs.unique j h had (hs.holder h held))
        case isFalse =>
          have queued : s.accessQueue ≠ [] := by
            intro empty
            exact waiting (by simp only [empty, List.filter_nil])
          exact hs.unclaimed free queued j had

theorem trim (hs : s.SharedInv) {queue : List QueueEntry} (less : queue.Sublist s.accessQueue) :
    SharedInv { s with accessQueue := queue } where
  unique := hs.unique
  holder := hs.holder
  shared := hs.shared
  waiting := fun e he => hs.waiting e (less.subset he)
  unclaimed := fun free waiting => hs.unclaimed free fun empty =>
    waiting (List.sublist_nil.mp (empty ▸ less))

theorem settle (hs : s.SharedInv) (step : s.Settle t) : t.SharedInv := by
  cases step with
  | refl => exact hs
  | releaseExclusive h _ held =>
      have nobody : ∀ j, ¬ HasAccess { s with
          exclusiveLockHolder := none
          attachedClients := s.attachedClients.modify h fun c =>
            { c with hasAccess := false, lockAcquiredAt := none } } j := by
        intro j hj
        obtain ⟨other, had⟩ := (has_access_release none).mp hj
        exact other (hs.unique j h had (hs.holder h held))
      constructor
      · exact ⟨fun j k hj => absurd hj (nobody j), fun j wrong => (nomatch wrong)⟩
      · exact hs.shared
      · exact fun e he => AList.mem_modify.mpr (hs.waiting e he)
      · exact fun _ _ => nobody
  | releaseWrite h readOnly _ => rw [hs.shared] at readOnly; cases readOnly
  | enqueue entry attached busy =>
      have held : s.exclusiveLockHolder ≠ none := by
        simpa only [lockAvailable, hs.shared, Option.isNone_eq_false_iff,
          Option.isSome_iff_ne_none] using busy
      constructor
      · exact ⟨hs.unique, hs.holder⟩
      · exact hs.shared
      · intro e he
        rcases List.mem_append.mp he with old | new
        · exact hs.waiting e old
        · rwa [List.mem_singleton.mp new]
      · exact fun free => absurd free held
  | trim queue less => exact hs.trim less
  | serveExclusive entry rest now less attached _ free =>
      have waiting : s.accessQueue ≠ [] := by
        rintro empty
        rw [empty] at less
        cases less
      have nobody := hs.unclaimed free waiting
      have trimmed := hs.trim ((List.sublist_cons_self entry rest).trans less)
      exact trimmed.grant now attached fun j hj => absurd hj (nobody j)
  | serveWrite entry rest now _ _ readOnly _ => rw [hs.shared] at readOnly; cases readOnly

end SharedInv

/-- A new attachment does not replace the holder's own entry, and a free lock is
taken only where nobody else has access already. -/
def Uncontested (s : DeviceSharingState) : SharingOp → Prop
  | .attachClient _ h => s.exclusiveLockHolder ≠ some h
  | .acquireLock h _ => h ∈ s.attachedClients → s.exclusiveLockHolder = none →
      ∀ j, s.HasAccess j → j = h
  | _ => True

theorem SharedInv.perform (hs : s.SharedInv) (op : SharingOp) (now : Instant)
    (ok : s.Uncontested op) : (s.perform now op).SharedInv := by
  cases op with
  | attachClient clientId handle => exact hs.attach clientId now ok
  | detachClient handle => exact hs.detach handle
  | acquireLock h w =>
      rcases acquire_lock_cases s h w now with ⟨joins, -⟩ | ⟨attached, -, free, granted⟩ |
        ⟨-, readOnly, -⟩
      · exact hs.settle joins.settle
      · simp only [DeviceSharingState.perform, granted]
        exact hs.grant now attached (ok attached free)
      · rw [hs.shared] at readOnly
        cases readOnly
  | releaseLock handle => exact hs.settle (s.release_lock_settle handle)
  | processQueue => exact hs.settle (s.process_queue_settle now)
  | processAll =>
      obtain ⟨u, first, second⟩ := s.process_timeouts_settle now
      exact (hs.settle first).settle second

/-- The condition is exact at each call. -/
theorem SharedInv.sole_access_perform (hs : s.SharedInv) (op : SharingOp) (now : Instant) :
    (s.perform now op).SoleAccess ↔ s.Uncontested op := by
  refine ⟨fun sole => ?_, fun ok => (hs.perform op now ok).toSoleAccess⟩
  cases op with
  | attachClient clientId h =>
      intro held
      have lost := sole.holder h held
      rw [DeviceSharingState.perform, has_access_attach hs.shared, if_pos rfl] at lost
      exact AList.size_eq_zero.mp lost h (hs.holder h held).attached
  | acquireLock h w =>
      intro attached free j hj
      rcases acquire_lock_cases s h w now with ⟨-, held⟩ | ⟨-, -, -, granted⟩ | ⟨-, readOnly, -⟩
      · exact absurd free (held attached hs.shared)
      · simp only [DeviceSharingState.perform, granted] at sole
        exact sole.unique j h ((has_access_grant attached).mpr (.inr hj))
          ((has_access_grant attached).mpr (.inl rfl))
      · rw [hs.shared] at readOnly
        cases readOnly
  | detachClient handle => trivial
  | releaseLock handle => trivial
  | processQueue => trivial
  | processAll => trivial

theorem sole_access_iff_uncontested (id : DeviceId) (maxClients : Nat) (timeout : Duration)
    (calls : List (SharingOp × Instant)) :
    sharing.EveryStep (fun _ _ t _ => t.SoleAccess) (new id .shared maxClients timeout) calls ↔
      sharing.EveryStep (fun s call _ _ => s.Uncontested call.1)
        (new id .shared maxClients timeout) calls := by
  refine Machine.everyStep_congr (I := SharedInv) ?_ ?_ (SharedInv.new id maxClients timeout) calls
  · intro s call t out hs step
    obtain ⟨rfl, -⟩ := Prod.mk.inj (Option.some.inj step)
    exact hs.sole_access_perform call.1 call.2
  · intro s call t out hs step ok
    obtain ⟨rfl, -⟩ := Prod.mk.inj (Option.some.inj step)
    exact hs.perform call.1 call.2 ok

/-- The first client has access from its attach, the second one from its lock. -/
theorem first_client_keeps_access :
    ∃ s tr, sharing.Reach (new ⟨1⟩ .shared 4 (Duration.fromSecs 300)) tr s ∧
      s.exclusiveLockHolder = some ⟨2⟩ ∧ s.HasAccess ⟨1⟩ ∧ s.HasAccess ⟨2⟩ ∧ ¬ s.SoleAccess := by
  have run : sharing.Reach (new ⟨1⟩ .shared 4 (Duration.fromSecs 300)) _ _ :=
    .next (.next (.next .start (a := (.attachClient "a" ⟨1⟩, 0)) trivial rfl)
      (a := (.attachClient "b" ⟨2⟩, 1)) trivial rfl) (a := (.acquireLock ⟨2⟩ false, 2)) trivial rfl
  refine ⟨_, _, run, rfl, ⟨_, rfl, rfl⟩, ⟨_, rfl, rfl⟩, fun sole => ?_⟩
  have same := sole.unique ⟨1⟩ ⟨2⟩ ⟨_, rfl, rfl⟩ ⟨_, rfl, rfl⟩
  cases same

end DeviceSharingState
end P2pUsb
