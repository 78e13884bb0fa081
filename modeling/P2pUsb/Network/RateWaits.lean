import P2pUsb.Network.BandwidthText
import P2pUsb.Network.TryAcquire

/-! The waits that `check` gives. They are long enough for every bucket, and they exist
as long as no limit of zero bytes per second applies. -/
namespace P2pUsb

namespace TokenBucket
variable {limit : BandwidthLimit} {now future d : ℚ} {b : TokenBucket} {bytes : Nat}

theorem Fits.wait_panics_iff (h : Fits limit now b) :
    (b.waitTime bytes now).1 = none ↔ b.level now < bytes ∧ limit.bytesPerSecond = 0 := by
  rw [waitTime, h.refill, h.rate]
  by_cases enough : (bytes : ℚ) ≤ b.level now
  · rw [if_pos enough]
    exact iff_of_false (Option.some_ne_none _) fun wrong => not_lt.mpr enough wrong.1
  · rw [if_neg enough]
    by_cases stopped : (limit.bytesPerSecond : ℚ) = 0
    · rw [if_pos stopped]
      exact iff_of_true rfl ⟨not_le.mp enough, Nat.cast_eq_zero.mp stopped⟩
    · rw [if_neg stopped]
      exact iff_of_false (Option.some_ne_none _) fun wrong =>
        stopped (Nat.cast_eq_zero.mpr wrong.2)

/-- A whole byte per second is the slowest rate that is not zero. -/
theorem Fits.wait_bounds (h : Fits limit now b) (waits : (b.waitTime bytes now).1 = some d) :
    0 ≤ d ∧ d ≤ bytes ∧ bytes ≤ b.level now + limit.bytesPerSecond * d := by
  rw [waitTime, h.refill, h.rate] at waits
  split at waits
  case isTrue enough =>
    obtain rfl := Option.some.inj waits
    rw [mul_zero, add_zero]
    exact ⟨le_rfl, Nat.cast_nonneg _, enough⟩
  case isFalse short =>
    split at waits
    case isTrue => cases waits
    case isFalse running =>
      obtain rfl := Option.some.inj waits
      have rate : (1 : ℚ) ≤ limit.bytesPerSecond := by
        rw [Nat.cast_eq_zero] at running
        exact_mod_cast Nat.one_le_iff_ne_zero.mpr running
      have positive : (0 : ℚ) < limit.bytesPerSecond := lt_of_lt_of_le one_pos rate
      have deficit : 0 ≤ (bytes : ℚ) - b.level now := sub_nonneg.mpr (not_le.mp short).le
      refine ⟨div_nonneg deficit positive.le, ?_, ?_⟩
      · rw [div_le_iff₀ positive]
        calc (bytes : ℚ) - b.level now ≤ bytes := sub_le_self _ h.level_nonneg
          _ ≤ bytes * limit.bytesPerSecond := le_mul_of_one_le_right (Nat.cast_nonneg _) rate
      · rw [mul_div_cancel₀ _ positive.ne', add_sub_cancel]

/-- After the wait the bucket has the tokens, if it has room for them at all. -/
theorem Fits.wait_covers (h : Fits limit now b) (waits : (b.waitTime bytes now).1 = some d)
    (room : bytes ≤ limit.burstBytes) (later : now + d ≤ future) :
    bytes ≤ ((b.waitTime bytes now).2.refill future).tokens := by
  obtain ⟨nonneg, -, covers⟩ := h.wait_bounds waits
  have elapsed : now ≤ future := (le_add_of_nonneg_right nonneg).trans later
  rw [h.wait_time, ((h.set_tokens h.level_nonneg h.level_le).1.later elapsed).refill]
  simp only [level, setTokens] at covers ⊢
  refine le_min (covers.trans (add_le_add le_rfl ?_)) ?_
  · rw [h.rate]
    exact mul_le_mul_of_nonneg_left (by linarith) (Nat.cast_nonneg _)
  · rw [h.burst]
    exact_mod_cast room

end TokenBucket

/-- What `check` says. -/
inductive RateLimitResult where
  | allowed
  | wait (d : ℚ)
  deriving DecidableEq, Repr

/-- One locked section of a call, or the removal of a bucket. -/
inductive LimiterCall where
  | check (bytes : Nat) (key : BucketKey)
  | consume (bytes : Nat) (key : BucketKey)
  | refund (bytes : Nat) (key : BucketKey)
  | record (bytes : Nat) (key : BucketKey)
  | removeClient (clientId : EndpointId)
  | removeDevice (deviceId : DeviceId)

namespace RateLimiter

def removeClient (limiter : RateLimiter) (clientId : EndpointId) : RateLimiter :=
  { limiter with clientBuckets := limiter.clientBuckets.erase clientId }

def removeDevice (limiter : RateLimiter) (deviceId : DeviceId) : RateLimiter :=
  { limiter with deviceBuckets := limiter.deviceBuckets.erase deviceId }

def call (limiter : RateLimiter) (now : ℚ) : LimiterCall → RateLimiter
  | .check bytes key => (limiter.checkBucket now bytes key).2
  | .consume bytes key => (limiter.consumeBucket now bytes key).2
  | .refund bytes key => limiter.refundBucket now bytes key
  | .record bytes key => limiter.recordBucket now bytes key
  | .removeClient clientId => limiter.removeClient clientId
  | .removeDevice deviceId => limiter.removeDevice deviceId

/-- The sections of any number of calls, interleaved in any way. -/
def replay (limiter : RateLimiter) : List (ℚ × LimiterCall) → RateLimiter
  | [] => limiter
  | (now, c) :: rest => (limiter.call now c).replay rest

/-- The sections of one `check`; the first result is nothing for a panic. -/
def checkFrom (bytes : Nat) (checkAt : BucketKey → ℚ) (maxWait : ℚ) :
    List BucketKey → RateLimiter → Option ℚ × RateLimiter
  | [], limiter => (some maxWait, limiter)
  | key :: rest, limiter =>
      match limiter.checkBucket (checkAt key) bytes key with
      | (some wait, limiter) =>
          checkFrom bytes checkAt (if wait > maxWait then wait else maxWait) rest limiter
      | (none, limiter) => (none, limiter)

def check (limiter : RateLimiter) (clientId : Option EndpointId) (deviceId : Option DeviceId)
    (bytes : Nat) (checkAt : BucketKey → ℚ) : Option RateLimitResult × RateLimiter :=
  match checkFrom bytes checkAt 0 (keys clientId deviceId) limiter with
  | (some maxWait, limiter) => (some (if maxWait = 0 then .allowed else .wait maxWait), limiter)
  | (none, limiter) => (none, limiter)

variable {limiter : RateLimiter} {now future start w d maxWait : ℚ} {key : BucketKey} {bytes : Nat}
  {limits : BucketKey → Option BandwidthLimit} {checkAt consumeAt refundAt : BucketKey → ℚ}
  {rest : List BucketKey} {history : List (ℚ × LimiterCall)}

/-- The limits that new buckets are made with. -/
def defaults (limiter : RateLimiter) : Option BandwidthLimit × Option BandwidthLimit :=
  (limiter.defaultClientLimit, limiter.defaultDeviceLimit)

theorem set_defaults (limiter : RateLimiter) (b : TokenBucket) (key : BucketKey) :
    (limiter.setBucket b key).defaults = limiter.defaults := by
  cases key <;> rfl

theorem touch_defaults {f : TokenBucket → TokenBucket} :
    (limiter.touch now key f).defaults = limiter.defaults := by
  rw [touch]
  split
  · exact set_defaults limiter _ key
  · rfl

theorem call_defaults (limiter : RateLimiter) (now : ℚ) (c : LimiterCall) :
    (limiter.call now c).defaults = limiter.defaults := by
  cases c with
  | check bytes key => rw [call, check_touch, touch_defaults]
  | consume bytes key => rw [call, consume_touch, touch_defaults]
  | record bytes key => rw [call, record_touch, touch_defaults]
  | refund bytes key =>
      rw [call]
      rcases @refund_touch limiter now key bytes with same | made
      · rw [same]
      · rw [made, touch_defaults]
  | removeClient clientId | removeDevice deviceId => rfl

/-- A bucket that has been removed is full when it is made again. -/
theorem erase_fits {κ : Type} [DecidableEq κ] {buckets : AList fun _ : κ => TokenBucket} {other : κ}
    {limit : BandwidthLimit} (k : κ)
      (kept : ((buckets.lookup other).getD (.new limit now)).Fits limit now) :
    (((buckets.erase k).lookup other).getD (.new limit now)).Fits limit now := by
  by_cases own : other = k
  · subst own
    rw [AList.lookup_erase, Option.getD_none]
    exact TokenBucket.fits_new
  · rwa [AList.lookup_erase_ne own]

/-- Histories keep the limiter sound for the limits it was made with. -/
structure Running (globalLimit clientLimit deviceLimit : Option BandwidthLimit)
    (limiter : RateLimiter) (now : ℚ) : Prop where
  sound : limiter.Sound (limitOf globalLimit clientLimit deviceLimit) now
  defaults : limiter.defaults = (clientLimit, deviceLimit)

variable {globalLimit clientLimit deviceLimit : Option BandwidthLimit}

theorem Running.remove_client (h : limiter.Running globalLimit clientLimit deviceLimit now)
    (clientId : EndpointId) :
    (limiter.removeClient clientId).Sound (limitOf globalLimit clientLimit deviceLimit) now where
  limited key limit configured := by
    obtain ⟨b, there, fits⟩ := h.sound.limited key limit configured
    cases key with
    | global | device deviceId => exact ⟨b, there, fits⟩
    | client otherId =>
        have set : limiter.defaultClientLimit = some limit :=
          (congrArg Prod.fst h.defaults).trans configured
        simp only [bucket, set, Option.map_some, Option.some.injEq] at there
        refine ⟨_, ?_, erase_fits clientId (there ▸ fits)⟩
        simp only [bucket, removeClient, set, Option.map_some]
  unlimited key missing := by
    have none := h.sound.unlimited key missing
    cases key with
    | global | device deviceId => exact none
    | client otherId => exact Option.map_eq_none_iff.mpr (Option.map_eq_none_iff.mp none)

theorem Running.remove_device (h : limiter.Running globalLimit clientLimit deviceLimit now)
    (deviceId : DeviceId) :
    (limiter.removeDevice deviceId).Sound (limitOf globalLimit clientLimit deviceLimit) now where
  limited key limit configured := by
    obtain ⟨b, there, fits⟩ := h.sound.limited key limit configured
    cases key with
    | global | client clientId => exact ⟨b, there, fits⟩
    | device otherId =>
        have set : limiter.defaultDeviceLimit = some limit :=
          (congrArg Prod.snd h.defaults).trans configured
        simp only [bucket, set, Option.map_some, Option.some.injEq] at there
        refine ⟨_, ?_, erase_fits deviceId (there ▸ fits)⟩
        simp only [bucket, removeDevice, set, Option.map_some]
  unlimited key missing := by
    have none := h.sound.unlimited key missing
    cases key with
    | global | client clientId => exact none
    | device otherId => exact Option.map_eq_none_iff.mpr (Option.map_eq_none_iff.mp none)

theorem Running.call (h : limiter.Running globalLimit clientLimit deviceLimit now)
    (c : LimiterCall) : (limiter.call now c).Running globalLimit clientLimit deviceLimit now where
  defaults := (call_defaults limiter now c).trans h.defaults
  sound := by
    cases c with
    | check bytes key => exact h.sound.check
    | consume bytes key => exact h.sound.consume
    | refund bytes key => exact h.sound.refund
    | record bytes key => exact h.sound.record
    | removeClient clientId => exact h.remove_client clientId
    | removeDevice deviceId => exact h.remove_device deviceId

/-- By induction on the history. -/
theorem Running.replay (h : limiter.Running globalLimit clientLimit deviceLimit start)
    (order : (start :: history.map Prod.fst ++ [now]).Pairwise (· ≤ ·)) :
    (limiter.replay history).Running globalLimit clientLimit deviceLimit now := by
  induction history generalizing limiter start with
  | nil =>
      have elapsed : start ≤ now := (List.pairwise_cons.mp order).1 now List.mem_cons_self
      exact { h with sound := h.sound.later elapsed }
  | cons e rest ih =>
      obtain ⟨later, order⟩ := List.pairwise_cons.mp order
      have elapsed : start ≤ e.1 := later e.1 List.mem_cons_self
      exact ih (Running.call { h with sound := h.sound.later elapsed } e.2) order

theorem check_result : (limiter.checkBucket now bytes key).1 =
    match limiter.bucket now key with
    | some b => (b.waitTime bytes now).1
    | none => some 0 := by
  rw [checkBucket]
  cases limiter.bucket now key <;> rfl

/-- The buckets after a `check` that does not panic. -/
def checked (bytes : Nat) (checkAt : BucketKey → ℚ) : List BucketKey → RateLimiter → RateLimiter :=
  touchAll (fun key b => (b.waitTime bytes (checkAt key)).2) checkAt

/-- A bucket panics, or the result is the longest of all the waits. -/
theorem check_from_cases (once : rest.Nodup) :
    ((checkFrom bytes checkAt maxWait rest limiter).1 = none ∧
        ∃ key ∈ rest, (limiter.checkBucket (checkAt key) bytes key).1 = none) ∨
      ∃ w, checkFrom bytes checkAt maxWait rest limiter =
        (some w, checked bytes checkAt rest limiter) ∧
        maxWait ≤ w ∧ (w = maxWait ∨ ∃ key ∈ rest,
          (limiter.checkBucket (checkAt key) bytes key).1 = some w) ∧
        ∀ key ∈ rest, ∃ d ≤ w, (limiter.checkBucket (checkAt key) bytes key).1 = some d := by
  induction rest generalizing limiter maxWait with
  | nil => exact .inr ⟨maxWait, rfl, le_rfl, .inl rfl, nofun⟩
  | cons key rest ih =>
      obtain ⟨absent, once⟩ := List.nodup_cons.mp once
      rcases result : limiter.checkBucket (checkAt key) bytes key with ⟨wait, after⟩
      obtain rfl : limiter.touch (checkAt key) key
          (fun b => (b.waitTime bytes (checkAt key)).2) = after := by
        rw [← check_touch, result]
      have elsewhere : ∀ other ∈ rest, ((limiter.touch (checkAt key) key fun b =>
          (b.waitTime bytes (checkAt key)).2).checkBucket (checkAt other) bytes other).1 =
            (limiter.checkBucket (checkAt other) bytes other).1 := by
        intro other present
        have different : other ≠ key := fun same => absent (same ▸ present)
        rw [check_result, check_result, (touch_ne different).1]
      cases wait with
      | none =>
          refine .inl ⟨?_, key, List.mem_cons_self, congrArg Prod.fst result⟩
          simp only [checkFrom, result]
      | some wait =>
          simp only [checkFrom, result]
          rcases @ih (limiter.touch (checkAt key) key fun b => (b.waitTime bytes (checkAt key)).2)
              (if wait > maxWait then wait else maxWait) once with
            ⟨panics, other, present, none⟩ | ⟨w, run, above, reached, all⟩
          · exact .inl ⟨panics, other, List.mem_cons_of_mem _ present,
              elsewhere other present ▸ none⟩
          · have longer : maxWait ≤ w ∧ wait ≤ w := by
              split at above
              · exact ⟨(le_of_lt ‹_›).trans above, above⟩
              · exact ⟨above, (not_lt.mp ‹_›).trans above⟩
            refine .inr ⟨w, run, longer.1, ?_, List.forall_mem_cons.mpr
              ⟨⟨wait, longer.2, congrArg Prod.fst result⟩, fun other present => ?_⟩⟩
            · rcases reached with rfl | ⟨other, present, waits⟩
              · split
                · exact .inr ⟨key, List.mem_cons_self, congrArg Prod.fst result⟩
                · exact .inl rfl
              · exact .inr ⟨other, List.mem_cons_of_mem _ present, elsewhere other present ▸ waits⟩
            · obtain ⟨d, shorter, waits⟩ := all other present
              exact ⟨d, shorter, elsewhere other present ▸ waits⟩

theorem try_acquire_of_gives {clientId : Option EndpointId} {deviceId : Option DeviceId}
    (gives : ∀ key ∈ keys clientId deviceId,
      (limiter.consumeBucket (consumeAt key) bytes key).1 = true) :
    (limiter.tryAcquire clientId deviceId bytes consumeAt refundAt).1 = true := by
  rcases @acquire_from_cases limiter bytes consumeAt
    refundAt [] _ (keys_nodup clientId deviceId) with
    ⟨-, result⟩ | ⟨done, last, after, split, -, refused, -⟩
  · rw [tryAcquire, result]
  · have present : last ∈ keys clientId deviceId := by
      rw [split]
      exact List.mem_append_right _ List.mem_cons_self
    rw [gives last present] at refused
    cases refused

/-- With the default burst, an empty rate leaves no tokens at all. -/
theorem Sound.check_panics_iff (h : limiter.Sound limits now)
    (burst : ∀ limit, limits key = some limit → limit.burstBytes = limit.bytesPerSecond) :
    (limiter.checkBucket now bytes key).1 = none ↔
      ∃ limit, limits key = some limit ∧ limit.bytesPerSecond = 0 ∧ bytes ≠ 0 := by
  rw [check_result]
  cases configured : limits key with
  | none =>
      rw [h.unlimited key configured]
      exact iff_of_false (fun wrong => nomatch wrong) fun ⟨_, wrong, _⟩ => nomatch wrong
  | some limit =>
      obtain ⟨b, there, fits⟩ := h.limited key limit configured
      have full := fits.level_le
      rw [burst limit configured] at full
      simp only [there, fits.wait_panics_iff, Option.some.injEq, exists_eq_left']
      constructor
      · rintro ⟨short, stopped⟩
        refine ⟨stopped, ?_⟩
        rintro rfl
        exact absurd fits.level_nonneg (not_le.mpr (by exact_mod_cast short))
      · rintro ⟨stopped, some⟩
        rw [stopped, Nat.cast_zero] at full
        exact ⟨full.trans_lt (Nat.cast_pos.mpr (Nat.pos_of_ne_zero some)), stopped⟩

/-- After the longest of the waits every bucket has the tokens it was asked for. -/
theorem Sound.checked_gives {all : List BucketKey} (h : limiter.Sound limits now) (once : all.Nodup)
    (present : key ∈ all) (started : now ≤ checkAt key)
    (waits : (limiter.checkBucket (checkAt key) bytes key).1 = some d)
    (room : ∀ limit, limits key = some limit → bytes ≤ limit.burstBytes)
    (later : checkAt key + d ≤ future) :
    ((checked bytes checkAt all limiter).consumeBucket future bytes key).1 = true := by
  refine consume_covered fun c found => ?_
  rw [checked, (touch_all_own once present).1] at found
  obtain ⟨b, there, rfl⟩ := Option.map_eq_some_iff.mp found
  obtain ⟨limit, configured, fits⟩ := (h.later started).fits there
  rw [check_result, there] at waits
  exact fits.wait_covers waits (room limit configured) later

/-- `check` answers, with a wait that no more than a second for each byte takes; and when
each applicable burst has room for the bytes, `try_acquire` gets them after the wait. -/
def WaitsSuffice (limits : BucketKey → Option BandwidthLimit) (limiter : RateLimiter)
    (clientId : Option EndpointId) (deviceId : Option DeviceId) (bytes : Nat)
    (checkAt : BucketKey → ℚ) : Prop :=
  ∃ result, (limiter.check clientId deviceId bytes checkAt).1 = some result ∧
    ∀ d, result = .wait d → 0 < d ∧ d ≤ bytes ∧
      ((∀ key ∈ keys clientId deviceId, ∀ limit, limits key = some limit →
          bytes ≤ limit.burstBytes) →
        ∀ done consumeAt refundAt, (∀ key ∈ keys clientId deviceId, checkAt key ≤ done) →
          (∀ key ∈ keys clientId deviceId, done + d ≤ consumeAt key) →
          ((limiter.check clientId deviceId bytes checkAt).2.tryAcquire clientId deviceId bytes
            consumeAt refundAt).1 = true)

/-- An answer gives waits that suffice, whatever the limits are. -/
theorem Sound.answer_suffices (h : limiter.Sound limits now) {clientId : Option EndpointId}
    {deviceId : Option DeviceId} (started : ∀ key ∈ keys clientId deviceId, now ≤ checkAt key)
    (run : checkFrom bytes checkAt 0 (keys clientId deviceId) limiter =
      (some w, checked bytes checkAt (keys clientId deviceId) limiter)) (above : 0 ≤ w)
    (reached : w = 0 ∨ ∃ key ∈ keys clientId deviceId,
      (limiter.checkBucket (checkAt key) bytes key).1 = some w)
    (all : ∀ key ∈ keys clientId deviceId, ∃ d ≤ w,
      (limiter.checkBucket (checkAt key) bytes key).1 = some d) :
    WaitsSuffice limits limiter clientId deviceId bytes checkAt := by
  have answers : limiter.check clientId deviceId bytes checkAt =
      (some (if w = 0 then .allowed else .wait w),
        checked bytes checkAt (keys clientId deviceId) limiter) := by
    rw [RateLimiter.check, run]
  rw [WaitsSuffice, answers]
  refine ⟨_, rfl, fun d waits => ?_⟩
  split at waits
  case isTrue => cases waits
  case isFalse some =>
    obtain rfl := RateLimitResult.wait.inj waits
    refine ⟨lt_of_le_of_ne above (Ne.symm some), ?_,
      fun room done consumeAt refundAt ends later => ?_⟩
    · rcases reached with zero | ⟨key, present, waits⟩
      · exact absurd zero some
      · rw [check_result] at waits
        split at waits
        · rename_i b there
          obtain ⟨limit, -, fits⟩ := (h.later (started key present)).fits there
          exact (fits.wait_bounds waits).2.1
        · exact absurd (Option.some.inj waits).symm some
    · refine try_acquire_of_gives fun key present => ?_
      obtain ⟨d, shorter, waits⟩ := all key present
      refine h.checked_gives (keys_nodup _ _) present (started key present) waits
        (room key present) ?_
      exact (add_le_add (ends key present) shorter).trans (later key present)

/-- Without a result of the sections there is no answer. -/
theorem check_unanswered {clientId : Option EndpointId} {deviceId : Option DeviceId}
    (panicked : (checkFrom bytes checkAt 0 (keys clientId deviceId) limiter).1 = none) :
    (limiter.check clientId deviceId bytes checkAt).1 = none := by
  rw [RateLimiter.check]
  split
  · rename_i run
    rw [run] at panicked
    cases panicked
  · rfl

theorem Sound.waits_suffice_iff (h : limiter.Sound limits now) {clientId : Option EndpointId}
    {deviceId : Option DeviceId}
    (burst : ∀ key limit, limits key = some limit → limit.burstBytes = limit.bytesPerSecond)
    (started : ∀ key ∈ keys clientId deviceId, now ≤ checkAt key) :
    WaitsSuffice limits limiter clientId deviceId bytes checkAt ↔
      bytes = 0 ∨ ∀ key ∈ keys clientId deviceId, ∀ limit, limits key = some limit →
        limit.bytesPerSecond ≠ 0 := by
  have panics {key : BucketKey} (present : key ∈ keys clientId deviceId) :=
    @check_panics_iff limiter (checkAt key) key bytes limits (h.later (started key present))
      (burst key)
  have outcome := @check_from_cases limiter 0 bytes checkAt _ (keys_nodup clientId deviceId)
  constructor
  · rintro ⟨result, answers, -⟩
    by_contra stopped
    obtain ⟨some, key, present, limit, configured, zero⟩ :
      bytes ≠ 0 ∧ ∃ key ∈ keys clientId deviceId,
        ∃ limit, limits key = some limit ∧ limit.bytesPerSecond = 0 := by
      simp only [not_or, not_forall, not_not, exists_prop] at stopped
      exact stopped
    have none := (panics present).mpr ⟨limit, configured, zero, some⟩
    rcases outcome with ⟨panicked, -⟩ | ⟨w, -, -, -, all⟩
    · cases (check_unanswered panicked).symm.trans answers
    · obtain ⟨d, -, waits⟩ := all key present
      cases none.symm.trans waits
  · intro running
    rcases outcome with ⟨-, key, present, none⟩ | ⟨w, run, above, reached, all⟩
    · obtain ⟨limit, configured, zero, some⟩ := (panics present).mp none
      rcases running with empty | positive
      · exact absurd empty some
      · exact absurd zero (positive key present limit configured)
    · exact h.answer_suffices started run above reached all

/-- For limits that the parser accepted, and after any history, the waits are finite and
sufficient if and only if no limit of less than one byte per second applies. -/
theorem rate_limit_waits_iff (overflowChecks : Bool) (table : LowercaseTable)
    (globalLimit clientLimit deviceLimit : Option BandwidthLimit)
    (accepted : ∀ key limit, limitOf globalLimit clientLimit deviceLimit key = some limit →
      ∃ text, BandwidthLimit.fromStr overflowChecks table text = some (some limit))
    (start now : ℚ) (history : List (ℚ × LimiterCall))
    (order : (start :: history.map Prod.fst ++ [now]).Pairwise (· ≤ ·))
    (clientId : Option EndpointId) (deviceId : Option DeviceId) (bytes : Nat)
    (checkAt : BucketKey → ℚ)
    (later : (now :: (keys clientId deviceId).map checkAt).Pairwise (· ≤ ·)) :
    WaitsSuffice (limitOf globalLimit clientLimit deviceLimit)
        ((new globalLimit clientLimit deviceLimit start).replay history) clientId deviceId bytes
        checkAt ↔
      bytes = 0 ∨ ∀ key ∈ keys clientId deviceId, ∀ limit,
        limitOf globalLimit clientLimit deviceLimit key = some limit →
          limit.bytesPerSecond ≠ 0 := by
  have fresh : (new globalLimit clientLimit deviceLimit start).Running globalLimit clientLimit
      deviceLimit start := ⟨sound_new start _ _ _, rfl⟩
  refine (fresh.replay order).sound.waits_suffice_iff (fun key limit configured => ?_) ?_
  · obtain ⟨text, parsed⟩ := accepted key limit configured
    obtain ⟨result, -, found⟩ := Option.map_eq_some_iff.mp parsed
    obtain ⟨bps, -, rfl⟩ := Option.map_eq_some_iff.mp found
    rfl
  · intro key present
    exact (List.pairwise_cons.mp later).1 _ (List.mem_map_of_mem present)

theorem global_only {own limit : BandwidthLimit}
    (configured : limitOf (some own) none none key = some limit) : limit = own := by
  cases key with
  | global => exact (Option.some.inj configured).symm
  | client clientId | device deviceId => cases configured

/-- Ten bytes per second for everyone, and the bucket empty: five bytes take half a second. -/
theorem rate_limit_waits_ten :
    WaitsSuffice (limitOf (some ⟨10, 10⟩) none none)
      ((new (some ⟨10, 10⟩) none none 0).replay [(1, .record 10 .global)]) none none 5 fun _ => 1 :=
  (rate_limit_waits_iff false (fun _ c _ => [c]) (some ⟨10, 10⟩) none none
    (fun key limit configured => ⟨"80 bps", global_only configured ▸ by decide +kernel⟩)
    0 1 [(1, .record 10 .global)] (by decide +kernel) none none 5 (fun _ => 1)
      (by decide +kernel)).mpr
      (.inr fun key _ limit configured => global_only configured ▸ by decide)

/-- Seven bits per second are accepted as a limit, and the first byte to be checked panics. -/
theorem slow_limit_panics :
    BandwidthLimit.fromStr false (fun _ c _ => [c]) "7bps" = some (some ⟨0, 0⟩) ∧
      ((new (some ⟨0, 0⟩) none none 0).check none none 1 fun _ => 0).1 = none ∧
      ¬ WaitsSuffice (limitOf (some ⟨0, 0⟩) none none) (new (some ⟨0, 0⟩) none none 0) none none 1
        fun _ => 0 := by
  have panics : ((new (some ⟨0, 0⟩) none none 0).check none none 1 fun _ => 0).1 = none := by
    decide +kernel
  refine ⟨by decide +kernel, panics, ?_⟩
  rintro ⟨result, answers, -⟩
  rw [panics] at answers
  cases answers

end RateLimiter
end P2pUsb
