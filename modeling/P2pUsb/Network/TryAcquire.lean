import P2pUsb.Network.RateLimiter

/-! `try_acquire` from its first bucket to its last, with no other call in between:
what it has consumed before a bucket has too few tokens, it gives back. -/
namespace P2pUsb

namespace TokenBucket
variable {limit : BandwidthLimit} {now later future : ℚ} {b : TokenBucket} {bytes : Nat}

/-- The bucket after a successful `try_consume`. -/
def paid (b : TokenBucket) (bytes : Nat) (now : ℚ) : TokenBucket :=
  { b.refill now with tokens := (b.refill now).tokens - bytes }

theorem new_refill (limit : BandwidthLimit) (elapsed : now ≤ future) :
    (new limit now).refill future = new limit future := by
  rw [(fits_new.later elapsed).refill]
  simp only [new, level, mk.injEq, and_self, and_true]
  refine min_eq_right (le_add_of_nonneg_right ?_)
  exact mul_nonneg (Nat.cast_nonneg _) (sub_nonneg.mpr elapsed)

theorem Fits.refill_fits (h : Fits limit now b) : Fits limit now (b.refill now) := by
  rw [h.refill]
  exact (h.set_tokens h.level_nonneg h.level_le).1

/-- A refill in between changes nothing. -/
theorem Fits.refill_refill (h : Fits limit now b) (elapsed : now ≤ future) :
    (b.refill now).refill future = b.refill future := by
  rw [(h.refill_fits.later elapsed).refill, (h.later elapsed).refill, h.refill]
  simp only [level, mk.injEq, and_self, and_true]
  have gain := mul_nonneg h.gaining (sub_nonneg.mpr elapsed)
  rw [min_add, min_assoc, min_eq_right (le_add_of_nonneg_right gain)]
  ring_nf

theorem Fits.paid (h : Fits limit now b) (enough : bytes ≤ (b.refill now).tokens) :
    Fits limit now (b.paid bytes now) where
  burst := h.refill_fits.burst
  rate := h.refill_fits.rate
  nonneg := sub_nonneg.mpr enough
  full := (sub_le_self _ (Nat.cast_nonneg bytes)).trans h.refill_fits.full
  past := h.refill_fits.past

theorem Fits.refund (h : Fits limit now b) : Fits limit now (b.refund bytes now) where
  burst := h.refill_fits.burst
  rate := h.refill_fits.rate
  nonneg := le_min (add_nonneg h.refill_fits.nonneg (Nat.cast_nonneg bytes))
    (h.refill_fits.nonneg.trans h.refill_fits.full)
  full := min_le_right _ _
  past := h.refill_fits.past

/-- The burst cuts off what a bucket gains, with the refund or without it. -/
theorem Fits.refund_paid (h : Fits limit now b) (enough : bytes ≤ (b.refill now).tokens)
    (elapsed : now ≤ later) : (b.paid bytes now).refund bytes later = b.refill later := by
  have given := ((h.paid enough).later elapsed).refill
  rw [TokenBucket.refund, given, (h.later elapsed).refill]
  simp only [TokenBucket.paid, level, h.refill, mk.injEq, and_self, and_true]
  have gain := mul_nonneg h.gaining (sub_nonneg.mpr elapsed)
  have room : b.maxTokens ≤ b.maxTokens + bytes := le_add_of_nonneg_right (Nat.cast_nonneg bytes)
  rw [min_add, min_assoc, min_eq_right room]
  have between : min (b.tokens + b.refillRate * (now - b.lastRefill)) b.maxTokens - bytes +
      b.refillRate * (later - now) + bytes =
        min (b.tokens + b.refillRate * (now - b.lastRefill)) b.maxTokens +
          b.refillRate * (later - now) := by ring
  rw [between, min_add, min_assoc, min_eq_right (le_add_of_nonneg_right gain)]
  ring_nf

theorem try_consume_paid (enough : (b.tryConsume bytes now).1 = true) :
    bytes ≤ (b.refill now).tokens ∧ (b.tryConsume bytes now).2 = b.paid bytes now := by
  rw [tryConsume] at enough ⊢
  split at enough
  case isTrue tokens => exact ⟨tokens, by rw [if_pos tokens, paid]⟩
  case isFalse => cases enough

theorem try_consume_refused (missing : (b.tryConsume bytes now).1 = false) :
    (b.tryConsume bytes now).2 = b.refill now := by
  rw [tryConsume] at missing ⊢
  split at missing
  case isTrue => cases missing
  case isFalse short => rw [if_neg short]

end TokenBucket

namespace RateLimiter
variable {limiter : RateLimiter} {now future : ℚ} {key other : BucketKey} {b : TokenBucket}
  {limits : BucketKey → Option BandwidthLimit} {limit : BandwidthLimit} {bytes : Nat}
  {f : BucketKey → TokenBucket → TokenBucket} {time consumeAt refundAt : BucketKey → ℚ}
  {all taken rest : List BucketKey}

/-- A locked section changes the bucket of its key, which it makes if need be. -/
def touch (limiter : RateLimiter) (now : ℚ) (key : BucketKey) (f : TokenBucket → TokenBucket) :
    RateLimiter :=
  match limiter.bucket now key with
  | some b => limiter.setBucket (f b) key
  | none => limiter

theorem consume_touch : (limiter.consumeBucket now bytes key).2 =
    limiter.touch now key fun b => (b.tryConsume bytes now).2 := by
  rw [consumeBucket, touch]
  cases limiter.bucket now key <;> rfl

theorem bucket_none (missing : limiter.bucket now key = none) :
    limiter.bucket future key = none := by
  cases key with
  | global => exact missing
  | client clientId | device deviceId =>
      exact Option.map_eq_none_iff.mpr (Option.map_eq_none_iff.mp missing)

theorem existing_none (missing : limiter.bucket now key = none) : limiter.existing key = none := by
  cases key with
  | global => exact missing
  | client clientId | device deviceId =>
      simp only [existing, Option.map_eq_none_iff.mp missing, Option.bind_none]

theorem existing_set_self {c : TokenBucket} (configured : limiter.bucket now key = some c) :
    (limiter.setBucket b key).existing key = some b := by
  cases key with
  | global => rfl
  | client clientId | device deviceId =>
      obtain ⟨limit, set, -⟩ := Option.map_eq_some_iff.mp configured
      simp only [setBucket, existing, set, Option.bind_some, AList.lookup_insert]

theorem existing_set_ne (different : other ≠ key) :
    (limiter.setBucket b key).existing other = limiter.existing other := by
  cases key with
  | global => cases other <;> first | rfl | exact absurd rfl different
  | client clientId =>
      cases other with
      | client otherId =>
          have ne : otherId ≠ clientId := fun same => different (congrArg BucketKey.client same)
          simp only [setBucket, existing, AList.lookup_insert_ne ne]
      | global | device => rfl
  | device deviceId =>
      cases other with
      | device otherId =>
          have ne : otherId ≠ deviceId := fun same => different (congrArg BucketKey.device same)
          simp only [setBucket, existing, AList.lookup_insert_ne ne]
      | global | client => rfl

/-- What a section does to the bucket of its own key, whoever looks at it and when. -/
theorem touch_self {f : TokenBucket → TokenBucket} :
    (∀ future, (limiter.touch now key f).bucket future key = (limiter.bucket now key).map f) ∧
      (limiter.touch now key f).existing key = (limiter.bucket now key).map f := by
  cases there : limiter.bucket now key with
  | some b =>
      simp only [touch, there]
      exact ⟨fun future => bucket_set_self there, existing_set_self there⟩
  | none =>
      simp only [touch, there]
      exact ⟨fun future => bucket_none there, existing_none there⟩

theorem touch_ne {f : TokenBucket → TokenBucket} (different : other ≠ key) :
    (∀ future, (limiter.touch now key f).bucket future other = limiter.bucket future other) ∧
      (limiter.touch now key f).existing other = limiter.existing other := by
  rw [touch]
  split
  · exact ⟨fun future => bucket_set_ne different, existing_set_ne different⟩
  · exact ⟨fun future => rfl, rfl⟩

/-- Sections at several buckets, one after the other. -/
def touchAll (f : BucketKey → TokenBucket → TokenBucket) (time : BucketKey → ℚ) :
    List BucketKey → RateLimiter → RateLimiter
  | [], limiter => limiter
  | key :: rest, limiter => touchAll f time rest (limiter.touch (time key) key (f key))

theorem touch_all_other (absent : key ∉ all) :
    (∀ future, (touchAll f time all limiter).bucket future key = limiter.bucket future key) ∧
      (touchAll f time all limiter).existing key = limiter.existing key := by
  induction all generalizing limiter with
  | nil => exact ⟨fun future => rfl, rfl⟩
  | cons head rest ih =>
      obtain ⟨different, absent⟩ := not_or.mp (mt List.mem_cons.mpr absent)
      obtain ⟨bucket, existing⟩ := @ih (limiter.touch (time head) head (f head)) absent
      obtain ⟨sameBucket, sameExisting⟩ := @touch_ne limiter (time head) head key (f head) different
      exact ⟨fun future => (bucket future).trans (sameBucket future), existing.trans sameExisting⟩

theorem touch_all_own (once : all.Nodup) (present : key ∈ all) :
    (∀ future, (touchAll f time all limiter).bucket future key =
        (limiter.bucket (time key) key).map (f key)) ∧
      (touchAll f time all limiter).existing key =
        (limiter.bucket (time key) key).map (f key) := by
  induction all generalizing limiter with
  | nil => cases present
  | cons head rest ih =>
      obtain ⟨absent, once⟩ := List.nodup_cons.mp once
      by_cases own : key = head
      · subst own
        obtain ⟨bucket, existing⟩ := @touch_all_other (limiter.touch (time key) key (f key)) _ _ _ _
          absent
        exact ⟨fun future => (bucket future).trans (touch_self.1 future),
          existing.trans touch_self.2⟩
      · obtain ⟨bucket, existing⟩ := @ih (limiter.touch (time head) head (f head)) once
          (List.mem_of_ne_of_mem own present)
        rw [(touch_ne own).1] at bucket existing
        exact ⟨bucket, existing⟩

/-- The refunds of a `try_acquire` that fails, at the buckets it has consumed from. -/
def refundAll (bytes : Nat) (refundAt : BucketKey → ℚ) : List BucketKey → RateLimiter → RateLimiter
  | [], limiter => limiter
  | key :: rest, limiter =>
      refundAll bytes refundAt rest (limiter.refundBucket (refundAt key) bytes key)

def acquireFrom (bytes : Nat) (consumeAt refundAt : BucketKey → ℚ) (taken : List BucketKey) :
    List BucketKey → RateLimiter → Bool × RateLimiter
  | [], limiter => (true, limiter)
  | key :: rest, limiter =>
      match limiter.consumeBucket (consumeAt key) bytes key with
      | (true, limiter) => acquireFrom bytes consumeAt refundAt (taken ++ [key]) rest limiter
      | (false, limiter) => (false, refundAll bytes refundAt taken limiter)

/-- The sections of one `try_acquire`; each reads the clock itself. -/
def tryAcquire (limiter : RateLimiter) (clientId : Option EndpointId) (deviceId : Option DeviceId)
    (bytes : Nat) (consumeAt refundAt : BucketKey → ℚ) : Bool × RateLimiter :=
  acquireFrom bytes consumeAt refundAt [] (keys clientId deviceId) limiter

theorem keys_nodup (clientId : Option EndpointId) (deviceId : Option DeviceId) :
    (keys clientId deviceId).Nodup := by
  cases clientId <;> cases deviceId <;> simp [keys]

def consumed (bytes : Nat) (consumeAt : BucketKey → ℚ) :
    List BucketKey → RateLimiter → RateLimiter :=
  touchAll (fun key b => (b.tryConsume bytes (consumeAt key)).2) consumeAt

def refunded (bytes : Nat) (refundAt : BucketKey → ℚ) :
    List BucketKey → RateLimiter → RateLimiter :=
  touchAll (fun key b => b.refund bytes (refundAt key)) refundAt

theorem consumed_own (once : all.Nodup) (present : key ∈ all) (now : ℚ) :
    (consumed bytes consumeAt all limiter).bucket now key =
      (limiter.bucket (consumeAt key) key).map fun b => (b.tryConsume bytes (consumeAt key)).2 :=
  (touch_all_own once present).1 now

theorem consumed_made (once : all.Nodup) (present : key ∈ all) (now : ℚ) :
    (consumed bytes consumeAt all limiter).existing key =
      (consumed bytes consumeAt all limiter).bucket now key := by
  rw [consumed_own once present]
  exact (touch_all_own once present).2

theorem gives_eq : (limiter.consumeBucket now bytes key).1 =
    (limiter.bucket now key).all fun b => (b.tryConsume bytes now).1 := by
  rw [consumeBucket]
  cases limiter.bucket now key <;> rfl

theorem gives_touch {f : TokenBucket → TokenBucket} (different : key ≠ other) :
    ((limiter.touch now other f).consumeBucket future bytes key).1 =
      (limiter.consumeBucket future bytes key).1 := by
  rw [gives_eq, gives_eq, (touch_ne different).1]

/-- Every bucket gives, or the first that does not ends the call. -/
theorem acquire_from_cases (once : rest.Nodup) :
    (∀ key ∈ rest, (limiter.consumeBucket (consumeAt key) bytes key).1 = true) ∧
        acquireFrom bytes consumeAt refundAt taken rest limiter =
          (true, consumed bytes consumeAt rest limiter) ∨
      ∃ done key after, rest = done ++ key :: after ∧
        (∀ other ∈ done, (limiter.consumeBucket (consumeAt other) bytes other).1 = true) ∧
        (limiter.consumeBucket (consumeAt key) bytes key).1 = false ∧
        acquireFrom bytes consumeAt refundAt taken rest limiter =
          (false, refundAll bytes refundAt (taken ++ done)
            (consumed bytes consumeAt (done ++ [key]) limiter)) := by
  induction rest generalizing limiter taken with
  | nil => exact .inl ⟨nofun, rfl⟩
  | cons key rest ih =>
      obtain ⟨absent, once⟩ := List.nodup_cons.mp once
      rcases gives : limiter.consumeBucket (consumeAt key) bytes key with ⟨enough, after⟩
      obtain rfl : limiter.touch (consumeAt key) key
          (fun b => (b.tryConsume bytes (consumeAt key)).2) = after := by
        rw [← consume_touch, gives]
      have elsewhere : ∀ other ∈ rest, ((limiter.touch (consumeAt key) key fun b =>
          (b.tryConsume bytes (consumeAt key)).2).consumeBucket (consumeAt other) bytes other).1 =
            (limiter.consumeBucket (consumeAt other) bytes other).1 := by
        rintro other present
        exact gives_touch fun same => absent (same ▸ present)
      cases enough with
      | false =>
          refine .inr ⟨[], key, rest, rfl, nofun, congrArg Prod.fst gives, ?_⟩
          simp only [acquireFrom, gives, List.append_nil, List.nil_append]
          rfl
      | true =>
          simp only [acquireFrom, gives]
          rcases @ih (limiter.touch (consumeAt key) key fun b =>
              (b.tryConsume bytes (consumeAt key)).2) (taken ++ [key]) once with
            ⟨all, result⟩ | ⟨done, last, unused, rfl, given, refused, result⟩
          · refine .inl ⟨List.forall_mem_cons.mpr ⟨congrArg Prod.fst gives, ?_⟩, result⟩
            intro other present
            rw [← elsewhere other present]
            exact all other present
          · refine .inr ⟨key :: done, last, unused, rfl, ?_, ?_, ?_⟩
            · refine List.forall_mem_cons.mpr ⟨congrArg Prod.fst gives, fun other present => ?_⟩
              rw [← elsewhere other (List.mem_append_left _ present)]
              exact given other present
            · rw [← elsewhere last (List.mem_append_right _ List.mem_cons_self)]
              exact refused
            · rw [result, List.append_assoc]
              rfl

/-- Every bucket to be refunded has been made by then. -/
theorem refund_all_eq (made : ∀ key ∈ all, ∀ now, limiter.existing key = limiter.bucket now key)
    (once : all.Nodup) : refundAll bytes refundAt all limiter =
      refunded bytes refundAt all limiter := by
  induction all generalizing limiter with
  | nil => rfl
  | cons key rest ih =>
      obtain ⟨absent, once⟩ := List.nodup_cons.mp once
      have first : limiter.refundBucket (refundAt key) bytes key =
          limiter.touch (refundAt key) key fun b => b.refund bytes (refundAt key) := by
        have existing := made key List.mem_cons_self (refundAt key)
        cases found : limiter.bucket (refundAt key) key <;>
          simp only [refundBucket, touch, existing, found]
      simp only [refundAll, refunded, touchAll]
      rw [first]
      refine ih (fun other present now => ?_) once
      have different : other ≠ key := fun same => absent (same ▸ present)
      rw [(touch_ne different).1, (touch_ne different).2]
      exact made other (List.mem_cons_of_mem _ present) now

/-- Every bucket is of the limit configured for it, with no refill to come and its
tokens between zero and the burst. -/
structure Sound (limits : BucketKey → Option BandwidthLimit) (limiter : RateLimiter) (now : ℚ) :
    Prop where
  limited : ∀ key limit, limits key = some limit →
    ∃ b, limiter.bucket now key = some b ∧ b.Fits limit now
  unlimited : ∀ key, limits key = none → limiter.bucket now key = none

theorem sound_new (now : ℚ) (globalLimit clientLimit deviceLimit : Option BandwidthLimit) :
    (new globalLimit clientLimit deviceLimit now).Sound
      (limitOf globalLimit clientLimit deviceLimit) now where
  limited key limit configured := by
    obtain ⟨b, there, fits, -⟩ := has_new now configured
    exact ⟨b, there, fits⟩
  unlimited key missing := by
    cases key with
    | global | client clientId | device deviceId =>
        simp only [limitOf] at missing
        subst missing
        rfl

theorem Sound.later (h : limiter.Sound limits now) (elapsed : now ≤ future) :
    limiter.Sound limits future where
  limited key limit configured := by
    obtain ⟨b, there, fits⟩ := h.limited key limit configured
    rcases bucket_later future there with same | ⟨own, rfl, made⟩
    · exact ⟨b, same, fits.later elapsed⟩
    · exact ⟨_, made, { TokenBucket.fits_new with burst := fits.burst, rate := fits.rate }⟩
  unlimited key missing := bucket_none (h.unlimited key missing)

/-- The limit that a bucket is of. -/
theorem Sound.fits (h : limiter.Sound limits now) (there : limiter.bucket now key = some b) :
    ∃ limit, limits key = some limit ∧ b.Fits limit now := by
  cases configured : limits key with
  | none => rw [h.unlimited key configured] at there; cases there
  | some limit =>
      obtain ⟨c, there', fits⟩ := h.limited key limit configured
      obtain rfl := Option.some.inj (there.symm.trans there')
      exact ⟨limit, rfl, fits⟩

theorem Sound.touch (h : limiter.Sound limits now) {f : TokenBucket → TokenBucket}
    (kept : ∀ b limit, b.Fits limit now → (f b).Fits limit now) :
    (limiter.touch now key f).Sound limits now where
  limited other limit configured := by
    obtain ⟨b, there, fits⟩ := h.limited other limit configured
    by_cases own : other = key
    · subst own
      rw [touch_self.1, there]
      exact ⟨f b, rfl, kept b limit fits⟩
    · rw [(touch_ne own).1]
      exact ⟨b, there, fits⟩
  unlimited other missing := by
    have none := h.unlimited other missing
    by_cases own : other = key
    · subst own
      rw [touch_self.1, none, Option.map_none]
    · rw [(touch_ne own).1, none]

theorem check_touch : (limiter.checkBucket now bytes key).2 =
    limiter.touch now key fun b => (b.waitTime bytes now).2 := by
  rw [checkBucket, touch]
  cases limiter.bucket now key <;> rfl

theorem record_touch : limiter.recordBucket now bytes key =
    limiter.touch now key fun b => b.record bytes now := by
  cases found : limiter.bucket now key <;> simp only [recordBucket, touch, found]

theorem existing_bucket (there : limiter.existing key = some b) :
    limiter.bucket now key = some b := by
  cases key with
  | global => exact there
  | client clientId | device deviceId =>
      obtain ⟨limit, configured, found⟩ := Option.bind_eq_some_iff.mp there
      simp only [bucket, configured, found, Option.map_some, Option.getD_some]

theorem refund_touch : limiter.refundBucket now bytes key = limiter ∨
    limiter.refundBucket now bytes key = limiter.touch now key fun b => b.refund bytes now := by
  rw [refundBucket]
  cases there : limiter.existing key with
  | none => exact .inl rfl
  | some b =>
      refine .inr ?_
      rw [touch, existing_bucket there]

theorem consume_fits (fits : b.Fits limit now) : (b.tryConsume bytes now).2.Fits limit now := by
  cases gives : (b.tryConsume bytes now).1 with
  | true =>
      obtain ⟨enough, after⟩ := TokenBucket.try_consume_paid gives
      rw [after]
      exact fits.paid enough
  | false =>
      rw [TokenBucket.try_consume_refused gives]
      exact fits.refill_fits

theorem Sound.consume (h : limiter.Sound limits now) :
    (limiter.consumeBucket now bytes key).2.Sound limits now := by
  rw [consume_touch]
  exact h.touch fun b limit fits => consume_fits fits

theorem Sound.refund (h : limiter.Sound limits now) :
    (limiter.refundBucket now bytes key).Sound limits now := by
  rcases @refund_touch limiter now key bytes with same | made
  · rwa [same]
  · rw [made]
    exact h.touch fun b limit fits => fits.refund

theorem Sound.check (h : limiter.Sound limits now) :
    (limiter.checkBucket now bytes key).2.Sound limits now := by
  rw [check_touch]
  refine h.touch fun b limit fits => ?_
  rw [fits.wait_time]
  exact (fits.set_tokens fits.level_nonneg fits.level_le).1

theorem Sound.record (h : limiter.Sound limits now) :
    (limiter.recordBucket now bytes key).Sound limits now := by
  rw [record_touch]
  refine h.touch fun b limit fits => ?_
  rw [fits.record]
  refine (fits.set_tokens (le_max_right _ _) (max_le ?_ (fits.level_nonneg.trans fits.level_le))).1
  exact (sub_le_self _ (Nat.cast_nonneg bytes)).trans fits.level_le

/-- A bucket that is not made yet is as full as the one that would be made now. -/
theorem refill_later (limiter : RateLimiter) (key : BucketKey) (elapsed : now ≤ future) :
    (limiter.bucket now key).map (TokenBucket.refill · future) =
      (limiter.bucket future key).map (TokenBucket.refill · future) := by
  cases there : limiter.bucket now key with
  | none => rw [bucket_none there]
  | some b =>
      rcases bucket_later future there with same | ⟨own, rfl, made⟩
      · rw [same]
      · rw [made, Option.map_some, Option.map_some, TokenBucket.new_refill own elapsed,
          TokenBucket.new_refill own le_rfl]

theorem Sound.touch_all (h : limiter.Sound limits future) (once : all.Nodup)
    (kept : ∀ key ∈ all, ∀ b limit, limits key = some limit →
      limiter.bucket (time key) key = some b → (f key b).Fits limit future) :
    (touchAll f time all limiter).Sound limits future where
  limited key limit configured := by
    obtain ⟨b, there, fits⟩ := h.limited key limit configured
    by_cases present : key ∈ all
    · rw [(touch_all_own once present).1]
      cases then' : limiter.bucket (time key) key with
      | none => rw [bucket_none then'] at there; cases there
      | some c => exact ⟨f key c, rfl, kept key present c limit configured then'⟩
    · rw [(touch_all_other present).1]
      exact ⟨b, there, fits⟩
  unlimited key missing := by
    have none := h.unlimited key missing
    by_cases present : key ∈ all
    · rw [(touch_all_own once present).1, bucket_none none, Option.map_none]
    · rw [(touch_all_other present).1, none]

/-- The readings of the clock in the order in which a call takes them. -/
def readings (clientId : Option EndpointId) (deviceId : Option DeviceId)
    (consumeAt refundAt : BucketKey → ℚ) : List ℚ :=
  (keys clientId deviceId).map consumeAt ++ (keys clientId deviceId).map refundAt

/-- What the order of the readings says of the sections at two buckets. -/
theorem readings_order {clientId : Option EndpointId} {deviceId : Option DeviceId}
    (order : (now :: readings clientId deviceId consumeAt refundAt ++ [future]).Pairwise (· ≤ ·))
    (present : key ∈ keys clientId deviceId) (too : other ∈ keys clientId deviceId) :
    now ≤ consumeAt key ∧ consumeAt key ≤ refundAt other ∧ refundAt other ≤ future := by
  obtain ⟨start, ⟨-, -, order⟩, stop⟩ :
    (∀ t ∈ readings clientId deviceId consumeAt refundAt ++ [future],
      now ≤ t) ∧ (_ ∧ _ ∧ ∀ a ∈ (keys clientId deviceId).map consumeAt,
        ∀ b ∈ (keys clientId deviceId).map refundAt, a ≤ b) ∧
      ∀ t ∈ readings clientId deviceId consumeAt refundAt, t ≤ future := by
    rw [List.cons_append, List.pairwise_cons, List.pairwise_append] at order
    obtain ⟨start, inner, -, stop⟩ := order
    exact ⟨start, List.pairwise_append.mp inner, fun t read =>
      stop t read future List.mem_cons_self⟩
  have consume := List.mem_map_of_mem (f := consumeAt) present
  have refund := List.mem_map_of_mem (f := refundAt) too
  exact ⟨start _ (List.mem_append_left _ (List.mem_append_left _ consume)),
    order _ consume _ refund,
    stop _ (List.mem_append_right _ refund)⟩

/-- The buckets that gave have their tokens back, and the one that did not is refilled. -/
theorem Sound.refunded_refill {done : List BucketKey} (h : limiter.Sound limits now)
    (once : (done ++ [other]).Nodup)
    (started : ∀ key ∈ done ++ [other], now ≤ consumeAt key)
    (between : ∀ key ∈ done, consumeAt key ≤ refundAt key)
    (ended : ∀ key ∈ done, refundAt key ≤ future) (last : consumeAt other ≤ future)
    (given : ∀ key ∈ done, (limiter.consumeBucket (consumeAt key) bytes key).1 = true)
    (refused : (limiter.consumeBucket (consumeAt other) bytes other).1 = false) (key : BucketKey) :
    ((refundAll bytes refundAt done (consumed bytes consumeAt (done ++ [other]) limiter)).bucket
        future key).map (TokenBucket.refill · future) =
      (limiter.bucket future key).map (TokenBucket.refill · future) := by
  have onceDone : done.Nodup := (List.nodup_append.mp once).1
  have apart : other ∉ done := fun present =>
    (List.nodup_append.mp once).2.2 other present other List.mem_cons_self rfl
  rw [refund_all_eq (fun k present => consumed_made once (List.mem_append_left _ present)) onceDone]
  by_cases gave : key ∈ done
  · rw [refunded, (touch_all_own onceDone gave).1, consumed_own once (List.mem_append_left _ gave)]
    have early := started key (List.mem_append_left _ gave)
    have gives := given key gave
    rw [gives_eq] at gives
    rw [← refill_later limiter key ((between key gave).trans (ended key gave))]
    cases there : limiter.bucket (consumeAt key) key with
    | none => rfl
    | some b =>
        obtain ⟨limit, -, fits⟩ := (h.later early).fits there
        rw [there, Option.all_some] at gives
        obtain ⟨enough, after⟩ := TokenBucket.try_consume_paid gives
        simp only [Option.map_some, after, fits.refund_paid enough (between key gave),
          (fits.later (between key gave)).refill_refill (ended key gave)]
  · rw [refunded, (touch_all_other gave).1]
    by_cases own : key = other
    · subst own
      have present : key ∈ done ++ [key] := List.mem_append_right _ List.mem_cons_self
      rw [consumed_own once present, ← refill_later limiter key last]
      rw [gives_eq] at refused
      cases there : limiter.bucket (consumeAt key) key with
      | none => rfl
      | some b =>
          obtain ⟨limit, -, fits⟩ := (h.later (started key present)).fits there
          rw [there, Option.all_some] at refused
          simp only [Option.map_some, TokenBucket.try_consume_refused refused,
            fits.refill_refill last]
    · rw [consumed, (touch_all_other (by simp [gave, own])).1]

theorem Sound.consumed (h : limiter.Sound limits now) (once : all.Nodup)
    (started : ∀ key ∈ all, now ≤ consumeAt key) (ended : ∀ key ∈ all, consumeAt key ≤ future)
    (before : now ≤ future) : (consumed bytes consumeAt all limiter).Sound limits future := by
  refine (h.later before).touch_all once fun key present b limit configured there => ?_
  obtain ⟨same, configured', fits⟩ := (h.later (started key present)).fits there
  obtain rfl := Option.some.inj (configured.symm.trans configured')
  exact (consume_fits fits).later (ended key present)

theorem Sound.refunded {done : List BucketKey} (h : limiter.Sound limits now)
    (once : (done ++ [other]).Nodup)
    (started : ∀ key ∈ done ++ [other], now ≤ consumeAt key)
    (between : ∀ key ∈ done, consumeAt key ≤ refundAt key)
    (ended : ∀ key ∈ done, refundAt key ≤ future) (last : consumeAt other ≤ future)
    (before : now ≤ future) :
    (refundAll bytes refundAt done
      (RateLimiter.consumed bytes consumeAt (done ++ [other]) limiter)).Sound limits future := by
  have onceDone : done.Nodup := (List.nodup_append.mp once).1
  have reached : ∀ key ∈ done ++ [other], consumeAt key ≤ future := by
    intro key present
    rcases List.mem_append.mp present with gave | own
    · exact (between key gave).trans (ended key gave)
    · rwa [List.mem_singleton.mp own]
  rw [refund_all_eq (fun k present => consumed_made once (List.mem_append_left _ present)) onceDone]
  refine (h.consumed once started reached before).touch_all onceDone
    fun key present b limit configured there => ?_
  rw [consumed_own once (List.mem_append_left _ present), Option.map_eq_some_iff] at there
  obtain ⟨c, there, rfl⟩ := there
  obtain ⟨same, configured', fits⟩ :=
    (h.later (started key (List.mem_append_left _ present))).fits there
  obtain rfl := Option.some.inj (configured.symm.trans configured')
  exact ((consume_fits fits).later (between key present)).refund.later (ended key present)

/-- A call that fails leaves every bucket as it was, as any later refill shows, and one
that succeeds takes the bytes from each bucket that applies and from no other. -/
theorem try_acquire_all_or_nothing (sound : limiter.Sound limits now) (clientId : Option EndpointId)
    (deviceId : Option DeviceId) (bytes : Nat) (consumeAt refundAt : BucketKey → ℚ)
    (order : (now :: readings clientId deviceId consumeAt refundAt ++ [future]).Pairwise (· ≤ ·)) :
    ((limiter.tryAcquire clientId deviceId bytes consumeAt refundAt).1 = false → ∀ key,
        ((limiter.tryAcquire clientId deviceId bytes consumeAt refundAt).2.bucket future key).map
            (TokenBucket.refill · future) =
          (limiter.bucket future key).map (TokenBucket.refill · future)) ∧
      ((limiter.tryAcquire clientId deviceId bytes consumeAt refundAt).1 = true →
        (∀ key ∈ keys clientId deviceId, ∀ b, limiter.bucket (consumeAt key) key = some b →
          bytes ≤ (b.refill (consumeAt key)).tokens ∧
            (limiter.tryAcquire clientId deviceId bytes consumeAt refundAt).2.bucket future key =
              some { b.refill (consumeAt key) with
                tokens := (b.refill (consumeAt key)).tokens - bytes }) ∧
        ∀ key ∉ keys clientId deviceId,
          (limiter.tryAcquire clientId deviceId bytes consumeAt refundAt).2.bucket future key =
            limiter.bucket future key) ∧
      (limiter.tryAcquire clientId deviceId bytes consumeAt refundAt).2.Sound limits future ∧
      ∀ t ≥ now, ∀ key, (limiter.consumeBucket t bytes key).2.Sound limits t ∧
        (limiter.refundBucket t bytes key).Sound limits t := by
  have once := keys_nodup clientId deviceId
  have timed {key other : BucketKey} := @readings_order now future key other consumeAt refundAt
    clientId deviceId order
  have before : now ≤ future := (List.pairwise_cons.mp order).1 future (by simp)
  have sections : ∀ t ≥ now, ∀ key, (limiter.consumeBucket t bytes key).2.Sound limits t ∧
      (limiter.refundBucket t bytes key).Sound limits t :=
    fun t later key => ⟨(sound.later later).consume, (sound.later later).refund⟩
  rcases @acquire_from_cases limiter bytes consumeAt refundAt [] _ once with
    ⟨all, result⟩ | ⟨done, last, unused, split, given, refused, result⟩
  · rw [tryAcquire, result]
    refine ⟨nofun, fun _ => ⟨fun key present b there => ?_, fun key absent => ?_⟩, ?_, sections⟩
    · have gives := all key present
      rw [gives_eq, there, Option.all_some] at gives
      obtain ⟨enough, after⟩ := TokenBucket.try_consume_paid gives
      refine ⟨enough, ?_⟩
      rw [consumed_own once present, there, Option.map_some, after]
      rfl
    · exact (touch_all_other absent).1 future
    · exact sound.consumed once (fun key present => (timed present present).1)
        (fun key present => (timed present present).2.1.trans (timed present present).2.2) before
  · rw [tryAcquire, result, List.nil_append]
    have within {key : BucketKey} (present : key ∈ done ++ [last]) :
      key ∈ keys clientId deviceId := by
      rw [split, ← List.singleton_append, ← List.append_assoc]
      exact List.mem_append_left _ present
    have lastIn := within (List.mem_append_right _ List.mem_cons_self)
    have doneIn {key : BucketKey} (present : key ∈ done) :=
      within (List.mem_append_left [last] present)
    have onceLast : (done ++ [last]).Nodup := by
      rw [split, ← List.singleton_append, ← List.append_assoc] at once
      exact (List.nodup_append.mp once).1
    have started : ∀ key ∈ done ++ [last], now ≤ consumeAt key :=
      fun key present => (timed (within present) lastIn).1
    have between : ∀ key ∈ done, consumeAt key ≤ refundAt key :=
      fun key present => (timed (doneIn present) (doneIn present)).2.1
    have ended : ∀ key ∈ done, refundAt key ≤ future :=
      fun key present => (timed lastIn (doneIn present)).2.2
    have refusal : consumeAt last ≤ future :=
      (timed lastIn lastIn).2.1.trans (timed lastIn lastIn).2.2
    refine ⟨fun _ => ?_, nofun, ?_, sections⟩
    · exact sound.refunded_refill onceLast started between ended refusal given refused
    · exact sound.refunded onceLast started between ended refusal before

/-- Twenty bytes are more than the client's bucket holds; the global one is full again. -/
theorem try_acquire_refused_client :
    let limiter := new (some ⟨100, 100⟩) (some ⟨10, 10⟩) none 0
    (limiter.tryAcquire (some ⟨"a"⟩) none 20 (fun _ => 1) fun _ => 2).1 = false ∧
      (((limiter.tryAcquire (some ⟨"a"⟩) none 20 (fun _ => 1) fun _ => 2).2.bucket 3 .global).map
        (TokenBucket.refill · 3)).map TokenBucket.tokens = some 100 := by
  have ordered : ((0 : ℚ) :: readings (some ⟨"a"⟩) none (fun _ => 1) (fun _ => 2) ++ [3]).Pairwise
      (· ≤ ·) := by decide +kernel
  have refused : ((new (some ⟨100, 100⟩) (some ⟨10, 10⟩) none 0).tryAcquire (some ⟨"a"⟩) none 20
      (fun _ => 1) fun _ => 2).1 = false := by decide +kernel
  refine ⟨refused, ?_⟩
  rw [(try_acquire_all_or_nothing (sound_new 0 _ _ _) _ _ _ _ _ ordered).1 refused]
  decide +kernel

end RateLimiter
end P2pUsb
