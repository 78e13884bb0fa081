import Mathlib.Algebra.Order.Field.Rat
import Mathlib.Tactic.Linarith
import Mathlib.Tactic.Ring
import P2pUsb.Library.FiniteMap
import P2pUsb.Protocol.Types

/-! Token buckets and the rate limiter, with exact rationals for tokens and seconds. -/
namespace P2pUsb

structure BandwidthLimit where
  bytesPerSecond : Nat
  burstBytes : Nat
  deriving DecidableEq, Repr

structure TokenBucket where
  tokens : ℚ
  maxTokens : ℚ
  refillRate : ℚ
  lastRefill : ℚ
  deriving DecidableEq, Repr

namespace TokenBucket

def new (limit : BandwidthLimit) (now : ℚ) : TokenBucket where
  tokens := limit.burstBytes
  maxTokens := limit.burstBytes
  refillRate := limit.bytesPerSecond
  lastRefill := now

/-- `duration_since` is zero for a moment that is not later. -/
def refill (b : TokenBucket) (now : ℚ) : TokenBucket :=
  let elapsed := now - b.lastRefill
  if 0 < elapsed then
    { b with tokens := min (b.tokens + b.refillRate * elapsed) b.maxTokens, lastRefill := now }
  else b

def tryConsume (b : TokenBucket) (bytes : Nat) (now : ℚ) : Bool × TokenBucket :=
  let b := b.refill now
  if bytes ≤ b.tokens then (true, { b with tokens := b.tokens - bytes }) else (false, b)

/-- Without a result the division is by zero, and `from_secs_f64` panics. -/
def waitTime (b : TokenBucket) (bytes : Nat) (now : ℚ) : Option ℚ × TokenBucket :=
  let b := b.refill now
  if bytes ≤ b.tokens then (some 0, b)
  else if b.refillRate = 0 then (none, b)
  else (some ((bytes - b.tokens) / b.refillRate), b)

def record (b : TokenBucket) (bytes : Nat) (now : ℚ) : TokenBucket :=
  let b := b.refill now
  { b with tokens := max (b.tokens - bytes) 0 }

/-- What `try_acquire` does to a bucket that it has consumed from when a later one
has too few tokens. -/
def refund (b : TokenBucket) (bytes : Nat) (now : ℚ) : TokenBucket :=
  let b := b.refill now
  { b with tokens := min (b.tokens + bytes) b.maxTokens }

/-- The tokens that a refill now would leave. -/
def level (b : TokenBucket) (now : ℚ) : ℚ :=
  min (b.tokens + b.refillRate * (now - b.lastRefill)) b.maxTokens

/-- A bucket of this limit, with its last refill not in the future. -/
structure Fits (limit : BandwidthLimit) (now : ℚ) (b : TokenBucket) : Prop where
  burst : b.maxTokens = limit.burstBytes
  rate : b.refillRate = limit.bytesPerSecond
  nonneg : 0 ≤ b.tokens
  full : b.tokens ≤ b.maxTokens
  past : b.lastRefill ≤ now

variable {limit : BandwidthLimit} {now future : ℚ} {b : TokenBucket} {bytes : Nat}

theorem Fits.gaining (h : Fits limit now b) : 0 ≤ b.refillRate := by
  rw [h.rate]
  exact Nat.cast_nonneg _

theorem fits_new : Fits limit now (new limit now) where
  burst := rfl
  rate := rfl
  nonneg := Nat.cast_nonneg _
  full := le_rfl
  past := le_rfl

theorem Fits.later (h : Fits limit now b) (elapsed : now ≤ future) : Fits limit future b :=
  { h with past := h.past.trans elapsed }

theorem Fits.level_nonneg (h : Fits limit now b) : 0 ≤ b.level now := by
  have gain := mul_nonneg h.gaining (sub_nonneg.mpr h.past)
  exact le_min (add_nonneg h.nonneg gain) (h.nonneg.trans h.full)

theorem Fits.level_le (h : Fits limit now b) : b.level now ≤ limit.burstBytes := by
  rw [← h.burst]
  exact min_le_right _ _

theorem Fits.level_later (h : Fits limit now b) (elapsed : now ≤ future) :
    b.level future ≤ b.level now + limit.bytesPerSecond * (future - now) := by
  have gain := mul_nonneg h.gaining (sub_nonneg.mpr elapsed)
  rw [← h.rate, level, level, min_add]
  refine min_le_min ?_ ?_
  · exact le_of_eq (by ring)
  · linarith

theorem level_new : (new limit now).level now = limit.burstBytes := by
  simp only [level, new, sub_self, mul_zero, add_zero, min_self]

/-- A refill brings the bucket to its level now. -/
theorem Fits.refill (h : Fits limit now b) :
    b.refill now = { b with tokens := b.level now, lastRefill := now } := by
  rw [TokenBucket.refill]
  split
  case isTrue => rfl
  case isFalse same =>
    obtain rfl : b.lastRefill = now := le_antisymm h.past (by linarith)
    have level : b.level b.lastRefill = b.tokens := by
      rw [TokenBucket.level, sub_self, mul_zero, add_zero, min_eq_left h.full]
    rw [level]

/-- The bucket with these tokens now. -/
def setTokens (b : TokenBucket) (now tokens : ℚ) : TokenBucket :=
  { b with tokens, lastRefill := now }

theorem Fits.set_tokens (h : Fits limit now b) {tokens : ℚ} (nonneg : 0 ≤ tokens)
    (full : tokens ≤ limit.burstBytes) :
    Fits limit now (b.setTokens now tokens) ∧ (b.setTokens now tokens).level now = tokens := by
  have room : tokens ≤ b.maxTokens := by rwa [h.burst]
  refine ⟨⟨h.burst, h.rate, nonneg, room, le_rfl⟩, ?_⟩
  simp only [level, TokenBucket.setTokens, sub_self, mul_zero, add_zero, min_eq_left room]

theorem Fits.wait_time (h : Fits limit now b) :
    (b.waitTime bytes now).2 = b.setTokens now (b.level now) := by
  rw [waitTime, h.refill]
  split
  · rfl
  · split <;> rfl

theorem Fits.try_consume (h : Fits limit now b) :
    b.tryConsume bytes now =
      if bytes ≤ b.level now then (true, b.setTokens now (b.level now - bytes))
      else (false, b.setTokens now (b.level now)) := by
  rw [tryConsume, h.refill]
  rfl

theorem Fits.record (h : Fits limit now b) :
    b.record bytes now = b.setTokens now (max (b.level now - bytes) 0) := by
  rw [TokenBucket.record, h.refill]
  rfl

end TokenBucket

/-- The buckets that one transfer can meet. -/
inductive BucketKey where
  | global
  | client (clientId : EndpointId)
  | device (deviceId : DeviceId)
  deriving DecidableEq, Repr

structure RateLimiter where
  globalBucket : Option TokenBucket
  clientBuckets : AList fun _ : EndpointId => TokenBucket
  deviceBuckets : AList fun _ : DeviceId => TokenBucket
  defaultClientLimit : Option BandwidthLimit
  defaultDeviceLimit : Option BandwidthLimit

namespace RateLimiter

def new (globalLimit defaultClientLimit defaultDeviceLimit : Option BandwidthLimit) (now : ℚ) :
    RateLimiter where
  globalBucket := globalLimit.map (TokenBucket.new · now)
  clientBuckets := ∅
  deviceBuckets := ∅
  defaultClientLimit := defaultClientLimit
  defaultDeviceLimit := defaultDeviceLimit

/-- The limit that the buckets of the key have. -/
def limitOf (globalLimit clientLimit deviceLimit : Option BandwidthLimit) :
    BucketKey → Option BandwidthLimit
  | .global => globalLimit
  | .client _ => clientLimit
  | .device _ => deviceLimit

/-- The order in which all operations go through the buckets. -/
def keys (clientId : Option EndpointId) (deviceId : Option DeviceId) : List BucketKey :=
  .global :: (clientId.map BucketKey.client).toList ++ (deviceId.map BucketKey.device).toList

/-- The bucket that an operation locks; those of clients and devices are made at
their first use. -/
def bucket (limiter : RateLimiter) (now : ℚ) : BucketKey → Option TokenBucket
  | .global => limiter.globalBucket
  | .client clientId => limiter.defaultClientLimit.map fun limit =>
      (limiter.clientBuckets.lookup clientId).getD (.new limit now)
  | .device deviceId => limiter.defaultDeviceLimit.map fun limit =>
      (limiter.deviceBuckets.lookup deviceId).getD (.new limit now)

/-- The bucket that a refund locks: it makes none. -/
def existing (limiter : RateLimiter) : BucketKey → Option TokenBucket
  | .global => limiter.globalBucket
  | .client clientId => limiter.defaultClientLimit.bind fun _ =>
      limiter.clientBuckets.lookup clientId
  | .device deviceId => limiter.defaultDeviceLimit.bind fun _ =>
      limiter.deviceBuckets.lookup deviceId

def setBucket (limiter : RateLimiter) (b : TokenBucket) : BucketKey → RateLimiter
  | .global => { limiter with globalBucket := some b }
  | .client clientId =>
      { limiter with clientBuckets := limiter.clientBuckets.insert clientId b }
  | .device deviceId =>
      { limiter with deviceBuckets := limiter.deviceBuckets.insert deviceId b }

/-- One locked section of `check`: the wait for this bucket, unless it panics. -/
def checkBucket (limiter : RateLimiter) (now : ℚ) (bytes : Nat) (key : BucketKey) :
    Option ℚ × RateLimiter :=
  match limiter.bucket now key with
  | some b => ((b.waitTime bytes now).1, limiter.setBucket (b.waitTime bytes now).2 key)
  | none => (some 0, limiter)

/-- One locked section of `try_acquire`. -/
def consumeBucket (limiter : RateLimiter) (now : ℚ) (bytes : Nat) (key : BucketKey) :
    Bool × RateLimiter :=
  match limiter.bucket now key with
  | some b => ((b.tryConsume bytes now).1, limiter.setBucket (b.tryConsume bytes now).2 key)
  | none => (true, limiter)

/-- One locked section of the refunds of `try_acquire`. -/
def refundBucket (limiter : RateLimiter) (now : ℚ) (bytes : Nat) (key : BucketKey) :
    RateLimiter :=
  match limiter.existing key with
  | some b => limiter.setBucket (b.refund bytes now) key
  | none => limiter

/-- One locked section of `record`. -/
def recordBucket (limiter : RateLimiter) (now : ℚ) (bytes : Nat) (key : BucketKey) :
    RateLimiter :=
  match limiter.bucket now key with
  | some b => limiter.setBucket (b.record bytes now) key
  | none => limiter

variable {limiter : RateLimiter} {now future : ℚ} {key other : BucketKey} {b : TokenBucket}
  {limit : BandwidthLimit}

theorem bucket_set_self {c : TokenBucket} (configured : limiter.bucket now key = some c) :
    (limiter.setBucket b key).bucket future key = some b := by
  cases key with
  | global => rfl
  | client clientId | device deviceId =>
      obtain ⟨limit, set, -⟩ := Option.map_eq_some_iff.mp configured
      simp only [setBucket, bucket, set, Option.map_some, AList.lookup_insert, Option.getD_some]

theorem bucket_set_ne (different : other ≠ key) :
    (limiter.setBucket b key).bucket now other = limiter.bucket now other := by
  cases key with
  | global => cases other <;> first | rfl | exact absurd rfl different
  | client clientId =>
      cases other with
      | client otherId =>
          have ne : otherId ≠ clientId := fun same => different (congrArg BucketKey.client same)
          simp only [setBucket, bucket, AList.lookup_insert_ne ne]
      | global | device => rfl
  | device deviceId =>
      cases other with
      | device otherId =>
          have ne : otherId ≠ deviceId := fun same => different (congrArg BucketKey.device same)
          simp only [setBucket, bucket, AList.lookup_insert_ne ne]
      | global | client => rfl

/-- The limiter has this bucket, and it has this level now. -/
def Has (limiter : RateLimiter) (limit : BandwidthLimit) (now : ℚ) (key : BucketKey)
    (level : ℚ) : Prop :=
  ∃ b, limiter.bucket now key = some b ∧ b.Fits limit now ∧ b.level now = level

variable {level x : ℚ} {bytes : Nat}

theorem has_new (now : ℚ) {globalLimit clientLimit deviceLimit : Option BandwidthLimit}
    (configured : limitOf globalLimit clientLimit deviceLimit key = some limit) :
    (new globalLimit clientLimit deviceLimit now).Has limit now key limit.burstBytes := by
  refine ⟨.new limit now, ?_, TokenBucket.fits_new, TokenBucket.level_new⟩
  cases key with
  | global | client clientId | device deviceId =>
      simp only [limitOf] at configured
      subst configured
      rfl

/-- A bucket that is still to be made is full whenever it is made. -/
theorem entry_later {κ : Type} [DecidableEq κ] {buckets : AList fun _ : κ => TokenBucket} {k : κ}
    {configured : Option BandwidthLimit} (future : ℚ)
    (h : configured.map (fun limit => (buckets.lookup k).getD (.new limit now)) = some b) :
    configured.map (fun limit => (buckets.lookup k).getD (.new limit future)) = some b ∨
      ∃ limit, b = .new limit now ∧ configured.map
        (fun limit => (buckets.lookup k).getD (.new limit future)) = some (.new limit future) := by
  obtain ⟨limit, rfl, made⟩ := Option.map_eq_some_iff.mp h
  cases there : buckets.lookup k with
  | some c =>
      rw [there] at made
      exact .inl (congrArg some made)
  | none =>
      rw [there] at made
      exact .inr ⟨limit, made.symm, rfl⟩

theorem bucket_later (future : ℚ) (h : limiter.bucket now key = some b) :
    limiter.bucket future key = some b ∨ ∃ limit, b = .new limit now ∧
      limiter.bucket future key = some (.new limit future) := by
  cases key with
  | global => exact .inl h
  | client clientId | device deviceId => exact entry_later future h

theorem Has.bounds (h : limiter.Has limit now key level) :
    0 ≤ level ∧ level ≤ limit.burstBytes := by
  obtain ⟨b, -, fits, rfl⟩ := h
  exact ⟨fits.level_nonneg, fits.level_le⟩

theorem Has.later (h : limiter.Has limit now key level) (elapsed : now ≤ future) :
    ∃ next, limiter.Has limit future key next ∧
      next ≤ level + limit.bytesPerSecond * (future - now) := by
  obtain ⟨b, there, fits, rfl⟩ := h
  rcases bucket_later future there with same | ⟨own, rfl, made⟩
  · exact ⟨_, ⟨b, same, fits.later elapsed, rfl⟩, fits.level_later elapsed⟩
  · have fresh : (TokenBucket.new own future).Fits limit future :=
      { TokenBucket.fits_new with burst := fits.burst, rate := fits.rate }
    refine ⟨_, ⟨_, made, fresh, rfl⟩, ?_⟩
    have gain := mul_nonneg fits.gaining (sub_nonneg.mpr elapsed)
    rw [fits.rate] at gain
    rw [TokenBucket.level_new, TokenBucket.level_new]
    linarith

theorem Has.put (fits : b.Fits limit now) (there : limiter.bucket now key = some b)
    (nonneg : 0 ≤ x) (full : x ≤ limit.burstBytes) :
    (limiter.setBucket (b.setTokens now x) key).Has limit now key x :=
  ⟨_, bucket_set_self there, (fits.set_tokens nonneg full).1, (fits.set_tokens nonneg full).2⟩

theorem Has.elsewhere (h : limiter.Has limit now key level) (different : key ≠ other) :
    (limiter.setBucket b other).Has limit now key level := by
  obtain ⟨c, there, fits, same⟩ := h
  exact ⟨c, (bucket_set_ne different).trans there, fits, same⟩

theorem Has.check (h : limiter.Has limit now key level) :
    (limiter.checkBucket now bytes other).2.Has limit now key level := by
  have bounds := h.bounds
  rw [checkBucket]
  split
  · rename_i c there
    by_cases own : key = other
    · subst own
      obtain ⟨b, there', fits, rfl⟩ := h
      obtain rfl := Option.some.inj (there.symm.trans there')
      rw [fits.wait_time]
      exact .put fits there bounds.1 bounds.2
    · exact h.elsewhere own
  · exact h

theorem Has.consume (h : limiter.Has limit now key level)
    (taken : (limiter.consumeBucket now bytes other).1 = true) :
    (limiter.consumeBucket now bytes other).2.Has limit now key
      (if other = key then level - bytes else level) ∧ (other = key → bytes ≤ level) := by
  have bounds := h.bounds
  by_cases own : other = key
  · subst own
    obtain ⟨b, there, fits, rfl⟩ := h
    simp only [consumeBucket, there, fits.try_consume] at taken ⊢
    split at taken
    case isTrue enough =>
      simp only [enough, if_true, forall_const, and_true]
      have less : b.level now - bytes ≤ b.level now := sub_le_self _ (Nat.cast_nonneg bytes)
      exact .put fits there (sub_nonneg.mpr enough) (less.trans bounds.2)
    case isFalse => cases taken
  · rw [if_neg own]
    refine ⟨?_, fun same => absurd same own⟩
    rw [consumeBucket]
    split
    · exact h.elsewhere (Ne.symm own)
    · exact h

theorem consume_covered (enough : ∀ b ∈ limiter.bucket now key, bytes ≤ (b.refill now).tokens) :
    (limiter.consumeBucket now bytes key).1 = true := by
  rw [consumeBucket]
  split
  · rename_i b there
    simp only [TokenBucket.tryConsume, if_pos (enough b there)]
  · rfl

theorem Has.record (h : limiter.Has limit now key level) :
    (limiter.recordBucket now bytes other).Has limit now key
      (if other = key then max (level - bytes) 0 else level) := by
  have bounds := h.bounds
  by_cases own : other = key
  · subst own
    obtain ⟨b, there, fits, rfl⟩ := h
    simp only [recordBucket, there, fits.record, if_true]
    refine .put fits there (le_max_right _ _) (max_le ?_ (bounds.1.trans bounds.2))
    exact (sub_le_self _ (Nat.cast_nonneg bytes)).trans bounds.2
  · rw [if_neg own, recordBucket]
    split
    · exact h.elsewhere (Ne.symm own)
    · exact h

end RateLimiter
end P2pUsb
