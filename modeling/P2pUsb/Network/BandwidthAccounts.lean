import P2pUsb.Library.Metering
import P2pUsb.Network.Bandwidth

/-! What the rate limiting lets through. Beside a bucket an account is kept of what it may still
let through: tokens do not come back to it while the transfers that took them are still to be
handed over. -/
namespace P2pUsb
open Metering

namespace TransferTask

/-- The buckets to whose accounts the transfer is charged: it has taken their tokens, or has
given up on them, and is still to be handed over. -/
def charged (t : TransferTask) : List BucketKey :=
  match t.phase with
  | .acquiring rest | .recording rest => t.keys.filter (· ∉ rest)
  | .refunding _ | .sending => t.keys
  | _ => []

/-- The buckets to whose accounts its next step charges it. -/
def owes (t : TransferTask) (now : ℚ) (limiter : RateLimiter) : List BucketKey :=
  match t.phase with
  | .acquiring (key :: rest) =>
      if (limiter.consumeBucket now t.bytes key).1 then [key] else key :: rest
  | .recording (key :: _) => [key]
  | _ => []

/-- Its next step is a `try_acquire` that fails. -/
def refused (t : TransferTask) (now : ℚ) (limiter : RateLimiter) : Bool :=
  match t.phase with
  | .acquiring (key :: _) => !(limiter.consumeBucket now t.bytes key).1
  | _ => false

/-- The bytes that count for the bucket, of a transfer that meets it in these. -/
def counted (t : TransferTask) (meets : List BucketKey) (key : BucketKey) (burst : Nat) : ℚ :=
  if key ∈ meets ∧ t.bytes ≤ burst then t.bytes else 0

def held (key : BucketKey) (burst : Nat) (t : TransferTask) : ℚ := t.counted t.charged key burst

variable {t : TransferTask} {now : ℚ} {limiter l : RateLimiter} {phase : TransferPhase}
  {out : List LetThrough} {key : BucketKey} {rest : List BucketKey}

/-- What is still to be locked is the end of what is to be. -/
def Placed (t : TransferTask) : Prop :=
  match t.phase with
  | .acquiring rest | .recording rest => rest ≠ [] ∧ rest <:+ t.keys
  | .refunding rest => rest ≠ []
  | _ => True

theorem keys_nodup : t.keys.Nodup := by
  simp [keys, RateLimiter.keys]

theorem counted_nonneg (meets : List BucketKey) {burst : Nat} : 0 ≤ t.counted meets key burst := by
  rw [counted]
  split
  · exact Nat.cast_nonneg _
  · exact le_rfl

theorem held_none {burst : Nat} (none : t.charged = []) : t.held key burst = 0 := by
  rw [held, counted, none, if_neg fun charged => List.not_mem_nil charged.1]

theorem held_sending {burst : Nat} (sending : t.phase = .sending) :
    t.held key burst = if key ∈ t.keys ∧ t.bytes ≤ burst then (t.bytes : ℚ) else 0 := by
  simp only [held, counted, charged, sending]

theorem charged_acquired (k : BucketKey) :
    k ∈ ({ t with phase := acquired rest } : TransferTask).charged ↔ k ∈ t.keys ∧ k ∉ rest := by
  cases rest <;> simp [acquired, charged, keys]

theorem charged_recorded (k : BucketKey) :
    k ∈ ({ t with phase := recorded rest } : TransferTask).charged ↔ k ∈ t.keys ∧ k ∉ rest := by
  cases rest <;> simp [recorded, charged, keys]

theorem charged_refunded (rest : List BucketKey) :
    ({ t with phase := refunded rest } : TransferTask).charged = t.keys := by
  cases rest <;> rfl

/-- What is owed next has not been charged, and is charged then. -/
theorem held_add {burst : Nat} (k : BucketKey) {meets : List BucketKey}
    (fresh : k ∈ meets → k ∉ t.charged)
    (after : k ∈ ({ t with phase } : TransferTask).charged ↔ k ∈ t.charged ∨ k ∈ meets) :
    ({ t with phase } : TransferTask).held k burst = t.held k burst + t.counted meets k burst := by
  simp only [held, counted, after]
  by_cases owed : k ∈ meets
  · simp [owed, fresh owed]
  · simp [owed]

theorem placed_acquired (suffix : key :: rest <:+ t.keys) :
    ({ t with phase := acquired rest } : TransferTask).Placed := by
  cases rest with
  | nil => trivial
  | cons k rest => exact ⟨List.cons_ne_nil k rest, (List.suffix_cons key (k :: rest)).trans suffix⟩

theorem placed_recorded (suffix : key :: rest <:+ t.keys) :
    ({ t with phase := recorded rest } : TransferTask).Placed := by
  cases rest with
  | nil => trivial
  | cons k rest => exact ⟨List.cons_ne_nil k rest, (List.suffix_cons key (k :: rest)).trans suffix⟩

theorem placed_refunded (rest : List BucketKey) :
    ({ t with phase := refunded rest } : TransferTask).Placed := by
  cases rest with
  | nil => trivial
  | cons k rest => exact List.cons_ne_nil k rest

/-- A transfer that starts on its buckets is not charged yet. -/
theorem all_uncharged (t : TransferTask) : t.keys.filter (· ∉ t.keys) = [] :=
  List.filter_eq_nil_iff.mpr fun k there => by simp [there]

theorem placed_all : t.keys ≠ [] ∧ t.keys <:+ t.keys :=
  ⟨List.cons_ne_nil _ _, List.suffix_rfl⟩

theorem checked_fresh (t : TransferTask) (now : ℚ) (rest : List BucketKey) (wait : ℚ) :
    ({ t with phase := t.checked now wait rest } : TransferTask).charged = [] ∧
      ({ t with phase := t.checked now wait rest } : TransferTask).Placed := by
  cases rest with
  | nil =>
      simp only [checked]
      split
      · exact ⟨t.all_uncharged, placed_all⟩
      · exact ⟨rfl, trivial⟩
  | cons k rest => exact ⟨rfl, trivial⟩

/-- A step charges what is owed, or hands the transfer over. -/
inductive Moves (t : TransferTask) (now : ℚ) (limiter : RateLimiter) :
    TransferPhase → List LetThrough → Prop
  | charges {phase : TransferPhase} (placed : ({ t with phase } : TransferTask).Placed)
      (adds : ∀ key burst, ({ t with phase } : TransferTask).held key burst =
        t.held key burst + t.counted (t.owes now limiter) key burst) :
      Moves t now limiter phase []
  | hands (at' : t.phase = .sending) :
      Moves t now limiter .sent [⟨t.clientId, t.deviceId, t.bytes, now⟩]

theorem uncharged_rest (k : BucketKey) (rest : List BucketKey) :
    k ∈ rest → k ∉ t.keys.filter (· ∉ rest) :=
  fun owed kept => of_decide_eq_true (List.mem_filter.mp kept).2 owed

/-- After the next bucket that one is charged too. -/
theorem charged_next (suffix : key :: rest <:+ t.keys) (k : BucketKey) :
    k ∈ t.keys ∧ k ∉ rest ↔ k ∈ t.keys.filter (· ∉ key :: rest) ∨ k ∈ [key] := by
  have fresh : key ∉ rest := (List.nodup_cons.mp (keys_nodup.sublist suffix.sublist)).1
  have inside : key ∈ t.keys := suffix.subset List.mem_cons_self
  simp only [List.mem_filter, List.mem_cons, not_or, decide_eq_true_eq, List.not_mem_nil, or_false]
  by_cases own : k = key
  · subst own
    simp [fresh, inside]
  · simp [own]

/-- A step that charges nothing. -/
theorem Moves.quiet (next : ({ t with phase } : TransferTask).Placed)
    (owes : t.owes now limiter = [])
    (same : ({ t with phase } : TransferTask).charged = t.charged) :
    t.Moves now limiter phase [] := by
  refine .charges next fun k burst => held_add k ?_ ?_
  · rw [owes]
    exact fun wrong => absurd wrong List.not_mem_nil
  · rw [owes, same]
    exact (or_iff_left List.not_mem_nil).symm

/-- A step that takes the tokens of the next bucket. -/
theorem Moves.next (next : ({ t with phase } : TransferTask).Placed)
    (suffix : key :: rest <:+ t.keys) (before : t.charged = t.keys.filter (· ∉ key :: rest))
    (owes : t.owes now limiter = [key])
    (after : ∀ k, k ∈ ({ t with phase } : TransferTask).charged ↔ k ∈ t.keys ∧ k ∉ rest) :
    t.Moves now limiter phase [] := by
  refine .charges next fun k burst => held_add k ?_ ?_
  · rw [owes, before]
    intro own
    exact uncharged_rest k (key :: rest) (List.mem_singleton.mp own ▸ List.mem_cons_self)
  · rw [owes, before, after, charged_next suffix]

theorem work_moves (works : t.Works now limiter phase l out) (placed : t.Placed) :
    t.Moves now limiter phase out := by
  cases works with
  | checked at' =>
      rename_i key rest maxWait wait
      obtain ⟨fresh, next⟩ := t.checked_fresh now rest wait
      refine .quiet next (by simp only [owes, at']) ?_
      rw [fresh, charged, at']
  | panicked at' =>
      refine .quiet trivial (by simp only [owes, at']) ?_
      rw [charged, charged, at']
  | acquired at' taken =>
      simp only [Placed, at'] at placed
      refine .next (placed_acquired placed.2) placed.2 ?_ ?_ charged_acquired
      · rw [charged, at']
      · simp only [owes, at', taken, if_true]
  | refused at' missing =>
      -- the transfer goes on without the tokens of this bucket and of those after it
      rename_i key rest
      have before : t.charged = t.keys.filter (· ∉ key :: rest) := by rw [charged, at']
      have owed : t.owes now limiter = key :: rest := by
        simp only [owes, at', missing, Bool.false_eq_true, if_false]
      simp only [Placed, at'] at placed
      refine .charges (placed_refunded _) fun k burst => held_add k ?_ ?_
      · rw [owed, before]
        exact uncharged_rest k (key :: rest)
      · rw [charged_refunded, owed, before, List.mem_filter, decide_eq_true_eq]
        by_cases later : k ∈ key :: rest
        · simp only [later, or_true, iff_true]
          exact placed.2.subset later
        · simp only [later, or_false, not_false_eq_true, and_true]
  | refunded at' =>
      rename_i key rest
      refine .quiet (placed_refunded rest) (by simp only [owes, at']) ?_
      rw [charged_refunded, charged, at']
  | woken at' =>
      refine .quiet placed_all (by simp only [owes, at']) ?_
      rw [charged, charged, at']
      exact t.all_uncharged
  | recorded at' =>
      simp only [Placed, at'] at placed
      refine .next (placed_recorded placed.2) placed.2 ?_ ?_ charged_recorded
      · rw [charged, at']
      · simp only [owes, at']
  | sent at' => exact .hands at'

/-- No more steps than these are left to a charged transfer until its hand-over: a refused one
still has its refunds. -/
def left (t : TransferTask) : Nat :=
  match t.phase with
  | .acquiring rest => 5 + rest.length
  | .refunding rest | .recording rest => 1 + rest.length
  | .sending => 1
  | _ => 0

theorem charged_none (done : t.left = 0) : t.charged = [] := by
  rw [left] at done
  rw [charged]
  split at done <;> simp_all

theorem left_acquired :
    ({ t with phase := acquired rest } : TransferTask).left ≤ 5 + rest.length := by
  cases rest with
  | nil => exact Nat.le_add_left 1 4
  | cons k rest => exact le_rfl

theorem left_refunded :
    ({ t with phase := refunded rest } : TransferTask).left ≤ 1 + rest.length := by
  cases rest <;> exact le_rfl

theorem left_recorded :
    ({ t with phase := recorded rest } : TransferTask).left ≤ 1 + rest.length := by
  cases rest <;> exact le_rfl

/-- A charged transfer can go on at once, whatever it finds. -/
theorem goes_on (placed : t.Placed) (pending : t.left ≠ 0) (now : ℚ) (limiter : RateLimiter) :
    ∃ phase l out, t.work now limiter = some (phase, l, out) ∧
      ({ t with phase } : TransferTask).left < t.left := by
  cases at' : t.phase with
  | checking | sleeping | sent | panicked => simp only [left, at', ne_eq, not_true] at pending
  | sending =>
      refine ⟨.sent, limiter, [⟨t.clientId, t.deviceId, t.bytes, now⟩], ?_, ?_⟩
      · simp only [work, at']
      · simp only [left, at', zero_lt_one]
  | acquiring rest =>
      simp only [Placed, at'] at placed
      obtain ⟨key, rest, rfl⟩ := List.exists_cons_of_ne_nil placed.1
      have before : t.left = 5 + (rest.length + 1) := by simp only [left, at', List.length_cons]
      cases taken : (limiter.consumeBucket now t.bytes key).1 with
      | true =>
          refine ⟨acquired rest, (limiter.consumeBucket now t.bytes key).2, [], ?_, ?_⟩
          · simp only [work, at']
            split <;> simp_all
          · have after : ({ t with phase := acquired rest } : TransferTask).left ≤
              5 + rest.length :=
              left_acquired
            omega
      | false =>
          refine ⟨refunded (t.keys.filter (· ∉ key :: rest)),
            (limiter.consumeBucket now t.bytes key).2, [], ?_, ?_⟩
          · simp only [work, at']
            split <;> simp_all
          · have after : ({ t with phase := refunded (t.keys.filter (· ∉ key :: rest)) } :
              TransferTask).left ≤ _ := left_refunded
            have few : (t.keys.filter (· ∉ key :: rest)).length ≤ 3 :=
              List.length_filter_le _ t.keys
            omega
  | refunding rest =>
      simp only [Placed, at'] at placed
      obtain ⟨key, rest, rfl⟩ := List.exists_cons_of_ne_nil placed
      have before : t.left = 1 + (rest.length + 1) := by simp only [left, at', List.length_cons]
      refine ⟨refunded rest, limiter.refundBucket now t.bytes key, [], by simp only [work, at'], ?_⟩
      have after : ({ t with phase := refunded rest } : TransferTask).left ≤ _ := left_refunded
      omega
  | recording rest =>
      simp only [Placed, at'] at placed
      obtain ⟨key, rest, rfl⟩ := List.exists_cons_of_ne_nil placed.1
      have before : t.left = 1 + (rest.length + 1) := by simp only [left, at', List.length_cons]
      refine ⟨recorded rest, limiter.recordBucket now t.bytes key, [], by simp only [work, at'], ?_⟩
      have after : ({ t with phase := recorded rest } : TransferTask).left ≤ _ := left_recorded
      omega

theorem calm_checked (wait : ℚ) (rest later : List BucketKey) :
    t.checked now wait rest ≠ .refunding later := by
  cases rest with
  | nil =>
      rw [checked]
      split <;> exact nofun
  | cons k rest => exact nofun

theorem calm_acquired (rest later : List BucketKey) : acquired rest ≠ .refunding later := by
  cases rest <;> exact nofun

theorem calm_recorded (rest later : List BucketKey) : recorded rest ≠ .refunding later := by
  cases rest <;> exact nofun

/-- Where no `try_acquire` fails and a transfer within the burst finds its bytes, a step takes no
more from the bucket than is charged for it. -/
theorem Works.backed {limit : BandwidthLimit} {level : ℚ} (works : t.Works now limiter phase l out)
    (granted : t.refused now limiter = false) (plain : ∀ rest, t.phase ≠ .refunding rest)
    (has : limiter.Has limit now key level)
    (found : key ∈ t.owes now limiter → t.bytes ≤ limit.burstBytes →
      ∀ b ∈ limiter.bucket now key, t.bytes ≤ (b.refill now).tokens) :
    (∀ rest, phase ≠ .refunding rest) ∧ ∃ next, l.Has limit now key next ∧
      next ≤ level - t.counted (t.owes now limiter) key limit.burstBytes := by
  have bounds := has.bounds
  cases works with
  | checked at' =>
      rename_i wait
      refine ⟨calm_checked wait _, level, has.check, ?_⟩
      simp only [counted, owes, at', List.not_mem_nil, false_and, if_false, sub_zero, le_refl]
  | panicked at' =>
      refine ⟨nofun, level, has.check, ?_⟩
      simp only [counted, owes, at', List.not_mem_nil, false_and, if_false, sub_zero, le_refl]
  | acquired at' taken =>
      rename_i k rest
      refine ⟨calm_acquired rest, _, (has.consume taken).1, ?_⟩
      simp only [counted, owes, at', taken, if_true, List.mem_singleton]
      by_cases own : k = key
      · by_cases small : t.bytes ≤ limit.burstBytes <;> simp [own, small]
      · simp [own, Ne.symm own]
  | refused at' missing => simp [TransferTask.refused, at', missing] at granted
  | refunded at' => exact absurd at' (plain _)
  | woken at' =>
      refine ⟨nofun, level, has, ?_⟩
      simp only [counted, owes, at', List.not_mem_nil, false_and, if_false, sub_zero, le_refl]
  | recorded at' =>
      rename_i k rest
      refine ⟨calm_recorded rest, _, has.record, ?_⟩
      have cost : (0 : ℚ) ≤ t.bytes := Nat.cast_nonneg _
      simp only [counted, owes, at', List.mem_singleton] at found ⊢
      by_cases own : k = key
      · subst own
        by_cases small : t.bytes ≤ limit.burstBytes
        · obtain ⟨b, there, fits, rfl⟩ := has
          have enough := found rfl small b there
          rw [fits.refill] at enough
          simp only [small, and_self, if_true, max_eq_left (sub_nonneg.mpr enough), le_refl]
        · simp only [small, and_false, if_false, if_true, sub_zero]
          exact max_le (sub_le_self _ cost) bounds.1
      · simp [own, Ne.symm own]
  | sent at' =>
      refine ⟨nofun, level, has, ?_⟩
      simp only [counted, owes, at', List.not_mem_nil, false_and, if_false, sub_zero, le_refl]

end TransferTask

namespace LimiterState

/-- The bytes that are charged to the account of the bucket and still to be handed over. -/
def inHand (s : LimiterState) (key : BucketKey) (burst : Nat) : ℚ :=
  (s.tasks.map (TransferTask.held key burst)).sum

/-- The bytes that the step charges to it. -/
def due (s : LimiterState) (a : LimiterStep) (key : BucketKey) (burst : Nat) : ℚ :=
  match a with
  | .work i => (s.tasks[i]?.map fun t => t.counted (t.owes s.now s.limiter) key burst).getD 0
  | .submit .. | .tick .. => 0

/-- No `try_acquire` fails, a transfer within the burst finds its bytes in the bucket, and time
passes only as long as the bucket and what is in hand do not exceed the burst together. -/
def Prompt (key : BucketKey) (limit : BandwidthLimit) (s : LimiterState) : LimiterStep → Prop
  | .work i => ∀ t ∈ s.tasks[i]?, t.refused s.now s.limiter = false ∧
      (key ∈ t.owes s.now s.limiter → t.bytes ≤ limit.burstBytes →
        ∀ b ∈ s.limiter.bucket s.now key, t.bytes ≤ (b.refill s.now).tokens)
  | .tick elapsed => ∀ b ∈ s.limiter.bucket (s.now + elapsed) key,
      (b.refill (s.now + elapsed)).tokens + s.inHand key limit.burstBytes ≤ limit.burstBytes
  | .submit .. => True

end LimiterState

/-- The limiter and its transfers, with what a bucket may still let through. -/
structure AccountedLimiter where
  state : LimiterState
  account : ℚ

namespace AccountedLimiter
/-- The account of a bucket starts at its burst. -/
def new (globalLimit clientLimit deviceLimit : Option BandwidthLimit) (now : ℚ)
    (limit : BandwidthLimit) : AccountedLimiter where
  state := .new globalLimit clientLimit deviceLimit now
  account := limit.burstBytes

variable (key : BucketKey) (limit : BandwidthLimit)

/-- The account gains at the rate of the bucket, up to the burst less what is in hand, and pays
for what is charged. -/
def settle (s : AccountedLimiter) : LimiterStep → ℚ
  | .tick elapsed => min (s.account + limit.bytesPerSecond * elapsed)
      (limit.burstBytes - s.state.inHand key limit.burstBytes)
  | a => s.account - s.state.due a key limit.burstBytes

def step (s : AccountedLimiter) (a : LimiterStep) : Option (AccountedLimiter × List LetThrough) :=
  (s.state.step a).map fun (next, out) => (⟨next, s.settle key limit a⟩, out)

/-- A transfer within the burst that takes tokens of the bucket, or gives up on them, finds its
bytes in the account. -/
def Covered (s : AccountedLimiter) : LimiterStep → Prop
  | .work i => ∀ t ∈ s.state.tasks[i]?, key ∈ t.owes s.state.now s.state.limiter →
      t.bytes ≤ limit.burstBytes → t.bytes ≤ s.account
  | .submit .. | .tick .. => True

instance (s : AccountedLimiter) : (a : LimiterStep) → Decidable (s.Covered key limit a)
  | .work i => inferInstanceAs (Decidable (∀ t ∈ s.state.tasks[i]?, _))
  | .submit .. | .tick .. => inferInstanceAs (Decidable True)

end AccountedLimiter

/-- The transfers as they are, beside which the account of a bucket is kept. -/
def accountedTransfers (key : BucketKey) (limit : BandwidthLimit) :
    Machine AccountedLimiter LimiterStep LetThrough where
  step s a := s.step key limit a

namespace LimiterState

/-- The bytes of the transfers within the burst that meet the bucket and are let through
in this time. -/
def throughput (key : BucketKey) (burst : Nat) (a b : ℚ) (tr : List LetThrough) : ℚ :=
  ((tr.filter fun e => key ∈ e.keys ∧ e.bytes ≤ burst ∧ a ≤ e.time ∧ e.time ≤ b).map
    fun e => (e.bytes : ℚ)).sum

/-- The same with their times. -/
def charges (key : BucketKey) (burst : Nat) (tr : List LetThrough) : List (ℚ × ℚ) :=
  (tr.filter fun e => key ∈ e.keys ∧ e.bytes ≤ burst).map fun e => (e.time, (e.bytes : ℚ))

theorem charges_append (key : BucketKey) (burst : Nat) (tr : List LetThrough) (e : LetThrough) :
    charges key burst (tr ++ [e]) = charges key burst tr ++
      if key ∈ e.keys ∧ e.bytes ≤ burst then [(e.time, (e.bytes : ℚ))] else [] := by
  by_cases counts : key ∈ e.keys ∧ e.bytes ≤ burst <;> simp [charges, counts]

variable {s t : LimiterState} {a : LimiterStep} {key : BucketKey} {limit : BandwidthLimit}
  {tr out : List LetThrough} {i : Nat} {level : ℚ}

theorem throughput_eq (key : BucketKey) (burst : Nat) (a b : ℚ) (tr : List LetThrough) :
    throughput key burst a b tr = within a b (charges key burst tr) := by
  simp only [throughput, within, charges, List.filter_map, List.filter_filter, List.map_map,
    Function.comp_def]
  congr 2
  refine List.filter_congr fun e _ => ?_
  simp only [Bool.decide_and]
  ac_rfl

theorem in_hand_zero {burst : Nat} (none : ∀ t ∈ s.tasks, t.charged = []) :
    s.inHand key burst = 0 := by
  refine List.sum_eq_zero fun x present => ?_
  obtain ⟨t, there, rfl⟩ := List.mem_map.mp present
  exact TransferTask.held_none (none t there)

theorem in_hand_set {burst : Nat} {old next : TransferTask} {limiter : RateLimiter}
    (at' : s.tasks[i]? = some old) :
    inHand ⟨s.now, limiter, s.tasks.set i next⟩ key burst =
      s.inHand key burst - old.held key burst + next.held key burst := by
  obtain ⟨inside, rfl⟩ := List.getElem?_eq_some_iff.mp at'
  rw [inHand, inHand, List.map_set, List.sum_set', dif_pos (by simpa using inside)]
  simp only [List.getElem_map]
  ring

theorem held_le {burst : Nat} {old : TransferTask} (at' : s.tasks[i]? = some old) :
    old.held key burst ≤ s.inHand key burst := by
  refine List.single_le_sum (fun x present => ?_) _ (List.mem_map_of_mem (List.mem_of_getElem? at'))
  obtain ⟨t, -, rfl⟩ := List.mem_map.mp present
  exact t.counted_nonneg _

theorem sum_set_lt {α : Type*} {f : α → Nat} {l : List α} {i : Nat} {x : α} (inside : i < l.length)
    (less : f x < f l[i]) : ((l.set i x).map f).sum < (l.map f).sum := by
  induction l generalizing i with
  | nil => cases inside
  | cons y l ih =>
      cases i with
      | zero => simpa using less
      | succ i =>
          have rest := ih (Nat.lt_of_succ_lt_succ inside) less
          simpa using rest

end LimiterState

namespace AccountedLimiter
open LimiterState
variable {s t : AccountedLimiter} {a : LimiterStep} {key : BucketKey} {limit : BandwidthLimit}
  {tr out : List LetThrough} {i : Nat}

/-- The account of a bucket and what is in hand are what the bound leaves. -/
structure Kept (key : BucketKey) (limit : BandwidthLimit) (tr : List LetThrough)
    (s : AccountedLimiter) : Prop where
  placed : ∀ t ∈ s.state.tasks, t.Placed
  metered : Metered (limit.burstBytes : ℚ) limit.bytesPerSecond (charges key limit.burstBytes tr)
    s.state.now (s.account + s.state.inHand key limit.burstBytes)

/-- All that a step does to the transfers and to the account. -/
inductive Settles (key : BucketKey) (limit : BandwidthLimit) (s : AccountedLimiter) :
    LimiterStep → AccountedLimiter → List LetThrough → Prop
  | submits {clientId : EndpointId} {deviceId : DeviceId} {transfer : TransferType}
      (task : TransferTask) (fresh : task.charged = []) (placed : task.Placed) :
      Settles key limit s (.submit clientId deviceId transfer)
        ⟨{ s.state with tasks := s.state.tasks ++ [task] }, s.account⟩ []
  | ticks {elapsed : ℚ} (later : 0 ≤ elapsed) :
      Settles key limit s (.tick elapsed)
        ⟨{ s.state with now := s.state.now + elapsed }, s.settle key limit (.tick elapsed)⟩ []
  | works {i : Nat} {old : TransferTask} {phase : TransferPhase} {limiter : RateLimiter}
      {out : List LetThrough} (at' : s.state.tasks[i]? = some old)
      (works : old.Works s.state.now s.state.limiter phase limiter out) :
      Settles key limit s (.work i)
        ⟨⟨s.state.now, limiter, s.state.tasks.set i { old with phase }⟩,
          s.account - old.counted (old.owes s.state.now s.state.limiter) key limit.burstBytes⟩ out

theorem step_settles (h : s.step key limit a = some (t, out)) : Settles key limit s a t out := by
  obtain ⟨⟨next, shown⟩, stepped, same⟩ := Option.map_eq_some_iff.mp h
  obtain ⟨rfl, rfl⟩ := Prod.mk.inj same
  cases a with
  | submit clientId deviceId transfer =>
      cases stepped
      have free : s.settle key limit (.submit clientId deviceId transfer) = s.account := sub_zero _
      rw [free]
      exact .submits ⟨clientId, deviceId, getTransferDataSize transfer,
        .checking (RateLimiter.keys (some clientId) (some deviceId)) 0⟩ rfl trivial
  | tick elapsed =>
      simp only [LimiterState.step] at stepped
      split at stepped <;> cases stepped
      exact .ticks ‹_›
  | work i =>
      simp only [LimiterState.step] at stepped
      split at stepped
      case h_2 => cases stepped
      rename_i old at'
      obtain ⟨⟨phase, limiter, events⟩, worked, same⟩ := Option.map_eq_some_iff.mp stepped
      cases same
      have pays : s.settle key limit (.work i) = s.account -
          old.counted (old.owes s.state.now s.state.limiter) key limit.burstBytes := by
        simp only [settle, due, at', Option.map_some, Option.getD_some]
      rw [pays]
      exact .works at' (TransferTask.work_does worked)

theorem Kept.submits (kept : Kept key limit tr s) {task : TransferTask} (fresh : task.charged = [])
    (placed : task.Placed) :
    Kept key limit tr ⟨{ s.state with tasks := s.state.tasks ++ [task] }, s.account⟩ where
  placed t present := by
    rcases List.mem_append.mp present with old | last
    · exact kept.placed t old
    · rwa [List.mem_singleton.mp last]
  metered := by
    simpa only [inHand, List.map_append, List.map_singleton, List.sum_append, List.sum_singleton,
      TransferTask.held_none fresh, add_zero] using kept.metered

theorem Kept.ticks (kept : Kept key limit tr s) {elapsed : ℚ} (later : 0 ≤ elapsed) :
    Kept key limit tr ⟨{ s.state with now := s.state.now + elapsed },
      s.settle key limit (.tick elapsed)⟩ where
  placed := kept.placed
  metered := by
    have waited := kept.metered.wait (Nat.cast_nonneg _) (le_add_of_nonneg_right later)
    have level : s.settle key limit (.tick elapsed) + s.state.inHand key limit.burstBytes =
        min (s.account + s.state.inHand key limit.burstBytes + limit.bytesPerSecond * elapsed)
          limit.burstBytes := by
      rw [settle, min_add, sub_add_cancel, add_right_comm]
    rw [add_sub_cancel_left] at waited
    exact level ▸ waited

theorem Kept.works (kept : Kept key limit tr s) {old : TransferTask} {phase : TransferPhase}
    {limiter : RateLimiter} (at' : s.state.tasks[i]? = some old)
    (moves : old.Moves s.state.now s.state.limiter phase out) :
    Kept key limit (tr ++ out) ⟨⟨s.state.now, limiter, s.state.tasks.set i { old with phase }⟩,
      s.account - old.counted (old.owes s.state.now s.state.limiter) key limit.burstBytes⟩ := by
  have hand : inHand ⟨s.state.now, limiter, s.state.tasks.set i { old with phase }⟩ key
      limit.burstBytes = s.state.inHand key limit.burstBytes - old.held key limit.burstBytes +
        ({ old with phase } : TransferTask).held key limit.burstBytes := in_hand_set at'
  cases moves with
  | charges placed adds =>
      refine ⟨fun t present => ?_, ?_⟩
      · rcases List.mem_or_eq_of_mem_set present with there | rfl
        · exact kept.placed t there
        · exact placed
      · rw [List.append_nil, hand, adds]
        convert kept.metered using 1
        ring
  | hands sending =>
      refine ⟨fun t present => ?_, ?_⟩
      · rcases List.mem_or_eq_of_mem_set present with there | rfl
        · exact kept.placed t there
        · trivial
      · have nothing :
            old.counted (old.owes s.state.now s.state.limiter) key limit.burstBytes = 0 := by
          simp [TransferTask.owes, TransferTask.counted, sending]
        have gone : ({ old with phase := .sent } : TransferTask).held key limit.burstBytes = 0 :=
          TransferTask.held_none rfl
        rw [charges_append, nothing, hand, gone, sub_zero, add_zero, ← add_sub_assoc,
          TransferTask.held_sending sending]
        split
        case isTrue counts =>
          have counts : key ∈ old.keys ∧ old.bytes ≤ limit.burstBytes := counts
          rw [if_pos counts]
          exact kept.metered.pass (Nat.cast_nonneg _)
        case isFalse exempt =>
          have exempt : ¬ (key ∈ old.keys ∧ old.bytes ≤ limit.burstBytes) := exempt
          rw [if_neg exempt, List.append_nil, sub_zero]
          exact kept.metered

/-- A step charges the account what the transfer then holds, and takes from what is held what it
hands over. -/
theorem Kept.step (kept : Kept key limit tr s) (h : s.step key limit a = some (t, out)) :
    Kept key limit (tr ++ out) t := by
  cases step_settles h with
  | submits task fresh placed =>
      rw [List.append_nil]
      exact kept.submits fresh placed
  | ticks later =>
      rw [List.append_nil]
      exact kept.ticks later
  | works at' works =>
      have place := kept.placed _ (List.mem_of_getElem? at')
      exact kept.works at' (TransferTask.work_moves works place)

/-- A covered step leaves the account above zero and lets nothing through but what was in
hand. -/
theorem Kept.covered (kept : Kept key limit tr s) (covered : s.Covered key limit a)
    (h : s.step key limit a = some (t, out)) (solvent : 0 ≤ s.account)
    (bounded : Bounded (limit.burstBytes : ℚ) limit.bytesPerSecond
      (charges key limit.burstBytes tr)) :
    0 ≤ t.account ∧ Bounded (limit.burstBytes : ℚ) limit.bytesPerSecond
      (charges key limit.burstBytes (tr ++ out)) := by
  cases step_settles h with
  | submits =>
      rw [List.append_nil]
      exact ⟨solvent, bounded⟩
  | ticks later =>
      rename_i elapsed
      have gain : 0 ≤ limit.bytesPerSecond * elapsed := mul_nonneg (Nat.cast_nonneg _) later
      have full : s.account + s.state.inHand key limit.burstBytes ≤ limit.burstBytes := by
        have passed : 0 ≤ since s.state.now (charges key limit.burstBytes tr) :=
          since_nonneg kept.metered.amounts
        have paid := kept.metered.paid s.state.now le_rfl
        linarith
      rw [List.append_nil]
      exact ⟨le_min (add_nonneg solvent gain) (by linarith), bounded⟩
  | works at' works =>
      rename_i i old phase limiter
      refine ⟨?_, ?_⟩
      · rw [sub_nonneg, TransferTask.counted]
        split
        case isTrue owed => exact covered old at' owed.1 owed.2
        case isFalse => exact solvent
      · cases TransferTask.work_moves works (kept.placed old (List.mem_of_getElem? at')) with
        | charges => rwa [List.append_nil]
        | hands sending =>
            have held : old.held key limit.burstBytes ≤ s.state.inHand key limit.burstBytes :=
              held_le at'
            rw [TransferTask.held_sending sending] at held
            rw [charges_append]
            split
            case isTrue counts =>
              have counts : key ∈ old.keys ∧ old.bytes ≤ limit.burstBytes := counts
              rw [if_pos counts] at held
              exact kept.metered.bounded_pass (Nat.cast_nonneg _) (by linarith) bounded
            case isFalse => rwa [List.append_nil]

/-- Outside the condition the account is overdrawn. -/
theorem overdrawn (uncovered : ¬ s.Covered key limit a)
    (h : s.step key limit a = some (t, out)) : t.account < 0 := by
  cases step_settles h with
  | submits => exact absurd trivial uncovered
  | ticks => exact absurd trivial uncovered
  | works at' works =>
      simp only [Covered, Option.mem_def, at', Option.some.injEq, forall_eq'] at uncovered
      push Not at uncovered
      obtain ⟨owed, small, poor⟩ := uncovered
      rw [TransferTask.counted, if_pos ⟨owed, small⟩]
      exact sub_neg.mpr poor

/-- Without time or new transfers those that are charged can all be handed over. -/
theorem Kept.drain (kept : Kept key limit tr s) (poor : s.account < 0) :
    ∃ rest u, (accountedTransfers key limit).Reach s rest u ∧ Kept key limit (tr ++ rest) u ∧
      u.account < 0 ∧ ∀ t ∈ u.state.tasks, t.charged = [] := by
  induction total : (s.state.tasks.map TransferTask.left).sum using Nat.strong_induction_on
    generalizing s tr with
  | _ total ih =>
    by_cases done : ∀ t ∈ s.state.tasks, t.left = 0
    · refine ⟨[], s, .start, by rwa [List.append_nil], poor, fun t present => ?_⟩
      exact TransferTask.charged_none (done t present)
    · push Not at done
      obtain ⟨old, present, pending⟩ := done
      obtain ⟨i, inside, rfl⟩ := List.getElem_of_mem present
      have at' : s.state.tasks[i]? = some s.state.tasks[i] := List.getElem?_eq_getElem inside
      obtain ⟨phase, limiter, out, worked, fewer⟩ :=
        TransferTask.goes_on (kept.placed _ present) pending s.state.now s.state.limiter
      have stepped : s.step key limit (.work i) = some (⟨⟨s.state.now, limiter, s.state.tasks.set i
          { s.state.tasks[i] with phase }⟩, s.settle key limit (.work i)⟩, out) := by
        simp only [AccountedLimiter.step, LimiterState.step, at', worked, Option.map_some]
      have poorer : s.settle key limit (.work i) < 0 := by
        refine lt_of_le_of_lt (sub_le_self _ ?_) poor
        simp only [due, at', Option.map_some, Option.getD_some, TransferTask.counted_nonneg]
      have next := kept.step stepped
      obtain ⟨rest, u, run, kept', last⟩ := ih _ (by
        rw [← total]
        exact sum_set_lt inside fewer) next poorer rfl
      refine ⟨out ++ rest, u, (Machine.Reach.of_step stepped).trans run, ?_, last⟩
      rwa [← List.append_assoc]

/-- No transfer is being refunded, and the account has at least what the bucket has. -/
structure Linked (key : BucketKey) (limit : BandwidthLimit) (s : AccountedLimiter) : Prop where
  plain : ∀ t ∈ s.state.tasks, ∀ rest, t.phase ≠ .refunding rest
  backed : ∃ level, s.state.limiter.Has limit s.state.now key level ∧ level ≤ s.account

theorem Linked.submits (linked : Linked key limit s) {task : TransferTask}
    (fresh : task.charged = []) :
    Linked key limit ⟨{ s.state with tasks := s.state.tasks ++ [task] }, s.account⟩ where
  plain t present rest refunding := by
    rcases List.mem_append.mp present with old | last
    · exact linked.plain t old rest refunding
    · rw [List.mem_singleton.mp last] at refunding
      simp [TransferTask.charged, refunding, TransferTask.keys, RateLimiter.keys] at fresh
  backed := linked.backed

theorem Linked.ticks (linked : Linked key limit s) {elapsed : ℚ} (later : 0 ≤ elapsed)
    (prompt : s.state.Prompt key limit (.tick elapsed)) :
    Linked key limit ⟨{ s.state with now := s.state.now + elapsed },
      s.settle key limit (.tick elapsed)⟩ where
  plain := linked.plain
  backed := by
    obtain ⟨level, has, backed⟩ := linked.backed
    obtain ⟨next, has, gained⟩ := has.later (le_add_of_nonneg_right later)
    refine ⟨next, has, le_min ?_ ?_⟩
    · rw [add_sub_cancel_left] at gained
      exact gained.trans (add_le_add backed le_rfl)
    · obtain ⟨b, there, fits, rfl⟩ := has
      have room := prompt b there
      rw [fits.refill] at room
      exact le_sub_iff_add_le.mpr room

theorem Linked.step (linked : Linked key limit s) (prompt : s.state.Prompt key limit a)
    (h : s.step key limit a = some (t, out)) : s.Covered key limit a ∧ Linked key limit t := by
  cases step_settles h with
  | submits task fresh placed => exact ⟨trivial, linked.submits fresh⟩
  | ticks later => exact ⟨trivial, linked.ticks later prompt⟩
  | works at' works =>
      rename_i i old phase limiter
      have found := prompt old at'
      have plain := linked.plain old (List.mem_of_getElem? at')
      obtain ⟨level, has, backed⟩ := linked.backed
      refine ⟨fun t there owed small => ?_, ?_⟩
      · obtain rfl : old = t := Option.some.inj (at'.symm.trans there)
        obtain ⟨b, there, fits, rfl⟩ := has
        have enough := found.2 owed small b there
        rw [fits.refill] at enough
        exact enough.trans backed
      · obtain ⟨calm, next, has, less⟩ := works.backed found.1 plain has found.2
        refine ⟨fun t present rest => ?_, next, has, ?_⟩
        · rcases List.mem_or_eq_of_mem_set present with there | rfl
          · exact linked.plain t there rest
          · exact calm rest
        · exact less.trans (sub_le_sub_right backed _)

section runs
variable {globalLimit clientLimit deviceLimit : Option BandwidthLimit} {now : ℚ}

theorem kept_run (run : (accountedTransfers key limit).Reach
      (new globalLimit clientLimit deviceLimit now limit) tr s) : Kept key limit tr s := by
  have empty : (LimiterState.new globalLimit clientLimit deviceLimit now).inHand key
      limit.burstBytes = 0 := in_hand_zero fun t present => (List.not_mem_nil present).elim
  have level : (limit.burstBytes : ℚ) + (LimiterState.new globalLimit clientLimit deviceLimit
      now).inHand key limit.burstBytes = limit.burstBytes := by rw [empty, add_zero]
  refine run.invariant (I := Kept key limit) ?_ fun tr s a t out kept _ h => kept.step h
  exact ⟨fun t present => (List.not_mem_nil present).elim,
    level.symm ▸ Metered.start (Nat.cast_nonneg _)⟩

theorem covered_run (run : (accountedTransfers key limit).Exec (Covered key limit)
      (new globalLimit clientLimit deviceLimit now limit) tr s) :
    0 ≤ s.account ∧ Bounded (limit.burstBytes : ℚ) limit.bytesPerSecond
      (charges key limit.burstBytes tr) := by
  refine run.invariantAlong (I := fun tr s => 0 ≤ s.account ∧
    Bounded (limit.burstBytes : ℚ) limit.bytesPerSecond (charges key limit.burstBytes tr)) ?_ ?_
  · exact ⟨Nat.cast_nonneg _, bounded_nil (Nat.cast_nonneg _) (Nat.cast_nonneg _)⟩
  · rintro tr s a t out before ⟨solvent, bounded⟩ covered h
    exact (kept_run (before.mono fun _ _ _ => trivial)).covered covered h solvent bounded

/-- The account restricts nothing: the transfers have the runs that they have without it. -/
theorem accounted_run {s : LimiterState}
    (run : submitTransfers.Reach (.new globalLimit clientLimit deviceLimit now) tr s) :
    ∃ account, (accountedTransfers key limit).Reach
      (new globalLimit clientLimit deviceLimit now limit) tr ⟨s, account⟩ := by
  refine run.invariant (I := fun tr s => ∃ account, (accountedTransfers key limit).Reach
    (new globalLimit clientLimit deviceLimit now limit) tr ⟨s, account⟩) ⟨_, .start⟩ ?_
  rintro tr s a t out ⟨account, before⟩ - h
  refine ⟨settle key limit ⟨s, account⟩ a, .next before trivial (a := a) ?_⟩
  exact congrArg (Option.map _) h

theorem linked_run (configured :
      RateLimiter.limitOf globalLimit clientLimit deviceLimit key = some limit) {s : LimiterState}
    (run : submitTransfers.Exec (LimiterState.Prompt key limit)
      (.new globalLimit clientLimit deviceLimit now) tr s) :
    ∃ account, (accountedTransfers key limit).Exec (Covered key limit)
      (new globalLimit clientLimit deviceLimit now limit) tr ⟨s, account⟩ ∧
        Linked key limit ⟨s, account⟩ := by
  refine run.invariant (I := fun tr s => ∃ account, (accountedTransfers key limit).Exec
    (Covered key limit) (new globalLimit clientLimit deviceLimit now limit) tr ⟨s, account⟩ ∧
      Linked key limit ⟨s, account⟩) ⟨limit.burstBytes, .start, ?_⟩ ?_
  · exact ⟨fun t present => (List.not_mem_nil present).elim, _,
      RateLimiter.has_new now configured, le_rfl⟩
  · rintro tr s a t out ⟨account, before, linked⟩ prompt h
    have stepped : (⟨s, account⟩ : AccountedLimiter).step key limit a =
      some (⟨t, settle key limit ⟨s, account⟩ a⟩, out) := congrArg (Option.map _) h
    obtain ⟨covered, linked⟩ := linked.step prompt stepped
    exact ⟨_, .next before covered stepped, linked⟩

/-- What is let through keeps the bound where every transfer within the burst finds its bytes in
the account, and else can exceed it: where no `try_acquire` fails and the transfers find their
bytes in a bucket that has not refilled past them they find them in the account too. -/
theorem bandwidth_bound (configured :
      RateLimiter.limitOf globalLimit clientLimit deviceLimit key = some limit) :
    (∀ tr s, (accountedTransfers key limit).Exec (Covered key limit)
        (new globalLimit clientLimit deviceLimit now limit) tr s →
      ∀ a T, 0 ≤ T → throughput key limit.burstBytes a (a + T) tr ≤
        limit.burstBytes + limit.bytesPerSecond * T) ∧
    (∀ tr s a t out, (accountedTransfers key limit).Reach
        (new globalLimit clientLimit deviceLimit now limit) tr s →
      ¬ s.Covered key limit a → s.step key limit a = some (t, out) →
      ∃ rest u, (accountedTransfers key limit).Reach t rest u ∧
        ∃ a T, 0 ≤ T ∧ limit.burstBytes + limit.bytesPerSecond * T <
          throughput key limit.burstBytes a (a + T) (tr ++ out ++ rest)) ∧
    (∀ tr s, submitTransfers.Exec (LimiterState.Prompt key limit)
        (.new globalLimit clientLimit deviceLimit now) tr s →
      ∃ account, (accountedTransfers key limit).Exec (Covered key limit)
        (new globalLimit clientLimit deviceLimit now limit) tr ⟨s, account⟩) := by
  refine ⟨fun tr s run a T elapsed => ?_, fun tr s a t out run uncovered h => ?_,
    fun tr s run => ?_⟩
  · rw [throughput_eq]
    exact (covered_run run).2 a T elapsed
  · have kept := (kept_run run).step h
    obtain ⟨rest, u, drained, kept, poor, none⟩ := kept.drain (overdrawn uncovered h)
    obtain ⟨a, T, elapsed, exceeds⟩ := kept.metered.exceeds (by rwa [in_hand_zero none, add_zero])
    exact ⟨rest, u, drained, a, T, elapsed, by rwa [throughput_eq]⟩
  · obtain ⟨account, covered, -⟩ := linked_run configured run
    exact ⟨account, covered⟩

end runs

def exampleBulk (bytes : Nat) : TransferType := .bulk 1 (List.replicate bytes 0) 0 none

/-- A transfer up to the end of its check. -/
def exampleChecked (task bytes : Nat) : List LimiterStep :=
  [.submit ⟨"a"⟩ ⟨1⟩ (exampleBulk bytes), .work task, .work task, .work task]

/-- Its consumption. -/
def exampleTaken (task : Nat) : List LimiterStep :=
  [.work task, .work task, .work task]

/-- One transfer empties the bucket and is handed over a second later, while the next waits. -/
def exampleInTurn : List LimiterStep :=
  exampleChecked 0 2 ++ exampleTaken 0 ++ exampleChecked 1 1 ++
    [.tick 1, .work 0, .tick 1, .work 1] ++ exampleTaken 1 ++ [.work 1]

theorem bandwidth_bound_in_turn : ∃ tr : List LetThrough,
    tr = [⟨⟨"a"⟩, ⟨1⟩, 2, 1⟩, ⟨⟨"a"⟩, ⟨1⟩, 1, 2⟩] ∧
      throughput .global 2 1 (1 + 1) tr ≤ (2 : Nat) + (1 : Nat) * 1 := by
  have run : (((accountedTransfers .global ⟨1, 2⟩).within (Covered .global ⟨1, 2⟩)).run
      (new (some ⟨1, 2⟩) (some ⟨1, 2⟩) none 0 ⟨1, 2⟩) exampleInTurn).map Prod.snd =
        some [⟨⟨"a"⟩, ⟨1⟩, 2, 1⟩, ⟨⟨"a"⟩, ⟨1⟩, 1, 2⟩] := by
    decide +kernel
  obtain ⟨⟨s, tr⟩, run, same⟩ := Option.map_eq_some_iff.mp run
  have configured :
      RateLimiter.limitOf (some ⟨1, 2⟩) (some ⟨1, 2⟩) none .global = some ⟨1, 2⟩ := rfl
  exact ⟨tr, same, (bandwidth_bound configured).1 tr s (.of_within .start run) 1 1 (by decide)⟩

/-- Two transfers find the bucket empty and wait for the same tokens. -/
def exampleWaiters : List LimiterStep :=
  exampleChecked 0 1 ++ exampleTaken 0 ++ .work 0 :: exampleChecked 1 1 ++ exampleChecked 2 1 ++
    .tick 1 :: .work 1 :: .work 2 :: exampleTaken 1 ++ .work 1 :: exampleTaken 2 ++ [.work 2]

/-- Both are let through at the same moment: two bytes, with a burst of one. -/
theorem concurrent_waiters_exceed : ∃ tr s,
    submitTransfers.Reach (.new (some ⟨1, 1⟩) none none 0) tr s ∧
      ¬ throughput .global 1 1 (1 + 0) tr ≤ (1 : Nat) + (1 : Nat) * 0 := by
  have run : (submitTransfers.run (.new (some ⟨1, 1⟩) none none 0) exampleWaiters).map
      (fun end' => throughput .global 1 1 (1 + 0) end'.2) = some 2 := by
    decide +kernel
  obtain ⟨⟨s, tr⟩, run, two⟩ := Option.map_eq_some_iff.mp run
  refine ⟨tr, s, .of_run run, fun bound => ?_⟩
  rw [two] at bound
  norm_num at bound

end AccountedLimiter
end P2pUsb
