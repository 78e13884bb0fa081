import P2pUsb.Library.Machine
import P2pUsb.Network.RateLimiter

/-! The rate limiting of `handle_submit_transfer`: any number of transfers, cut at each
bucket they lock, at their sleep and before they are handed to the worker. -/
namespace P2pUsb

/-- The data size of a transfer, as the limits count it. -/
def getTransferDataSize : TransferType → Nat
  | .control _ _ _ _ data | .interrupt _ data _ | .bulk _ data _ _
  | .isochronous _ data _ _ _ _ => data.length

/-- Where a transfer stands; `rest` are the buckets still to be locked. -/
inductive TransferPhase where
  | checking (rest : List BucketKey) (maxWait : ℚ)
  | acquiring (rest : List BucketKey)
  | refunding (rest : List BucketKey)
  | sleeping (wakeAt : ℚ)
  | recording (rest : List BucketKey)
  | sending
  | sent
  | panicked
  deriving DecidableEq, Repr

structure TransferTask where
  clientId : EndpointId
  deviceId : DeviceId
  bytes : Nat
  phase : TransferPhase
  deriving DecidableEq, Repr

/-- A transfer that has been handed to the worker. -/
structure LetThrough where
  clientId : EndpointId
  deviceId : DeviceId
  bytes : Nat
  time : ℚ
  deriving DecidableEq, Repr

def LetThrough.keys (e : LetThrough) : List BucketKey :=
  RateLimiter.keys (some e.clientId) (some e.deviceId)

namespace TransferTask

def keys (t : TransferTask) : List BucketKey := RateLimiter.keys (some t.clientId) (some t.deviceId)

/-- Where `check` is after a bucket, and what its result leads to. -/
def checked (t : TransferTask) (now maxWait : ℚ) : List BucketKey → TransferPhase
  | [] => if maxWait = 0 then .acquiring t.keys else .sleeping (now + maxWait)
  | rest => .checking rest maxWait

def acquired : List BucketKey → TransferPhase
  | [] => .sending
  | rest => .acquiring rest

/-- A failed `try_acquire` is only logged. -/
def refunded : List BucketKey → TransferPhase
  | [] => .sending
  | rest => .refunding rest

def recorded : List BucketKey → TransferPhase
  | [] => .sending
  | rest => .recording rest

def work (t : TransferTask) (now : ℚ) (limiter : RateLimiter) :
    Option (TransferPhase × RateLimiter × List LetThrough) :=
  match t.phase with
  | .checking (key :: rest) maxWait =>
      match limiter.checkBucket now t.bytes key with
      | (some wait, limiter) => some (t.checked now (max maxWait wait) rest, limiter, [])
      | (none, limiter) => some (.panicked, limiter, [])
  | .acquiring (key :: rest) =>
      match limiter.consumeBucket now t.bytes key with
      | (true, limiter) => some (acquired rest, limiter, [])
      | (false, limiter) => some (refunded (t.keys.filter (· ∉ key :: rest)), limiter, [])
  | .refunding (key :: rest) =>
      some (refunded rest, limiter.refundBucket now t.bytes key, [])
  | .sleeping wakeAt => if wakeAt ≤ now then some (.recording t.keys, limiter, []) else none
  | .recording (key :: rest) =>
      some (recorded rest, limiter.recordBucket now t.bytes key, [])
  | .sending => some (.sent, limiter, [⟨t.clientId, t.deviceId, t.bytes, now⟩])
  | _ => none

end TransferTask

structure LimiterState where
  now : ℚ
  limiter : RateLimiter
  tasks : List TransferTask

inductive LimiterStep where
  | submit (clientId : EndpointId) (deviceId : DeviceId) (transfer : TransferType)
  | tick (elapsed : ℚ)
  | work (task : Nat)
  deriving DecidableEq, Repr

namespace LimiterState

def new (globalLimit clientLimit deviceLimit : Option BandwidthLimit) (now : ℚ) :
    LimiterState where
  now := now
  limiter := .new globalLimit clientLimit deviceLimit now
  tasks := []

def step (s : LimiterState) : LimiterStep → Option (LimiterState × List LetThrough)
  | .submit clientId deviceId transfer =>
      let keys := RateLimiter.keys (some clientId) (some deviceId)
      let task := ⟨clientId, deviceId, getTransferDataSize transfer, .checking keys 0⟩
      some ({ s with tasks := s.tasks ++ [task] }, [])
  | .tick elapsed => if 0 ≤ elapsed then some ({ s with now := s.now + elapsed }, []) else none
  | .work i =>
      match s.tasks[i]? with
      | some t =>
          (t.work s.now s.limiter).map fun (phase, limiter, out) =>
            ({ s with limiter, tasks := s.tasks.set i { t with phase } }, out)
      | none => none

end LimiterState

def submitTransfers : Machine LimiterState LimiterStep LetThrough where
  step s a := s.step a

namespace TransferTask
variable {t : TransferTask} {now : ℚ} {limiter l : RateLimiter} {phase : TransferPhase}
  {out : List LetThrough}

/-- All that a step of a transfer does. -/
inductive Works (t : TransferTask) (now : ℚ) (limiter : RateLimiter) :
    TransferPhase → RateLimiter → List LetThrough → Prop
  | checked {key : BucketKey} {rest : List BucketKey} {maxWait wait : ℚ}
      (at' : t.phase = .checking (key :: rest) maxWait) :
      Works t now limiter (t.checked now wait rest) (limiter.checkBucket now t.bytes key).2 []
  | panicked {key : BucketKey} {rest : List BucketKey} {maxWait : ℚ}
      (at' : t.phase = .checking (key :: rest) maxWait) :
      Works t now limiter .panicked (limiter.checkBucket now t.bytes key).2 []
  | acquired {key : BucketKey} {rest : List BucketKey} (at' : t.phase = .acquiring (key :: rest))
      (taken : (limiter.consumeBucket now t.bytes key).1 = true) :
      Works t now limiter (acquired rest) (limiter.consumeBucket now t.bytes key).2 []
  | refused {key : BucketKey} {rest : List BucketKey} (at' : t.phase = .acquiring (key :: rest))
      (missing : (limiter.consumeBucket now t.bytes key).1 = false) :
      Works t now limiter (refunded (t.keys.filter (· ∉ key :: rest)))
        (limiter.consumeBucket now t.bytes key).2 []
  | refunded {key : BucketKey} {rest : List BucketKey}
      (at' : t.phase = .refunding (key :: rest)) :
      Works t now limiter (refunded rest) (limiter.refundBucket now t.bytes key) []
  | woken {wakeAt : ℚ} (at' : t.phase = .sleeping wakeAt) :
      Works t now limiter (.recording t.keys) limiter []
  | recorded {key : BucketKey} {rest : List BucketKey}
      (at' : t.phase = .recording (key :: rest)) :
      Works t now limiter (recorded rest) (limiter.recordBucket now t.bytes key) []
  | sent (at' : t.phase = .sending) :
      Works t now limiter .sent limiter [⟨t.clientId, t.deviceId, t.bytes, now⟩]

theorem work_does (h : t.work now limiter = some (phase, l, out)) :
    t.Works now limiter phase l out := by
  simp only [work] at h
  split at h
  · rename_i key rest maxWait at'
    split at h
    · rename_i wait after found
      cases h
      rw [← show (limiter.checkBucket now t.bytes key).2 = l from congrArg Prod.snd found]
      exact .checked at'
    · rename_i after found
      cases h
      rw [← show (limiter.checkBucket now t.bytes key).2 = l from congrArg Prod.snd found]
      exact .panicked at'
  · rename_i key rest at'
    split at h
    · rename_i after found
      cases h
      rw [← show (limiter.consumeBucket now t.bytes key).2 = l from congrArg Prod.snd found]
      exact .acquired at' (congrArg Prod.fst found)
    · rename_i after found
      cases h
      rw [← show (limiter.consumeBucket now t.bytes key).2 = l from congrArg Prod.snd found]
      exact .refused at' (congrArg Prod.fst found)
  · cases h
    exact .refunded ‹_›
  · split at h <;> cases h
    exact .woken ‹_›
  · cases h
    exact .recorded ‹_›
  · cases h
    exact .sent ‹_›
  · cases h

end TransferTask
end P2pUsb
