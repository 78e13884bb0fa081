import P2pUsb.Library.Machine

/-! One connection to a server: its heartbeat loop with the reconnection in it,
interleaved with `close` at every access to the state, the slot and the flag. -/
namespace P2pUsb

inductive ConnectionState where
  | disconnected | connecting | connected | reconnecting | closed
  deriving DecidableEq, Repr

/-- Where the heartbeat loop stands, from the tick through `send_heartbeat` to
`reconnect` and the `connect` that it calls. -/
inductive HeartbeatPhase (C : Type) where
  | waiting
  | ticked
  | sending
  | awaitingReply
  | failed
  | timedOut
  | retrying
  | starting
  | connecting
  | established (conn : C)
  | stored
  | warming
  | awaitingWarmUp
  | backingOff
  | stopped
  deriving DecidableEq, Repr

/-- The loop has made up its mind to write the state or the slot and does not look
at the flag before it does. -/
def HeartbeatPhase.committed {C : Type} : HeartbeatPhase C → Bool
  | .timedOut | .starting | .established _ | .stored => true
  | _ => false

/-- How far `close` has come. -/
inductive ClosePhase where
  | open | flagged | stateClosed | returned
  deriving DecidableEq, Repr

/-- The slot and the state are behind locks of their own, the flag is atomic. -/
structure ServerConnection (C : Type) where
  state : ConnectionState
  connection : Option C
  shutdown : Bool
  heartbeat : HeartbeatPhase C
  closing : ClosePhase

/-- Steps of the loop, with what the network, the server and the health monitor
answer, and those of `close`. -/
inductive ConnectionStep (C : Type) where
  | tick
  | checkConnected
  | lockSlot
  | replied (ok : Bool)
  | recordFailure (timedOut : Bool)
  | setReconnecting
  | checkShutdown
  | setConnecting
  | endpointConnected (result : Option C)
  | storeConnection
  | setConnected
  | lockWarmUp
  | warmedUp (ok : Bool)
  | sleepEnded
  | setShutdown
  | setClosed
  | takeConnection

namespace ServerConnection
variable {C : Type}

/-- What `new` returns, its two tasks just spawned. -/
def new (conn : C) : ServerConnection C := ⟨.connected, some conn, false, .waiting, .open⟩

/-- `send_message` keeps the slot locked until the answer is there. -/
def slotLocked (s : ServerConnection C) : Bool :=
  match s.heartbeat with
  | .awaitingReply | .awaitingWarmUp => true
  | _ => false

/-- `send_message` as far as the lock and the look into the slot. -/
def beginSend (s : ServerConnection C) (busy unsent : HeartbeatPhase C) : ServerConnection C :=
  match s.connection with
  | none => { s with heartbeat := unsent }
  | some _ => { s with heartbeat := busy }

/-- The second component is the connection that `close` has shut. -/
def step (s : ServerConnection C) : ConnectionStep C → Option (ServerConnection C × List C)
  | .tick =>
      match s.heartbeat with
      | .waiting => some ({ s with heartbeat := if s.shutdown then .stopped else .ticked }, [])
      | _ => none
  | .checkConnected =>
      match s.heartbeat with
      | .ticked =>
          some ({ s with heartbeat := if s.state = .connected then .sending else .waiting }, [])
      | _ => none
  | .lockSlot =>
      match s.heartbeat with
      | .sending => some (s.beginSend .awaitingReply .failed, [])
      | _ => none
  | .replied ok =>
      match s.heartbeat with
      | .awaitingReply => some ({ s with heartbeat := if ok then .waiting else .failed }, [])
      | _ => none
  | .recordFailure timedOut =>
      match s.heartbeat with
      | .failed => some ({ s with heartbeat := if timedOut then .timedOut else .waiting }, [])
      | _ => none
  | .setReconnecting =>
      match s.heartbeat with
      | .timedOut => some ({ s with state := .reconnecting, heartbeat := .retrying }, [])
      | _ => none
  | .checkShutdown =>
      match s.heartbeat with
      | .retrying => some ({ s with heartbeat := if s.shutdown then .stopped else .starting }, [])
      | _ => none
  | .setConnecting =>
      match s.heartbeat with
      | .starting => some ({ s with state := .connecting, heartbeat := .connecting }, [])
      | _ => none
  | .endpointConnected result =>
      match s.heartbeat, result with
      | .connecting, some conn => some ({ s with heartbeat := .established conn }, [])
      | .connecting, none => some ({ s with heartbeat := .backingOff }, [])
      | _, _ => none
  | .storeConnection =>
      match s.heartbeat with
      | .established conn => some ({ s with connection := some conn, heartbeat := .stored }, [])
      | _ => none
  | .setConnected =>
      match s.heartbeat with
      | .stored => some ({ s with state := .connected, heartbeat := .warming }, [])
      | _ => none
  | .lockWarmUp =>
      match s.heartbeat with
      | .warming => some (s.beginSend .awaitingWarmUp .backingOff, [])
      | _ => none
  | .warmedUp ok =>
      match s.heartbeat with
      | .awaitingWarmUp => some ({ s with heartbeat := if ok then .waiting else .backingOff }, [])
      | _ => none
  | .sleepEnded =>
      match s.heartbeat with
      | .backingOff => some ({ s with heartbeat := .retrying }, [])
      | _ => none
  | .setShutdown =>
      match s.closing with
      | .open => some ({ s with shutdown := true, closing := .flagged }, [])
      | _ => none
  | .setClosed =>
      match s.closing with
      | .flagged => some ({ s with state := .closed, closing := .stateClosed }, [])
      | _ => none
  | .takeConnection =>
      match s.closing, s.slotLocked with
      | .stateClosed, false =>
          some ({ s with connection := none, closing := .returned }, s.connection.toList)
      | _, _ => none

end ServerConnection

def serverConnection (C : Type) : Machine (ServerConnection C) (ConnectionStep C) C where
  step s a := s.step a

namespace ServerConnection
variable {C : Type} {s t : ServerConnection C} {a : ConnectionStep C} {out tr : List C}

/-- `close` has written the state. -/
def StateClosed (s : ServerConnection C) : Prop :=
  s.closing = .stateClosed ∨ s.closing = .returned

/-- `close` does not write the state while the loop is bound to write it too, and
from then on no heartbeat ends in a timeout and no connection attempt succeeds. -/
def ClosesIdle (s : ServerConnection C) : ConnectionStep C → Prop
  | .setClosed => s.heartbeat.committed = false
  | .recordFailure true => ¬ s.StateClosed
  | .endpointConnected (some _) => ¬ s.StateClosed
  | _ => True

instance (s : ServerConnection C) : (a : ConnectionStep C) → Decidable (s.ClosesIdle a)
  | .setClosed => inferInstanceAs (Decidable (s.heartbeat.committed = false))
  | .recordFailure true | .endpointConnected (some _) =>
      inferInstanceAs (Decidable (¬ (s.closing = .stateClosed ∨ s.closing = .returned)))
  | .tick | .checkConnected | .lockSlot | .replied _ | .recordFailure false | .setReconnecting
  | .checkShutdown | .setConnecting | .endpointConnected none | .storeConnection | .setConnected
  | .lockWarmUp | .warmedUp _ | .sleepEnded | .setShutdown | .takeConnection =>
      inferInstanceAs (Decidable True)

/-- All that a step does. The loop writes the state and the slot only where it is
committed to, and it comes to be so in three ways. -/
inductive Does (s : ServerConnection C) : ConnectionStep C → ServerConnection C → Prop
  | turn {a : ConnectionStep C} {next : HeartbeatPhase C} (free : next.committed = false) :
      Does s a { s with heartbeat := next }
  | attempt (open' : s.shutdown = false) : Does s .checkShutdown { s with heartbeat := .starting }
  | timedOut : Does s (.recordFailure true) { s with heartbeat := .timedOut }
  | established (conn : C) :
      Does s (.endpointConnected (some conn)) { s with heartbeat := .established conn }
  | write {a : ConnectionStep C} {t : ServerConnection C} (bound : s.heartbeat.committed = true)
      (flag : t.shutdown = s.shutdown) (closing : t.closing = s.closing) : Does s a t
  | setShutdown (begun : s.closing = .open) :
      Does s .setShutdown { s with shutdown := true, closing := .flagged }
  | setClosed (begun : s.closing = .flagged) :
      Does s .setClosed { s with state := .closed, closing := .stateClosed }
  | takeConnection (begun : s.closing = .stateClosed) :
      Does s .takeConnection { s with connection := none, closing := .returned }

theorem begin_send_does {busy unsent : HeartbeatPhase C} (h : busy.committed = false)
    (h' : unsent.committed = false) : s.Does a (s.beginSend busy unsent) := by
  rw [beginSend]
  split
  · exact .turn h'
  · exact .turn h

theorem step_does (h : s.step a = some (t, out)) : s.Does a t := by
  cases a with
  | setShutdown =>
      simp only [step] at h
      split at h <;> cases h
      exact .setShutdown ‹_›
  | setClosed =>
      simp only [step] at h
      split at h <;> cases h
      exact .setClosed ‹_›
  | takeConnection =>
      simp only [step] at h
      split at h <;> cases h
      exact .takeConnection ‹_›
  | checkShutdown =>
      simp only [step] at h
      split at h <;> cases h
      by_cases flag : s.shutdown = true
      · rw [if_pos flag]
        exact .turn rfl
      · rw [if_neg flag]
        exact .attempt (Bool.not_eq_true _ ▸ flag)
  | recordFailure timedOut =>
      simp only [step] at h
      split at h <;> cases h
      cases timedOut with
      | true => exact .timedOut
      | false => exact .turn rfl
  | endpointConnected result =>
      simp only [step] at h
      split at h <;> cases h
      · exact .established _
      · exact .turn rfl
  | setReconnecting | setConnecting | storeConnection | setConnected =>
      simp only [step] at h
      split at h <;> cases h
      exact .write (by simp only [‹s.heartbeat = _›, HeartbeatPhase.committed]) rfl rfl
  | lockSlot | lockWarmUp =>
      simp only [step] at h
      split at h <;> cases h
      exact begin_send_does rfl rfl
  | tick | checkConnected | replied ok | warmedUp ok =>
      simp only [step] at h
      split at h <;> cases h
      refine .turn ?_
      split <;> rfl
  | sleepEnded =>
      simp only [step] at h
      split at h <;> cases h
      exact .turn rfl

/-- The loop no longer gets to a write of the state or the slot. -/
structure Settled (s : ServerConnection C) : Prop where
  flag : s.closing ≠ .open → s.shutdown = true
  state : s.StateClosed → s.state = .closed
  free : s.StateClosed → s.heartbeat.committed = false
  slot : s.closing = .returned → s.connection = none

theorem StateClosed.begun (h : s.StateClosed) : s.closing ≠ .open := by
  intro still
  rcases h with h | h <;> cases still.symm.trans h

theorem Settled.of_open (flag : s.closing ≠ .open → s.shutdown = true) (h : ¬ s.StateClosed) :
    s.Settled :=
  ⟨flag, fun closed => absurd closed h, fun closed => absurd closed h,
    fun returned => absurd (.inr returned) h⟩

theorem Settled.turn (settled : s.Settled) {next : HeartbeatPhase C}
    (free : s.StateClosed → next.committed = false) :
    Settled { s with heartbeat := next } :=
  ⟨settled.flag, settled.state, free, settled.slot⟩

theorem settled_step (settled : s.Settled) (within : s.ClosesIdle a)
    (h : s.step a = some (t, out)) : t.Settled := by
  cases step_does h with
  | turn free => exact settled.turn fun _ => free
  | attempt open' =>
      refine settled.turn fun closed => ?_
      cases (settled.flag closed.begun).symm.trans open'
  | timedOut => exact settled.turn fun closed => absurd closed within
  | established conn => exact settled.turn fun closed => absurd closed within
  | write bound flag closing =>
      refine .of_open (by rw [flag, closing]; exact settled.flag) fun closed => ?_
      have before : s.StateClosed := by rwa [StateClosed, closing] at closed
      cases bound.symm.trans (settled.free before)
  | setShutdown => exact .of_open (fun _ => rfl) (by rintro (h | h) <;> cases h)
  | setClosed begun =>
      refine ⟨fun _ => settled.flag ?_, fun _ => rfl, fun _ => within, ClosePhase.noConfusion⟩
      rw [begun]
      exact ClosePhase.noConfusion
  | takeConnection begun =>
      have closed : s.StateClosed := .inl begun
      exact ⟨fun _ => settled.flag closed.begun, fun _ => settled.state closed,
        fun _ => settled.free closed, fun _ => rfl⟩

/-- In runs within the condition a closed connection stays closed. -/
theorem closed_is_final {conn : C}
    (run : (serverConnection C).Exec ClosesIdle (new conn) tr s)
    (returned : s.closing = .returned) :
    s.state = .closed ∧ s.connection = none := by
  have settled : s.Settled := by
    refine run.stateInvariant ?_ fun s a t out settled within h => settled_step settled within h
    exact .of_open (fun closing => absurd rfl closing) (by rintro (h | h) <;> cases h)
  exact ⟨settled.state (.inr returned), settled.slot returned⟩

/-- A heartbeat that fails while `close` runs, but not for long enough. -/
def closeWhileFailing : List (ConnectionStep Nat) :=
  [.tick, .checkConnected, .lockSlot, .setShutdown, .replied false, .recordFailure false,
    .setClosed, .takeConnection, .tick]

theorem closed_is_final_failing :
    ∃ s : ServerConnection Nat, (serverConnection Nat).Exec ClosesIdle (new 0) [0] s ∧
      s.closing = .returned ∧ s.state = .closed ∧ s.connection = none := by
  have run := Machine.Exec.of_within .start
    (rfl : ((serverConnection Nat).within ClosesIdle).run (new 0) closeWhileFailing =
      some (_, _))
  exact ⟨_, run, rfl, closed_is_final run rfl⟩

/-- `close` during a connection attempt of the heartbeat loop, which then succeeds. -/
def closeWhileConnecting : List (ConnectionStep Nat) :=
  [.tick, .checkConnected, .lockSlot, .replied false, .recordFailure true, .setReconnecting,
    .checkShutdown, .setConnecting, .setShutdown, .setClosed, .takeConnection,
    .endpointConnected (some 1), .storeConnection, .setConnected]

theorem closed_connection_reopens :
    ∃ s, (serverConnection Nat).Reach (new 0) [0] s ∧ s.closing = .returned ∧
      s.state = .connected ∧ s.connection = some 1 :=
  ⟨_, Machine.Reach.of_run
    (rfl : (serverConnection Nat).run (new 0) closeWhileConnecting = some (_, _)), rfl, rfl, rfl⟩

end ServerConnection
end P2pUsb
