import P2pUsb.Network.Server

/-! The select loop of a connection in time. Every pass of the loop sleeps anew, so
the expiry check runs thirty seconds after the last event of any kind, and a
client that sends more often is never checked. Handling takes no time. -/
namespace P2pUsb

def EXPIRY_CHECK_INTERVAL : Nat := Duration.fromSecs 30

/-- The branches of the select apart from the check. -/
inductive LoopEvent where
  | stream | usbEvent | flush
  deriving DecidableEq, Repr

inductive LoopAction where
  | wait (time : Instant)
  | event (kind : LoopEvent) (time : Instant)
  | timer
  | closed (time : Instant)

/-- `armed` is when the current pass began. The program does not keep the time of
the last check, or of the start of the loop before the first one. -/
structure RunLoop where
  now : Nat
  armed : Nat
  checkedAt : Nat
  lastActivity : Nat
  running : Bool

namespace RunLoop

def start (now : Nat) : RunLoop := ⟨now, now, now, now, true⟩

/-- No event comes later than the sleep of this pass ends. -/
def inPass (l : RunLoop) (time : Nat) : Bool :=
  l.running && decide (l.now ≤ time) && decide (time ≤ l.armed + EXPIRY_CHECK_INTERVAL)

/-- The branch of the check: the time of `handle_expired_sessions`, unless the
connection is idle. -/
def fire (l : RunLoop) : RunLoop × List Nat :=
  let time := l.armed + EXPIRY_CHECK_INTERVAL
  if time - l.lastActivity > IDLE_LIMIT then ({ l with now := time, running := false }, [])
  else ({ l with now := time, armed := time, checkedAt := time }, [time])

def step (l : RunLoop) : LoopAction → Option (RunLoop × List Nat)
  | .wait time => if l.inPass time then some ({ l with now := time }, []) else none
  | .event kind time =>
      if l.inPass time then
        some ({ l with
          now := time
          armed := time
          lastActivity := if kind = .stream then time else l.lastActivity }, [])
      else none
  | .timer => if l.running then some l.fire else none
  | .closed time =>
      if l.inPass time then some ({ l with now := time, running := false }, []) else none

end RunLoop

/-- What can be seen of the loop is when it checks. -/
def runLoop : Machine RunLoop LoopAction Nat where
  step l action := l.step action

namespace RunLoop
variable {l t u : RunLoop} {action : LoopAction} {kind : LoopEvent} {time begun : Nat}
  {tr out : List Nat}

/-- Every event comes within thirty seconds of the last check. -/
def OnTime (l : RunLoop) (action : LoopAction) : Prop :=
  ∀ kind time, action = .event kind time → time ≤ l.checkedAt + EXPIRY_CHECK_INTERVAL

theorem in_pass_iff :
    l.inPass time = true ↔
      l.running = true ∧ l.now ≤ time ∧ time ≤ l.armed + EXPIRY_CHECK_INTERVAL := by
  simp only [inPass, Bool.and_eq_true, decide_eq_true_eq, and_assoc]

/-- All that a step does to the times: it waits or leaves the loop, it starts a new
pass at an event, or it checks and starts a new pass. -/
inductive Passes (l : RunLoop) (action : LoopAction) : RunLoop → List Nat → Prop
  | quiet {t : RunLoop} (armed : t.armed = l.armed) (checked : t.checkedAt = l.checkedAt)
      (later : min l.now l.armed ≤ t.now) (before : t.now ≤ l.armed + EXPIRY_CHECK_INTERVAL) :
      Passes l action t []
  | event {t : RunLoop} (kind : LoopEvent) (fired : action = .event kind t.now)
      (later : l.now ≤ t.now) (armed : t.armed = t.now) (checked : t.checkedAt = l.checkedAt) :
      Passes l action t []
  | check {t : RunLoop} (slept : t.now = l.armed + EXPIRY_CHECK_INTERVAL) (armed : t.armed = t.now)
      (checked : t.checkedAt = t.now) : Passes l action t [t.now]

theorem step_passes (step : l.step action = some (t, out)) : l.Passes action t out := by
  cases action with
  | wait time | closed time =>
      rw [RunLoop.step] at step
      split at step
      case isTrue allowed =>
        obtain ⟨rfl, rfl⟩ := Prod.mk.inj (Option.some.inj step)
        obtain ⟨-, later, before⟩ := in_pass_iff.mp allowed
        exact .quiet rfl rfl ((Nat.min_le_left _ _).trans later) before
      case isFalse => cases step
  | event kind time =>
      rw [RunLoop.step] at step
      split at step
      case isTrue allowed =>
        obtain ⟨rfl, rfl⟩ := Prod.mk.inj (Option.some.inj step)
        exact .event kind rfl (in_pass_iff.mp allowed).2.1 rfl rfl
      case isFalse => cases step
  | timer =>
      simp only [RunLoop.step, fire] at step
      split at step
      case isTrue =>
        split at step
        case isTrue =>
          obtain ⟨rfl, rfl⟩ := Prod.mk.inj (Option.some.inj step)
          exact .quiet rfl rfl ((Nat.min_le_right _ _).trans (Nat.le_add_right _ _)) le_rfl
        case isFalse =>
          obtain ⟨rfl, rfl⟩ := Prod.mk.inj (Option.some.inj step)
          exact .check rfl rfl rfl
      case isFalse => cases step

/-- Every minute that has begun before the last check holds a check, and the
current pass began within half a minute of it. -/
structure Punctual (begun : Nat) (tr : List Nat) (l : RunLoop) : Prop where
  slept : l.now ≤ l.armed + EXPIRY_CHECK_INTERVAL
  recent : l.armed ≤ l.checkedAt + EXPIRY_CHECK_INTERVAL
  covered : ∀ a ≥ begun, a < l.checkedAt → ∃ x ∈ tr, a < x ∧ x ≤ a + minute

theorem two_intervals : EXPIRY_CHECK_INTERVAL + EXPIRY_CHECK_INTERVAL = minute := rfl

theorem Punctual.next (hl : Punctual begun tr l) (onTime : l.OnTime action)
    (step : l.step action = some (t, out)) : Punctual begun (tr ++ out) t := by
  cases step_passes step with
  | quiet armed checked later before =>
      rw [List.append_nil]
      exact ⟨armed ▸ before, armed ▸ checked ▸ hl.recent, checked ▸ hl.covered⟩
  | event kind fired later armed checked =>
      rw [List.append_nil]
      refine ⟨armed ▸ Nat.le_add_right _ _, ?_, checked ▸ hl.covered⟩
      rw [armed, checked]
      exact onTime kind t.now fired
  | check slept armed checked =>
      refine ⟨armed ▸ Nat.le_add_right _ _, by rw [armed, checked]; exact Nat.le_add_right _ _, ?_⟩
      intro a started before
      rw [checked] at before
      by_cases old : a < l.checkedAt
      · obtain ⟨x, seen, after, within⟩ := hl.covered a started old
        exact ⟨x, List.mem_append_left _ seen, after, within⟩
      · have recent := hl.recent
        have sum := two_intervals
        exact ⟨t.now, List.mem_append_right _ (List.mem_singleton_self _), before, by omega⟩

/-- If no event is late, every minute of the loop holds a check. -/
theorem checks_not_starved {l : RunLoop} (run : runLoop.Exec OnTime (start begun) tr l) :
    ∀ a ≥ begun, a + minute < l.now →
      ∃ x ∈ tr, a < x ∧ x ≤ a + minute := by
  have punctual : Punctual begun tr l := by
    refine run.invariant (I := Punctual begun) ?_ ?_
    · exact ⟨Nat.le_add_right _ _, Nat.le_add_right _ _,
        fun a started before => absurd before (Nat.not_lt.mpr started)⟩
    · intro tr l action t out hl onTime step
      exact hl.next onTime step
  intro a started after
  have slept := punctual.slept
  have recent := punctual.recent
  have sum := two_intervals
  exact punctual.covered a started (by omega)

/-- One stream in time, and the check thirty seconds after it. -/
theorem checks_not_starved_once :
    ∃ tr l, runLoop.Exec OnTime (start 0) tr l ∧
      ∃ x ∈ tr, 0 < x ∧ x ≤ 0 + minute := by
  have onTime : OnTime (start 0) (.event .stream (Duration.fromSecs 29)) := by
    rintro kind time ⟨⟩
    decide
  have run : runLoop.Exec OnTime (start 0) _ _ :=
    .next (.next (.next .start onTime rfl) (a := .timer) (fun _ _ wrong => nomatch wrong) rfl)
      (a := .wait (Duration.fromSecs 61)) (fun _ _ wrong => nomatch wrong) rfl
  exact ⟨_, _, run, checks_not_starved run 0 le_rfl (by decide)⟩

/-- The loop has started a pass after the given time. -/
structure Beyond (time : Nat) (tr : List Nat) (l : RunLoop) : Prop where
  now : time ≤ l.now
  armed : time ≤ l.armed
  checks : ∀ x ∈ tr, time + EXPIRY_CHECK_INTERVAL ≤ x

theorem Beyond.next (hl : Beyond time tr l) (step : l.step action = some (t, out)) :
    Beyond time (tr ++ out) t := by
  obtain ⟨hnow, harmed, hchecks⟩ := hl
  cases step_passes step with
  | quiet armed checked later before =>
      rw [List.append_nil]
      exact ⟨(Nat.le_min.mpr ⟨hnow, harmed⟩).trans later, armed ▸ harmed, hchecks⟩
  | event kind fired later armed checked =>
      rw [List.append_nil]
      exact ⟨hnow.trans later, armed ▸ hnow.trans later, hchecks⟩
  | check slept armed checked =>
      have beyond : time + EXPIRY_CHECK_INTERVAL ≤ t.now := slept ▸ Nat.add_le_add_right harmed _
      have passed : time ≤ t.now := (Nat.le_add_right _ _).trans beyond
      refine ⟨passed, armed ▸ passed, fun x hx => ?_⟩
      rcases List.mem_append.mp hx with old | new
      · exact hchecks x old
      · rwa [List.mem_singleton.mp new]

/-- After a late event no check comes within the minute after the last one. -/
theorem late_event_starves (late : l.checkedAt + EXPIRY_CHECK_INTERVAL < time)
    (step : l.step (.event kind time) = some (t, out)) (run : runLoop.Reach t tr u) :
    ∀ x ∈ tr, l.checkedAt + minute < x := by
  have began : Beyond time [] t := by
    rw [RunLoop.step] at step
    split at step
    case isTrue =>
      obtain ⟨rfl, -⟩ := Prod.mk.inj (Option.some.inj step)
      exact ⟨le_rfl, le_rfl, fun x hx => absurd hx List.not_mem_nil⟩
    case isFalse => cases step
  have beyond := run.invariant (I := Beyond time) began fun tr l action t out hl _ step =>
    hl.next step
  intro x hx
  have sum := two_intervals
  have after := beyond.checks x hx
  omega

/-- A client that opens a stream every 29 seconds is never checked. -/
theorem traffic_starves_checks (n : Nat) :
    ∃ l, runLoop.Reach (start 0) [] l ∧ l.running = true ∧ l.armed = n * Duration.fromSecs 29 ∧
      l.now = n * Duration.fromSecs 29 := by
  induction n with
  | zero => exact ⟨_, .start, rfl, (Nat.zero_mul _).symm, (Nat.zero_mul _).symm⟩
  | succ n ih =>
      obtain ⟨l, run, running, armed, now⟩ := ih
      have short : (Duration.fromSecs 29 : Nat) ≤ EXPIRY_CHECK_INTERVAL := by decide
      obtain ⟨time, next⟩ : ∃ time : Nat, time = l.now + Duration.fromSecs 29 := ⟨_, rfl⟩
      have total : time = (n + 1) * Duration.fromSecs 29 := by
        rw [next, now, Nat.succ_mul]
      have allowed : l.inPass time = true := by
        rw [in_pass_iff, next, armed, ← now]
        exact ⟨running, Nat.le_add_right _ _, Nat.add_le_add_left short _⟩
      have step : runLoop.step l (.event .stream time) = some (_, []) := if_pos allowed
      exact ⟨_, run.next trivial step, running, total, total⟩

/-- Three streams in one and a half minutes, and no check. -/
theorem streams_starve_checks :
    ∃ l, runLoop.Reach (start 0) [] l ∧ l.running = true ∧ 0 + minute < l.now := by
  obtain ⟨l, run, running, -, now⟩ := traffic_starves_checks 3
  exact ⟨l, run, running, by rw [now]; decide⟩

/-- The branch of the check is the expiry step of the server's connections. -/
theorem timer_is_expiry_tick {engine : PolicyEngine} {s : Server} {i : ConnId}
    {c : ClientConnection} (order : List DeviceHandle) (selecting : c.phase = .selecting)
    (activity : c.lastActivity = l.lastActivity)
    (due : s.clock.instant = l.armed + EXPIRY_CHECK_INTERVAL) :
    s.connectionStep engine i c (.expiryTick order) =
      if l.fire.2 = [] then s.leaveLoop i c order
      else some (s.setConn i
        (c.handleExpiredSessions (s.sessions.checkExpiredSessions s.clock.instant)), []) := by
  simp only [Server.connectionStep, selecting, activity, due, fire]
  by_cases idle : l.armed + EXPIRY_CHECK_INTERVAL - l.lastActivity > IDLE_LIMIT
  · simp only [idle, if_true]
  · simp only [idle, if_false, List.cons_ne_nil]

end RunLoop
end P2pUsb
