import P2pUsb.Library.Machine
import P2pUsb.Policy.TimeWindows

/-! Runs of the session table. A session expires with the first window it was
registered in, while access follows all windows of the policy at the time of the
check; so the table can report a session whose client would still be let in. -/
namespace P2pUsb

structure Registration where
  now : ClockReading
  deviceId : DeviceId
  info : DeviceInfo
  client : EndpointId

/-- The table of the engine beside what each of its sessions was registered with. -/
structure WatchedSessions where
  active : ActiveSessions
  registrations : AList fun _ : DeviceHandle => Registration

inductive SessionCall where
  | register (handle : DeviceHandle) (registration : Registration)
  | unregister (handle : DeviceHandle)
  | check (now : ClockReading)

namespace WatchedSessions
open PolicyEngine
variable {engine : PolicyEngine} {s t : WatchedSessions} {r : Registration} {now : ClockReading}

def empty : WatchedSessions := ⟨∅, ∅⟩

def step (engine : PolicyEngine) (s : WatchedSessions) :
    SessionCall → WatchedSessions × List SessionExpiredEvent
  | .register handle r =>
      ({ active := s.active.registerSession engine r.now handle r.deviceId r.info r.client
         registrations := s.registrations.insert handle r }, [])
  | .unregister handle =>
      ({ active := s.active.unregisterSession handle
         registrations := s.registrations.erase handle }, [])
  | .check now => (s, s.active.checkExpiredSessions now.instant)

/-- Calls at any clock readings; a check shows the events that it returns. -/
def watched (engine : PolicyEngine) : Machine WatchedSessions SessionCall SessionExpiredEvent where
  step s call := some (s.step engine call)

/-- A session whose window is reported as over belongs to a client that is refused now. -/
def NotPremature (engine : PolicyEngine) (s : WatchedSessions) (call : SessionCall)
    (out : List SessionExpiredEvent) : Prop :=
  ∀ now, call = .check now → ∀ event ∈ out, event.reason = .timeWindowExpired →
    ∀ r, s.registrations.lookup event.handle = some r →
      engine.checkAccess now.wall event.clientId r.info ≠ .allow

/-- If some window of the policy is open for the client at the check, then its
limit is reached, or the minutes from the registration to the end of the first
window around it have not passed yet. -/
def WindowStillRuns (engine : PolicyEngine) (r : Registration) (now : ClockReading) : Prop :=
  ∀ p windows w, engine.selectPolicy r.info = some p → p.timeWindows = some windows →
    currentWindow (engine.localTime r.now) windows = some w →
    isClientAllowed p r.client = true → p.restrictsClass r.info = false →
    insideWindow (engine.localTime now) windows = true →
    (∃ limit, p.maxSessionDuration = some limit ∧ limit ≤ now.instant - r.now.instant) ∨
      now.instant < r.now.instant + engine.minutesLeft w r.now * minute

/-- Every check finds all sessions in that case. -/
def ChecksInTime (engine : PolicyEngine) (s : WatchedSessions) (call : SessionCall) : Prop :=
  ∀ now, call = .check now → ∀ h r, s.registrations.lookup h = some r →
    WindowStillRuns engine r now

/-- Every session is the one that its registration made. -/
def AsRegistered (engine : PolicyEngine) (s : WatchedSessions) : Prop :=
  ∀ h, s.active.lookup h = (s.registrations.lookup h).map fun r =>
    engine.newSession r.now h r.deviceId r.info r.client

theorem AsRegistered.step (hs : s.AsRegistered engine) (call : SessionCall) :
    (s.step engine call).1.AsRegistered engine := by
  intro h
  cases call with
  | register handle r =>
      simp only [WatchedSessions.step, ActiveSessions.registerSession, AList.lookup_insert_eq]
      split
      case isTrue own => rw [own, Option.map_some]
      case isFalse => exact hs h
  | unregister handle =>
      simp only [WatchedSessions.step, ActiveSessions.unregisterSession, AList.lookup_erase_eq]
      split
      case isTrue => rfl
      case isFalse => exact hs h
  | check now => exact hs h

theorem new_session_window_reached {h : DeviceHandle} :
    WindowReached (engine.newSession r.now h r.deviceId r.info r.client) now.instant ↔
      ∃ p windows w, engine.selectPolicy r.info = some p ∧ p.timeWindows = some windows ∧
        currentWindow (engine.localTime r.now) windows = some w ∧
        r.now.instant + engine.minutesLeft w r.now * minute ≤ now.instant := by
  constructor
  · rintro ⟨stop, expires, reached⟩
    obtain ⟨windows, restricted, expires⟩ := Option.bind_eq_some_iff.mp expires
    obtain ⟨p, selected, restricted⟩ := Option.bind_eq_some_iff.mp restricted
    rw [calculate_window_expiry_eq] at expires
    obtain ⟨w, found, rfl⟩ := Option.map_eq_some_iff.mp expires
    exact ⟨p, windows, w, selected, restricted, found, reached⟩
  · rintro ⟨p, windows, w, selected, restricted, found, reached⟩
    refine ⟨_, ?_, reached⟩
    rw [new_session_window selected, restricted, Option.bind_some,
      calculate_window_expiry_eq, found]
    rfl

theorem new_session_limit_reached {h : DeviceHandle} {p : DevicePolicy}
    (selected : engine.selectPolicy r.info = some p) :
    LimitReached (engine.newSession r.now h r.deviceId r.info r.client) now.instant ↔
      ∃ limit, p.maxSessionDuration = some limit ∧ limit ≤ now.instant - r.now.instant := by
  rw [selectPolicy] at selected
  simp only [LimitReached, newSession,
    getSessionDurationLimit, selected, Option.bind_some]

/-- Inside one of its windows a policy refuses nobody for the time. -/
theorem allowed_iff_inside {p : DevicePolicy} {windows : List String} (listed : windows ≠ [])
    (selected : engine.selectPolicy r.info = some p) (restricted : p.timeWindows = some windows) :
    engine.checkAccess now.wall r.client r.info = .allow ↔
      isClientAllowed p r.client = true ∧ p.restrictsClass r.info = false ∧
        insideWindow (engine.localTime now) windows = true := by
  have configured : windows.isEmpty = false := List.isEmpty_eq_false_iff.mpr listed
  rw [check_access_selected selected, evaluate_allows_iff,
    closed_now_documented, documentedClosed, restricted, Option.any_some, configured,
    Bool.not_false, Bool.true_and, Bool.not_eq_false']
  rfl

theorem window_still_runs_iff {h : DeviceHandle} :
    WindowStillRuns engine r now ↔
      (ActiveSessions.expiredReason now.instant
          (engine.newSession r.now h r.deviceId r.info r.client) = some .timeWindowExpired →
        engine.checkAccess now.wall r.client r.info ≠ .allow) := by
  have around : ∀ {time windows w}, currentWindow time windows = some w →
      windows ≠ [] := by
    rintro time windows w found rfl
    cases found
  rw [window_expired_iff, new_session_window_reached]
  constructor
  · rintro runs ⟨unlimited, p, windows, w, selected, restricted, found, reached⟩ allowed
    obtain ⟨admits, free, inside⟩ :=
      (allowed_iff_inside (around found) selected restricted).mp allowed
    rcases runs p windows w selected restricted found admits free inside with limit | early
    · exact unlimited ((new_session_limit_reached selected).mpr limit)
    · exact absurd reached (Nat.not_le.mpr early)
  · intro refused p windows w selected restricted found admits free inside
    by_contra reached
    rw [not_or, Nat.not_lt] at reached
    refine refused ⟨?_, p, windows, w, selected, restricted, found, reached.2⟩
      ((allowed_iff_inside (around found) selected restricted).mpr ⟨admits, free, inside⟩)
    rw [new_session_limit_reached selected]
    exact reached.1

/-- The condition is exact at each check. -/
theorem not_premature_iff (hs : s.AsRegistered engine) (call : SessionCall) :
    s.NotPremature engine call (s.step engine call).2 ↔ s.ChecksInTime engine call := by
  constructor
  · rintro timely now rfl h r found
    have present := hs h
    rw [found, Option.map_some] at present
    refine (window_still_runs_iff (h := h)).mpr fun expired => ?_
    have reported : ⟨h, r.deviceId, r.client, .timeWindowExpired⟩ ∈
        s.active.checkExpiredSessions now.instant :=
      ActiveSessions.mem_check_expired_iff.mpr ⟨_, present, expired, rfl, rfl⟩
    exact timely now rfl _ reported rfl r found
  · rintro runs now rfl event reported reason r found
    obtain ⟨session, present, expired, -, client⟩ :=
      ActiveSessions.mem_check_expired_iff.mp reported
    rw [hs event.handle, found, Option.map_some, Option.some.injEq] at present
    subst present
    rw [reason] at expired
    rw [← client]
    exact window_still_runs_iff.mp (runs now rfl event.handle r found) expired

theorem never_premature_iff (engine : PolicyEngine) (calls : List SessionCall) :
    (watched engine).EveryStep (fun s call _ out => s.NotPremature engine call out) empty calls ↔
      (watched engine).EveryStep (fun s call _ _ => s.ChecksInTime engine call) empty calls := by
  refine Machine.everyStep_congr (I := AsRegistered engine) ?_ ?_ (fun _ => rfl) calls
  · intro s call t out hs step
    obtain ⟨rfl, rfl⟩ := Prod.mk.inj (Option.some.inj step)
    exact not_premature_iff hs call
  · intro s call t out hs step _
    obtain ⟨rfl, -⟩ := Prod.mk.inj (Option.some.inj step)
    exact hs.step call

/-- Two windows that overlap, open for everyone together from nine to eight. -/
def lateHours : PolicyEngine where
  policies := [{
    deviceFilter := "*"
    allowedClients := ["*"]
    timeWindows := some ["09:00-17:00", "12:00-20:00"]
    maxSessionDuration := none
    restrictedDeviceClasses := none }]
  timezoneOffsetHours := 0

/-- At five the session of ten o'clock is over, though its client may attach anew. -/
theorem overlapping_window_ends_session :
    ∃ s tr, (watched lateHours).Reach empty tr s ∧
      (s.step lateHours (.check (clockAt 0 (Duration.fromSecs 61200)))).2 =
        [⟨⟨1⟩, ⟨1⟩, ⟨"a"⟩, .timeWindowExpired⟩] ∧
      lateHours.checkAccess (clockAt 0 (Duration.fromSecs 61200)).wall ⟨"a"⟩ rootHub = .allow := by
  have allowed : lateHours.checkAccess (clockAt 0 (Duration.fromSecs 61200)).wall ⟨"a"⟩ rootHub =
      .allow := by decide
  refine ⟨_, _, .next .start (a := .register ⟨1⟩
    ⟨clockAt 0 (Duration.fromSecs 36000), ⟨1⟩, rootHub, ⟨"a"⟩⟩) trivial rfl, ?_, allowed⟩
  decide

end WatchedSessions
end P2pUsb
