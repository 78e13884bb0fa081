import P2pUsb.Library.ClockFace
import P2pUsb.Policy.Decision

/-! Time windows on the clock face of a day. The window that a session starts in
ends on a whole minute; the session's own expiry counts the same minutes from the
instant of registration, seconds included. -/
namespace P2pUsb

/-- Both clocks advance together; the system time at instant zero is `epoch`. -/
def clockAt (epoch : Nat) (x : Nat) : ClockReading := ⟨x, (epoch + x) / 1000000⟩

def minutesOf (time : TimeOfDay) : Nat := time.1 * 60 + time.2

def ofMinutes (minutes : Nat) : TimeOfDay := (minutes / 60, minutes % 60)

@[simp] theorem minutesOf_ofMinutes (minutes : Nat) : minutesOf (ofMinutes minutes) = minutes :=
  Nat.div_add_mod' minutes 60

namespace PolicyEngine
variable {engine : PolicyEngine} {epoch : Nat} {client : EndpointId} {info : DeviceInfo}
  {windows : List String} {x x₁ x₂ : Nat} {w : TimeOfDay × TimeOfDay}

def localTime (engine : PolicyEngine) (now : ClockReading) : TimeOfDay :=
  getCurrentTimeWithOffset now.wall engine.timezoneOffsetHours

/-- Minutes to the end of a window, for a session that starts now. -/
def minutesLeft (engine : PolicyEngine) (w : TimeOfDay × TimeOfDay) (now : ClockReading) : Nat :=
  ClockFace.marksLeft 1440 (minutesOf w.2) (minutesOf (engine.localTime now))

/-- How far into the local day instant zero falls. -/
def phase (engine : PolicyEngine) (epoch : Nat) : Nat :=
  (((epoch : Int) + engine.timezoneOffsetHours * 3600000000000) % 86400000000000).toNat

theorem clock_at_time (engine : PolicyEngine) (epoch : Nat) (x : Nat) :
    engine.localTime (clockAt epoch x) = ofMinutes ((engine.phase epoch + x) / minute % 1440) := by
  have emod : ∀ a b : Int, a.emod b = a % b := fun _ _ => rfl
  simp only [localTime, getCurrentTimeWithOffset, ClockReading.wall, clockAt, ofMinutes, phase,
    minute,
    Duration.fromSecs, emod]
  generalize engine.timezoneOffsetHours = offset
  rw [Prod.mk.injEq]
  omega

/-- Offsets are whole hours, so every time zone has the same minute boundaries. -/
theorem phase_mod_minute (engine : PolicyEngine) (epoch : Nat) (x : Nat) :
    (engine.phase epoch + x) % minute = (epoch + x) % minute := by
  simp only [phase, minute, Duration.fromSecs]
  generalize engine.timezoneOffsetHours = offset
  omega

theorem time_in_range_iff {m : Nat} {start stop : TimeOfDay} :
    timeInRange (ofMinutes m) start stop = true ↔
      ClockFace.Mem (minutesOf start) (minutesOf stop) m := by
  have same : (ofMinutes m).1 * 60 + (ofMinutes m).2 = m := minutesOf_ofMinutes m
  by_cases ordered : minutesOf start ≤ minutesOf stop <;>
    simp only [timeInRange, same, ClockFace.Mem, minutesOf] at ordered ⊢ <;> simp [ordered]

/-- A time that was parsed is a mark of the clock face. -/
theorem parse_time_mark {text : List Char} {time : TimeOfDay}
    (parsed : parseTime text = some time) : ∃ m < 1440, time = ofMinutes m := by
  unfold parseTime at parsed
  split at parsed
  case h_1 hoursText minutesText _ =>
    obtain ⟨hours, -, parsed⟩ := Option.bind_eq_some_iff.mp parsed
    obtain ⟨minutes, -, parsed⟩ := Option.bind_eq_some_iff.mp parsed
    split at parsed
    · cases parsed
    · rename_i range
      obtain rfl := Option.some.inj parsed
      simp only [Bool.or_eq_true, decide_eq_true_eq, not_or, not_lt] at range
      refine ⟨hours * 60 + minutes, by omega, ?_⟩
      simp only [ofMinutes, Prod.mk.injEq]
      omega
  case h_2 => cases parsed

theorem parse_time_window_mark {text : String} (parsed : parseTimeWindow text = some w) :
    ∃ m < 1440, w.2 = ofMinutes m := by
  unfold parseTimeWindow at parsed
  split at parsed
  case h_1 =>
    obtain ⟨start, -, parsed⟩ := Option.bind_eq_some_iff.mp parsed
    obtain ⟨stop, found, rfl⟩ := Option.map_eq_some_iff.mp parsed
    exact parse_time_mark found
  case h_2 => cases parsed

/-- The first window around a minute stays open up to its stop mark. -/
theorem current_window_stays {m : Nat} (face : m < 1440)
    (found : currentWindow (ofMinutes m) windows = some w) :
    ∃ stop < 1440, w.2 = ofMinutes stop ∧ ∀ k < ClockFace.marksLeft 1440 stop m,
      insideWindow (ofMinutes ((m + k) % 1440)) windows = true := by
  obtain ⟨text, present, parsed⟩ := List.mem_filterMap.mp (List.mem_of_find?_eq_some found)
  have here := List.find?_some
    (p := fun w : TimeOfDay × TimeOfDay => timeInRange (ofMinutes m) w.1 w.2) found
  obtain ⟨stop, last, ends⟩ := parse_time_window_mark parsed
  refine ⟨stop, last, ends, fun k early => List.any_eq_true.mpr ⟨text, present, ?_⟩⟩
  rw [parsed, Option.any_some]
  rw [ends, time_in_range_iff, minutesOf_ofMinutes] at here
  rw [ends, time_in_range_iff, minutesOf_ofMinutes]
  exact ClockFace.mem_add face last here early

theorem calculate_window_expiry_eq (engine : PolicyEngine) (now : ClockReading)
    (windows : List String) :
    engine.calculateWindowExpiry now windows =
      (currentWindow (engine.localTime now) windows).map fun w =>
        now.instant + engine.minutesLeft w now * minute := by
  simp only [calculateWindowExpiry, localTime, minutesLeft, Duration.fromSecs, minute,
    ClockFace.marksLeft, minutesOf, gt_iff_lt, Nat.mul_assoc]
  rfl

/-- The duration limit of a session is reached. -/
def LimitReached (session : ActiveSession) (now : Instant) : Prop :=
  ∃ limit, session.maxDuration = some limit ∧ limit ≤ now - session.startedAt

/-- The window that the session was registered in has ended, as the engine counts. -/
def WindowReached (session : ActiveSession) (now : Instant) : Prop :=
  ∃ stop, session.windowExpiresAt = some stop ∧ stop ≤ now

theorem expired_reason_cases (session : ActiveSession) (now : Instant) :
    LimitReached session now ∧
        ActiveSessions.expiredReason now session = some .durationLimitReached ∨
      ¬ LimitReached session now ∧ WindowReached session now ∧
        ActiveSessions.expiredReason now session = some .timeWindowExpired ∨
      ¬ LimitReached session now ∧ ¬ WindowReached session now ∧
        ActiveSessions.expiredReason now session = none := by
  have limited : (session.maxDuration.any fun limit => decide (now - session.startedAt ≥ limit)) =
      true ↔ LimitReached session now := by
    simp only [LimitReached, Option.any_eq_true, decide_eq_true_eq, ge_iff_le]
  have windowed : (session.windowExpiresAt.any fun stop => decide (now ≥ stop)) = true ↔
      WindowReached session now := by
    simp only [WindowReached, Option.any_eq_true, decide_eq_true_eq, ge_iff_le]
  rw [← limited, ← windowed, ActiveSessions.expiredReason]
  split_ifs with duration window
  · exact .inl ⟨duration, rfl⟩
  · exact .inr (.inl ⟨duration, window, rfl⟩)
  · exact .inr (.inr ⟨duration, window, rfl⟩)

theorem expired_reason_iff {session : ActiveSession} {now : Instant} :
    ActiveSessions.expiredReason now session ≠ none ↔
      LimitReached session now ∨ WindowReached session now := by
  rcases expired_reason_cases session now with ⟨limit, reason⟩ | ⟨limit, window, reason⟩ |
    ⟨limit, window, reason⟩
  · simp only [reason, limit, ne_eq, reduceCtorEq, not_false_eq_true, true_or]
  · simp only [reason, window, ne_eq, reduceCtorEq, not_false_eq_true, or_true]
  · simp only [reason, limit, window, ne_eq, not_true, or_self]

theorem window_expired_iff {session : ActiveSession} {now : Instant} :
    ActiveSessions.expiredReason now session = some .timeWindowExpired ↔
      ¬ LimitReached session now ∧ WindowReached session now := by
  rcases expired_reason_cases session now with ⟨limit, reason⟩ | ⟨limit, window, reason⟩ |
    ⟨limit, window, reason⟩
  · simp only [reason, limit, Option.some.injEq, reduceCtorEq, not_true, false_and]
  · simp only [reason, limit, window, not_false_eq_true, true_and]
  · simp only [reason, window, reduceCtorEq, and_false]

end PolicyEngine

namespace ActiveSessions
variable {sessions : ActiveSessions} {h : DeviceHandle} {now : Instant}

/-- The event that reports a session, if it has expired. -/
theorem mem_check_expired_iff {event : SessionExpiredEvent} :
    event ∈ sessions.checkExpiredSessions now ↔
      ∃ session, sessions.lookup event.handle = some session ∧
        expiredReason now session = some event.reason ∧
        session.deviceId = event.deviceId ∧ session.clientId = event.clientId := by
  unfold checkExpiredSessions
  rw [List.mem_filterMap]
  constructor
  · rintro ⟨⟨h, session⟩, present, made⟩
    obtain ⟨reason, expired, rfl⟩ := Option.map_eq_some_iff.mp made
    exact ⟨session, AList.lookup_eq_some.mpr present, expired, rfl, rfl⟩
  · rintro ⟨session, present, expired, device, client⟩
    refine ⟨⟨event.handle, session⟩, AList.lookup_eq_some.mp present, ?_⟩
    rw [expired, device, client]
    rfl

theorem reported_iff {session : ActiveSession} (present : sessions.lookup h = some session) :
    (∃ event ∈ sessions.checkExpiredSessions now, event.handle = h) ↔
      expiredReason now session ≠ none := by
  constructor
  · rintro ⟨event, reported, rfl⟩
    obtain ⟨same, found, expired, -, -⟩ := mem_check_expired_iff.mp reported
    obtain rfl := Option.some.inj (present.symm.trans found)
    rw [expired]
    exact Option.some_ne_none _
  · intro expired
    obtain ⟨reason, expired⟩ := Option.ne_none_iff_exists'.mp expired
    exact ⟨⟨h, session.deviceId, session.clientId, reason⟩,
      mem_check_expired_iff.mpr ⟨session, present, expired, rfl, rfl⟩, rfl⟩

end ActiveSessions

namespace PolicyEngine
variable {engine : PolicyEngine} {epoch : Nat} {client : EndpointId} {info : DeviceInfo}
  {windows : List String} {x x₁ x₂ : Nat} {w : TimeOfDay × TimeOfDay}

/-- `check_access` let the client in at `x₁`, and the session is registered at `x₂`. -/
structure Admitted (engine : PolicyEngine) (epoch : Nat) (client : EndpointId) (info : DeviceInfo)
    (windows : List String) (x₁ x₂ : Nat) : Prop where
  policy : ∃ p, engine.selectPolicy info = some p ∧ p.timeWindows = some windows
  restricted : windows ≠ []
  later : x₁ ≤ x₂
  allowed : engine.checkAccess (clockAt epoch x₁).wall client info = .allow

/-- The session starts in a window, and on a whole minute, or where another window
takes over from it, or with a limit that runs out before it ends; or it starts in
no window and may not last at all. -/
def EndsInTime (engine : PolicyEngine) (epoch : Nat) (info : DeviceInfo) (windows : List String)
    (x : Nat) : Prop :=
  (∃ w, currentWindow (engine.localTime (clockAt epoch x)) windows = some w ∧
    ((epoch + x) % minute = 0 ∨ insideWindow w.2 windows = true ∨
      ∃ limit : Nat, engine.getSessionDurationLimit info = some limit ∧
        limit + (epoch + x) % minute ≤ engine.minutesLeft w (clockAt epoch x) * minute)) ∨
    insideWindow (engine.localTime (clockAt epoch x)) windows = false ∧
      engine.getSessionDurationLimit info = some 0

theorem new_session_window {p : DevicePolicy} (selected : engine.selectPolicy info = some p)
    (now : ClockReading) (h : DeviceHandle) (id : DeviceId) :
    (engine.newSession now h id info client).windowExpiresAt =
      p.timeWindows.bind (engine.calculateWindowExpiry now) := by
  rw [selectPolicy] at selected
  rw [newSession, selected, Option.bind_some]

theorem minute_pos : 0 < minute := by decide

/-- The hand reaches the end of the window when the minutes left have passed since
the minute of `x` began. -/
theorem window_closes (found : currentWindow (engine.localTime (clockAt epoch x₂)) windows = some
    w) :
    ∃ first stop, w.2 = ofMinutes stop ∧ first * minute + (epoch + x₂) % minute =
        engine.phase epoch + x₂ ∧
      (first + engine.minutesLeft w (clockAt epoch x₂)) % 1440 = stop ∧
      ∀ k < engine.minutesLeft w (clockAt epoch x₂),
        insideWindow (ofMinutes ((first + k) % 1440)) windows = true := by
  rw [clock_at_time] at found
  obtain ⟨stop, last, ends, stays⟩ := current_window_stays (Nat.mod_lt _ (by decide)) found
  refine ⟨(engine.phase epoch + x₂) / minute, stop, ends, ?_, ?_, ?_⟩
  · rw [← phase_mod_minute engine, Nat.div_add_mod']
  · have turn := ClockFace.add_marks_left (t := (engine.phase epoch + x₂) / minute % 1440)
      (Nat.mod_lt _ (by decide)) last
    rw [minutesLeft, clock_at_time, ends, minutesOf_ofMinutes, minutesOf_ofMinutes]
    rwa [Nat.mod_add_mod] at turn
  · intro k early
    rw [minutesLeft, clock_at_time, ends, minutesOf_ofMinutes, minutesOf_ofMinutes] at early
    have here := stays k early
    rwa [Nat.mod_add_mod] at here

theorem closed_after (found : currentWindow (engine.localTime (clockAt epoch x₂)) windows = some w)
    (later : x₂ ≤ x) (outside : insideWindow (engine.localTime (clockAt epoch x)) windows = false) :
    x₂ + engine.minutesLeft w (clockAt epoch x₂) * minute ≤ x + (epoch + x₂) % minute ∧
      (insideWindow w.2 windows = true → x₂ + engine.minutesLeft w (clockAt epoch x₂) *
        minute ≤ x) := by
  obtain ⟨first, stop, ends, start, turn, stays⟩ := window_closes found
  have began : first = (engine.phase epoch + x₂) / minute := by
    rw [← start, Nat.mul_comm, Nat.mul_add_div minute_pos,
      Nat.div_eq_of_lt (Nat.mod_lt _ minute_pos), Nat.add_zero]
  rw [clock_at_time] at outside
  have reach : ∀ marks, (∀ k < marks,
    insideWindow (ofMinutes ((first + k) % 1440)) windows = true) →
      (first + marks) * minute ≤ engine.phase epoch + x := by
    intro marks stays
    rw [began] at stays ⊢
    exact ClockFace.outside_ge (fun m => insideWindow (ofMinutes m) windows = true)
      stays (Nat.add_le_add_left later _)
        (by simp only [outside, Bool.false_eq_true, not_false_eq_true])
  have short := Nat.mod_lt (epoch + x₂) minute_pos
  constructor
  · have reached := reach _ stays
    rw [Nat.add_mul] at reached
    omega
  · intro next
    -- the other window carries on for one more minute
    have reached := reach (engine.minutesLeft w (clockAt epoch x₂) + 1) fun k early => by
      rcases Nat.lt_succ_iff_lt_or_eq.mp early with before | rfl
      · exact stays k before
      · rw [turn, ← ends]
        exact next
    rw [Nat.add_mul, Nat.succ_mul] at reached
    omega

/-- If no other window takes over, the time just after the end is outside. -/
theorem closed_at (found : currentWindow (engine.localTime (clockAt epoch x₂)) windows = some w)
    (last : insideWindow w.2 windows = false) :
    ∃ x ≥ x₂, x + (epoch + x₂) % minute = x₂ + engine.minutesLeft w (clockAt epoch x₂) * minute ∧
      insideWindow (engine.localTime (clockAt epoch x)) windows = false := by
  obtain ⟨first, stop, ends, start, turn, -⟩ := window_closes found
  have short := Nat.mod_lt (epoch + x₂) minute_pos
  have some_left : 0 < engine.minutesLeft w (clockAt epoch x₂) := by
    rw [minutesLeft, clock_at_time, minutesOf_ofMinutes]
    exact ClockFace.marks_left_pos (Nat.mod_lt _ (by decide))
  have whole := Nat.le_mul_of_pos_left minute some_left
  refine ⟨x₂ + engine.minutesLeft w (clockAt epoch x₂) * minute - (epoch + x₂) % minute, by omega,
    by omega, ?_⟩
  have hand : engine.phase epoch + (x₂ + engine.minutesLeft w (clockAt epoch x₂) * minute -
      (epoch + x₂) % minute) = (first + engine.minutesLeft w (clockAt epoch x₂)) * minute := by
    rw [Nat.add_mul]
    omega
  rw [clock_at_time, hand, Nat.mul_div_cancel _ minute_pos, turn, ← ends]
  exact last

/-- What the check reports of a session registered at `x₂`. -/
theorem registered_reported_iff {p : DevicePolicy} (selected : engine.selectPolicy info = some p)
    (restricted : p.timeWindows = some windows) (sessions : ActiveSessions) (h : DeviceHandle)
    (id : DeviceId) :
    (∃ event ∈ (sessions.registerSession engine (clockAt epoch x₂) h id info
        client).checkExpiredSessions x, event.handle = h) ↔
      (∃ limit : Nat, engine.getSessionDurationLimit info = some limit ∧ limit ≤ x - x₂) ∨
        ∃ w, currentWindow (engine.localTime (clockAt epoch x₂)) windows = some w ∧
          x₂ + engine.minutesLeft w (clockAt epoch x₂) * minute ≤ x := by
  have registered : (sessions.registerSession engine (clockAt epoch x₂) h id info client).lookup h =
      some (engine.newSession (clockAt epoch x₂) h id info client) := AList.lookup_insert _
  rw [ActiveSessions.reported_iff registered, expired_reason_iff, LimitReached, WindowReached,
    new_session_window selected, restricted, Option.bind_some, calculate_window_expiry_eq]
  simp only [Option.map_eq_some_iff, exists_exists_and_eq_and]
  exact Iff.rfl

theorem time_windows_enforced_iff (admitted : engine.Admitted epoch client info windows x₁ x₂)
    (sessions : ActiveSessions) (h : DeviceHandle) (id : DeviceId) :
    (∀ x ≥ x₂, insideWindow (engine.localTime (clockAt epoch x)) windows = false →
      ∃ event ∈ (sessions.registerSession engine (clockAt epoch x₂) h id info
        client).checkExpiredSessions x, event.handle = h) ↔
      engine.EndsInTime epoch info windows x₂ := by
  obtain ⟨p, selected, restricted⟩ := admitted.policy
  simp only [registered_reported_iff selected restricted]
  have short := Nat.mod_lt (epoch + x₂) minute_pos
  constructor
  · intro enforced
    cases found : currentWindow (engine.localTime (clockAt epoch x₂)) windows with
    | none =>
        have outside : insideWindow (engine.localTime (clockAt epoch x₂)) windows = false := by
          rw [inside_window_eq, found, Option.isSome_none]
        refine .inr ⟨outside, ?_⟩
        rcases enforced x₂ le_rfl outside with ⟨limit, limited, expired⟩ | ⟨w, wrong, -⟩
        · rw [Nat.sub_self] at expired
          rw [limited, Nat.le_zero.mp expired]
        · exact absurd (found.symm.trans wrong) (Option.some_ne_none w).symm
    | some w =>
        refine .inl ⟨w, found, ?_⟩
        cases last : insideWindow w.2 windows with
        | true => exact .inr (.inl rfl)
        | false =>
            obtain ⟨x, later, just, outside⟩ := closed_at found last
            rcases enforced x later outside with ⟨limit, limited, expired⟩ | ⟨v, same, expired⟩
            · exact .inr (.inr ⟨limit, limited, by omega⟩)
            · obtain rfl := Option.some.inj (found.symm.trans same)
              exact .inl (by omega)
  · rintro (⟨w, found, ends⟩ | ⟨-, unlimited⟩) x later outside
    · obtain ⟨reached, carried⟩ := closed_after found later outside
      rcases ends with whole | next | ⟨limit, limited, expired⟩
      · exact .inr ⟨w, found, by omega⟩
      · exact .inr ⟨w, found, carried next⟩
      · exact .inl ⟨limit, limited, by omega⟩
    · exact .inl ⟨0, unlimited, Nat.zero_le _⟩

/-- Everyone may use every device from nine to five. -/
def officeHours : PolicyEngine where
  policies := [{
    deviceFilter := "*"
    allowedClients := ["*"]
    timeWindows := some ["09:00-17:00"]
    maxSessionDuration := none
    restrictedDeviceClasses := none }]
  timezoneOffsetHours := 0

theorem admitted_at_office (x : Nat)
    (allowed : officeHours.checkAccess (clockAt 0 x).wall ⟨"a"⟩ rootHub = .allow) :
    officeHours.Admitted 0 ⟨"a"⟩ rootHub ["09:00-17:00"] x x where
  policy := ⟨_, rfl, rfl⟩
  restricted := List.cons_ne_nil _ _
  later := le_rfl
  allowed := allowed

/-- From ten o'clock sharp the session ends at five. -/
theorem time_windows_enforced_sharp :
    ∃ event ∈ (ActiveSessions.registerSession ∅ officeHours
      (clockAt 0 (Duration.fromSecs 36000)) ⟨1⟩ ⟨1⟩ rootHub ⟨"a"⟩).checkExpiredSessions
        (Duration.fromSecs 61200), event.handle = ⟨1⟩ :=
  (time_windows_enforced_iff (admitted_at_office (Duration.fromSecs 36000) (by decide)) ∅ ⟨1⟩
    ⟨1⟩).mpr (.inl ⟨((9, 0), (17, 0)), by decide, .inl (by decide)⟩) (Duration.fromSecs 61200)
    (by decide) (by decide)

/-- Half a minute past ten it ends half a minute past five. -/
theorem session_outlasts_window :
    officeHours.Admitted 0 ⟨"a"⟩ rootHub ["09:00-17:00"] (Duration.fromSecs 36030)
        (Duration.fromSecs 36030) ∧
      insideWindow (officeHours.localTime (clockAt 0 (Duration.fromSecs 61200))) ["09:00-17:00"] =
        false ∧
      ¬ ∃ event ∈ (ActiveSessions.registerSession ∅ officeHours
        (clockAt 0 (Duration.fromSecs 36030)) ⟨1⟩ ⟨1⟩ rootHub ⟨"a"⟩).checkExpiredSessions
          (Duration.fromSecs 61200), event.handle = ⟨1⟩ := by
  refine ⟨admitted_at_office _ (by decide), by decide, ?_⟩
  have unreported : (ActiveSessions.registerSession ∅ officeHours
      (clockAt 0 (Duration.fromSecs 36030)) ⟨1⟩ ⟨1⟩ rootHub ⟨"a"⟩).checkExpiredSessions
        (Duration.fromSecs 61200) = [] := by decide
  rw [unreported]
  rintro ⟨event, wrong, -⟩
  cases wrong

end PolicyEngine
end P2pUsb
