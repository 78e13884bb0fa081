import P2pUsb.Policy.TimeWindows

/-! The expiry of the current window counted in whole minutes on the clock face. -/
namespace P2pUsb

/-- The value of an integer kept in a word of 64 bits. -/
def wrapI64 (value : Int) : Int := value.bmod (2 ^ 64)

theorem wrap_i64_of_fits {value : Int} (low : -(2 ^ 63) ≤ value) (high : value < 2 ^ 63) :
    wrapI64 value = value :=
  Int.bmod_eq_of_le (by omega) (by omega)

namespace PolicyEngine
variable {engine : PolicyEngine} {now : ClockReading} {windows : List String}
  {w : TimeOfDay × TimeOfDay} {time : TimeOfDay}

/-- `get_current_time_with_offset` in words of 64 bits. -/
def currentTimeI64 (wall : Nat) (offsetHours : Int) : TimeOfDay :=
  let secs := wrapI64 wall
  let secsWithOffset := wrapI64 (secs + wrapI64 (offsetHours * 3600))
  let secsToday := (secsWithOffset.emod 86400).toNat
  (secsToday / 3600, secsToday % 3600 / 60)

theorem current_time_exact {wall : Nat} {offsetHours : Int} (secs : wall < 2 ^ 62)
    (low : -(2 ^ 31) ≤ offsetHours) (high : offsetHours < 2 ^ 31) :
    currentTimeI64 wall offsetHours = getCurrentTimeWithOffset wall offsetHours := by
  simp only [currentTimeI64, getCurrentTimeWithOffset]
  rw [show wrapI64 (wall : Int) = wall from wrap_i64_of_fits (by omega) (by omega),
    show wrapI64 (offsetHours * 3600) =
      offsetHours * 3600 from wrap_i64_of_fits (by omega) (by omega),
    wrap_i64_of_fits (by omega) (by omega)]

/-- `w` is what the first of the windows around the time says. -/
def FirstWindow (time : TimeOfDay) (windows : List String) (w : TimeOfDay × TimeOfDay) : Prop :=
  ∃ before text after, windows = before ++ text :: after ∧ parseTimeWindow text = some w ∧
    timeInRange time w.1 w.2 = true ∧
    ∀ earlier ∈ before, ∀ v, parseTimeWindow earlier = some v → timeInRange time v.1 v.2 = false

theorem current_window_first (found : currentWindow time windows = some w) :
    FirstWindow time windows w := by
  induction windows with
  | nil => cases found
  | cons head rest ih =>
      have passed (step : ∀ v, parseTimeWindow head = some v → timeInRange time v.1 v.2 = false)
          (later : currentWindow time rest = some w) : FirstWindow time (head :: rest) w := by
        obtain ⟨before, text, after, rfl, parsed, inside, earlier⟩ := ih later
        refine ⟨head :: before, text, after, rfl, parsed, inside, ?_⟩
        exact List.forall_mem_cons.mpr ⟨step, earlier⟩
      simp only [currentWindow, List.filterMap_cons] at found
      cases parsed : parseTimeWindow head with
      | none =>
          rw [parsed] at found
          exact passed (fun v wrong => by rw [parsed] at wrong; cases wrong) found
      | some v =>
          simp only [parsed, List.find?_cons] at found
          cases inside : timeInRange time v.1 v.2 with
          | true =>
              rw [inside] at found
              obtain rfl := Option.some.inj found
              exact ⟨[], head, rest, rfl, parsed, inside, fun _ none =>
                absurd none List.not_mem_nil⟩
          | false =>
              rw [inside] at found
              refine passed (fun u same => ?_) found
              obtain rfl := Option.some.inj (parsed.symm.trans same)
              exact inside

theorem local_time_mark (engine : PolicyEngine) (now : ClockReading) :
    ∃ m < 1440, engine.localTime now = ofMinutes m := by
  simp only [localTime, getCurrentTimeWithOffset]
  generalize secs : (((now.wall : Int) + engine.timezoneOffsetHours * 3600).emod 86400).toNat =
    secsToday
  have day : secsToday < 86400 := by
    have below := Int.emod_lt_of_pos
      ((now.wall : Int) + engine.timezoneOffsetHours * 3600) (b := 86400) (by decide)
    change (_ : Int).emod 86400 < _ at below
    omega
  refine ⟨secsToday / 60, by omega, ?_⟩
  simp only [ofMinutes, Prod.mk.injEq]
  omega

/-- The time lies in the window from now up to the minute it ends at, and no longer. -/
theorem window_around {m : Nat} (face : m < 1440) (first : FirstWindow (ofMinutes m) windows w) :
    ClockFace.marksLeft 1440 (minutesOf w.2) m = ClockFace.forward 1440 m (minutesOf w.2) ∧
      (∀ k < ClockFace.marksLeft 1440 (minutesOf w.2) m,
        timeInRange (ofMinutes ((m + k) % 1440)) w.1 w.2 = true) ∧
      timeInRange w.2 w.1 w.2 = false := by
  obtain ⟨-, text, -, -, parsed, inside, -⟩ := first
  obtain ⟨stop, last, ends⟩ := parse_time_window_mark parsed
  rw [ends, time_in_range_iff, minutesOf_ofMinutes] at inside
  rw [ends, minutesOf_ofMinutes]
  have apart : m ≠ stop := by
    rintro rfl
    exact ClockFace.stop_not_mem inside
  refine ⟨ClockFace.marks_left_eq_forward face last apart, fun k early => ?_, ?_⟩
  · rw [time_in_range_iff, minutesOf_ofMinutes]
    exact ClockFace.mem_add face last inside early
  · rw [← Bool.not_eq_true, time_in_range_iff, minutesOf_ofMinutes]
    exact ClockFace.stop_not_mem

/-- An expiry is given within a window only, and it lies the minutes from the
current one to the end of the first such window ahead. -/
theorem window_arithmetic (engine : PolicyEngine) (now : ClockReading) (windows : List String)
    (secs : now.wall < 2 ^ 62) (low : -(2 ^ 31) ≤ engine.timezoneOffsetHours)
    (high : engine.timezoneOffsetHours < 2 ^ 31) :
    currentTimeI64 now.wall engine.timezoneOffsetHours = engine.localTime now ∧
      (engine.calculateWindowExpiry now windows).isSome =
        (engine.isWithinTimeWindow now.wall windows).1 ∧
      ∀ expiry, engine.calculateWindowExpiry now windows = some expiry →
        ∃ w minutes, FirstWindow (engine.localTime now) windows w ∧
          expiry = now.instant + Duration.fromSecs (minutes * 60) ∧
          1 ≤ minutes ∧ minutes ≤ 1440 ∧
          minutes = ClockFace.forward 1440 (minutesOf (engine.localTime now)) (minutesOf w.2) ∧
          (∀ k < minutes,
            timeInRange (ofMinutes ((minutesOf (engine.localTime now) + k) % 1440)) w.1 w.2 =
              true) ∧
          timeInRange w.2 w.1 w.2 = false := by
  refine ⟨current_time_exact secs low high, ?_, fun expiry expires => ?_⟩
  · rw [calculate_window_expiry_eq, Option.isSome_map]
    rfl
  · rw [calculate_window_expiry_eq] at expires
    obtain ⟨w, found, rfl⟩ := Option.map_eq_some_iff.mp expires
    obtain ⟨m, face, here⟩ := local_time_mark engine now
    have first := current_window_first found
    obtain ⟨counted, stays, ends⟩ := window_around face (here ▸ first)
    have below : ClockFace.forward 1440 _ (minutesOf w.2) < 1440 := ClockFace.forward_lt face
    rw [minutesLeft, here, minutesOf_ofMinutes]
    refine ⟨w, _, here ▸ first, ?_, ClockFace.marks_left_pos face, ?_, counted, stays, ends⟩
    · simp only [Duration.fromSecs, minute, Nat.mul_assoc]
    · rw [counted]
      exact below.le

/-- Half past ten at night, in a window that ends at six. -/
theorem window_arithmetic_overnight :
    officeHours.calculateWindowExpiry (clockAt 0 (Duration.fromSecs 81000)) ["22:00-06:00"] =
        some (Duration.fromSecs 81000 + Duration.fromSecs (450 * 60)) ∧
      currentTimeI64 (clockAt 0 (Duration.fromSecs 81000)).wall 0 = (22, 30) :=
  ⟨by decide +kernel, (window_arithmetic officeHours (clockAt 0 (Duration.fromSecs 81000))
    ["22:00-06:00"]
    (by decide +kernel) (by decide) (by decide)).1.trans (by decide +kernel)⟩

end PolicyEngine
end P2pUsb
