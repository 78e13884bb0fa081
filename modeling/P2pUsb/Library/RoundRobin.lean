import P2pUsb.Library.ClockFace

/-! Going round `n` places, each time from the place after the last one taken. Whoever waits
comes nearer with each turn that another one takes. -/
namespace RoundRobin
variable {n start pos i : Nat}

/-- The place looked at in a step of a turn. -/
def place (n start i : Nat) : Nat := (start + i) % n

/-- How far ahead a place is. -/
def ahead (n start pos : Nat) : Nat := ClockFace.forward n (start % n) pos

theorem ahead_lt (filled : 0 < n) (start pos : Nat) : ahead n start pos < n :=
  ClockFace.forward_lt (Nat.mod_lt start filled)

theorem ahead_mod (n start pos : Nat) : ahead n (start % n) pos = ahead n start pos := by
  rw [ahead, ahead, Nat.mod_mod]

theorem mod_of_lt_twice (h : i < 2 * n) : i % n = if i < n then i else i - n := by
  split
  case isTrue lower => exact Nat.mod_eq_of_lt lower
  case isFalse upper =>
    rw [Nat.mod_eq_sub_mod (by omega), Nat.mod_eq_of_lt (by omega)]

theorem place_eq (filled : 0 < n) (step : i < n) :
    place n start i = if start % n + i < n then start % n + i else start % n + i - n := by
  have lower := Nat.mod_lt start filled
  rw [place, ← Nat.mod_add_mod]
  exact mod_of_lt_twice (by omega)

theorem ahead_eq (inside : pos < n) (start : Nat) :
    ahead n start pos = if start % n ≤ pos then pos - start % n else pos + n - start % n := by
  have lower := Nat.mod_lt start (Nat.lt_of_le_of_lt (Nat.zero_le pos) inside)
  rw [ahead, ClockFace.forward, mod_of_lt_twice (by omega)]
  split <;> split <;> omega

theorem place_ahead (inside : pos < n) (start : Nat) : place n start (ahead n start pos) = pos := by
  have filled := Nat.lt_of_le_of_lt (Nat.zero_le pos) inside
  have lower := Nat.mod_lt start filled
  rw [place_eq filled (ahead_lt filled start pos), ahead_eq inside]
  split <;> split <;> omega

/-- A turn that looks at fewer places than are ahead ends nearer. -/
theorem ahead_next (inside : pos < n) (early : i < ahead n start pos) :
    ahead n (place n start i + 1) pos < ahead n start pos := by
  have filled := Nat.lt_of_le_of_lt (Nat.zero_le pos) inside
  have lower := Nat.mod_lt start filled
  have bound := ahead_lt filled start pos
  have taken : place n start i < n := Nat.mod_lt _ filled
  have next : (place n start i + 1) % n =
      if place n start i + 1 < n then place n start i + 1 else place n start i + 1 - n :=
    mod_of_lt_twice (by omega)
  rw [ahead_eq inside] at early bound ⊢
  rw [ahead_eq inside, next, place_eq filled (by omega)]
  split at early <;> split <;> split <;> split <;> omega

/-- If a turn ends with the first place that is ready, whoever is ready takes it or comes
nearer. -/
theorem taken_or_nearer {Ready : Nat → Prop} (inside : pos < n) (ready : Ready pos)
    (first : ∀ j < i, ¬ Ready (place n start j)) :
    place n start i = pos ∨ ahead n (place n start i + 1) pos < ahead n start pos := by
  have waits := place_ahead inside start
  rcases Nat.lt_trichotomy i (ahead n start pos) with early | now | late
  · exact .inr (ahead_next inside early)
  · exact .inl (now ▸ waits)
  · exact absurd (waits.symm ▸ ready) (first _ late)

end RoundRobin
