import P2pUsb.Network.RateLimiter
import P2pUsb.Policy.DurationText

/-! The text of a bandwidth limit. Like that of a duration it is exact or rejected only below the
bound of a word. -/
namespace P2pUsb

/-- The suffixes in the order in which they are tried, each with what the number is
multiplied by and then divided by. -/
def bandwidthUnits : List (String × Nat × Nat) := [
  ("gbps", 1000000000, 8), ("mbps", 1000000, 8), ("kbps", 1000, 8), ("bps", 1, 8),
  ("gb/s", 1000000000, 1), ("mb/s", 1000000, 1), ("kb/s", 1000, 1), ("b/s", 1, 1)]

/-- The result is nothing for a panic; without a known suffix the text is a number alone. -/
def parseBandwidth (overflowChecks : Bool) (table : LowercaseTable) (text : String) :
    Option (Option Nat) :=
  let s := toLowercase table (trim text.toList)
  match bandwidthUnits.find? fun unit => unit.1.toList.isSuffixOf s with
  | some (suffix, factor, divisor) =>
      match parseU64 (trim (s.take (s.length - suffix.toList.length))) with
      | some n => (mulU64 overflowChecks n factor).map fun product => some (product / divisor)
      | none => some none
  | none => some (parseU64 s)

namespace BandwidthLimit

def new (bytesPerSecond : Nat) (burstBytes : Option Nat) : BandwidthLimit where
  bytesPerSecond := bytesPerSecond
  burstBytes := burstBytes.getD bytesPerSecond

def fromStr (overflowChecks : Bool) (table : LowercaseTable) (text : String) :
    Option (Option BandwidthLimit) :=
  (parseBandwidth overflowChecks table text).map fun limit => limit.map fun bps => new bps none

end BandwidthLimit

/-- A number of the unit, with blanks around it, or a number of bytes; a rate in bits is
rounded down to whole bytes. -/
def BandwidthDenotes (s : List Char) (bytesPerSecond : Nat) : Prop :=
  (∃ suffix factor divisor number n, (suffix, factor, divisor) ∈ bandwidthUnits ∧
    s = number ++ suffix.toList ∧ DecimalNumber (trim number) n ∧
    bytesPerSecond = n * factor / divisor) ∨
  DecimalNumber s bytesPerSecond

/-- In either build no operation overflows and an accepted text means its result. -/
def BandwidthExact (table : LowercaseTable) (text : String) : Prop :=
  ∀ overflowChecks, ∃ result, parseBandwidth overflowChecks table text = some result ∧
    ∀ bps, result = some bps → BandwidthDenotes (toLowercase table (trim text.toList)) bps

/-- No number of the text that fits a word is too large for its unit. -/
def BandwidthFits (table : LowercaseTable) (text : String) : Prop :=
  ∀ suffix factor divisor number n, (suffix, factor, divisor) ∈ bandwidthUnits →
    toLowercase table (trim text.toList) = number ++ suffix.toList →
    DecimalNumber (trim number) n → n < u64Bound → n * factor < u64Bound

variable {suffix : String} {factor divisor n : Nat} {s number : List Char} {checks : Bool}
  {table : LowercaseTable} {text : String}

/-- No suffix of a larger unit hides another one. -/
theorem find_unit (listed : (suffix, factor, divisor) ∈ bandwidthUnits) (large : 1 < factor)
    (ends : suffix.toList <:+ s) :
    bandwidthUnits.find? (fun unit => unit.1.toList.isSuffixOf s) =
      some (suffix, factor, divisor) := by
  have apart {other : String} (differs : ¬ (other.toList <:+ suffix.toList ∨
      suffix.toList <:+ other.toList)) : other.toList.isSuffixOf s = false := by
    rw [← Bool.not_eq_true, List.isSuffixOf_iff_suffix]
    exact fun wrong => differs (List.suffix_or_suffix_of_suffix wrong ends)
  have here : suffix.toList.isSuffixOf s = true := List.isSuffixOf_iff_suffix.mpr ends
  simp only [bandwidthUnits, List.mem_cons, Prod.mk.injEq, List.not_mem_nil, or_false] at listed
  rcases listed with ⟨rfl, rfl, rfl⟩ | ⟨rfl, rfl, rfl⟩ | ⟨rfl, rfl, rfl⟩ | ⟨-, rfl, -⟩ |
    ⟨rfl, rfl, rfl⟩ | ⟨rfl, rfl, rfl⟩ | ⟨rfl, rfl, rfl⟩ | ⟨-, rfl, -⟩
  case inr.inr.inr.inl | inr.inr.inr.inr.inr.inr.inr => exact absurd large (lt_irrefl 1)
  all_goals simp (disch := decide) only [bandwidthUnits, List.find?_cons, here, apart]

theorem parse_with_unit (found : bandwidthUnits.find?
      (fun unit => unit.1.toList.isSuffixOf (toLowercase table (trim text.toList))) =
        some (suffix, factor, divisor))
    (split : toLowercase table (trim text.toList) = number ++ suffix.toList) :
    parseBandwidth checks table text = match parseU64 (trim number) with
      | some n => (mulU64 checks n factor).map fun product => some (product / divisor)
      | none => some none := by
  have cut : (number ++ suffix.toList).length - suffix.toList.length = number.length := by
    rw [List.length_append, Nat.add_sub_cancel]
  rw [split] at found
  simp only [parseBandwidth, split, found, cut, List.take_left']

theorem bandwidth_exact_iff (table : LowercaseTable) (text : String) :
    BandwidthExact table text ↔ BandwidthFits table text := by
  constructor
  · intro exact' suffix factor divisor number n listed split denotes small
    by_contra large
    have factorLarge : 1 < factor := by
      by_contra one
      have noMore := Nat.mul_le_mul_left n (not_lt.mp one)
      rw [Nat.mul_one] at noMore
      exact large (noMore.trans_lt small)
    have parsed := (parse_u64_iff _ n).mpr ⟨denotes, small⟩
    obtain ⟨result, run, -⟩ := exact' true
    rw [parse_with_unit (find_unit listed factorLarge ⟨number, split.symm⟩) split] at run
    simp only [parsed, mulU64, (u64_overflow (not_lt.mp large)).1, Option.map_none] at run
    cases run
  · intro fits checks
    cases found : bandwidthUnits.find?
        fun unit => unit.1.toList.isSuffixOf (toLowercase table (trim text.toList)) with
    | none =>
        refine ⟨parseU64 (toLowercase table (trim text.toList)), ?_, fun bps parsed => ?_⟩
        · simp only [parseBandwidth, found]
        · exact .inr ((parse_u64_iff _ bps).mp parsed).1
    | some unit =>
        obtain ⟨suffix, factor, divisor⟩ := unit
        have listed := List.mem_of_find?_eq_some found
        have ends := List.find?_some (p := fun unit : String × Nat × Nat =>
          unit.1.toList.isSuffixOf (toLowercase table (trim text.toList))) found
        obtain ⟨number, split⟩ := List.isSuffixOf_iff_suffix.mp ends
        rw [parse_with_unit found split.symm]
        cases parsed : parseU64 (trim number) with
        | none => exact ⟨none, rfl, fun _ wrong => absurd wrong.symm (Option.some_ne_none _)⟩
        | some n =>
            obtain ⟨denotes, small⟩ := (parse_u64_iff _ n).mp parsed
            have product := fits suffix factor divisor number n listed split.symm denotes small
            refine ⟨some (n * factor / divisor), ?_, ?_⟩
            · simp only [mulU64, u64_fits product, Option.map_some]
            · rintro bps same
              obtain rfl := Option.some.inj same
              exact .inl ⟨suffix, factor, divisor, number, n, listed, split.symm, denotes, rfl⟩

/-- A text is read exactly or rejected, without overflow, if and only if no product and no
sum of what it says is too large for a word. -/
theorem quantities_exact_iff (table : LowercaseTable) (text : String) :
    (BandwidthExact table text ↔ BandwidthFits table text) ∧
      (DurationExact table text ↔ DurationFits table text) :=
  ⟨bandwidth_exact_iff table text, duration_exact_iff table text⟩

/-- Twenty billion gigabits, and six million billion hours. -/
theorem quantities_wrap :
    parseBandwidth false (fun _ c _ => [c]) "20000000000Gbps" = some (some 194156990786306048) ∧
      parseDuration false (fun _ c _ => [c]) "6000000000000000h" =
        some (.ok (Duration.fromSecs 3153255926290448384)) ∧
      parseBandwidth true (fun _ c _ => [c]) "20000000000Gbps" = none ∧
      parseDuration true (fun _ c _ => [c]) "6000000000000000h" = none ∧
      ¬ BandwidthExact (fun _ c _ => [c]) "20000000000Gbps" ∧
      ¬ DurationExact (fun _ c _ => [c]) "6000000000000000h" := by
  have limit : parseBandwidth true (fun _ c _ => [c]) "20000000000Gbps" = none := by decide +kernel
  have duration : parseDuration true (fun _ c _ => [c]) "6000000000000000h" = none := by
    decide +kernel
  refine ⟨by decide +kernel, by decide +kernel, limit, duration, fun exact' => ?_, fun exact' => ?_⟩
  · obtain ⟨result, run, -⟩ := exact' true
    rw [limit] at run
    cases run
  · obtain ⟨result, run, -⟩ := exact' true
    rw [duration] at run
    cases run

end P2pUsb
