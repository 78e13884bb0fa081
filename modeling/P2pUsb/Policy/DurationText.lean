import P2pUsb.Library.AsciiCase
import P2pUsb.Policy.Quantities

/-! The text of a duration: components with a unit each, and perhaps a last number of
seconds. What the configuration writes for whole seconds, it reads back. -/
namespace P2pUsb

/-- The whole seconds of a duration, `Duration::as_secs`. -/
def Duration.asSecs (d : Duration) : Nat := d / 1000000000

theorem Duration.as_secs_from_secs (n : Nat) : (Duration.fromSecs n).asSecs = n :=
  Nat.mul_div_cancel n (by decide)

def finishDuration (totalSecs : Nat) : Except String Duration :=
  if totalSecs = 0 then .error "Duration must be greater than 0"
  else .ok (Duration.fromSecs totalSecs)

def invalidNumber (currentNum : List Char) : Except String Duration :=
  .error ("Invalid number in duration: " ++ String.ofList currentNum)

/-- The loop over the characters of `s`; nothing for a panic. -/
def durationLoop (overflowChecks : Bool) (s : List Char) (totalSecs : Nat)
    (currentNum : List Char) :
    List Char → Option (Except String Duration)
  | [] =>
      if currentNum.isEmpty then some (finishDuration totalSecs)
      else match parseU64 currentNum with
        | none => some (invalidNumber currentNum)
        | some num => (addU64 overflowChecks totalSecs num).map finishDuration
  | c :: rest =>
      if c.isDigit then durationLoop overflowChecks s totalSecs (currentNum ++ [c]) rest
      else if currentNum.isEmpty then
        some (.error ("Invalid duration format: " ++ String.ofList s))
      else match parseU64 currentNum with
        | none => some (invalidNumber currentNum)
        | some num =>
            match c with
            | 'h' => (mulU64 overflowChecks num 3600).bind fun secs =>
                (addU64 overflowChecks totalSecs secs).bind fun totalSecs =>
                  durationLoop overflowChecks s totalSecs [] rest
            | 'm' => (mulU64 overflowChecks num 60).bind fun secs =>
                (addU64 overflowChecks totalSecs secs).bind fun totalSecs =>
                  durationLoop overflowChecks s totalSecs [] rest
            | 's' => (addU64 overflowChecks totalSecs num).bind fun totalSecs =>
                durationLoop overflowChecks s totalSecs [] rest
            | c => some (.error ("Invalid duration unit: " ++ String.singleton c))

def parseDuration (overflowChecks : Bool) (table : LowercaseTable) (text : String) :
    Option (Except String Duration) :=
  let s := toLowercase table (trim text.toList)
  durationLoop overflowChecks s 0 [] s

def formatDuration (d : Duration) : String :=
  let hours := d.asSecs / 3600
  let mins := d.asSecs % 3600 / 60
  let secs := d.asSecs % 60
  let result := (if hours > 0 then Nat.toDigits 10 hours ++ ['h'] else []) ++
    (if mins > 0 then Nat.toDigits 10 mins ++ ['m'] else [])
  String.ofList (if secs > 0 || result.isEmpty then result ++ Nat.toDigits 10 secs ++ ['s'] else
    result)

/-- `duration_serde::serialize` -/
def serializeDuration (duration : Option Duration) : Option String :=
  duration.map formatDuration

/-- `duration_serde::deserialize` -/
def deserializeDuration (overflowChecks : Bool) (table : LowercaseTable) :
    Option String → Option (Except String (Option Duration))
  | some s => (parseDuration overflowChecks table s).map fun parsed => parsed.map some
  | none => some (.ok none)

def unitSecs : Char → Option Nat
  | 'h' => some 3600
  | 'm' => some 60
  | 's' => some 1
  | _ => none

/-- One decimal digit at least. -/
def DecimalDigits (digits : List Char) (value : Nat) : Prop :=
  digits ≠ [] ∧ (∀ c ∈ digits, c.isDigit = true) ∧ value = Nat.ofDigitChars 10 digits 0

/-- Numbers, each with the letter of its unit. -/
inductive Components : List Char → List (Nat × Nat) → Prop
  | nil : Components [] []
  | cons {digits rest : List Char} {c : Char} {n unit : Nat} {cs : List (Nat × Nat)}
      (number : DecimalDigits digits n) (known : unitSecs c = some unit)
      (others : Components rest cs) : Components (digits ++ c :: rest) ((n, unit) :: cs)

def secsOf (cs : List (Nat × Nat)) : Nat := (cs.map fun c => c.1 * c.2).sum

/-- A last number without a unit counts seconds. -/
def DurationDenotes (s : List Char) (secs : Nat) : Prop :=
  ∃ head cs digits n, s = head ++ digits ∧ Components head cs ∧
    (digits = [] ∧ n = 0 ∨ DecimalDigits digits n) ∧ secs = secsOf cs + n

/-- In either build no operation overflows and an accepted text means its result. -/
def DurationExact (table : LowercaseTable) (text : String) : Prop :=
  ∀ overflowChecks, ∃ result, parseDuration overflowChecks table text = some result ∧
    ∀ d, result = .ok d → ∃ secs, DurationDenotes (toLowercase table (trim text.toList)) secs ∧
      d = Duration.fromSecs secs

/-- As far as the numbers fit words, so does every sum of components from the first one on. -/
def SumsFit (start : Nat) (s : List Char) : Prop :=
  ∀ head tail cs, s = head ++ tail → Components head cs → (∀ c ∈ cs, c.1 < u64Bound) →
    start + secsOf cs < u64Bound ∧
      ∀ n, DecimalDigits tail n → n < u64Bound → start + secsOf cs + n < u64Bound

def DurationFits (table : LowercaseTable) (text : String) : Prop :=
  SumsFit 0 (toLowercase table (trim text.toList))

variable {checks : Bool} {s err digits rest head tail : List Char} {c : Char} {n unit start : Nat}
  {cs : List (Nat × Nat)} {table : LowercaseTable} {text : String}

theorem secs_of_cons : secsOf ((n, unit) :: cs) = n * unit + secsOf cs := rfl

theorem DecimalDigits.parse (number : DecimalDigits digits n) :
    parseU64 digits = if n < u64Bound then some n else none := by
  have denotes : DecimalNumber digits n := ⟨[], digits, rfl, .inl rfl, number⟩
  split
  case isTrue fits => exact (parse_u64_iff digits n).mpr ⟨denotes, fits⟩
  case isFalse high =>
    refine Option.eq_none_iff_forall_ne_some.mpr fun m parsed => ?_
    obtain ⟨⟨sign, same, rfl, signed, number'⟩, fits⟩ := (parse_u64_iff digits m).mp parsed
    rcases signed with rfl | rfl
    · rw [number'.2.2, ← List.nil_append same, ← number.2.2] at fits
      exact high fits
    · exact absurd (number.2.1 '+' List.mem_cons_self) (by decide)

theorem loop_digits (all : ∀ c ∈ digits, c.isDigit = true) (current : List Char) :
    durationLoop checks err start current (digits ++ rest) =
      durationLoop checks err start (current ++ digits) rest := by
  induction digits generalizing current with
  | nil => rw [List.nil_append, List.append_nil]
  | cons d others ih =>
      obtain ⟨digit, all⟩ := List.forall_mem_cons.mp all
      rw [List.cons_append, durationLoop, if_pos digit, ih all, List.append_assoc,
        List.singleton_append]

theorem loop_component (number : DecimalDigits digits n) (fits : n < u64Bound)
    (known : unitSecs c = some unit) :
    durationLoop checks err start [] (digits ++ c :: rest) =
      (mulU64 checks n unit).bind fun secs => (addU64 checks start secs).bind fun total =>
        durationLoop checks err total [] rest := by
  have filled : digits.isEmpty = false := List.isEmpty_eq_false_iff.mpr number.1
  rw [loop_digits number.2.1, List.nil_append, durationLoop, number.parse, if_pos fits, filled]
  unfold unitSecs at known
  split at known
  case h_1 | h_2 =>
    obtain rfl := Option.some.inj known
    rfl
  case h_3 =>
    obtain rfl := Option.some.inj known
    rw [mulU64, Nat.mul_one, u64_fits fits]
    rfl
  case h_4 => cases known

theorem loop_last (number : DecimalDigits digits n) (fits : n < u64Bound) :
    durationLoop checks err start [] digits = (addU64 checks start n).map finishDuration := by
  have filled : digits.isEmpty = false := List.isEmpty_eq_false_iff.mpr number.1
  have read := @loop_digits checks err digits [] start number.2.1 []
  rw [List.append_nil, List.nil_append] at read
  rw [read, durationLoop, filled, number.parse, if_pos fits]
  rfl

/-- Components whose sum fits are added up one after the other. -/
theorem loop_components (parts : Components head cs) (small : ∀ c ∈ cs, c.1 < u64Bound)
    (fits : start + secsOf cs < u64Bound) :
    durationLoop checks err start [] (head ++ tail) =
      durationLoop checks err (start + secsOf cs) [] tail := by
  induction parts generalizing start with
  | nil => rfl
  | cons number known others ih =>
      obtain ⟨first, small⟩ := List.forall_mem_cons.mp small
      rw [secs_of_cons, ← Nat.add_assoc] at fits ⊢
      rw [List.append_assoc, List.cons_append, loop_component number first known, mulU64,
        u64_fits (by omega), Option.bind_some, addU64, u64_fits (by omega), Option.bind_some]
      exact ih small fits

/-- A sum that does not fit ends in a panic where the build checks for it. -/
theorem loop_overflow (parts : Components head cs) (small : ∀ c ∈ cs, c.1 < u64Bound)
    (fits : start < u64Bound) (large : u64Bound ≤ start + secsOf cs) :
    durationLoop true err start [] (head ++ tail) = none := by
  induction parts generalizing start with
  | nil => exact absurd fits (not_lt.mpr large)
  | @cons digits rest c n unit cs number known others ih =>
      obtain ⟨first, small⟩ := List.forall_mem_cons.mp small
      rw [secs_of_cons, ← Nat.add_assoc] at large
      rw [List.append_assoc, List.cons_append, loop_component number first known, mulU64]
      by_cases product : n * unit < u64Bound
      · rw [u64_fits product, Option.bind_some, addU64]
        by_cases sum : start + n * unit < u64Bound
        · rw [u64_fits sum, Option.bind_some]
          exact ih small sum large
        · rw [(u64_overflow (not_lt.mp sum)).1, Option.bind_none]
      · rw [(u64_overflow (not_lt.mp product)).1, Option.bind_none]

theorem split_digits (s : List Char) : ∃ digits rest, s = digits ++ rest ∧
    (∀ c ∈ digits, c.isDigit = true) ∧ ∀ c, rest.head? = some c → c.isDigit = false := by
  refine ⟨s.takeWhile Char.isDigit, s.dropWhile Char.isDigit, List.takeWhile_append_dropWhile.symm,
    fun c present => List.all_eq_true.mp List.all_takeWhile c present, fun c first => ?_⟩
  have stopped := List.head?_dropWhile_not Char.isDigit s
  rw [first] at stopped
  exact (Bool.not_eq_true _).mp (by simpa using stopped)

/-- The sums that fit from the start on, after the first component. -/
theorem SumsFit.after (fit : SumsFit start (digits ++ c :: rest)) (number : DecimalDigits digits n)
    (small : n < u64Bound) (known : unitSecs c = some unit) :
    start + n * unit < u64Bound ∧ SumsFit (start + n * unit) rest := by
  constructor
  · have first := fit (digits ++ c :: []) rest [(n, unit)] (by simp) (.cons number known .nil)
      (by simpa using small)
    simpa [secsOf] using first.1
  · rintro head tail cs rfl parts below
    have whole := fit (digits ++ c :: head) tail ((n, unit) :: cs) (by simp)
      (.cons number known parts) (List.forall_mem_cons.mpr ⟨small, below⟩)
    rwa [secs_of_cons, ← Nat.add_assoc] at whole

theorem finish_ok {total : Nat} {d : Duration} (accepted : finishDuration total = .ok d) :
    d = Duration.fromSecs total := by
  unfold finishDuration at accepted
  split at accepted
  · cases accepted
  · exact (Except.ok.inj accepted).symm

/-- Anything but a number that fits and a unit is an error. -/
theorem loop_rejects (all : ∀ c ∈ digits, c.isDigit = true) (stop : c.isDigit = false)
    (wrong : ∀ n unit, DecimalDigits digits n → n < u64Bound → unitSecs c ≠ some unit) :
    ∃ message, durationLoop checks err start [] (digits ++ c :: rest) = some (.error message) := by
  rw [loop_digits all, List.nil_append, durationLoop,
    if_neg (by rw [stop]; exact Bool.false_ne_true)]
  by_cases filled : digits = []
  · subst filled
    exact ⟨_, rfl⟩
  · have number : DecimalDigits digits _ := ⟨filled, all, rfl⟩
    rw [List.isEmpty_eq_false_iff.mpr filled, number.parse, if_neg Bool.false_ne_true]
    by_cases fits : Nat.ofDigitChars 10 digits 0 < u64Bound
    · have unknown := fun unit => wrong _ unit number fits
      simp only [if_pos fits]
      split
      case h_1 => exact absurd rfl (unknown 3600)
      case h_2 => exact absurd rfl (unknown 60)
      case h_3 => exact absurd rfl (unknown 1)
      case h_4 => exact ⟨_, rfl⟩
    · rw [if_neg fits]
      exact ⟨_, rfl⟩

theorem DurationDenotes.cons {secs : Nat} (denotes : DurationDenotes rest secs)
    (number : DecimalDigits digits n) (known : unitSecs c = some unit) :
    DurationDenotes (digits ++ c :: rest) (n * unit + secs) := by
  obtain ⟨head, cs, last, m, rfl, parts, trailing, rfl⟩ := denotes
  refine ⟨digits ++ c :: head, (n, unit) :: cs, last, m, ?_, .cons number known parts, trailing, ?_⟩
  · rw [List.append_assoc, List.cons_append]
  · rw [secs_of_cons, Nat.add_assoc]

/-- By induction on the length of what is still to be read. -/
theorem loop_exact (fit : SumsFit start s) :
    ∃ result, durationLoop checks err start [] s = some result ∧
      ∀ d, result = .ok d → ∃ secs, DurationDenotes s secs ∧ d =
        Duration.fromSecs (start + secs) := by
  induction length : s.length using Nat.strong_induction_on generalizing s start with
  | _ k ih =>
  obtain ⟨digits, rest, rfl, all, stop⟩ := split_digits s
  cases rest with
  | nil =>
      rw [List.append_nil] at fit ⊢
      by_cases filled : digits = []
      · subst filled
        exact ⟨finishDuration start, rfl, fun d accepted =>
          ⟨0, ⟨[], [], [], 0, rfl, .nil, .inl ⟨rfl, rfl⟩, rfl⟩, finish_ok accepted⟩⟩
      · have number : DecimalDigits digits _ := ⟨filled, all, rfl⟩
        by_cases small : Nat.ofDigitChars 10 digits 0 < u64Bound
        · have sum : start + Nat.ofDigitChars 10 digits 0 < u64Bound :=
            (fit [] digits [] rfl .nil nofun).2 _ number small
          rw [loop_last number small, addU64, u64_fits sum]
          exact ⟨_, rfl, fun d accepted =>
            ⟨_, ⟨[], [], digits, _, rfl, .nil, .inr number, (Nat.zero_add _).symm⟩,
              finish_ok accepted⟩⟩
        · have read := @loop_digits checks err digits [] start all []
          rw [List.append_nil, List.nil_append] at read
          rw [read, durationLoop, List.isEmpty_eq_false_iff.mpr filled, number.parse, if_neg small]
          exact ⟨_, rfl, nofun⟩
  | cons c rest =>
      by_cases known : ∃ n unit, DecimalDigits digits n ∧ n < u64Bound ∧ unitSecs c = some unit
      · obtain ⟨n, unit, number, small, known⟩ := known
        obtain ⟨sum, fit⟩ := fit.after number small known
        obtain ⟨result, run, exact'⟩ := ih rest.length (by rw [← length]; simp; omega) fit rfl
        refine ⟨result, ?_, fun d accepted => ?_⟩
        · rw [loop_component number small known, mulU64, u64_fits (by omega), Option.bind_some,
            addU64,
            u64_fits sum, Option.bind_some, run]
        · obtain ⟨secs, denotes, rfl⟩ := exact' d accepted
          exact ⟨_, denotes.cons number known, by rw [Nat.add_assoc]⟩
      · obtain ⟨message, rejected⟩ := @loop_rejects checks err digits rest c start all (stop c rfl)
          fun n unit number small found => known ⟨n, unit, number, small, found⟩
        exact ⟨_, rejected, nofun⟩

theorem duration_exact_iff (table : LowercaseTable) (text : String) :
    DurationExact table text ↔ DurationFits table text := by
  constructor
  · intro exact' head tail cs split parts small
    rw [Nat.zero_add]
    obtain ⟨result, run, -⟩ := exact' true
    rw [parseDuration] at run
    have sum : secsOf cs < u64Bound := by
      by_contra large
      have overflow := @loop_overflow (toLowercase table (trim text.toList)) head tail 0 cs parts
        small
        (by decide) (by omega)
      rw [← split, run] at overflow
      cases overflow
    refine ⟨sum, fun n number fits => ?_⟩
    by_contra large
    have read := @loop_components true (toLowercase table (trim text.toList)) head tail 0 cs parts
      small
      (by omega)
    rw [← split, run, loop_last number fits, Nat.zero_add, addU64,
      (u64_overflow (not_lt.mp large)).1] at read
    cases read
  · intro fits checks
    obtain ⟨result, run, exact'⟩ :=
      @loop_exact checks _ (toLowercase table (trim text.toList)) 0 fits
    refine ⟨result, run, fun d accepted => ?_⟩
    obtain ⟨secs, denotes, rfl⟩ := exact' d accepted
    exact ⟨secs, denotes, by rw [Nat.zero_add]⟩

theorem Components.append {a b : List Char} {as bs : List (Nat × Nat)} (first : Components a as)
    (second : Components b bs) : Components (a ++ b) (as ++ bs) := by
  induction first with
  | nil => exact second
  | cons number known others ih =>
      rw [List.append_assoc, List.cons_append]
      exact .cons number known ih

theorem decimal_to_digits (n : Nat) : DecimalDigits (Nat.toDigits 10 n) n :=
  ⟨Nat.toDigits_ne_nil, fun _ => Nat.isDigit_of_mem_toDigits (by decide) (by decide),
    Nat.ofDigitChars_ten_toDigits.symm⟩

/-- The components of the text that is written. -/
def writtenComponents (n : Nat) : List (Nat × Nat) :=
  (if n / 3600 > 0 then [(n / 3600, 3600)] else []) ++
    (if n % 3600 / 60 > 0 then [(n % 3600 / 60, 60)] else []) ++
    if n % 60 > 0 then [(n % 60, 1)] else []

theorem secs_of_written (n : Nat) : secsOf (writtenComponents n) = n := by
  have hours : ∀ k unit : Nat, secsOf (if k > 0 then [(k, unit)] else []) = k * unit := by
    intro k unit
    split
    case isTrue => exact Nat.add_zero _
    case isFalse zero =>
      rw [Nat.eq_zero_of_not_pos zero, Nat.zero_mul]
      rfl
  have sum : ∀ as bs : List (Nat × Nat), secsOf (as ++ bs) = secsOf as + secsOf bs := by
    intro as bs
    rw [secsOf, List.map_append, List.sum_append]
    rfl
  rw [writtenComponents, sum, sum, hours, hours, hours]
  omega

theorem format_parts (positive : 0 < n) :
    (formatDuration (Duration.fromSecs n)).toList =
      (if n / 3600 > 0 then Nat.toDigits 10 (n / 3600) ++ ['h'] else []) ++
        (if n % 3600 / 60 > 0 then Nat.toDigits 10 (n % 3600 / 60) ++ ['m'] else []) ++
        if n % 60 > 0 then Nat.toDigits 10 (n % 60) ++ ['s'] else [] := by
  simp only [formatDuration, Duration.as_secs_from_secs, String.toList_ofList]
  by_cases secs : n % 60 > 0
  · simp only [secs, decide_true, Bool.true_or, if_true, List.append_assoc]
  · have some : n / 3600 > 0 ∨ n % 3600 / 60 > 0 := by omega
    rcases some with hours | mins
    · simp [secs, hours]
    · simp [secs, mins]

theorem format_components (positive : 0 < n) :
    Components (formatDuration (Duration.fromSecs n)).toList (writtenComponents n) := by
  have part : ∀ (k : Nat) (c : Char) (unit : Nat), unitSecs c = some unit →
      Components (if k > 0 then Nat.toDigits 10 k ++ [c] else [])
        (if k > 0 then [(k, unit)] else []) := by
    intro k c unit known
    split
    · exact .cons (decimal_to_digits k) known .nil
    · exact .nil
  rw [format_parts positive, writtenComponents]
  exact ((part _ 'h' 3600 rfl).append (part _ 'm' 60 rfl)).append (part _ 's' 1 rfl)

/-- A character that neither trimming nor lowering changes. -/
def PlainChar (c : Char) : Prop := c.toNat < 128 ∧ c.toLower = c ∧ isWhiteSpace c = false

instance (c : Char) : Decidable (PlainChar c) :=
  inferInstanceAs (Decidable (_ ∧ _ ∧ _))

theorem digit_plain (digit : c.isDigit = true) : PlainChar c := by
  have bounds : 48 ≤ c.toNat ∧ c.toNat ≤ 57 := by
    simp only [Char.isDigit, Bool.and_eq_true, decide_eq_true_eq] at digit
    exact digit
  refine ⟨by omega, ?_, ?_⟩
  · rcases c.toLower_cases with same | ⟨letter, -, -⟩
    · exact same
    · omega
  · simp [isWhiteSpace]
    omega

theorem Components.plain (parts : Components s cs) : ∀ c ∈ s, PlainChar c := by
  induction parts with
  | nil => nofun
  | @cons digits rest c n unit cs number known others ih =>
      have letter : PlainChar c := by
        unfold unitSecs at known
        split at known
        case h_4 => cases known
        all_goals decide
      intro d present
      rcases List.mem_append.mp present with inDigits | inRest
      · exact digit_plain (number.2.1 d inDigits)
      · rcases List.mem_cons.mp inRest with rfl | later
        · exact letter
        · exact ih d later

theorem plain_lowercase (plain : ∀ c ∈ s, PlainChar c) (before : List Char) :
    toLowercaseFrom table before s = s := by
  induction s generalizing before with
  | nil => rfl
  | cons c rest ih =>
      obtain ⟨⟨ascii, small, -⟩, plain⟩ := List.forall_mem_cons.mp plain
      rw [toLowercaseFrom, if_pos ascii, small, ih plain, List.singleton_append]

theorem plain_trim (plain : ∀ c ∈ s, PlainChar c) : trim s = s := by
  have kept : ∀ text : List Char, (∀ c ∈ text, PlainChar c) → text.dropWhile isWhiteSpace =
    text := by
    intro text plain
    cases text with
    | nil => rfl
    | cons c rest => rw [List.dropWhile_cons_of_neg]; simp [(plain c List.mem_cons_self).2.2]
  rw [trim, kept s plain, kept s.reverse (fun c present => plain c (List.mem_reverse.mp present)),
    List.reverse_reverse]

/-- What is written for a session limit of whole seconds is read as that limit. -/
theorem duration_round_trip (checks : Bool) (table : LowercaseTable) (n : Nat) (positive : 0 < n)
    (word : n < u64Bound) :
    parseDuration checks table (formatDuration (Duration.fromSecs n)) =
        some (.ok (Duration.fromSecs n)) ∧
      deserializeDuration checks table (serializeDuration (some (Duration.fromSecs n))) =
        some (.ok (some (Duration.fromSecs n))) := by
  have parts := format_components positive
  have small : ∀ c ∈ writtenComponents n, c.1 < u64Bound := by
    intro c present
    simp only [writtenComponents, List.mem_append, List.mem_ite_nil_right,
      List.mem_singleton] at present
    rcases present with (⟨-, rfl⟩ | ⟨-, rfl⟩) | ⟨-, rfl⟩ <;> dsimp only <;> omega
  have read : parseDuration checks table (formatDuration (Duration.fromSecs n)) =
      some (.ok (Duration.fromSecs n)) := by
    rw [parseDuration, plain_trim parts.plain, toLowercase, plain_lowercase parts.plain]
    have summed := @loop_components checks (formatDuration (Duration.fromSecs n)).toList _ [] 0 _
      parts
      small (by rw [secs_of_written]; omega)
    rw [List.append_nil, secs_of_written, Nat.zero_add] at summed
    rw [summed, durationLoop, List.isEmpty_nil, if_pos rfl, finishDuration, if_neg (by omega)]
  refine ⟨read, ?_⟩
  rw [serializeDuration, Option.map_some, deserializeDuration, read]
  rfl

theorem duration_round_trip_session :
    parseDuration true (fun _ c _ => [c]) (formatDuration (Duration.fromSecs 5400)) =
      some (.ok (Duration.fromSecs 5400)) :=
  (duration_round_trip true _ 5400 (by decide) (by decide)).1

example : formatDuration (Duration.fromSecs 5400) = "1h30m" := by decide

end P2pUsb
