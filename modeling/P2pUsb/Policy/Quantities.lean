import P2pUsb.Policy.Engine

/-! What the parsers of configured quantities share: numbers in words of 64 bits, whose
arithmetic panics where the build profile checks for overflow and wraps where it does
not, and `str::to_lowercase`. -/
namespace P2pUsb

def u64Bound : Nat := 18446744073709551616

/-- The result of an operation on `u64`; nothing for a panic. -/
def u64 (overflowChecks : Bool) (value : Nat) : Option Nat :=
  if value < u64Bound then some value
  else if overflowChecks then none else some (value % u64Bound)

def mulU64 (overflowChecks : Bool) (a b : Nat) : Option Nat := u64 overflowChecks (a * b)

def addU64 (overflowChecks : Bool) (a b : Nat) : Option Nat := u64 overflowChecks (a + b)

/-- `str::parse::<u64>` -/
def parseU64 (text : List Char) : Option Nat :=
  let digits := match text with
    | '+' :: rest => rest
    | _ => text
  if digits.isEmpty then none
  else (parseDigits digits 0).filter fun value => decide (value < u64Bound)

/-- What the characters outside ASCII become in lower case; a capital sigma looks at the
text before and after it. -/
abbrev LowercaseTable := List Char → Char → List Char → List Char

def toLowercaseFrom (table : LowercaseTable) (before : List Char) : List Char → List Char
  | [] => []
  | c :: after =>
      (if c.toNat < 128 then [c.toLower] else table before c after) ++
        toLowercaseFrom table (before ++ [c]) after

/-- `str::to_lowercase` -/
def toLowercase (table : LowercaseTable) (text : List Char) : List Char :=
  toLowercaseFrom table [] text

/-- One decimal digit at least, and perhaps a plus sign. -/
def DecimalNumber (text : List Char) (value : Nat) : Prop :=
  ∃ sign digits, text = sign ++ digits ∧ (sign = [] ∨ sign = ['+']) ∧ digits ≠ [] ∧
    (∀ c ∈ digits, c.isDigit = true) ∧ value = Nat.ofDigitChars 10 digits 0

variable {checks : Bool} {text digits before : List Char} {value a b : Nat} {table : LowercaseTable}

theorem u64_fits (fits : value < u64Bound) : u64 checks value = some value := if_pos fits

theorem u64_overflow (high : u64Bound ≤ value) :
    u64 true value = none ∧ u64 false value = some (value % u64Bound) := by
  simp only [u64, not_lt.mpr high, if_true, if_false, Bool.false_eq_true, and_self]

theorem parse_digits_iff (digits : List Char) (start value : Nat) :
    parseDigits digits start = some value ↔
      (∀ c ∈ digits, c.isDigit = true) ∧ value = Nat.ofDigitChars 10 digits start := by
  induction digits generalizing start with
  | nil =>
      rw [parseDigits, Nat.ofDigitChars_nil, Option.some.injEq]
      exact ⟨fun same => ⟨nofun, same.symm⟩, fun same => same.2.symm⟩
  | cons c rest ih =>
      rw [parseDigits, Nat.ofDigitChars_cons, List.forall_mem_cons]
      cases digit : c.isDigit with
      | true => rw [if_pos rfl, ih, Nat.mul_comm, eq_self, true_and]
      | false => exact iff_of_false (fun wrong => nomatch wrong) (fun wrong => nomatch wrong.1.1)

/-- Digits without a sign. -/
theorem parse_unsigned_iff (digits : List Char) (value : Nat) :
    (if digits.isEmpty then none
      else (parseDigits digits 0).filter fun value => decide (value < u64Bound)) = some value ↔
      (digits ≠ [] ∧ (∀ c ∈ digits, c.isDigit = true) ∧ value = Nat.ofDigitChars 10 digits 0) ∧
        value < u64Bound := by
  cases digits with
  | nil => exact iff_of_false (fun wrong => nomatch wrong) (fun wrong => wrong.1.1 rfl)
  | cons c rest =>
      rw [List.isEmpty_cons, if_neg Bool.false_ne_true, Option.filter_eq_some_iff,
        parse_digits_iff, decide_eq_true_eq]
      exact and_congr_left fun _ => ⟨fun all => ⟨List.cons_ne_nil c rest, all⟩, fun all => all.2⟩

theorem parse_u64_iff (text : List Char) (value : Nat) :
    parseU64 text = some value ↔ DecimalNumber text value ∧ value < u64Bound := by
  unfold parseU64
  split
  case h_1 rest =>
    rw [parse_unsigned_iff]
    refine and_congr_left fun _ => ⟨fun number => ⟨['+'], rest, rfl, .inr rfl, number⟩, ?_⟩
    rintro ⟨sign, digits, text, rfl | rfl, number⟩
    · rw [List.nil_append] at text
      have plus := number.2.1 '+' (text ▸ List.mem_cons_self)
      exact absurd plus (by decide)
    · obtain rfl := (List.cons.inj text).2
      exact number
  case h_2 unsigned =>
    rw [parse_unsigned_iff]
    refine and_congr_left fun _ => ⟨fun number => ⟨[], text, rfl, .inl rfl, number⟩, ?_⟩
    rintro ⟨sign, digits, rfl, rfl | rfl, number⟩
    · exact number
    · exact absurd rfl (unsigned digits)

end P2pUsb
