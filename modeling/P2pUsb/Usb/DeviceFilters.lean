import Mathlib.Data.Nat.Digits.Defs
import Mathlib.Tactic.Ring
import P2pUsb.Usb.Manager

/-! The device filters of the configuration: the check that is made of them when it is
loaded, and the devices that they let in. The check takes a prefix that the other parser
does not know. -/
namespace P2pUsb

namespace Config.ServerConfig

def validateHexId (id : List Char) (name : String) : Except String Unit :=
  if !(['0', 'x'].isPrefixOf id) && !(['0', 'X'].isPrefixOf id) then
    .error ("Invalid " ++ name ++ " '" ++ String.ofList id ++
      "', must start with '0x' (e.g., '0x1234')")
  else
    let hexPart := id.drop 2
    -- the length is counted in bytes
    if hexPart.isEmpty || 4 < (hexPart.map Char.utf8Size).sum then
      .error ("Invalid " ++ name ++ " '" ++ String.ofList id ++ "', hex part must be 1-4 digits")
    else
      match fromStrRadix16 hexPart with
      | none =>
          .error ("Invalid " ++ name ++ " '" ++ String.ofList id ++ "', not a valid hex number")
      | some _ => .ok ()

def validatePart (part : List Char) (name : String) : Except String Unit :=
  if part = ['*'] then .ok () else validateHexId part name

def validateFilter (filter : String) : Except String Unit :=
  match filter.toList.splitOn ':' with
  | [vid, pid] => (validatePart vid "VID").bind fun _ => validatePart pid "PID"
  | _ => .error ("Invalid filter format '" ++ filter ++
      "', expected VID:PID (e.g., '0x1234:0x5678' or '0x1234:*')")

end Config.ServerConfig

/-- The value of one digit, in either case. -/
def HexDigit (c : Char) (value : Nat) : Prop :=
  c.toNat = '0'.toNat + value ∧ value < 10 ∨
  c.toNat + 10 = 'a'.toNat + value ∧ 10 ≤ value ∧ value < 16 ∨
  c.toNat + 10 = 'A'.toNat + value ∧ 10 ≤ value ∧ value < 16

/-- One digit at least, the first one with the highest weight, and perhaps a plus sign. -/
def HexNumber (text : List Char) (value : Nat) : Prop :=
  ∃ sign digits values, text = sign ++ digits ∧ (sign = [] ∨ sign = ['+']) ∧ digits ≠ [] ∧
    List.Forall₂ HexDigit digits values ∧ value = Nat.ofDigits 16 values.reverse

def UpperPrefix (part : List Char) : Prop := ['0', 'X'] <+: part

instance (part : List Char) : Decidable (UpperPrefix part) :=
  inferInstanceAs (Decidable (['0', 'X'] <+: part))

/-- A star stands for every identifier, and a number for itself. -/
def PartDenotes (part : List Char) (id : UInt16) : Prop :=
  part = ['*'] ∨ ∃ x text, part = '0' :: x :: text ∧ (x = 'x' ∨ x = 'X') ∧
    HexNumber text id.toNat

def FilterDenotes (filter : String) (vid pid : UInt16) : Prop :=
  ∃ vidPart pidPart, filter.toList.splitOn ':' = [vidPart, pidPart] ∧
    PartDenotes vidPart vid ∧ PartDenotes pidPart pid

section Numbers
variable {c : Char} {digits rest text : List Char} {value start d e : Nat}

theorem hex_digit_iff (c : Char) (value : Nat) : HexDigit c value ↔
    c.toNat = 48 + value ∧ value < 10 ∨ c.toNat + 10 = 97 + value ∧ 10 ≤ value ∧ value < 16 ∨
      c.toNat + 10 = 65 + value ∧ 10 ≤ value ∧ value < 16 := Iff.rfl

theorem HexDigit.unique (h : HexDigit c d) (h' : HexDigit c e) : d = e := by
  rw [hex_digit_iff] at h h'
  omega

theorem is_digit_iff (c : Char) : c.isDigit = true ↔ 48 ≤ c.toNat ∧ c.toNat ≤ 57 := by
  rw [Char.isDigit, Bool.and_eq_true, decide_eq_true_eq, decide_eq_true_eq]
  exact and_congr UInt32.le_iff_toNat_le UInt32.le_iff_toNat_le

theorem is_letter_iff (c low high : Char) :
    low ≤ c ∧ c ≤ high ↔ low.toNat ≤ c.toNat ∧ c.toNat ≤ high.toNat :=
  and_congr UInt32.le_iff_toNat_le UInt32.le_iff_toNat_le

/-- The parser goes on with the value of a digit, or stops. -/
theorem parse_digit (c : Char) (rest : List Char) (start : Nat) :
    (∃ d, HexDigit c d ∧
        parseHexDigits (c :: rest) start = parseHexDigits rest (start * 16 + d)) ∨
      (∀ d, ¬ HexDigit c d) ∧ parseHexDigits (c :: rest) start = none := by
  have zero : '0'.toNat = 48 := rfl
  have a : 'a'.toNat = 97 := rfl
  have A : 'A'.toNat = 65 := rfl
  rw [parseHexDigits, zero, a, A]
  split
  case isTrue decimal =>
    rw [is_digit_iff] at decimal
    exact .inl ⟨c.toNat - 48, (hex_digit_iff c _).mpr (by omega), rfl⟩
  case isFalse decimal =>
  rw [is_digit_iff] at decimal
  split
  case isTrue lower =>
    have bounds := (is_letter_iff c 'a' 'f').mp lower
    rw [a, show 'f'.toNat = 102 from rfl] at bounds
    exact .inl ⟨c.toNat - 97 + 10, (hex_digit_iff c _).mpr (by omega), rfl⟩
  case isFalse lower =>
  rw [is_letter_iff c 'a' 'f', a, show 'f'.toNat = 102 from rfl] at lower
  split
  case isTrue upper =>
    have bounds := (is_letter_iff c 'A' 'F').mp upper
    rw [A, show 'F'.toNat = 70 from rfl] at bounds
    exact .inl ⟨c.toNat - 65 + 10, (hex_digit_iff c _).mpr (by omega), rfl⟩
  case isFalse upper =>
    rw [is_letter_iff c 'A' 'F', A, show 'F'.toNat = 70 from rfl] at upper
    refine .inr ⟨fun d digit => ?_, rfl⟩
    rw [hex_digit_iff] at digit
    omega

theorem parse_hex_digits_iff (digits : List Char) (start value : Nat) :
    parseHexDigits digits start = some value ↔ ∃ values, List.Forall₂ HexDigit digits values ∧
      value = start * 16 ^ values.length + Nat.ofDigits 16 values.reverse := by
  induction digits generalizing start with
  | nil =>
      rw [parseHexDigits, Option.some.injEq]
      constructor
      · rintro rfl
        exact ⟨[], .nil, (Nat.mul_one start).symm⟩
      · rintro ⟨values, all, same⟩
        cases all
        exact (same.trans (Nat.mul_one start)).symm
  | cons c rest ih =>
      rcases parse_digit c rest start with ⟨d, digit, goes⟩ | ⟨none, stops⟩
      · rw [goes, ih]
        have shift : ∀ values : List Nat, (start * 16 + d) * 16 ^ values.length +
            Nat.ofDigits 16 values.reverse = start * 16 ^ (d :: values).length +
              Nat.ofDigits 16 (d :: values).reverse := by
          intro values
          rw [List.reverse_cons, Nat.ofDigits_append, List.length_reverse,
            Nat.ofDigits_singleton, List.length_cons, Nat.pow_succ]
          ring
        constructor
        · rintro ⟨values, all, same⟩
          exact ⟨d :: values, .cons digit all, same.trans (shift values)⟩
        · rintro ⟨values, all, same⟩
          obtain ⟨d', values, digit', others, rfl⟩ := List.forall₂_cons_left_iff.mp all
          obtain rfl := digit.unique digit'
          exact ⟨values, others, same.trans (shift values).symm⟩
      · rw [stops]
        refine iff_of_false (fun wrong => nomatch wrong) ?_
        rintro ⟨values, all, -⟩
        obtain ⟨d, _, digit, -, -⟩ := List.forall₂_cons_left_iff.mp all
        exact none d digit

/-- Digits without a sign. -/
theorem parse_number_iff (digits : List Char) (value : Nat) :
    (if digits.isEmpty then none
      else (parseHexDigits digits 0).filter fun value => decide (value < 65536)) = some value ↔
      (digits ≠ [] ∧ ∃ values, List.Forall₂ HexDigit digits values ∧
        value = Nat.ofDigits 16 values.reverse) ∧ value < 65536 := by
  cases digits with
  | nil => exact iff_of_false (fun wrong => nomatch wrong) (fun wrong => wrong.1.1 rfl)
  | cons c rest =>
      rw [List.isEmpty_cons, if_neg Bool.false_ne_true, Option.filter_eq_some_iff,
        parse_hex_digits_iff, decide_eq_true_eq]
      simp only [Nat.zero_mul, Nat.zero_add]
      exact ⟨fun parsed => ⟨⟨List.cons_ne_nil c rest, parsed.1⟩, parsed.2⟩,
        fun number => ⟨number.1.2, number.2⟩⟩

theorem plus_not_digit : ¬ HexDigit '+' value := by
  rw [hex_digit_iff, show '+'.toNat = 43 from rfl]
  omega

/-- What the parser takes is a number that fits into 16 bits. -/
theorem from_str_radix_iff (text : List Char) (value : Nat) :
    fromStrRadix16 text = some value ↔ HexNumber text value ∧ value < 65536 := by
  unfold fromStrRadix16
  split
  case h_1 rest =>
    rw [parse_number_iff]
    refine and_congr_left fun _ => ⟨fun number => ?_, ?_⟩
    · obtain ⟨some, values, all, same⟩ := number
      exact ⟨['+'], rest, values, rfl, .inr rfl, some, all, same⟩
    · rintro ⟨sign, digits, values, text, rfl | rfl, some, all, same⟩
      · rw [List.nil_append] at text
        rw [← text] at all
        obtain ⟨_, _, digit, -, -⟩ := List.forall₂_cons_left_iff.mp all
        exact absurd digit plus_not_digit
      · obtain rfl := (List.cons.inj text).2
        exact ⟨some, values, all, same⟩
  case h_2 unsigned =>
    rw [parse_number_iff]
    refine and_congr_left fun _ => ⟨fun number => ?_, ?_⟩
    · obtain ⟨some, values, all, same⟩ := number
      exact ⟨[], text, values, rfl, .inl rfl, some, all, same⟩
    · rintro ⟨sign, digits, values, rfl, rfl | rfl, some, all, same⟩
      · exact ⟨some, values, all, same⟩
      · exact absurd rfl (unsigned digits)

end Numbers

section Parts
variable {part text : List Char} {id : UInt16} {value : Nat}

/-- The two prefixes that the check of the configuration takes. -/
theorem prefixed
    (begins : ¬ (!(['0', 'x'].isPrefixOf part) && !(['0', 'X'].isPrefixOf part)) = true) :
    ∃ x text, part = '0' :: x :: text ∧ (x = 'x' ∨ x = 'X') := by
  have either : ['0', 'x'] <+: part ∨ ['0', 'X'] <+: part := by
    rw [← List.isPrefixOf_iff_prefix, ← List.isPrefixOf_iff_prefix]
    by_contra neither
    rw [not_or, Bool.not_eq_true, Bool.not_eq_true] at neither
    rw [neither.1, neither.2] at begins
    exact begins rfl
  rcases either with ⟨text, rfl⟩ | ⟨text, rfl⟩
  · exact ⟨'x', text, rfl, .inl rfl⟩
  · exact ⟨'X', text, rfl, .inr rfl⟩

/-- What the check of the configuration takes. -/
theorem validate_part_ok {name : String}
    (accepted : Config.ServerConfig.validatePart part name = .ok ()) :
    part = ['*'] ∨ ∃ x text value, part = '0' :: x :: text ∧ (x = 'x' ∨ x = 'X') ∧
      HexNumber text value ∧ value < 65536 := by
  unfold Config.ServerConfig.validatePart at accepted
  split at accepted
  case isTrue star => exact .inl star
  unfold Config.ServerConfig.validateHexId at accepted
  split at accepted
  case isTrue => cases accepted
  case isFalse begins =>
  obtain ⟨x, text, rfl, x_or⟩ := prefixed begins
  dsimp only at accepted
  split at accepted
  case isTrue => cases accepted
  case isFalse =>
  split at accepted
  case h_1 => cases accepted
  case h_2 value parsed =>
    obtain ⟨number, small⟩ := (from_str_radix_iff _ value).mp parsed
    exact .inr ⟨x, text, value, rfl, x_or, number, small⟩

/-- A number begins with a digit or a sign, so it has no prefix of its own. -/
theorem number_not_prefixed {c : Char} (letter : c = 'x' ∨ c = 'X') :
    ¬ HexNumber ('0' :: c :: text) value := by
  rintro ⟨sign, digits, values, same, rfl | rfl, -, all, -⟩
  · rw [List.nil_append] at same
    rw [← same] at all
    obtain ⟨_, _, -, others, -⟩ := List.forall₂_cons_left_iff.mp all
    obtain ⟨d, _, digit, -, -⟩ := List.forall₂_cons_left_iff.mp others
    rw [hex_digit_iff] at digit
    rcases letter with rfl | rfl
    · rw [show 'x'.toNat = 120 from rfl] at digit
      omega
    · rw [show 'X'.toNat = 88 from rfl] at digit
      omega
  · exact absurd (List.cons.inj same).1 (by decide)

theorem trim_number (number : HexNumber text value) : trimStart0x text = text := by
  unfold trimStart0x
  split
  case h_1 rest => exact absurd number (number_not_prefixed (.inl rfl))
  case h_2 => rfl

/-- An accepted part that does not begin with the capital letter matches what it denotes,
and one that does matches nothing. -/
theorem filter_part_matches_iff {name : String}
    (accepted : Config.ServerConfig.validatePart part name = .ok ()) (id : UInt16) :
    filterPartMatches part id = true ↔ PartDenotes part id ∧ ¬ UpperPrefix part := by
  rw [filterPartMatches, Bool.or_eq_true, beq_iff_eq, beq_iff_eq]
  rcases validate_part_ok accepted with rfl | ⟨x, text, value, rfl, x_or, number, small⟩
  · exact iff_of_true (.inl rfl) ⟨.inl rfl, by decide⟩
  have not_star : ('0' :: x :: text) ≠ ['*'] := fun same =>
    absurd (List.cons.inj same).1 (by decide)
  rw [or_iff_right not_star]
  rcases x_or with rfl | rfl
  · have lower : ¬ UpperPrefix ('0' :: 'x' :: text) := by
      rintro ⟨rest, same⟩
      exact absurd (List.cons.inj (List.cons.inj same).2).1 (by decide)
    have trimmed : trimStart0x ('0' :: 'x' :: text) = text := by
      rw [trimStart0x, trim_number number]
    rw [trimmed, from_str_radix_iff, and_iff_left id.toNat_lt, and_iff_left lower]
    constructor
    · exact fun denoted => .inr ⟨'x', text, rfl, .inl rfl, denoted⟩
    · rintro (star | ⟨y, rest, same, -, denoted⟩)
      · exact absurd star not_star
      · obtain ⟨-, tail⟩ := List.cons.inj same
        rw [(List.cons.inj tail).2]
        exact denoted
  · have upper : UpperPrefix ('0' :: 'X' :: text) := ⟨text, rfl⟩
    have kept : trimStart0x ('0' :: 'X' :: text) = '0' :: 'X' :: text := by
      unfold trimStart0x
      split
      case h_1 same => exact absurd (List.cons.inj (List.cons.inj same).2).1 (by decide)
      case h_2 => rfl
    rw [kept, from_str_radix_iff]
    exact iff_of_false (fun parsed => number_not_prefixed (.inr rfl) parsed.1)
      (fun both => both.2 upper)

theorem validate_part_denotes {name : String}
    (accepted : Config.ServerConfig.validatePart part name = .ok ()) :
    ∃ id, PartDenotes part id := by
  rcases validate_part_ok accepted with star | ⟨x, text, value, same, x_or, number, small⟩
  · exact ⟨0, .inl star⟩
  · refine ⟨.ofNat value, .inr ⟨x, text, same, x_or, ?_⟩⟩
    rw [UInt16.toNat_ofNat_of_lt' small]
    exact number

end Parts

section Filters
variable {filter : String}

theorem validate_filter_ok (accepted : Config.ServerConfig.validateFilter filter = .ok ()) :
    ∃ vidPart pidPart, filter.toList.splitOn ':' = [vidPart, pidPart] ∧
      Config.ServerConfig.validatePart vidPart "VID" = .ok () ∧
      Config.ServerConfig.validatePart pidPart "PID" = .ok () := by
  unfold Config.ServerConfig.validateFilter at accepted
  split at accepted
  case h_1 vidPart pidPart parts =>
    refine ⟨vidPart, pidPart, parts, ?_⟩
    cases vid : Config.ServerConfig.validatePart vidPart "VID" with
    | error text => rw [vid] at accepted; cases accepted
    | ok =>
        rw [vid] at accepted
        exact ⟨rfl, accepted⟩
  case h_2 => cases accepted

theorem check_filter_list (vid pid : UInt16) (filters : List String) :
    DeviceManager.checkFilter vid pid filters = true ↔
      filters = [] ∨ ∃ filter ∈ filters, DeviceManager.checkFilter vid pid [filter] = true := by
  unfold DeviceManager.checkFilter
  simp only [List.isEmpty_cons, Bool.false_or, List.any_cons, List.any_nil, Bool.or_false]
  rw [Bool.or_eq_true, List.isEmpty_iff, List.any_eq_true]

theorem check_filter_iff {vidPart pidPart : List Char}
    (parts : filter.toList.splitOn ':' = [vidPart, pidPart]) (vid pid : UInt16) :
    DeviceManager.checkFilter vid pid [filter] = true ↔
      filterPartMatches vidPart vid = true ∧ filterPartMatches pidPart pid = true := by
  simp only [DeviceManager.checkFilter, List.isEmpty_cons, List.any_cons, List.any_nil,
    Bool.or_false, Bool.false_or, parts, Bool.and_eq_true]

/-- An accepted filter lets in what it denotes if and only if it is written without the capital
letter, or denotes something else anyway; so it is right for every device if and only if it is
written so. A list lets in what one of its filters does. -/
theorem filter_means_what_is_accepted
    (accepted : Config.ServerConfig.validateFilter filter = .ok ()) :
    (∀ vid pid, (DeviceManager.checkFilter vid pid [filter] = true ↔
        FilterDenotes filter vid pid) ↔
      (FilterDenotes filter vid pid → ∀ part ∈ filter.toList.splitOn ':', ¬ UpperPrefix part)) ∧
    ((∀ vid pid, DeviceManager.checkFilter vid pid [filter] = true ↔
        FilterDenotes filter vid pid) ↔
      ∀ part ∈ filter.toList.splitOn ':', ¬ UpperPrefix part) ∧
    ∀ vid pid filters, DeviceManager.checkFilter vid pid filters = true ↔
      filters = [] ∨ ∃ f ∈ filters, DeviceManager.checkFilter vid pid [f] = true := by
  obtain ⟨vidPart, pidPart, parts, vid_ok, pid_ok⟩ := validate_filter_ok accepted
  have denotes : ∀ vid pid, FilterDenotes filter vid pid ↔
      PartDenotes vidPart vid ∧ PartDenotes pidPart pid := by
    intro vid pid
    constructor
    · rintro ⟨v, p, same, both⟩
      rw [parts, List.cons.injEq, List.cons.injEq] at same
      rw [same.1, same.2.1]
      exact both
    · exact fun both => ⟨vidPart, pidPart, parts, both⟩
  have matches_iff : ∀ vid pid, DeviceManager.checkFilter vid pid [filter] = true ↔
      FilterDenotes filter vid pid ∧ ¬ UpperPrefix vidPart ∧ ¬ UpperPrefix pidPart := by
    intro vid pid
    rw [check_filter_iff parts, filter_part_matches_iff vid_ok, filter_part_matches_iff pid_ok,
      denotes]
    exact ⟨fun all => ⟨⟨all.1.1, all.2.1⟩, all.1.2, all.2.2⟩,
      fun all => ⟨⟨all.1.1, all.2.1⟩, all.1.2, all.2.2⟩⟩
  have lower : (∀ part ∈ filter.toList.splitOn ':', ¬ UpperPrefix part) ↔
      ¬ UpperPrefix vidPart ∧ ¬ UpperPrefix pidPart := by
    rw [parts, List.forall_mem_cons, List.forall_mem_singleton]
  have exact_for : ∀ vid pid, (DeviceManager.checkFilter vid pid [filter] = true ↔
        FilterDenotes filter vid pid) ↔
      (FilterDenotes filter vid pid → ∀ part ∈ filter.toList.splitOn ':', ¬ UpperPrefix part) := by
    intro vid pid
    rw [matches_iff, lower, and_iff_left_iff_imp]
  refine ⟨exact_for, ⟨fun all => ?_, fun written vid pid =>
    (exact_for vid pid).mpr fun _ => written⟩, check_filter_list⟩
  obtain ⟨vid, vid_denoted⟩ := validate_part_denotes vid_ok
  obtain ⟨pid, pid_denoted⟩ := validate_part_denotes pid_ok
  exact (exact_for vid pid).mp (all vid pid) ((denotes vid pid).mpr ⟨vid_denoted, pid_denoted⟩)

/-- A prefix of each kind of part. -/
theorem filter_means_what_is_accepted_vendor :
    Config.ServerConfig.validateFilter "0x1a2B:*" = .ok () ∧
      (DeviceManager.checkFilter 0x1a2b 7 ["0x1a2B:*"] = true ↔
        FilterDenotes "0x1a2B:*" 0x1a2b 7) :=
  ⟨by decide, (filter_means_what_is_accepted (by decide)).2.1.mpr (by decide) 0x1a2b 7⟩

/-- The capital letter is accepted, and then nothing matches. -/
theorem capital_prefix_matches_nothing :
    ¬ ∀ filter, Config.ServerConfig.validateFilter filter = .ok () → ∀ vid pid,
      DeviceManager.checkFilter vid pid [filter] = true ↔ FilterDenotes filter vid pid := by
  intro agrees
  have number : HexNumber ['1', '2', '3', '4'] 0x1234 :=
    ((from_str_radix_iff _ _).mp (by decide)).1
  have denoted : FilterDenotes "0X1234:*" 0x1234 0 :=
    ⟨['0', 'X', '1', '2', '3', '4'], ['*'], by decide,
      .inr ⟨'X', ['1', '2', '3', '4'], rfl, .inr rfl, number⟩, .inl rfl⟩
  have found := (agrees "0X1234:*" (by decide) 0x1234 0).mpr denoted
  exact absurd found (by decide)

end Filters
end P2pUsb
