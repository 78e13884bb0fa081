import Mathlib.Data.String.Basic
import Mathlib.Tactic.Ring

/-! Numbers in decimal with leading zeros. Where the width is enough for all of them, the order
of the texts is that of the numbers, field by field. -/
namespace FixedWidth

/-- At least `width` digits. -/
def decimal (width n : Nat) : List Char := (Nat.toDigits 10 n).leftpad width '0'

variable {as bs xs ys : List Char} {c : Char} {width n m : Nat}

theorem append_lt_iff (width : as.length = bs.length) :
    as ++ xs < bs ++ ys ↔ as < bs ∨ as = bs ∧ xs < ys := by
  induction as generalizing bs with
  | nil =>
      obtain rfl := List.length_eq_zero_iff.mp width.symm
      simp
  | cons a as ih =>
      obtain _ | ⟨b, bs⟩ := bs
      · exact (Nat.succ_ne_zero _ width).elim
      · simp only [List.cons_append, List.cons_lt_cons_iff, ih (Nat.succ.inj width),
          List.cons.injEq]
        tauto

/-- Blocks of one size, by their number and by the place in the block. -/
theorem block_lt_iff {size p q x y : Nat} (first : x < size) (second : y < size) :
    size * p + x < size * q + y ↔ p < q ∨ p = q ∧ x < y := by
  have ahead : ∀ {p q x y : Nat}, x < size → p < q → size * p + x < size * q + y := by
    intro p q x y inside lt
    calc size * p + x < size * (p + 1) := by rw [Nat.mul_succ]; omega
      _ ≤ size * q := Nat.mul_le_mul_left size lt
      _ ≤ size * q + y := Nat.le_add_right _ _
  obtain lt | rfl | gt := lt_trichotomy p q
  · exact iff_of_true (ahead first lt) (.inl lt)
  · simp
  · refine iff_of_false (ahead second gt).asymm ?_
    omega

theorem digits_value_cons (c : Char) (cs : List Char) : Nat.ofDigitChars 10 (c :: cs) 0 =
    10 ^ cs.length * (c.toNat - '0'.toNat) + Nat.ofDigitChars 10 cs 0 := by
  rw [Nat.ofDigitChars_cons, Nat.ofDigitChars_eq_ofDigitChars_zero, Nat.mul_zero, Nat.zero_add]

theorem digit_le (digit : c.isDigit = true) : '0'.toNat ≤ c.toNat ∧ c.toNat ≤ '9'.toNat :=
  Char.isDigit_iff_toNat.mp digit

theorem digits_value_lt (digits : ∀ c ∈ as, c.isDigit = true) :
    Nat.ofDigitChars 10 as 0 < 10 ^ as.length := by
  induction as with
  | nil => simp
  | cons a as ih =>
      have rest := ih fun c mem => digits c (List.mem_cons_of_mem a mem)
      have top : a.toNat - '0'.toNat ≤ 9 :=
        Nat.sub_le_sub_right (digit_le (digits a List.mem_cons_self)).2 _
      have head := Nat.mul_le_mul_left (10 ^ as.length) top
      rw [digits_value_cons, List.length_cons, pow_succ]
      omega

theorem digits_lt_iff (width : as.length = bs.length) (first : ∀ c ∈ as, c.isDigit = true)
    (second : ∀ c ∈ bs, c.isDigit = true) :
    as < bs ↔ Nat.ofDigitChars 10 as 0 < Nat.ofDigitChars 10 bs 0 := by
  induction as generalizing bs with
  | nil =>
      obtain rfl := List.length_eq_zero_iff.mp width.symm
      simp
  | cons a as ih =>
      obtain _ | ⟨b, bs⟩ := bs
      · exact (Nat.succ_ne_zero _ width).elim
      · have width := Nat.succ.inj width
        have lefts := fun c mem => first c (List.mem_cons_of_mem a mem)
        have rights := fun c mem => second c (List.mem_cons_of_mem b mem)
        have left := digit_le (first a List.mem_cons_self)
        have right := digit_le (second b List.mem_cons_self)
        have order : a < b ↔ a.toNat - '0'.toNat < b.toNat - '0'.toNat := by
          rw [Nat.sub_lt_sub_iff_right left.1]
          exact UInt32.lt_iff_toNat_lt
        have same : a = b ↔ a.toNat - '0'.toNat = b.toNat - '0'.toNat := by
          rw [← Char.toNat_inj]
          omega
        rw [digits_value_cons, digits_value_cons, width,
          block_lt_iff (width ▸ digits_value_lt lefts) (digits_value_lt rights),
          List.cons_lt_cons_iff, ih width lefts rights, order, same]

theorem length_decimal (positive : 0 < width) (fits : n < 10 ^ width) :
    (decimal width n).length = width := by
  rw [decimal, List.length_leftpad]
  exact Nat.max_eq_left ((Nat.length_toDigits_le_iff (by decide) positive).mpr fits)

theorem isDigit_decimal : ∀ c ∈ decimal width n, c.isDigit = true := by
  intro c mem
  obtain zero | digit := List.mem_append.mp mem
  · rw [List.eq_of_mem_replicate zero]
    rfl
  · exact Nat.isDigit_of_mem_toDigits (by decide) (by decide) digit

theorem value_decimal (width n : Nat) : Nat.ofDigitChars 10 (decimal width n) 0 = n := by
  rw [decimal, List.leftpad, Nat.ofDigitChars_append, Nat.ofDigitChars_replicate_zero,
    Nat.mul_zero, Nat.ofDigitChars_ten_toDigits]

/-- A field of one width, and what comes after it. -/
theorem decimal_append_lt_iff (positive : 0 < width) (first : n < 10 ^ width)
    (second : m < 10 ^ width) :
    decimal width n ++ xs < decimal width m ++ ys ↔ n < m ∨ n = m ∧ xs < ys := by
  have length : (decimal width n).length = (decimal width m).length :=
    (length_decimal positive first).trans (length_decimal positive second).symm
  have same : decimal width n = decimal width m ↔ n = m := by
    refine ⟨fun same => ?_, fun same => same ▸ rfl⟩
    rw [← value_decimal width n, same, value_decimal]
  rw [append_lt_iff length, digits_lt_iff length isDigit_decimal isDigit_decimal, value_decimal,
    value_decimal, same]

end FixedWidth
