import Mathlib.Algebra.Order.Field.Rat
import Mathlib.Data.Rat.Lemmas
import Mathlib.Tactic.FieldSimp
import Mathlib.Tactic.LinearCombination
import Mathlib.Tactic.Ring

/-!
# Decimal numerals

A `Numeral` is written with an optional sign, digits, and optionally a separator with further digits
behind it, and has at least one digit.  It denotes a rational number, whatever the separator.

The number is an integer just if the digits of the fraction are all zeros
(`Numeral.value_eq_intCast_iff`): the fraction is less than one, and nothing of it may be left.
-/

set_option autoImplicit false

/-! ## Digits -/

/-- The number that digits denote. -/
def digitsValue (digits : List Char) : ℕ :=
  digits.foldl (fun n c ↦ 10 * n + (c.toNat - '0'.toNat)) 0

/-- The digits behind a number shift it. -/
theorem foldl_digits (digits : List Char) (n : ℕ) :
    digits.foldl (fun n c ↦ 10 * n + (c.toNat - '0'.toNat)) n =
      n * 10 ^ digits.length + digitsValue digits := by
  induction digits generalizing n with
  | nil => simp [digitsValue]
  | cons c digits ih =>
    rw [digitsValue, List.foldl_cons, List.foldl_cons, ih, ih, List.length_cons, pow_succ]
    ring

theorem digitsValue_append (digits digits' : List Char) :
    digitsValue (digits ++ digits') =
      digitsValue digits * 10 ^ digits'.length + digitsValue digits' := by
  rw [digitsValue, List.foldl_append, foldl_digits]
  rfl

theorem digitsValue_cons (c : Char) (digits : List Char) : digitsValue (c :: digits) =
    (c.toNat - '0'.toNat) * 10 ^ digits.length + digitsValue digits := by
  rw [← List.singleton_append, digitsValue_append]
  simp [digitsValue]

theorem isDigit_iff {c : Char} : c.isDigit = true ↔ '0'.toNat ≤ c.toNat ∧ c.toNat ≤ '9'.toNat := by
  rw [Char.isDigit, Bool.and_eq_true, decide_eq_true_eq, decide_eq_true_eq]
  rfl

theorem digit_eq_zero_iff {c : Char} (h : c.isDigit = true) :
    c.toNat - '0'.toNat = 0 ↔ c = '0' := by
  have hle := (isDigit_iff.1 h).1
  constructor
  · intro hzero
    exact Char.ext (UInt32.toNat.inj (show c.toNat = '0'.toNat by omega))
  · rintro rfl
    rfl

theorem digitsValue_lt {digits : List Char} (h : ∀ c ∈ digits, c.isDigit = true) :
    digitsValue digits < 10 ^ digits.length := by
  induction digits with
  | nil => simp [digitsValue]
  | cons c digits ih =>
    obtain ⟨hc, hdigits⟩ := List.forall_mem_cons.1 h
    have hlt := ih hdigits
    have hle := (isDigit_iff.1 hc).2
    have hnine : c.toNat - '0'.toNat ≤ 9 := by
      have hchars : '9'.toNat = '0'.toNat + 9 := rfl
      omega
    rw [digitsValue_cons, List.length_cons, pow_succ]
    have hmul := Nat.mul_le_mul_right (10 ^ digits.length) hnine
    omega

theorem digitsValue_eq_zero_iff {digits : List Char} (h : ∀ c ∈ digits, c.isDigit = true) :
    digitsValue digits = 0 ↔ ∀ c ∈ digits, c = '0' := by
  induction digits with
  | nil => simp [digitsValue]
  | cons c digits ih =>
    obtain ⟨hc, hdigits⟩ := List.forall_mem_cons.1 h
    have hpow : 10 ^ digits.length ≠ 0 := pow_ne_zero _ (by decide)
    rw [digitsValue_cons, Nat.add_eq_zero_iff, ih hdigits, Nat.mul_eq_zero,
      or_iff_left hpow, digit_eq_zero_iff hc, List.forall_mem_cons]

/-! ## Numerals -/

/-- The sign a numeral is written with. -/
inductive Sign where
  | none
  | plus
  | minus
deriving DecidableEq, Repr

namespace Sign

def text : Sign → List Char
  | none => []
  | plus => ['+']
  | minus => ['-']

def factor : Sign → ℤ
  | none | plus => 1
  | minus => -1

theorem factor_eq (sign : Sign) : sign.factor = 1 ∨ sign.factor = -1 := by
  cases sign with
  | none | plus => exact Or.inl rfl
  | minus => exact Or.inr rfl

end Sign

/-- A decimal numeral.  The separator belongs to the way it is written. -/
structure Numeral where
  sign : Sign
  whole : List Char
  fraction : Option (List Char)
  whole_digits : ∀ c ∈ whole, c.isDigit = true
  fraction_digits : ∀ c ∈ fraction.getD [], c.isDigit = true
  nonempty : whole ++ fraction.getD [] ≠ []

namespace Numeral

variable (num : Numeral)

/-- The digits behind the separator. -/
def decimals : List Char := num.fraction.getD []

/-- A numeral with digits on both sides of its separator, if it has one. -/
def Full : Prop := num.whole ≠ [] ∧ num.fraction ≠ some []

/-- The numeral, written with a separator. -/
def text (separator : Char) : List Char :=
  num.sign.text ++ num.whole ++ num.fraction.elim [] (separator :: ·)

/-- The number it denotes. -/
def value : ℚ :=
  num.sign.factor * digitsValue (num.whole ++ num.decimals) / 10 ^ num.decimals.length

/-- **A numeral denotes an integer just if its decimals are zeros.** -/
theorem value_eq_intCast_iff (n : ℤ) : num.value = n ↔
    (∀ c ∈ num.decimals, c = '0') ∧ n = num.sign.factor * digitsValue num.whole := by
  have hdigits : ∀ c ∈ num.decimals, c.isDigit = true := num.fraction_digits
  have hlt := digitsValue_lt hdigits
  have hpow : (10 : ℚ) ^ num.decimals.length ≠ 0 := pow_ne_zero _ (by norm_num)
  have hscaled : num.value = n ↔
      num.sign.factor * ((digitsValue num.whole : ℤ) * 10 ^ num.decimals.length +
        digitsValue num.decimals) = n * 10 ^ num.decimals.length := by
    rw [value, div_eq_iff hpow, digitsValue_append]
    exact_mod_cast Iff.rfl
  rw [hscaled, ← digitsValue_eq_zero_iff hdigits]
  constructor
  · intro h
    have hsquare : num.sign.factor * num.sign.factor = 1 := by
      rcases num.sign.factor_eq with hsign | hsign <;> rw [hsign] <;> rfl
    have hrest : (digitsValue num.decimals : ℤ) =
        (num.sign.factor * n - digitsValue num.whole) * 10 ^ num.decimals.length := by
      linear_combination num.sign.factor * h -
        (digitsValue num.whole * 10 ^ num.decimals.length + digitsValue num.decimals) * hsquare
    have hzero : (digitsValue num.decimals : ℤ) = 0 :=
      Int.eq_zero_of_dvd_of_nonneg_of_lt (Int.natCast_nonneg _) (by exact_mod_cast hlt)
        (Dvd.intro_left _ hrest.symm)
    have hwhole : num.sign.factor * n - digitsValue num.whole = 0 := by
      rw [hzero] at hrest
      exact (Int.mul_eq_zero.1 hrest.symm).resolve_right (pow_ne_zero _ (by decide))
    refine ⟨by exact_mod_cast hzero, ?_⟩
    linear_combination num.sign.factor * hwhole - n * hsquare
  · rintro ⟨hzero, rfl⟩
    rw [hzero]
    push_cast
    ring

/-- The characters of a numeral. -/
theorem mem_text {separator c : Char} (h : c ∈ num.text separator) :
    c = separator ∨ c = '+' ∨ c = '-' ∨ c.isDigit = true := by
  rw [text, List.mem_append, List.mem_append] at h
  obtain (hsign | hwhole) | hfraction := h
  · cases hkind : num.sign <;> rw [hkind] at hsign <;> simp [Sign.text] at hsign <;> simp [hsign]
  · exact Or.inr (Or.inr (Or.inr (num.whole_digits c hwhole)))
  · have hdigits := num.fraction_digits
    cases hsome : num.fraction with
    | none => rw [hsome] at hfraction; cases hfraction
    | some digits =>
      rw [hsome] at hfraction hdigits
      obtain rfl | hmem := List.mem_cons.1 hfraction
      · exact Or.inl rfl
      · exact Or.inr (Or.inr (Or.inr (hdigits c hmem)))

theorem text_ne_nil (separator : Char) : num.text separator ≠ [] := by
  intro h
  rw [text, List.append_eq_nil_iff, List.append_eq_nil_iff] at h
  obtain ⟨⟨-, hwhole⟩, hfraction⟩ := h
  have hnonempty := num.nonempty
  rw [hwhole] at hnonempty
  cases hsome : num.fraction with
  | none => rw [hsome] at hnonempty; exact hnonempty rfl
  | some digits => rw [hsome] at hfraction; cases hfraction

/-- A change of characters that leaves signs and digits alone changes the separator. -/
theorem map_text {f : Char → Char} (hplus : f '+' = '+') (hminus : f '-' = '-')
    (hdigit : ∀ c : Char, c.isDigit = true → f c = c) (separator : Char) :
    (num.text separator).map f = num.text (f separator) := by
  have hkeep : ∀ digits : List Char, (∀ c ∈ digits, c.isDigit = true) → digits.map f = digits :=
    fun digits hdigits ↦ (List.map_congr_left fun c hc ↦ hdigit c (hdigits c hc)).trans
      (List.map_id digits)
  have hsign : num.sign.text.map f = num.sign.text := by
    cases num.sign with
    | none => rfl
    | plus => rw [Sign.text, List.map_singleton, hplus]
    | minus => rw [Sign.text, List.map_singleton, hminus]
  have hdecimals := num.fraction_digits
  rw [text, text, List.map_append, List.map_append, hsign, hkeep num.whole num.whole_digits]
  cases hsome : num.fraction with
  | none => rfl
  | some digits =>
    rw [hsome] at hdecimals
    rw [Option.elim_some, Option.elim_some, List.map_cons, hkeep digits hdecimals]

end Numeral
