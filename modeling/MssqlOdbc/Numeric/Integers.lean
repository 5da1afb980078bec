import MssqlOdbc.Decode
import MssqlOdbc.Lib.Numeral

/-!
# Integers from numerals

An exact number comes as the text the driver renders it with.  Reading it as an integer tries the
text as it is, and else the part before the point, if there are only zeros behind it
(`asI64_decimal`).

What is not read is a numeral with nothing before the point and zeros behind it, such as `.0`: it
denotes zero, and its part before the point is empty.
-/

set_option autoImplicit false

namespace MssqlOdbc

/-! ## Digits -/

theorem parseDigits_of_digits {digits : List Char} (h : ∀ c ∈ digits, c.isDigit = true)
    (hne : digits ≠ []) : parseDigits digits = some (digitsValue digits) := by
  have hcond : (!digits.isEmpty && digits.all Char.isDigit) = true := by
    rw [Bool.and_eq_true, Bool.not_eq_true', List.isEmpty_eq_false_iff]
    exact ⟨hne, List.all_eq_true.2 h⟩
  rw [parseDigits, if_pos hcond]
  rfl

theorem parseDigits_eq_some {digits : List Char} {n : ℕ} (h : parseDigits digits = some n) :
    digits ≠ [] ∧ (∀ c ∈ digits, c.isDigit = true) ∧ n = digitsValue digits := by
  have hcond : (!digits.isEmpty && digits.all Char.isDigit) = true := by
    by_contra hcond
    rw [parseDigits, if_neg hcond] at h
    cases h
  rw [Bool.and_eq_true, Bool.not_eq_true', List.isEmpty_eq_false_iff] at hcond
  have hall := List.all_eq_true.1 hcond.2
  rw [parseDigits_of_digits hall hcond.1] at h
  exact ⟨hcond.1, hall, (Option.some.inj h).symm⟩

theorem parseDigits_of_mem {digits : List Char} {c : Char} (hc : c ∈ digits)
    (h : c.isDigit = false) : parseDigits digits = none := by
  rw [Option.eq_none_iff_forall_not_mem]
  intro n hn
  have hdigit := (parseDigits_eq_some hn).2.1 c hc
  rw [h] at hdigit
  cases hdigit

/-- A text that does not begin with a sign, behind one. -/
theorem parseInt_signed (sign : Sign) {rest : List Char}
    (hhead : ∀ c ∈ rest.head?, c ≠ '+' ∧ c ≠ '-') : parseInt .i64 (sign.text ++ rest) =
      (parseDigits rest).bind fun n ↦ IntType.i64.tryFrom (sign.factor * n) := by
  cases sign with
  | none =>
    simp only [Sign.text, Sign.factor, List.nil_append, Int.one_mul]
    cases rest with
    | nil => rfl
    | cons c rest =>
      obtain ⟨hplus, hminus⟩ := hhead c rfl
      rw [parseInt]
      · intro digits h
        exact hplus (List.cons.inj h).1
      · intro digits h
        exact hminus (List.cons.inj h).1
  | plus => simp only [Sign.text, Sign.factor, List.singleton_append, parseInt, Int.one_mul]
  | minus =>
    have hmin : IntType.i64.min < 0 := by decide
    simp only [Sign.text, Sign.factor, List.singleton_append, parseInt, if_pos hmin,
      Int.neg_one_mul]

theorem head_of_digits {digits : List Char} (h : ∀ c ∈ digits, c.isDigit = true) (rest : List Char)
    (hrest : ∀ c ∈ rest.head?, c ≠ '+' ∧ c ≠ '-') :
    ∀ c ∈ (digits ++ rest).head?, c ≠ '+' ∧ c ≠ '-' := by
  intro c hc
  cases digits with
  | nil => exact hrest c hc
  | cons d digits =>
    obtain rfl : d = c := Option.some.inj hc
    have hdigit := h d List.mem_cons_self
    constructor
    · rintro rfl
      exact absurd hdigit (by decide)
    · rintro rfl
      exact absurd hdigit (by decide)

/-! ## Numerals -/

/-- The number before the separator, if there is one, with the sign. -/
def wholeI64 (num : Numeral) : Option I64 :=
  (parseDigits num.whole).bind fun n ↦ IntType.i64.tryFrom (num.sign.factor * n)

theorem parseInt_whole (num : Numeral) :
    parseInt .i64 (num.sign.text ++ num.whole) = wholeI64 num := by
  have hhead := head_of_digits num.whole_digits [] nofun
  rw [List.append_nil] at hhead
  exact parseInt_signed num.sign hhead

/-- **A numeral as an integer**: the number before the point, if there are only zeros behind it. -/
theorem parseIntegerText_numeral {num : Numeral} {text : String}
    (h : (trim text).toList = num.text '.') : parseIntegerText text =
      if num.decimals.all (· = '0') then wholeI64 num else none := by
  have hdot : '.'.isDigit = false := by decide
  have hwhole : '.' ∉ num.sign.text ++ num.whole := by
    intro hmem
    obtain hsign | hdigit := List.mem_append.1 hmem
    · cases hkind : num.sign <;> rw [hkind] at hsign <;> simp [Sign.text] at hsign
    · exact absurd (num.whole_digits '.' hdigit) (by decide)
  rw [parseIntegerText, h, Numeral.text, Numeral.decimals]
  cases hfraction : num.fraction with
  | none =>
    rw [Option.elim_none, List.append_nil, parseInt_whole, Option.getD_none, List.all_nil,
      if_pos rfl]
    have hnone := splitOnce_eq_none.2 hwhole
    cases wholeI64 num with
    | some n => rfl
    | none => simp only [hnone]
  | some digits =>
    rw [Option.elim_some, Option.getD_some, List.append_assoc]
    have hhead := head_of_digits num.whole_digits ('.' :: digits) (by
      rintro c ⟨⟩
      decide)
    have hnone : parseDigits (num.whole ++ '.' :: digits) = none :=
      parseDigits_of_mem (List.mem_append_right _ List.mem_cons_self) hdot
    rw [parseInt_signed num.sign hhead, hnone, Option.bind_none]
    have hsplit : splitOnce '.' (num.sign.text ++ (num.whole ++ '.' :: digits)) =
        some (num.sign.text ++ num.whole, digits) := by
      rw [← List.append_assoc]
      exact splitOnce_append hwhole digits
    simp only [hsplit, parseInt_whole]

/-! ## Exact numbers -/

/-- A numeral as the driver renders it: with the separator of the locale, between whitespace. -/
structure Rendered (num : Numeral) (separator : Char) (text : String) : Prop where
  separator_mem : separator = '.' ∨ separator = ','
  padded : ∃ before after : List Char, (∀ c ∈ before, isWhitespace c = true) ∧
    (∀ c ∈ after, isWhitespace c = true) ∧
    text = String.ofList (before ++ num.text separator ++ after)

theorem isWhitespace_of_digit {c : Char} (h : c.isDigit = true) : isWhitespace c = false := by
  have hmem := isDigit_iff.1 h
  have hchars : '0'.toNat = 48 ∧ '9'.toNat = 57 := ⟨rfl, rfl⟩
  rw [← Bool.not_eq_true]
  intro hspace
  simp only [isWhitespace, Bool.or_eq_true, Bool.and_eq_true, decide_eq_true_eq,
    beq_iff_eq] at hspace
  omega

theorem isWhitespace_of_mem_text {num : Numeral} {separator c : Char}
    (hseparator : separator = '.' ∨ separator = ',') (h : c ∈ num.text separator) :
    isWhitespace c = false := by
  obtain rfl | rfl | rfl | hdigit := num.mem_text h
  · obtain rfl | rfl := hseparator <;> decide
  · decide
  · decide
  · exact isWhitespace_of_digit hdigit

theorem Rendered.trim {num : Numeral} {separator : Char} {text : String}
    (h : Rendered num separator text) : (trim text).toList = num.text separator := by
  obtain ⟨before, after, hbefore, hafter, rfl⟩ := h.padded
  exact trim_padded hbefore hafter (fun c ↦ isWhitespace_of_mem_text h.separator_mem)
    (num.text_ne_nil separator)

theorem toList_normalizeDecimal (text : String) : (normalizeDecimal text).toList =
    (trim text).toList.map fun c ↦ if c = ',' then '.' else c := String.toList_ofList

/-- Undoing a decimal comma leaves the numeral with a point. -/
theorem Rendered.normalizeDecimal {num : Numeral} {separator : Char} {text : String}
    (h : Rendered num separator text) : (normalizeDecimal text).toList = num.text '.' := by
  have hdigit (c : Char) (hc : c.isDigit = true) : (if c = ',' then '.' else c) = c := by
    refine if_neg ?_
    rintro rfl
    exact absurd hc (by decide)
  rw [toList_normalizeDecimal, h.trim, num.map_text (by decide) (by decide) hdigit]
  obtain rfl | rfl := h.separator_mem <;> rfl

theorem asI64_decimal {num : Numeral} {separator : Char} {text : String}
    (h : Rendered num separator text) (precision : ℕ) (scale : ℤ) :
    (⟨.decimal text precision scale⟩ : MssqlValue).asI64 =
      if num.decimals.all (· = '0') then wholeI64 num else none := by
  have htext : String.ofList ([] ++ num.text '.' ++ []) = MssqlOdbc.normalizeDecimal text := by
    rw [List.nil_append, List.append_nil, ← h.normalizeDecimal, String.ofList_toList]
  have htrim : (MssqlOdbc.trim (MssqlOdbc.normalizeDecimal text)).toList = num.text '.' := by
    rw [← htext]
    exact trim_padded nofun nofun (fun c ↦ isWhitespace_of_mem_text (Or.inl rfl))
      (num.text_ne_nil '.')
  have hread : (⟨.decimal text precision scale⟩ : MssqlValue).asI64 =
      parseIntegerText (MssqlOdbc.normalizeDecimal text) := rfl
  rw [hread, parseIntegerText_numeral htrim]

theorem wholeI64_eq_some {num : Numeral} {n : I64} : wholeI64 num = some n ↔
    num.whole ≠ [] ∧ n.val = num.sign.factor * digitsValue num.whole := by
  rw [wholeI64]
  by_cases hne : num.whole = []
  · rw [hne]
    exact ⟨nofun, fun h ↦ absurd rfl h.1⟩
  · rw [parseDigits_of_digits num.whole_digits hne, Option.bind_some, IntType.tryFrom_eq_some]
    exact (and_iff_right hne).symm

/-- The numeral is read as the integer it denotes, if it denotes one and the integer fits the type
that is asked for and 64 bits, and as none otherwise. -/
def ReadsInteger (X : Crates) (num : Numeral) (text : String) : Prop :=
  ∀ precision scale, let value : MssqlValue := ⟨.decimal text precision scale⟩
    (∀ n : I64, value.asI64 = some n ↔ num.value = n.val) ∧
    ∀ (ty : IntType) (x : ty.Value), decode X ⟨value⟩ (.int ty) = .ok x ↔
      num.value = x.val ∧ IntType.i64.min ≤ x.val ∧ x.val ≤ IntType.i64.max

/-- An integer is decoded from what the value is read as. -/
theorem decode_int_eq_ok {X : Crates} {value : MssqlValueRef} {ty : IntType} {x : ty.Value} :
    decode X value (.int ty) = .ok x ↔ ∃ n, value.asI64 = some n ∧ n.val = x.val := by
  constructor
  · intro h
    have hdecode : decodeInteger value ty = .ok x := h
    rw [decodeInteger] at hdecode
    cases hread : value.asI64 with
    | none => rw [hread] at hdecode; cases hdecode
    | some n =>
      rw [hread] at hdecode
      dsimp only at hdecode
      cases hfits : ty.tryFrom n.val with
      | none => rw [hfits] at hdecode; cases hdecode
      | some y =>
        rw [hfits] at hdecode
        cases hdecode
        exact ⟨n, rfl, (IntType.tryFrom_eq_some.1 hfits).symm⟩
  · rintro ⟨n, hread, hn⟩
    exact decode_int hread (IntType.tryFrom_eq_some.2 hn.symm)

/-- **The numerals that are read as integers.**  A numeral is read as the integer it denotes, or
refused when it denotes none in range, exactly when it has a digit before the separator or one other
than zero behind it. -/
theorem reads_integer_iff (X : Crates) {num : Numeral} {separator : Char} {text : String}
    (h : Rendered num separator text) : ReadsInteger X num text ↔
      num.whole ≠ [] ∨ ∃ c ∈ num.decimals, c ≠ '0' := by
  have hread (precision : ℕ) (scale : ℤ) (n : I64) :
      (⟨.decimal text precision scale⟩ : MssqlValue).asI64 = some n ↔
        num.whole ≠ [] ∧ num.value = n.val := by
    rw [asI64_decimal h, num.value_eq_intCast_iff]
    by_cases hzeros : ∀ c ∈ num.decimals, c = '0'
    · have hall : num.decimals.all (· = '0') = true :=
        List.all_eq_true.2 fun c hc ↦ decide_eq_true (hzeros c hc)
      rw [if_pos hall, wholeI64_eq_some, and_iff_right hzeros]
    · have hall : ¬ num.decimals.all (· = '0') = true :=
        fun hall ↦ hzeros fun c hc ↦ of_decide_eq_true (List.all_eq_true.1 hall c hc)
      rw [if_neg hall]
      exact ⟨nofun, fun hvalue ↦ absurd hvalue.2.1 hzeros⟩
  constructor
  · intro hall
    by_contra hnone
    rw [not_or, not_ne_iff] at hnone
    obtain ⟨hwhole, hdecimals⟩ := hnone
    have hzeros : ∀ c ∈ num.decimals, c = '0' := by
      intro c hc
      by_contra hne
      exact hdecimals ⟨c, hc, hne⟩
    have hvalue : num.value = ((0 : ℤ) : ℚ) := by
      rw [num.value_eq_intCast_iff, hwhole]
      exact ⟨hzeros, (Int.mul_zero _).symm⟩
    have hzero := ((hall 0 0).1 ⟨0, by decide⟩).2 hvalue
    exact ((hread 0 0 _).1 hzero).1 hwhole
  · intro hdigit precision scale
    have hexact (n : I64) : (⟨.decimal text precision scale⟩ : MssqlValue).asI64 = some n ↔
        num.value = n.val := by
      rw [hread]
      refine and_iff_right_of_imp fun hvalue hwhole ↦ ?_
      obtain hne | ⟨c, hc, hnonzero⟩ := hdigit
      · exact hne hwhole
      · exact hnonzero ((num.value_eq_intCast_iff _).1 hvalue |>.1 c hc)
    refine ⟨hexact, fun ty x ↦ ?_⟩
    rw [decode_int_eq_ok]
    constructor
    · rintro ⟨n, hn, hx⟩
      rw [← hx]
      exact ⟨(hexact n).1 hn, n.property⟩
    · rintro ⟨hvalue, hrange⟩
      exact ⟨⟨x.val, hrange⟩, (hexact ⟨x.val, hrange⟩).2 hvalue, rfl⟩

/-- Fifteen with zeros behind a comma. -/
def fifteen : Numeral :=
  ⟨.none, ['1', '5'], some ['0', '0'], List.all_eq_true.1 rfl, List.all_eq_true.1 rfl, by decide⟩

theorem fifteen_rendered : Rendered fifteen ',' " 15,00" :=
  ⟨Or.inr rfl, [' '], [], List.all_eq_true.1 rfl, nofun, by decide⟩

theorem fifteen_read : ReadsInteger Crates.sample fifteen " 15,00" :=
  (reads_integer_iff Crates.sample fifteen_rendered).2 (Or.inl (by decide))

/-- Zero without a digit before the point. -/
def pointZero : Numeral :=
  ⟨.none, [], some ['0'], nofun, List.all_eq_true.1 rfl, by decide⟩

theorem pointZero_not_read : pointZero.value = 0 ∧ Rendered pointZero '.' ".0" ∧
    (⟨.decimal ".0" 5 1⟩ : MssqlValue).asI64 = none ∧
      ¬ ReadsInteger Crates.sample pointZero ".0" := by
  have hzero : pointZero.value = 0 := by
    have hzeros : ∀ c ∈ pointZero.decimals, c = '0' := fun c hc ↦ List.eq_of_mem_singleton hc
    have hvalue := (pointZero.value_eq_intCast_iff 0).2 ⟨hzeros, rfl⟩
    rw [hvalue, Int.cast_zero]
  refine ⟨hzero, ⟨Or.inl rfl, [], [], nofun, nofun, by decide⟩, by decide, fun hall ↦ ?_⟩
  have hread := ((hall 5 1).1 ⟨0, by decide⟩).2 (hzero.trans Int.cast_zero.symm)
  exact absurd hread (by decide)

end MssqlOdbc
