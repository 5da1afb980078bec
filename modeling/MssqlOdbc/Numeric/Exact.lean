import Mathlib.Data.List.TakeWhile
import MssqlOdbc.Numeric.Integers

/-!
# The exact value of a number text

`parseF64` rounds what it reads to a double.  `exactValue` reads the same texts, but for the
infinities and NaN, and gives the rational number they denote.  A numeral denotes its value, and a
text that is read as an integer denotes that integer.
-/

set_option autoImplicit false

namespace MssqlOdbc

/-! ## Reading exactly -/

/-- The digits behind a point, and the rest. -/
def splitFraction (text : List Char) : List Char × List Char :=
  match text with
  | '.' :: rest => (rest.takeWhile Char.isDigit, rest.dropWhile Char.isDigit)
  | rest => ([], rest)

/-- The mantissa and the exponent of a number without a sign. -/
def numberParts (text : List Char) : Option (ℕ × ℤ) := do
  let parts := splitFraction (text.dropWhile Char.isDigit)
  let mantissa ← parseDigits (text.takeWhile Char.isDigit ++ parts.1)
  let exponent ← parseExponent parts.2
  return (mantissa, exponent - parts.1.length)

/-- The number that a text without a sign denotes. -/
def exactMagnitude (text : List Char) : Option ℚ :=
  (numberParts text).map fun parts ↦ parts.1 * 10 ^ parts.2

/-- The number that a text denotes. -/
def exactValue (text : List Char) : Option ℚ :=
  match text with
  | '+' :: rest => exactMagnitude rest
  | '-' :: rest => (exactMagnitude rest).map Neg.neg
  | rest => exactMagnitude rest

/-- The floating point reading rounds the same mantissa and exponent. -/
theorem parseNumber_eq (text : List Char) :
    parseNumber text = (numberParts text).map fun parts ↦ scientific parts.1 parts.2 := by
  have hparts (digits rest fraction : List Char) :
      (do
        let mantissa ← parseDigits digits
        let exponent ← parseExponent rest
        return scientific mantissa (exponent - fraction.length)) =
      Option.map (fun parts : ℕ × ℤ ↦ scientific parts.1 parts.2) (do
        let mantissa ← parseDigits digits
        let exponent ← parseExponent rest
        return (mantissa, exponent - fraction.length)) := by
    cases parseDigits digits with
    | none => rfl
    | some mantissa => cases parseExponent rest <;> rfl
  rw [parseNumber, numberParts]
  exact hparts _ _ _

theorem parseMagnitude_cases (text : List Char) : parseMagnitude text = some (1.0 / 0.0) ∨
    parseMagnitude text = some (0.0 / 0.0) ∨ parseMagnitude text = parseNumber text := by
  unfold parseMagnitude
  dsimp only
  split
  · exact Or.inl rfl
  · split
    · exact Or.inr (Or.inl rfl)
    · exact Or.inr (Or.inr rfl)

/-- A magnitude that is read has an exact value, or is no finite number. -/
theorem parseMagnitude_eq_some {text : List Char} {x : Float} (h : parseMagnitude text = some x) :
    x = 1.0 / 0.0 ∨ x = 0.0 / 0.0 ∨ ∃ q, exactMagnitude text = some q := by
  obtain hinf | hnan | hnumber := parseMagnitude_cases text
  · exact Or.inl (Option.some.inj (h.symm.trans hinf))
  · exact Or.inr (Or.inl (Option.some.inj (h.symm.trans hnan)))
  · rw [hnumber, parseNumber_eq] at h
    obtain ⟨parts, hparts, -⟩ := Option.map_eq_some_iff.1 h
    refine Or.inr (Or.inr ⟨parts.1 * 10 ^ parts.2, ?_⟩)
    rw [exactMagnitude, hparts]
    rfl

theorem parseMagnitude_of_exact {text : List Char} {q : ℚ} (h : exactMagnitude text = some q) :
    ∃ x, parseMagnitude text = some x := by
  obtain ⟨parts, hparts, -⟩ := Option.map_eq_some_iff.1 h
  obtain hinf | hnan | hnumber := parseMagnitude_cases text
  · exact ⟨_, hinf⟩
  · exact ⟨_, hnan⟩
  · rw [hnumber, parseNumber_eq, hparts]
    exact ⟨_, rfl⟩

/-- The infinities and NaN, with either sign. -/
def nonFinite : List Float :=
  [1.0 / 0.0, 0.0 / 0.0, Float.neg (1.0 / 0.0), Float.neg (0.0 / 0.0)]

/-- Both readings take off the same sign. -/
theorem sign_cases (text : List Char) :
    (∃ rest, text = '+' :: rest) ∨ (∃ rest, text = '-' :: rest) ∨
      (exactValue text = exactMagnitude text ∧ parseF64 text = parseMagnitude text) := by
  cases text with
  | nil => exact Or.inr (Or.inr ⟨rfl, rfl⟩)
  | cons c rest =>
    by_cases hplus : c = '+'
    · exact Or.inl ⟨rest, hplus ▸ rfl⟩
    · by_cases hminus : c = '-'
      · exact Or.inr (Or.inl ⟨rest, hminus ▸ rfl⟩)
      · have hplus' (digits : List Char) : c :: rest = '+' :: digits → False :=
          fun h ↦ hplus (List.cons.inj h).1
        have hminus' (digits : List Char) : c :: rest = '-' :: digits → False :=
          fun h ↦ hminus (List.cons.inj h).1
        exact Or.inr (Or.inr ⟨exactValue.eq_3 _ hplus' hminus', parseF64.eq_3 _ hplus' hminus'⟩)

/-- A text that is read as a double has an exact value, or is no finite number. -/
theorem parseF64_eq_some {text : List Char} {x : Float} (h : parseF64 text = some x) :
    x ∈ nonFinite ∨ ∃ q, exactValue text = some q := by
  have hmagnitude {rest : List Char} {x : Float} (h : parseMagnitude rest = some x) :
      x ∈ nonFinite ∨ ∃ q, exactMagnitude rest = some q := by
    obtain rfl | rfl | hexact := parseMagnitude_eq_some h
    · exact Or.inl (by simp [nonFinite])
    · exact Or.inl (by simp [nonFinite])
    · exact Or.inr hexact
  obtain ⟨rest, rfl⟩ | ⟨rest, rfl⟩ | ⟨hexact, hread⟩ := sign_cases text
  · exact hmagnitude h
  · obtain ⟨y, hy, rfl⟩ := Option.map_eq_some_iff.1 h
    obtain rfl | rfl | ⟨q, hq⟩ := parseMagnitude_eq_some hy
    · exact Or.inl (by simp [nonFinite])
    · exact Or.inl (by simp [nonFinite])
    · exact Or.inr ⟨-q, congrArg (Option.map Neg.neg) hq⟩
  · rw [hread] at h
    rw [hexact]
    exact hmagnitude h

theorem parseF64_of_exact {text : List Char} {q : ℚ} (h : exactValue text = some q) :
    ∃ x, parseF64 text = some x := by
  obtain ⟨rest, rfl⟩ | ⟨rest, rfl⟩ | ⟨hexact, hread⟩ := sign_cases text
  · exact parseMagnitude_of_exact h
  · obtain ⟨q', hq', -⟩ := Option.map_eq_some_iff.1 h
    obtain ⟨x, hx⟩ := parseMagnitude_of_exact hq'
    exact ⟨x.neg, congrArg (Option.map Float.neg) hx⟩
  · rw [hexact] at h
    rw [hread]
    exact parseMagnitude_of_exact h

/-! ## Numerals -/

theorem parseInt_eq_some {text : List Char} {n : I64} (h : parseInt .i64 text = some n) :
    ∃ (sign : Sign) (digits : List Char), text = sign.text ++ digits ∧ digits ≠ [] ∧
      (∀ c ∈ digits, c.isDigit = true) ∧ n.val = sign.factor * digitsValue digits := by
  have hdigits (sign : Sign) (digits : List Char)
      (h : (parseDigits digits).bind (fun n ↦ IntType.i64.tryFrom (sign.factor * n)) = some n) :
      digits ≠ [] ∧ (∀ c ∈ digits, c.isDigit = true) ∧
        n.val = sign.factor * digitsValue digits := by
    obtain ⟨m, hm, hn⟩ := Option.bind_eq_some_iff.1 h
    obtain ⟨hne, hall, rfl⟩ := parseDigits_eq_some hm
    exact ⟨hne, hall, IntType.tryFrom_eq_some.1 hn⟩
  rw [parseInt.eq_def] at h
  split at h
  · rename_i digits
    refine ⟨.plus, digits, rfl, hdigits .plus digits ?_⟩
    simpa only [Sign.factor, Int.one_mul] using h
  · rename_i digits
    refine ⟨.minus, digits, rfl, hdigits .minus digits ?_⟩
    rw [if_pos (by decide)] at h
    simpa only [Sign.factor, Int.neg_one_mul] using h
  · refine ⟨.none, text, rfl, hdigits .none text ?_⟩
    simpa only [Sign.factor, Int.one_mul] using h

/-- A text that does not begin with a sign, behind one. -/
theorem exactValue_signed (sign : Sign) {rest : List Char}
    (hhead : ∀ c ∈ rest.head?, c ≠ '+' ∧ c ≠ '-') : exactValue (sign.text ++ rest) =
      (exactMagnitude rest).map fun q ↦ (sign.factor : ℚ) * q := by
  cases sign with
  | none =>
    have hrest : exactValue rest = exactMagnitude rest := by
      obtain ⟨digits, rfl⟩ | ⟨digits, rfl⟩ | ⟨hexact, -⟩ := sign_cases rest
      · exact absurd rfl (hhead '+' rfl).1
      · exact absurd rfl (hhead '-' rfl).2
      · exact hexact
    simp [Sign.text, Sign.factor, hrest]
  | plus => simp [Sign.text, Sign.factor, exactValue]
  | minus =>
    simp only [Sign.text, Sign.factor, List.singleton_append, exactValue, Int.cast_neg,
      Int.cast_one, neg_one_mul]

theorem takeWhile_digits {digits : List Char} (h : ∀ c ∈ digits, c.isDigit = true)
    (rest : List Char) (hrest : ∀ c ∈ rest.head?, c.isDigit = false) :
    (digits ++ rest).takeWhile Char.isDigit = digits ∧
      (digits ++ rest).dropWhile Char.isDigit = rest := by
  rw [List.takeWhile_append_of_pos h, List.dropWhile_append_of_pos h]
  cases rest with
  | nil => exact ⟨List.append_nil digits, rfl⟩
  | cons c rest =>
    have hc : ¬ c.isDigit = true := by
      rw [hrest c rfl]
      decide
    rw [List.takeWhile_cons_of_neg hc, List.dropWhile_cons_of_neg hc, List.append_nil]
    exact ⟨rfl, rfl⟩

theorem numberParts_numeral (num : Numeral) :
    numberParts (num.whole ++ num.fraction.elim [] ('.' :: ·)) =
      some (digitsValue (num.whole ++ num.decimals), -(num.decimals.length : ℤ)) := by
  have hall : ∀ c ∈ num.whole ++ num.decimals, c.isDigit = true := by
    intro c hc
    obtain hc | hc := List.mem_append.1 hc
    · exact num.whole_digits c hc
    · exact num.fraction_digits c hc
  have hmantissa := parseDigits_of_digits hall num.nonempty
  cases hfraction : num.fraction with
  | none =>
    have hdecimals : num.decimals = [] := by rw [Numeral.decimals, hfraction]; rfl
    obtain ⟨htake, hdrop⟩ := takeWhile_digits num.whole_digits [] (by rintro c ⟨⟩)
    rw [hdecimals] at hmantissa ⊢
    rw [Option.elim_none, numberParts, htake, hdrop]
    have hsplit : splitFraction [] = ([], []) := rfl
    rw [hsplit]
    dsimp only
    rw [hmantissa]
    rfl
  | some digits =>
    have hdecimals : num.decimals = digits := by rw [Numeral.decimals, hfraction]; rfl
    have hdigits : ∀ c ∈ digits, c.isDigit = true := by
      rw [← hdecimals]
      exact num.fraction_digits
    obtain ⟨htake, hdrop⟩ := takeWhile_digits num.whole_digits ('.' :: digits) (by
      rintro c ⟨⟩
      decide)
    have hsplit : splitFraction ('.' :: digits) = (digits, []) := by
      obtain ⟨htake, hdrop⟩ := takeWhile_digits hdigits [] (by rintro c ⟨⟩)
      rw [List.append_nil] at htake hdrop
      rw [splitFraction, htake, hdrop]
    rw [hdecimals] at hmantissa ⊢
    rw [Option.elim_some, numberParts, htake, hdrop, hsplit]
    dsimp only
    rw [hmantissa]
    exact congrArg (fun exponent ↦ some (_, exponent)) (zero_sub _)

/-- **A numeral denotes its value.** -/
theorem exactValue_numeral (num : Numeral) : exactValue (num.text '.') = some num.value := by
  have hhead := head_of_digits num.whole_digits (num.fraction.elim [] ('.' :: ·)) (by
    cases num.fraction with
    | none => exact nofun
    | some digits =>
      rintro c ⟨⟩
      decide)
  have hmagnitude : exactMagnitude (num.whole ++ num.fraction.elim [] ('.' :: ·)) =
      some ((digitsValue (num.whole ++ num.decimals) : ℚ) *
        10 ^ (-(num.decimals.length : ℤ))) := by
    rw [exactMagnitude, numberParts_numeral]
    rfl
  rw [Numeral.text, List.append_assoc, exactValue_signed num.sign hhead, hmagnitude,
    Option.map_some, Numeral.value, zpow_neg, zpow_natCast]
  congr 1
  ring

/-- Digits are a numeral. -/
theorem exists_numeral {digits : List Char} (h : ∀ c ∈ digits, c.isDigit = true)
    (hne : digits ≠ []) :
    ∃ num : Numeral, num.text '.' = digits ∧ num.value = (digitsValue digits : ℤ) := by
  have hnonempty : digits ++ Option.getD none [] ≠ [] := by
    rw [Option.getD_none, List.append_nil]
    exact hne
  refine ⟨⟨.none, digits, none, h, nofun, hnonempty⟩, List.append_nil digits, ?_⟩
  rw [Numeral.value_eq_intCast_iff]
  exact ⟨nofun, (Int.one_mul _).symm⟩

/-- Digits with a sign, and zeros behind the point if there is one, denote an integer. -/
theorem exactValue_integer {sign : Sign} {digits : List Char} {fraction : Option (List Char)}
    {n : ℤ} (hdigits : ∀ c ∈ digits, c.isDigit = true) (hne : digits ≠ [])
    (hzeros : ∀ c ∈ fraction.getD [], c = '0') (hn : n = sign.factor * digitsValue digits) :
    exactValue (sign.text ++ digits ++ fraction.elim [] ('.' :: ·)) = some ↑n := by
  have hfraction : ∀ c ∈ fraction.getD [], c.isDigit = true := by
    intro c hc
    rw [hzeros c hc]
    decide
  have hnonempty : digits ++ fraction.getD [] ≠ [] := List.append_ne_nil_of_left_ne_nil hne _
  have hvalue := (Numeral.value_eq_intCast_iff
    ⟨sign, digits, fraction, hdigits, hfraction, hnonempty⟩ n).2 ⟨hzeros, hn⟩
  rw [← hvalue]
  exact exactValue_numeral ⟨sign, digits, fraction, hdigits, hfraction, hnonempty⟩

theorem exactValue_digits {digits : List Char} (h : ∀ c ∈ digits, c.isDigit = true)
    (hne : digits ≠ []) : exactValue digits = some ↑(digitsValue digits : ℤ) := by
  obtain ⟨num, htext, hvalue⟩ := exists_numeral h hne
  have hexact := exactValue_numeral num
  rw [htext, hvalue] at hexact
  exact hexact

/-- **A text that is read as an integer denotes it.** -/
theorem exactValue_of_parseIntegerText {text : String} {n : I64}
    (h : parseIntegerText text = some n) : exactValue (trim text).toList = some ↑n.val := by
  rw [parseIntegerText] at h
  cases hwhole : parseInt .i64 (trim text).toList with
  | some m =>
    rw [hwhole] at h
    obtain rfl : m = n := Option.some.inj h
    obtain ⟨sign, digits, htext, hne, hdigits, hm⟩ := parseInt_eq_some hwhole
    have hzeros : ∀ c ∈ (none : Option (List Char)).getD [], c = '0' := List.forall_mem_nil _
    have hexact := exactValue_integer hdigits hne hzeros hm
    rw [Option.elim_none, List.append_nil, ← htext] at hexact
    exact hexact
  | none =>
    rw [hwhole] at h
    dsimp only at h
    cases hsplit : splitOnce '.' (trim text).toList with
    | none => rw [hsplit] at h; cases h
    | some parts =>
      obtain ⟨integer, fraction⟩ := parts
      rw [hsplit] at h
      dsimp only at h
      split at h
      · rename_i hzeros
        obtain ⟨sign, digits, hinteger, hne, hdigits, hn⟩ := parseInt_eq_some h
        have hzero : ∀ c ∈ (some fraction).getD [], c = '0' :=
          fun c hc ↦ of_decide_eq_true (List.all_eq_true.1 hzeros c hc)
        have hexact := exactValue_integer hdigits hne hzero hn
        rw [Option.elim_some, ← hinteger, ← (splitOnce_eq_some hsplit).1] at hexact
        exact hexact
      · cases h

/-! ## The characters of a number -/

/-- The characters a number is written with. -/
def isNumberChar (c : Char) : Bool := c.isDigit || c ∈ ['+', '-', '.', 'e', 'E']

theorem isNumberChar_of_digits {digits : List Char} (h : ∀ c ∈ digits, c.isDigit = true) :
    ∀ c ∈ digits, isNumberChar c = true := by
  intro c hc
  rw [isNumberChar, h c hc, Bool.true_or]

theorem chars_of_parseExponent {text : List Char} {n : ℤ} (h : parseExponent text = some n) :
    ∀ c ∈ text, isNumberChar c = true := by
  -- The casts of the branches stand inside the reading of the digits.
  have hdigits {digits : List Char} {f : ℤ → ℤ}
      (h : Option.map f (do
        let m ← parseDigits digits
        pure (m : ℤ)) = some n) : ∀ c ∈ digits, isNumberChar c = true := by
    cases hm : parseDigits digits with
    | none => rw [hm] at h; cases h
    | some m => exact isNumberChar_of_digits (parseDigits_eq_some hm).2.1
  cases text with
  | nil => exact List.forall_mem_nil _
  | cons e rest =>
    rw [parseExponent.eq_def] at h
    dsimp only at h
    split at h
    · rename_i he
      have hletter : isNumberChar e = true := by obtain rfl | rfl := he <;> decide
      refine List.forall_mem_cons.2 ⟨hletter, ?_⟩
      split at h
      · exact List.forall_mem_cons.2 ⟨by decide, hdigits h⟩
      · exact List.forall_mem_cons.2 ⟨by decide, hdigits h⟩
      · exact hdigits h
    · cases h

theorem chars_takeWhile (text : List Char) :
    ∀ c ∈ text.takeWhile Char.isDigit, isNumberChar c = true :=
  isNumberChar_of_digits fun c hc ↦ by simpa using List.mem_takeWhile_imp hc

theorem chars_of_splitFraction {text : List Char}
    (h : ∀ c ∈ (splitFraction text).2, isNumberChar c = true) :
    ∀ c ∈ text, isNumberChar c = true := by
  rw [splitFraction.eq_def] at h
  split at h
  · rename_i rest
    refine List.forall_mem_cons.2 ⟨by decide, fun c hc ↦ ?_⟩
    rw [← List.takeWhile_append_dropWhile (p := Char.isDigit) (l := rest)] at hc
    obtain hc | hc := List.mem_append.1 hc
    · exact chars_takeWhile rest c hc
    · exact h c hc
  · exact h

theorem chars_of_numberParts {text : List Char} {parts : ℕ × ℤ}
    (h : numberParts text = some parts) : ∀ c ∈ text, isNumberChar c = true := by
  obtain ⟨mantissa, -, h⟩ := Option.bind_eq_some_iff.1 h
  obtain ⟨exponent, hexponent, -⟩ := Option.bind_eq_some_iff.1 h
  intro c hc
  rw [← List.takeWhile_append_dropWhile (p := Char.isDigit) (l := text)] at hc
  obtain hc | hc := List.mem_append.1 hc
  · exact chars_takeWhile text c hc
  · exact chars_of_splitFraction (chars_of_parseExponent hexponent) c hc

/-- A number is written with digits, signs, a point and an exponent. -/
theorem chars_of_exactValue {text : List Char} {q : ℚ} (h : exactValue text = some q) :
    ∀ c ∈ text, isNumberChar c = true := by
  have hmagnitude {rest : List Char} {q : ℚ} (h : exactMagnitude rest = some q) :
      ∀ c ∈ rest, isNumberChar c = true := by
    obtain ⟨parts, hparts, -⟩ := Option.map_eq_some_iff.1 h
    exact chars_of_numberParts hparts
  rw [exactValue.eq_def] at h
  split at h
  · exact List.forall_mem_cons.2 ⟨by decide, hmagnitude h⟩
  · obtain ⟨q', hq', -⟩ := Option.map_eq_some_iff.1 h
    exact List.forall_mem_cons.2 ⟨by decide, hmagnitude hq'⟩
  · exact hmagnitude h

end MssqlOdbc
