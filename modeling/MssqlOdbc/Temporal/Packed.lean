import Mathlib.Data.Rat.Floor
import Mathlib.Data.String.Basic
import MssqlOdbc.Numeric.Exact
import MssqlOdbc.Temporal.Encoded

/-!
# Dates from text and numbers

A date that does not come as a date is read from its digits `YYYYMMDD`, from an ISO date, from an
integer and from a double, whichever comes first.  What is read is the date that the text or the
number denotes, with one exception: a number that is no integer, and so none of the first three, is
read as a double, and its fraction is cut off.

The decoders of `chrono` and `time` differ in their crates only, so that the argument is made once
for `decodeDate` and what it is given (`DateReader`).
-/

set_option autoImplicit false

namespace MssqlOdbc

/-! ## Packed dates -/

/-- The integer `YYYYMMDD`. -/
def packed (ymd : ℤ × ℕ × ℕ) : ℤ := ymd.1 * 10000 + ymd.2.1 * 100 + ymd.2.2

theorem packed_of_yyyymmdd {n : ℤ} {ymd : ℤ × ℕ × ℕ} (h : yyyymmdd n = some ymd) :
    packed ymd = n ∧ 19000101 ≤ n ∧ n ≤ 30001231 := by
  rw [yyyymmdd] at h
  split at h
  · rename_i hrange
    cases h
    have hpacked : packed (n / 10000, (n % 10000 / 100).toNat, (n % 100).toNat) =
        n / 10000 * 10000 + (n % 10000 / 100).toNat * 100 + (n % 100).toNat := rfl
    omega
  · cases h

section Packed

variable {civil : Civil.Date}

theorem packed_mem (civil : Civil.Date) : packed civil.ymd % 100 = civil.day ∧
    packed civil.ymd % 10000 / 100 = civil.month ∧ packed civil.ymd / 10000 = civil.year := by
  have hmonth := civil.month_le
  have hday := civil.day_le
  have hpacked : packed civil.ymd = civil.year * 10000 + civil.month * 100 + civil.day := rfl
  omega

theorem packed_inj {civil' : Civil.Date} (h : packed civil.ymd = packed civil'.ymd) :
    civil = civil' := by
  obtain ⟨hday, hmonth, hyear⟩ := packed_mem civil
  obtain ⟨hday', hmonth', hyear'⟩ := packed_mem civil'
  rw [h] at hday hmonth hyear
  refine Civil.Date.ext (hyear.symm.trans hyear') ?_ ?_
  · exact Int.natCast_inj.1 (hmonth.symm.trans hmonth')
  · exact Int.natCast_inj.1 (hday.symm.trans hday')

theorem packed_range_iff (civil : Civil.Date) :
    (19000101 ≤ packed civil.ymd ∧ packed civil.ymd ≤ 30001231) ↔
      1900 ≤ civil.year ∧ civil.year ≤ 3000 := by
  have hmonth := civil.month_le
  have hday := civil.day_le
  have hmonth' := civil.month_mem.1
  have hday' := civil.day_mem.1
  have hpacked : packed civil.ymd = civil.year * 10000 + civil.month * 100 + civil.day := rfl
  omega

theorem yyyymmdd_packed (h : 1900 ≤ civil.year) (h' : civil.year ≤ 3000) :
    yyyymmdd (packed civil.ymd) = some civil.ymd := by
  obtain ⟨hday, hmonth, hyear⟩ := packed_mem civil
  rw [yyyymmdd, if_pos ((packed_range_iff civil).2 ⟨h, h'⟩), hday, hmonth, hyear]
  rfl

end Packed

/-! ## Eight digits -/

/-- A text of eight digits. -/
def EightDigits (text : List Char) : Prop :=
  (∀ c ∈ text, c.isDigit = true) ∧ text.length = 8

theorem EightDigits.ne_nil {text : List Char} (h : EightDigits text) : text ≠ [] := by
  rw [← List.length_pos_iff, h.2]
  decide

theorem utf8Len_digits {digits : List Char} (h : ∀ c ∈ digits, c.isDigit = true) :
    String.utf8Len digits = digits.length := by
  induction digits with
  | nil => rfl
  | cons c digits ih =>
    obtain ⟨hc, hdigits⟩ := List.forall_mem_cons.1 h
    have hle := (isDigit_iff.1 hc).2
    have hsize : c.utf8Size = 1 := Char.utf8Size_eq_one_iff.2 (by
      rw [UInt32.le_iff_toNat_le]
      exact hle.trans (by decide))
    rw [String.utf8Len_cons, ih hdigits, hsize, List.length_cons]

theorem eightDigits_iff {text : String} : EightDigits text.toList ↔
    text.utf8ByteSize = 8 ∧ text.toList.all Char.isDigit = true := by
  have hsize : text.utf8ByteSize = String.utf8Len text.toList := by
    rw [← String.utf8ByteSize_ofList, String.ofList_toList]
  rw [EightDigits, List.all_eq_true, hsize, and_comm]
  exact and_congr_left fun h ↦ by rw [utf8Len_digits h]

/-- Four digits for the year and two each for the month and the day. -/
def digitParts (digits : List Char) : ℤ × ℕ × ℕ :=
  ((digitsValue (digits.take 4) : ℕ), digitsValue ((digits.drop 4).take 2),
    digitsValue (digits.drop 6))

theorem packed_digitParts {digits : List Char} (h : digits.length = 8) :
    packed (digitParts digits) = digitsValue digits := by
  have hsplit : digits = digits.take 4 ++ ((digits.drop 4).take 2 ++ digits.drop 6) := by
    have hdrop : digits.drop 6 = (digits.drop 4).drop 2 := by rw [List.drop_drop]
    rw [hdrop, List.take_append_drop, List.take_append_drop]
  have hmonth : ((digits.drop 4).take 2).length = 2 := by simp [h]
  have hday : (digits.drop 6).length = 2 := by simp [h]
  conv_rhs => rw [hsplit, digitsValue_append, digitsValue_append, List.length_append, hmonth, hday]
  rw [packed, digitParts]
  push_cast
  ring

theorem yyyymmddText_eq_some {text : String} {ymd : ℤ × ℕ × ℕ} : yyyymmddText text = some ymd ↔
    EightDigits text.toList ∧ digitParts text.toList = ymd := by
  rw [yyyymmddText]
  split
  · rename_i hcond
    have height := eightDigits_iff.2 hcond
    have hparse {digits : List Char} (h : digits <:+: text.toList) (hlength : digits.length ≠ 0) :
        parseDigits digits = some (digitsValue digits) :=
      parseDigits_of_digits (fun c hc ↦ height.1 c (h.subset hc))
        (fun hnil ↦ hlength (List.length_eq_zero_iff.2 hnil))
    have hyear := hparse (List.take_prefix 4 text.toList).isInfix (by simp [height.2])
    have hmonth := hparse ((List.take_prefix 2 (text.toList.drop 4)).isInfix.trans
      (List.drop_suffix 4 text.toList).isInfix) (by simp [height.2])
    have hday := hparse (List.drop_suffix 6 text.toList).isInfix (by simp [height.2])
    rw [hyear, hmonth, hday, and_iff_right height]
    exact Option.some_inj
  · rename_i hcond
    exact ⟨nofun, fun h ↦ absurd (eightDigits_iff.1 h.1) hcond⟩

/-! ## What a value denotes -/

/-- An integer, a text or an exact number. -/
def NumberOrText : MssqlValueKind → Prop
  | .tinyInt _ | .smallInt _ | .integer _ | .bigInt _ | .text _ | .decimal _ _ _ => True
  | _ => False

/-- An exact number is written with the separator of the locale. -/
def withPoints (text : List Char) : List Char := text.map fun c ↦ if c = ',' then '.' else c

/-- The text without trailing NULs and surrounding whitespace. -/
def trimmed (text : String) : String := trim (trimEnd (fun c ↦ c = '\x00') text)

/-- The number that a value denotes: itself, or the one its trimmed text denotes. -/
def denotedNumber (value : MssqlValueRef) : Option ℚ :=
  match value.value.kind with
  | .tinyInt v | .smallInt v => some v.val
  | .integer v => some v.val
  | .bigInt v => some v.val
  | .text text => exactValue (trimmed text).toList
  | .decimal text _ _ => exactValue (withPoints (trimmed text).toList)
  | _ => none

/-- The number that is written in a value, where NULs are not trimmed. -/
def writtenNumber (value : MssqlValueRef) : Option ℚ :=
  match value.value.kind with
  | .text text => exactValue (trim text).toList
  | .decimal text _ _ => exactValue (normalizeDecimal text).toList
  | _ => none

section Readings

variable (text : String) (precision : ℕ) (scale : ℤ)

theorem written_text : writtenNumber ⟨⟨.text text⟩⟩ = exactValue (trim text).toList := rfl

theorem written_decimal : writtenNumber ⟨⟨.decimal text precision scale⟩⟩ =
    exactValue (normalizeDecimal text).toList := rfl

theorem denoted_text : denotedNumber ⟨⟨.text text⟩⟩ = exactValue (trimmed text).toList := rfl

theorem denoted_decimal : denotedNumber ⟨⟨.decimal text precision scale⟩⟩ =
    exactValue (withPoints (trimmed text).toList) := rfl

theorem asF64_text : (MssqlValueRef.mk ⟨.text text⟩).asF64 = parseF64 (trim text).toList := rfl

theorem asF64_decimal : (MssqlValueRef.mk ⟨.decimal text precision scale⟩).asF64 =
    parseF64 (normalizeDecimal text).toList := rfl

theorem asI64_text : (MssqlValueRef.mk ⟨.text text⟩).asI64 = parseIntegerText text := rfl

theorem asI64_normalized : (MssqlValueRef.mk ⟨.decimal text precision scale⟩).asI64 =
    parseIntegerText (normalizeDecimal text) := rfl

end Readings

theorem withPoints_of_not_mem {text : List Char} (h : ',' ∉ text) : withPoints text = text := by
  refine (List.map_congr_left fun c hc ↦ if_neg ?_).trans (List.map_id text)
  rintro rfl
  exact h hc

theorem trimmed_of_no_nul {text : String} (h : '\x00' ∉ (trim text).toList) :
    trimmed text = trim text := by
  rw [trimmed, trimEnd_eq_self]
  intro c hc
  refine decide_eq_false ?_
  rintro rfl
  obtain hspace | hmem := mem_trim_or hc
  · exact absurd hspace (by decide)
  · exact h hmem

theorem trim_normalizeDecimal (text : String) :
    trim (normalizeDecimal text) = normalizeDecimal text := by
  refine trim_map_trim (fun c ↦ ?_) text
  split
  · rename_i hc
    rw [hc]
    decide
  · rfl

/-- A number that is written in a value is the one it denotes: there is no NUL in it. -/
theorem denoted_of_written {value : MssqlValueRef} {q : ℚ} (h : writtenNumber value = some q) :
    denotedNumber value = some q := by
  obtain ⟨⟨kind⟩⟩ := value
  have hnul {number : List Char} (hexact : exactValue number = some q) : '\x00' ∉ number :=
    fun hmem ↦ absurd (chars_of_exactValue hexact _ hmem) (by decide)
  cases kind with
  | text text =>
    rw [written_text] at h
    rw [denoted_text, trimmed_of_no_nul (hnul h), h]
  | decimal text precision scale =>
    rw [written_decimal] at h
    have hmap : (normalizeDecimal text).toList = withPoints (trim text).toList :=
      toList_normalizeDecimal text
    have htext : '\x00' ∉ (trim text).toList := by
      intro hmem
      refine hnul h ?_
      rw [hmap]
      exact List.mem_map.2 ⟨_, hmem, by decide⟩
    rw [denoted_decimal, trimmed_of_no_nul htext, ← hmap, h]
  | _ => cases h

/-- What a value is read as an integer is what it denotes. -/
theorem denoted_of_asI64 {kind : MssqlValueKind} (hkind : NumberOrText kind) {n : I64}
    (h : (MssqlValueRef.mk ⟨kind⟩).asI64 = some n) : denotedNumber ⟨⟨kind⟩⟩ = some ↑n.val := by
  cases kind with
  | tinyInt v | smallInt v | integer v =>
    have hn : v.widen = n := Option.some.inj h
    rw [← hn, IntType.Value.widen_val]
    rfl
  | bigInt v =>
    have hn : v = n := Option.some.inj h
    rw [← hn]
    rfl
  | text text =>
    rw [asI64_text] at h
    refine denoted_of_written ?_
    rw [written_text, exactValue_of_parseIntegerText h]
  | decimal text precision scale =>
    rw [asI64_normalized] at h
    have hexact := exactValue_of_parseIntegerText h
    rw [trim_normalizeDecimal] at hexact
    refine denoted_of_written ?_
    rw [written_decimal, hexact]
  | _ => exact hkind.elim

/-- A number that is written in a value can be read as a double. -/
theorem asF64_of_written {value : MssqlValueRef} {q : ℚ} (h : writtenNumber value = some q) :
    ∃ x, value.asF64 = some x := by
  obtain ⟨⟨kind⟩⟩ := value
  cases kind with
  | text text =>
    rw [written_text] at h
    rw [asF64_text]
    exact parseF64_of_exact h
  | decimal text precision scale =>
    rw [written_decimal] at h
    rw [asF64_decimal]
    exact parseF64_of_exact h
  | _ => cases h

/-- What is read as a double, and not as an integer, is written as a number, or is not finite. -/
theorem written_of_asF64 {kind : MssqlValueKind} (hkind : NumberOrText kind) {x : Float}
    (hnone : (MssqlValueRef.mk ⟨kind⟩).asI64 = none)
    (h : (MssqlValueRef.mk ⟨kind⟩).asF64 = some x) :
    x ∈ nonFinite ∨ ∃ q, writtenNumber ⟨⟨kind⟩⟩ = some q := by
  cases kind with
  | tinyInt v | smallInt v | integer v | bigInt v => cases hnone
  | text text =>
    rw [asF64_text] at h
    rw [written_text]
    exact parseF64_eq_some h
  | decimal text precision scale =>
    rw [asF64_decimal] at h
    rw [written_decimal]
    exact parseF64_eq_some h
  | _ => exact hkind.elim

theorem yyyymmdd_nonFinite {x : Float} (h : x ∈ nonFinite) : yyyymmdd (floatAsI64 x) = none := by
  have hall : ∀ x ∈ nonFinite, yyyymmdd (floatAsI64 x) = none := by decide +kernel
  exact hall x h

/-! ## ISO dates -/

/-- The numbers of a year, a month and a day between hyphens, the year with an optional sign. -/
def IsoDate (text : String) (ymd : ℤ × ℕ × ℕ) : Prop :=
  ∃ (sign : Sign) (year month day : List Char),
    (year ≠ [] ∧ month ≠ [] ∧ day ≠ []) ∧ (∀ c ∈ year ++ month ++ day, c.isDigit = true) ∧
    text.toList = sign.text ++ (year ++ '-' :: (month ++ '-' :: day)) ∧
    ymd = (sign.factor * digitsValue year, digitsValue month, digitsValue day)

/-- An ISO date is not a number. -/
theorem IsoDate.exactValue_eq_none {text : String} {ymd : ℤ × ℕ × ℕ} (h : IsoDate text ymd) :
    exactValue text.toList = none := by
  obtain ⟨sign, year, month, day, ⟨hyear, -, -⟩, hdigits, htext, -⟩ := h
  have hall : ∀ c ∈ year, c.isDigit = true := fun c hc ↦
    hdigits c (List.mem_append_left _ (List.mem_append_left _ hc))
  obtain ⟨htake, hdrop⟩ := takeWhile_digits hall ('-' :: (month ++ '-' :: day)) (by
    rintro c ⟨⟩
    decide)
  have hsplit : splitFraction ('-' :: (month ++ '-' :: day)) =
      ([], '-' :: (month ++ '-' :: day)) := rfl
  have hparts : numberParts (year ++ '-' :: (month ++ '-' :: day)) = none := by
    rw [numberParts, htake, hdrop, hsplit]
    cases parseDigits (year ++ []) with
    | none => rfl
    | some mantissa => rfl
  have hhead : ∀ c ∈ (year ++ '-' :: (month ++ '-' :: day)).head?, c ≠ '+' ∧ c ≠ '-' := by
    rw [List.head?_append_of_ne_nil _ hyear]
    have hdigit := head_of_digits hall [] (by rintro c ⟨⟩)
    rw [List.append_nil] at hdigit
    exact hdigit
  rw [htext, exactValue_signed sign hhead, exactMagnitude, hparts]
  rfl

theorem IsoDate.comma_not_mem {text : String} {ymd : ℤ × ℕ × ℕ} (h : IsoDate text ymd) :
    ',' ∉ text.toList := by
  obtain ⟨sign, year, month, day, -, hdigits, htext, -⟩ := h
  have hdigit : ',' ∉ year ++ month ++ day := fun hmem ↦ absurd (hdigits _ hmem) (by decide)
  have hsign : ',' ∉ sign.text := by cases sign <;> decide
  rw [htext]
  simp only [List.mem_append, List.mem_cons] at hdigit ⊢
  have hhyphen : ¬ ',' = '-' := by decide
  tauto

/-! ## The decoders -/

/-- The value denotes this date: as an ISO date, or as the integer `YYYYMMDD`. -/
def DenotesDate (value : MssqlValueRef) (ymd : ℤ × ℕ × ℕ) : Prop :=
  (∃ text, value.trimmedText = some text ∧ IsoDate text ymd) ∨
    denotedNumber value = some ↑(packed ymd)

/-- The value is an integer, in one of the forms that a packed date has. -/
def Packs (n : ℤ) : MssqlValueKind → Prop
  | .tinyInt v | .smallInt v => v.val = n
  | .integer v => v.val = n
  | .bigInt v => v.val = n
  | .text text => EightDigits (trim text).toList ∧ digitsValue (trim text).toList = n
  | .decimal text _ _ => ∃ num separator, Rendered num separator text ∧ num.value = n
  | _ => False

/-- A decoder of dates reads what a value denotes, and every packed date from 1900 to 3000. -/
def ReadsDate {α : Type} (ymd : α → ℤ × ℕ × ℕ) (decoded : Except DecodeError α)
    (kind : MssqlValueKind) : Prop :=
  (∀ date, decoded = .ok date → DenotesDate ⟨⟨kind⟩⟩ (ymd date)) ∧
    ∀ civil : Civil.Date, 1900 ≤ civil.year → civil.year ≤ 3000 →
      Packs (packed civil.ymd) kind → ∃ date, decoded = .ok date ∧ ymd date = civil.ymd

/-- The value is written as a number with a fraction, behind a packed date. -/
def FractionalDate (value : MssqlValueRef) : Prop :=
  ∃ (q : ℚ) (civil : Civil.Date), writtenNumber value = some q ∧ q ≠ ⌊q⌋ ∧
    1900 ≤ civil.year ∧ civil.year ≤ 3000 ∧ ⌊q⌋ = packed civil.ymd

/-- The double that is read is close enough to the number that is written to have its integer part,
if that can be a packed date. -/
def FaithfulF64 (value : MssqlValueRef) : Prop :=
  ∀ x q, value.asF64 = some x → writtenNumber value = some q →
    ∀ n, 19000101 ≤ n → n ≤ 30001231 → (floatAsI64 x = n ↔ ⌊q⌋ = n)

/-- What a crate promises about its dates: they are those of the calendar, are built from their
fields, and its parser accepts ISO dates only. -/
structure DateReader {α : Type} (ymd : α → ℤ × ℕ × ℕ) (ofParts : ℤ × ℕ × ℕ → Option α)
    (parseIso : String → Option α) : Prop where
  valid : ∀ date, ∃ civil : Civil.Date, ymd date = civil.ymd
  exists_date : ∀ civil : Civil.Date, 1900 ≤ civil.year → civil.year ≤ 3000 →
    ∃ date, ymd date = civil.ymd
  ofParts : ∀ parts date, ofParts parts = some date ↔ ymd date = parts
  parseIso : ∀ text date, parseIso text = some date → IsoDate text (ymd date)

section Cascade

variable {α : Type} {ymd : α → ℤ × ℕ × ℕ} {ofParts : ℤ × ℕ × ℕ → Option α}
  {parseIso : String → Option α} {kind : MssqlValueKind} {target : String}
  {ofRaw : Date → Except DecodeError α} {date : α}

/-- The stages that read text. -/
def dateOfText (ofParts : ℤ × ℕ × ℕ → Option α) (parseIso : String → Option α)
    (value : MssqlValueRef) : Option α :=
  value.trimmedText.bind fun text ↦
    match (yyyymmddText text).bind ofParts with
    | some date => some date
    | none => parseIso text

/-- The stages of the decoder: text, an integer, a double. -/
theorem decodeDate_eq_ok (hkind : NumberOrText kind) :
    decodeDate ⟨⟨kind⟩⟩ target ofRaw ofParts parseIso = .ok date ↔
      dateOfText ofParts parseIso ⟨⟨kind⟩⟩ = some date ∨
      dateOfText ofParts parseIso ⟨⟨kind⟩⟩ = none ∧
        ((∃ n, (MssqlValueRef.mk ⟨kind⟩).asI64 = some n ∧
          (yyyymmdd n.val).bind ofParts = some date) ∨
        (MssqlValueRef.mk ⟨kind⟩).asI64 = none ∧
          ∃ x, (MssqlValueRef.mk ⟨kind⟩).asF64 = some x ∧
            (yyyymmdd (floatAsI64 x)).bind ofParts = some date) := by
  have hraw : (MssqlValueRef.mk ⟨kind⟩).rawDate = none := by
    cases kind with
    | date raw => exact hkind.elim
    | _ => rfl
  rw [decodeDate, hraw]
  split
  · contradiction
  · rename_i date' hnone htext
    have hdate : dateOfText ofParts parseIso ⟨⟨kind⟩⟩ = some date' := htext
    simp [hdate]
  · rename_i n hnone htext hinteger
    have hdate : dateOfText ofParts parseIso ⟨⟨kind⟩⟩ = none := htext
    simp [hdate, hinteger, orMessage_eq_ok]
  · rename_i x hnone htext hinteger hfloat
    have hdate : dateOfText ofParts parseIso ⟨⟨kind⟩⟩ = none := htext
    cases h : (yyyymmdd (floatAsI64 x)).bind ofParts <;> simp [hdate, hinteger, hfloat, h]
  · rename_i hnone htext hinteger hfloat
    have hdate : dateOfText ofParts parseIso ⟨⟨kind⟩⟩ = none := htext
    simp [hdate, hinteger, hfloat]

/-- A trimmed text denotes its number, if there is no comma in it. -/
theorem denoted_of_trimmed (hkind : NumberOrText kind) {text : String}
    (htext : (MssqlValueRef.mk ⟨kind⟩).trimmedText = some text) (hcomma : ',' ∉ text.toList) :
    denotedNumber ⟨⟨kind⟩⟩ = exactValue text.toList := by
  cases kind with
  | tinyInt v | smallInt v | integer v | bigInt v => cases htext
  | text raw =>
    have hraw : trimmed raw = text := Option.some.inj htext
    rw [denoted_text, hraw]
  | decimal raw precision scale =>
    have hraw : trimmed raw = text := Option.some.inj htext
    rw [denoted_decimal, hraw, withPoints_of_not_mem hcomma]
  | _ => exact hkind.elim

/-- Eight digits in a value make it denote their number. -/
theorem denoted_of_digits (hkind : NumberOrText kind) {text : String}
    (htext : (MssqlValueRef.mk ⟨kind⟩).trimmedText = some text)
    (height : EightDigits text.toList) :
    denotedNumber ⟨⟨kind⟩⟩ = some ↑(digitsValue text.toList : ℤ) := by
  have hcomma : ',' ∉ text.toList := fun hmem ↦ absurd (height.1 _ hmem) (by decide)
  rw [denoted_of_trimmed hkind htext hcomma]
  exact exactValue_digits height.1 height.ne_nil

/-- An ISO date in a value denotes no number. -/
theorem denoted_of_isoDate (hkind : NumberOrText kind) {text : String}
    (htext : (MssqlValueRef.mk ⟨kind⟩).trimmedText = some text) {parts : ℤ × ℕ × ℕ}
    (hiso : IsoDate text parts) : denotedNumber ⟨⟨kind⟩⟩ = none := by
  rw [denoted_of_trimmed hkind htext hiso.comma_not_mem]
  exact hiso.exactValue_eq_none

/-- A positive integer is read from a numeral that denotes it. -/
theorem wholeI64_of_value {num : Numeral} {n : I64} (h : num.value = n.val) (hne : n.val ≠ 0) :
    (if num.decimals.all (· = '0') then wholeI64 num else none) = some n := by
  obtain ⟨hzeros, hwhole⟩ := (num.value_eq_intCast_iff n.val).1 h
  have hall : num.decimals.all (· = '0') = true :=
    List.all_eq_true.2 fun c hc ↦ decide_eq_true (hzeros c hc)
  rw [if_pos hall, wholeI64_eq_some]
  refine ⟨fun hnil ↦ hne ?_, hwhole⟩
  rw [hwhole, hnil]
  exact Int.mul_zero _

/-- A packed date is read as an integer, in each of its forms. -/
theorem asI64_of_packs {n : I64} (hne : n.val ≠ 0) (h : Packs n.val kind) :
    (MssqlValueRef.mk ⟨kind⟩).asI64 = some n := by
  cases kind with
  | tinyInt v | smallInt v | integer v =>
    have hread : v.widen = n := by
      refine Subtype.ext ?_
      rw [IntType.Value.widen_val]
      exact h
    rw [← hread]
    rfl
  | bigInt v =>
    have hn : v = n := Subtype.ext h
    rw [← hn]
    rfl
  | text text =>
    obtain ⟨height, hvalue⟩ := h
    obtain ⟨num, htext, hnum⟩ := exists_numeral height.1 height.ne_nil
    rw [hvalue] at hnum
    rw [asI64_text, parseIntegerText_numeral htext.symm, wholeI64_of_value hnum hne]
  | decimal text precision scale =>
    obtain ⟨num, separator, hrendered, hvalue⟩ := h
    have hread := asI64_decimal hrendered precision scale
    rw [wholeI64_of_value hvalue hne] at hread
    exact hread
  | _ => exact h.elim

variable (reader : DateReader ymd ofParts parseIso)
include reader

/-- What is read from text is what the text denotes. -/
theorem dateOfText_denotes (hkind : NumberOrText kind)
    (h : dateOfText ofParts parseIso ⟨⟨kind⟩⟩ = some date) : DenotesDate ⟨⟨kind⟩⟩ (ymd date) := by
  obtain ⟨text, htext, hread⟩ := Option.bind_eq_some_iff.1 h
  cases hdigits : (yyyymmddText text).bind ofParts with
  | some date' =>
    rw [hdigits] at hread
    obtain rfl : date' = date := Option.some.inj hread
    obtain ⟨parts, hparts, hof⟩ := Option.bind_eq_some_iff.1 hdigits
    obtain ⟨height, rfl⟩ := yyyymmddText_eq_some.1 hparts
    refine Or.inr ?_
    rw [denoted_of_digits hkind htext height, (reader.ofParts _ _).1 hof,
      packed_digitParts height.2]
  | none =>
    rw [hdigits] at hread
    exact Or.inl ⟨text, htext, reader.parseIso text date hread⟩

theorem yyyymmdd_bind_eq_some {n : ℤ} (h : (yyyymmdd n).bind ofParts = some date) :
    packed (ymd date) = n := by
  obtain ⟨parts, hparts, hof⟩ := Option.bind_eq_some_iff.1 h
  rw [(reader.ofParts _ _).1 hof]
  exact (packed_of_yyyymmdd hparts).1

/-- A date that is read from a number is a packed one from 1900 to 3000. -/
theorem yyyymmdd_bind_iff {n : ℤ} : (∃ date, (yyyymmdd n).bind ofParts = some date) ↔
    ∃ civil : Civil.Date, 1900 ≤ civil.year ∧ civil.year ≤ 3000 ∧ n = packed civil.ymd := by
  constructor
  · rintro ⟨date, hdate⟩
    obtain ⟨civil, hcivil⟩ := reader.valid date
    obtain ⟨parts, hparts, -⟩ := Option.bind_eq_some_iff.1 hdate
    have hn := yyyymmdd_bind_eq_some reader hdate
    rw [hcivil] at hn
    have hrange := (packed_of_yyyymmdd hparts).2
    rw [← hn, packed_range_iff] at hrange
    exact ⟨civil, hrange.1, hrange.2, hn.symm⟩
  · rintro ⟨civil, hmin, hmax, rfl⟩
    obtain ⟨date, hdate⟩ := reader.exists_date civil hmin hmax
    refine ⟨date, ?_⟩
    rw [yyyymmdd_packed hmin hmax]
    exact (reader.ofParts _ _).2 hdate

/-- **A date is read if the value denotes it**, but for fractions. -/
theorem denotes_of_decodeDate (hkind : NumberOrText kind) (hfloat : FaithfulF64 ⟨⟨kind⟩⟩)
    (hwhole : ¬ FractionalDate ⟨⟨kind⟩⟩)
    (h : decodeDate ⟨⟨kind⟩⟩ target ofRaw ofParts parseIso = .ok date) :
    DenotesDate ⟨⟨kind⟩⟩ (ymd date) := by
  obtain htext | ⟨-, ⟨n, hn, hdate⟩ | ⟨hnone, x, hx, hdate⟩⟩ := (decodeDate_eq_ok hkind).1 h
  · exact dateOfText_denotes reader hkind htext
  · refine Or.inr ?_
    rw [denoted_of_asI64 hkind hn, yyyymmdd_bind_eq_some reader hdate]
  · obtain hnonFinite | ⟨q, hq⟩ := written_of_asF64 hkind hnone hx
    · rw [yyyymmdd_nonFinite hnonFinite] at hdate
      cases hdate
    · -- The integer part is a packed date, so that the number must be that integer.
      obtain ⟨civil, hmin, hmax, hpacked⟩ := (yyyymmdd_bind_iff reader).1 ⟨date, hdate⟩
      have hrange := (packed_range_iff civil).2 ⟨hmin, hmax⟩
      have hfloor := (hfloat x q hx hq _ hrange.1 hrange.2).1 hpacked
      have hinteger : q = ⌊q⌋ := by
        by_contra hne
        exact hwhole ⟨q, civil, hq, hne, hmin, hmax, hfloor⟩
      refine Or.inr ?_
      rw [denoted_of_written hq, yyyymmdd_bind_eq_some reader hdate, hpacked, ← hfloor, ← hinteger]

/-- A number with a fraction is read as the packed date before it. -/
theorem decodeDate_of_fractional (hkind : NumberOrText kind) (hfloat : FaithfulF64 ⟨⟨kind⟩⟩)
    (hfraction : FractionalDate ⟨⟨kind⟩⟩) :
    ∃ date, decodeDate ⟨⟨kind⟩⟩ target ofRaw ofParts parseIso = .ok date ∧
      ¬ DenotesDate ⟨⟨kind⟩⟩ (ymd date) := by
  obtain ⟨q, civil, hq, hne, hmin, hmax, hfloor⟩ := hfraction
  have hdenoted := denoted_of_written hq
  have hinteger (n : ℤ) : denotedNumber ⟨⟨kind⟩⟩ ≠ some ↑n := by
    intro h
    rw [hdenoted] at h
    refine hne ?_
    rw [Option.some.inj h, Int.floor_intCast]
  have hnot (date : α) : ¬ DenotesDate ⟨⟨kind⟩⟩ (ymd date) := by
    rintro (⟨text, htext, hiso⟩ | hpacked)
    · rw [denoted_of_isoDate hkind htext hiso] at hdenoted
      cases hdenoted
    · exact hinteger _ hpacked
  have htext : dateOfText ofParts parseIso ⟨⟨kind⟩⟩ = none := by
    rw [Option.eq_none_iff_forall_not_mem]
    intro date hdate
    exact hnot date (dateOfText_denotes reader hkind hdate)
  have hnone : (MssqlValueRef.mk ⟨kind⟩).asI64 = none := by
    rw [Option.eq_none_iff_forall_not_mem]
    intro n hn
    exact hinteger _ (denoted_of_asI64 hkind hn)
  obtain ⟨x, hx⟩ := asF64_of_written hq
  have hrange := (packed_range_iff civil).2 ⟨hmin, hmax⟩
  have htruncated := (hfloat x q hx hq _ hrange.1 hrange.2).2 hfloor
  obtain ⟨date, hdate⟩ := (yyyymmdd_bind_iff reader).2 ⟨civil, hmin, hmax, htruncated⟩
  exact ⟨date, (decodeDate_eq_ok hkind).2 (Or.inr ⟨htext, Or.inr ⟨hnone, x, hx, hdate⟩⟩), hnot date⟩

/-- **The packed dates from 1900 to 3000 are read.** -/
theorem decodeDate_of_packs (hkind : NumberOrText kind) {civil : Civil.Date}
    (hmin : 1900 ≤ civil.year) (hmax : civil.year ≤ 3000) (h : Packs (packed civil.ymd) kind) :
    ∃ date, decodeDate ⟨⟨kind⟩⟩ target ofRaw ofParts parseIso = .ok date ∧
      ymd date = civil.ymd := by
  have hrange := (packed_range_iff civil).2 ⟨hmin, hmax⟩
  have hfits : IntType.i64.min ≤ packed civil.ymd ∧ packed civil.ymd ≤ IntType.i64.max :=
    ⟨le_trans (by decide) hrange.1, hrange.2.trans (by decide)⟩
  have hne : packed civil.ymd ≠ 0 := by omega
  have hinteger : (MssqlValueRef.mk ⟨kind⟩).asI64 = some ⟨packed civil.ymd, hfits⟩ :=
    asI64_of_packs hne h
  have hdenoted := denoted_of_asI64 hkind hinteger
  -- Whichever stage the date comes from, it is packed as this integer.
  have hsame {date : α} (hpacked : packed (ymd date) = packed civil.ymd) :
      ymd date = civil.ymd := by
    obtain ⟨civil', hcivil'⟩ := reader.valid date
    rw [hcivil'] at hpacked ⊢
    rw [packed_inj hpacked]
  cases htext : dateOfText ofParts parseIso ⟨⟨kind⟩⟩ with
  | some date =>
    refine ⟨date, (decodeDate_eq_ok hkind).2 (Or.inl htext), hsame ?_⟩
    obtain ⟨text, htrimmed, hiso⟩ | hpacked := dateOfText_denotes reader hkind htext
    · rw [denoted_of_isoDate hkind htrimmed hiso] at hdenoted
      cases hdenoted
    · rw [hpacked] at hdenoted
      exact Int.cast_inj.1 (Option.some.inj hdenoted)
  | none =>
    obtain ⟨date, hdate⟩ := (yyyymmdd_bind_iff reader).2 ⟨civil, hmin, hmax, rfl⟩
    refine ⟨date, (decodeDate_eq_ok hkind).2 (Or.inr ⟨htext, Or.inl ⟨_, hinteger, hdate⟩⟩), ?_⟩
    exact hsame (yyyymmdd_bind_eq_some reader hdate)

/-- **What a decoder of dates reads**: what the value denotes, unless that has a fraction. -/
theorem decodeDate_iff (hkind : NumberOrText kind) (hfloat : FaithfulF64 ⟨⟨kind⟩⟩) :
    ReadsDate ymd (decodeDate ⟨⟨kind⟩⟩ target ofRaw ofParts parseIso) kind ↔
      ¬ FractionalDate ⟨⟨kind⟩⟩ := by
  constructor
  · intro hreads hfraction
    obtain ⟨date, hdate, hnot⟩ := decodeDate_of_fractional reader hkind hfloat hfraction
    exact hnot (hreads.1 date hdate)
  · intro hwhole
    exact ⟨fun date ↦ denotes_of_decodeDate reader hkind hfloat hwhole,
      fun civil hmin hmax ↦ decodeDate_of_packs reader hkind hmin hmax⟩

end Cascade

/-! ## Both crates -/

/-- The parsers of the crates accept ISO dates only. -/
structure Crates.Writers.IsoParsers {X : Crates} (W : X.Writers) : Prop where
  parseDate : ∀ text date, X.chrono.parseDate text = some date → IsoDate text (W.naiveYmd date)
  parseIsoDate : ∀ text date, X.time.parseIsoDate text = some date → IsoDate text (W.timeYmd date)

section Crates

variable {X : Crates} {W : X.Writers}

theorem chrono_dateReader (laws : W.ChronoLaws) (iso : W.IsoParsers) :
    DateReader W.naiveYmd (fun (year, month, day) ↦ X.chrono.fromYmdOpt year month day)
      X.chrono.parseDate where
  valid := laws.date
  exists_date civil hmin hmax := laws.date_exists civil (by omega) (by omega)
  ofParts parts date := laws.fromYmdOpt _ _ _ date
  parseIso := iso.parseDate

theorem time_dateReader (laws : W.TimeLaws) (iso : W.IsoParsers) :
    DateReader W.timeYmd
      (fun (year, month, day) ↦ do
        let month ← X.time.monthTryFrom month
        X.time.fromCalendarDate year month day)
      X.time.parseIsoDate where
  valid date := by
    obtain ⟨civil, hcivil, -⟩ := laws.date date
    exact ⟨civil, hcivil⟩
  exists_date civil hmin hmax := laws.date_exists civil (by omega) (by omega)
  ofParts parts date := laws.fromCalendarDate _ _ _ date
  parseIso := iso.parseIsoDate

theorem naiveDate_iff (laws : W.ChronoLaws) (iso : W.IsoParsers) {kind : MssqlValueKind}
    (hkind : NumberOrText kind) (hfloat : FaithfulF64 ⟨⟨kind⟩⟩) :
    ReadsDate W.naiveYmd (decode X ⟨⟨kind⟩⟩ .naiveDate) kind ↔ ¬ FractionalDate ⟨⟨kind⟩⟩ :=
  decodeDate_iff (chrono_dateReader laws iso) hkind hfloat

theorem timeDate_iff (laws : W.TimeLaws) (iso : W.IsoParsers) {kind : MssqlValueKind}
    (hkind : NumberOrText kind) (hfloat : FaithfulF64 ⟨⟨kind⟩⟩) :
    ReadsDate W.timeYmd (decode X ⟨⟨kind⟩⟩ .timeDate) kind ↔ ¬ FractionalDate ⟨⟨kind⟩⟩ :=
  decodeDate_iff (time_dateReader laws iso) hkind hfloat

/-- **Dates from text and numbers.**  Both crates read from an integer, a text or an exact number
the date it denotes, and every packed date from 1900 to 3000, unless the number that is written
there has a fraction behind such a date. -/
theorem packed_dates_iff (chrono : W.ChronoLaws) (time : W.TimeLaws) (iso : W.IsoParsers)
    {kind : MssqlValueKind} (hkind : NumberOrText kind) (hfloat : FaithfulF64 ⟨⟨kind⟩⟩) :
    (ReadsDate W.naiveYmd (decode X ⟨⟨kind⟩⟩ .naiveDate) kind ↔ ¬ FractionalDate ⟨⟨kind⟩⟩) ∧
    (ReadsDate W.timeYmd (decode X ⟨⟨kind⟩⟩ .timeDate) kind ↔ ¬ FractionalDate ⟨⟨kind⟩⟩) :=
  ⟨naiveDate_iff chrono iso hkind hfloat, timeDate_iff time iso hkind hfloat⟩

end Crates

/-- The parsers of the calendar know the dates `YYYY-MM-DD`. -/
theorem isoDate_isIso {text : String} {date : Civil.Date} (h : isoDate text.toList = some date) :
    IsoDate text date.ymd := by
  rw [isoDate.eq_def] at h
  split at h
  · rename_i y₁ y₂ y₃ y₄ m₁ m₂ d₁ d₂ htext
    obtain ⟨year, hyear, h⟩ := Option.bind_eq_some_iff.1 h
    obtain ⟨month, hmonth, h⟩ := Option.bind_eq_some_iff.1 h
    obtain ⟨day, hday, h⟩ := Option.bind_eq_some_iff.1 h
    obtain ⟨-, hyears, rfl⟩ := parseDigits_eq_some hyear
    obtain ⟨-, hmonths, rfl⟩ := parseDigits_eq_some hmonth
    obtain ⟨-, hdays, rfl⟩ := parseDigits_eq_some hday
    refine ⟨.none, [y₁, y₂, y₃, y₄], [m₁, m₂], [d₁, d₂], ⟨nofun, nofun, nofun⟩, ?_, htext, ?_⟩
    · intro c hc
      obtain hc | hc := List.mem_append.1 hc
      · obtain hc | hc := List.mem_append.1 hc
        · exact hyears c hc
        · exact hmonths c hc
      · exact hdays c hc
    · rw [Civil.Date.ofYmd?_eq_some.1 h, Sign.factor, Int.one_mul]
  · cases h

theorem Crates.civil_isoParsers : Crates.civilWriters.IsoParsers where
  parseDate _ _ h := isoDate_isIso h
  parseIsoDate text date h := by
    obtain ⟨civil, hcivil, hof⟩ := Option.bind_eq_some_iff.1 h
    rw [CivilTimeDate.of?_eq_some.1 hof] at hcivil
    exact isoDate_isIso hcivil

section Samples

variable {text : String} {q : ℚ}

theorem faithful_text {n : ℤ} (hfloat : (parseF64 (trim text).toList).map floatAsI64 = some n)
    (hexact : exactValue (trim text).toList = some q) (hfloor : ⌊q⌋ = n) :
    FaithfulF64 ⟨⟨.text text⟩⟩ := by
  intro x q' hx hq' m _ _
  rw [asF64_text] at hx
  rw [written_text, hexact] at hq'
  rw [hx, Option.map_some] at hfloat
  rw [← Option.some.inj hq', Option.some.inj hfloat, hfloor]

/-- The first of January 2024 as eight digits. -/
theorem exactValue_newYear : exactValue (trim "20240101").toList = some ↑(20240101 : ℤ) := by
  have htrim : (trim "20240101").toList = "20240101".toList := by decide
  rw [htrim]
  exact exactValue_digits (List.all_eq_true.1 (by decide)) (by decide)

theorem newYear_text_faithful : FaithfulF64 ⟨⟨.text "20240101"⟩⟩ :=
  faithful_text (by decide +kernel) exactValue_newYear (Int.floor_intCast _)

theorem newYear_text_read :
    ReadsDate Crates.civilWriters.naiveYmd (decode Crates.civil ⟨⟨.text "20240101"⟩⟩ .naiveDate)
      (.text "20240101") ∧
    ReadsDate Crates.civilWriters.timeYmd (decode Crates.civil ⟨⟨.text "20240101"⟩⟩ .timeDate)
      (.text "20240101") := by
  have hwhole : ¬ FractionalDate ⟨⟨.text "20240101"⟩⟩ := by
    rintro ⟨q, -, hq, hne, -⟩
    rw [written_text, exactValue_newYear] at hq
    rw [← Option.some.inj hq, Int.floor_intCast] at hne
    exact hne rfl
  have hkind : NumberOrText (.text "20240101") := trivial
  obtain ⟨hchrono, htime⟩ := packed_dates_iff Crates.civil_chronoLaws Crates.civil_timeLaws
    Crates.civil_isoParsers hkind newYear_text_faithful
  exact ⟨hchrono.2 hwhole, htime.2 hwhole⟩

theorem five_digits : ∀ c ∈ (some ['5']).getD [], c.isDigit = true :=
  List.all_eq_true.1 (by decide)

/-- Half a day more. -/
def newYearNoon : Numeral :=
  ⟨.none, "20240101".toList, some ['5'], List.all_eq_true.1 (by decide),
    five_digits, by decide⟩

theorem exactValue_newYearNoon :
    exactValue (trim "20240101.5").toList = some (202401015 / 10) := by
  have htrim : (trim "20240101.5").toList = newYearNoon.text '.' := by decide
  have hdigits : digitsValue (newYearNoon.whole ++ newYearNoon.decimals) = 202401015 := by decide
  have hlength : newYearNoon.decimals.length = 1 := rfl
  rw [htrim, exactValue_numeral, Numeral.value, hdigits, hlength]
  norm_num [newYearNoon, Sign.factor]

theorem floor_newYearNoon : ⌊(202401015 / 10 : ℚ)⌋ = 20240101 := by
  rw [Int.floor_eq_iff]
  norm_num

theorem newYearNoon_fractional : FractionalDate ⟨⟨.text "20240101.5"⟩⟩ := by
  refine ⟨202401015 / 10, newYear 2024, exactValue_newYearNoon, ?_, by decide, by decide, ?_⟩
  · rw [floor_newYearNoon]
    norm_num
  · rw [floor_newYearNoon]
    decide

theorem newYearNoon_read_as_newYear :
    FaithfulF64 ⟨⟨.text "20240101.5"⟩⟩ ∧
    ¬ ReadsDate Crates.civilWriters.naiveYmd
      (decode Crates.civil ⟨⟨.text "20240101.5"⟩⟩ .naiveDate) (.text "20240101.5") ∧
    ¬ ReadsDate Crates.civilWriters.timeYmd
      (decode Crates.civil ⟨⟨.text "20240101.5"⟩⟩ .timeDate) (.text "20240101.5") := by
  have hfloat : FaithfulF64 ⟨⟨.text "20240101.5"⟩⟩ :=
    faithful_text (by decide +kernel) exactValue_newYearNoon floor_newYearNoon
  have hkind : NumberOrText (.text "20240101.5") := trivial
  refine ⟨hfloat, fun hreads ↦ ?_, fun hreads ↦ ?_⟩
  · exact (naiveDate_iff Crates.civil_chronoLaws Crates.civil_isoParsers hkind hfloat).1 hreads
      newYearNoon_fractional
  · exact (timeDate_iff Crates.civil_timeLaws Crates.civil_isoParsers hkind hfloat).1 hreads
      newYearNoon_fractional

end Samples

end MssqlOdbc
