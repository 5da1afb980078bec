import Mathlib.Data.Int.Notation
import Mathlib.Data.List.Basic
import Mathlib.Data.List.DropRight
import Mathlib.Data.String.Basic
import MssqlOdbc.Lib.Quoting

/-!
# Text and numbers

What the driver uses of the string functions of the standard library: trimming, and reading
integers and floating point numbers.  The integer types are one definition with the bounds of each
of them; a `Value` of such a type carries the proof that it is in range.
-/

set_option autoImplicit false

namespace MssqlOdbc

/-! ## Trimming -/

/-- `char::is_whitespace`. -/
def isWhitespace (c : Char) : Bool :=
  let n := c.toNat
  (9 ≤ n && n ≤ 13) || n == 32 || n == 0x85 || n == 0xA0 || n == 0x1680 ||
    (0x2000 ≤ n && n ≤ 0x200A) || n == 0x2028 || n == 0x2029 || n == 0x202F || n == 0x205F ||
    n == 0x3000

/-- `str::trim_end_matches`. -/
def trimEnd (p : Char → Bool) (s : String) : String :=
  String.ofList (s.toList.reverse.dropWhile p).reverse

/-- `str::trim_start_matches`. -/
def trimStart (p : Char → Bool) (s : String) : String := String.ofList (s.toList.dropWhile p)

/-- `str::trim`. -/
def trim (s : String) : String := trimEnd isWhitespace (trimStart isWhitespace s)

theorem toList_trimEnd (p : Char → Bool) (s : String) :
    (trimEnd p s).toList = (s.toList.reverse.dropWhile p).reverse := String.toList_ofList

theorem toList_trim (s : String) : (trim s).toList =
    ((s.toList.dropWhile isWhitespace).reverse.dropWhile isWhitespace).reverse := by
  rw [trim, toList_trimEnd, trimStart, String.toList_ofList]

/-- Nothing is dropped behind characters that stop the dropping. -/
theorem dropWhile_append_of_stop {p : Char → Bool} {core : List Char}
    (hcore : ∀ c ∈ core, p c = false) (hne : core ≠ []) (rest : List Char) :
    (core ++ rest).dropWhile p = core ++ rest := by
  obtain ⟨c, tail, rfl⟩ := List.exists_cons_of_ne_nil hne
  have hc : ¬ p c = true := by
    rw [hcore c List.mem_cons_self]
    decide
  rw [List.cons_append, List.dropWhile_cons_of_neg hc]

/-- A text without whitespace is what is left of it between whitespace. -/
theorem trim_padded {before core after : List Char} (hbefore : ∀ c ∈ before, isWhitespace c = true)
    (hafter : ∀ c ∈ after, isWhitespace c = true) (hcore : ∀ c ∈ core, isWhitespace c = false)
    (hne : core ≠ []) : (trim (String.ofList (before ++ core ++ after))).toList = core := by
  have hreverse : ∀ c ∈ core.reverse, isWhitespace c = false :=
    fun c hc ↦ hcore c (List.mem_reverse.1 hc)
  have hstop := dropWhile_append_of_stop hreverse (List.reverse_ne_nil_iff.2 hne) []
  rw [List.append_nil] at hstop
  rw [toList_trim, String.toList_ofList, List.append_assoc,
    List.dropWhile_append_of_pos hbefore, dropWhile_append_of_stop hcore hne,
    List.reverse_append,
    List.dropWhile_append_of_pos fun c hc ↦ hafter c (List.mem_reverse.1 hc), hstop,
    List.reverse_reverse]

/-- Only whitespace is dropped. -/
theorem mem_trim_or {s : String} {c : Char} (h : c ∈ s.toList) :
    isWhitespace c = true ∨ c ∈ (trim s).toList := by
  have hdrop {l : List Char} (hc : c ∈ l) :
      isWhitespace c = true ∨ c ∈ l.dropWhile isWhitespace := by
    rw [← List.takeWhile_append_dropWhile (p := isWhitespace) (l := l)] at hc
    obtain hc | hc := List.mem_append.1 hc
    · exact Or.inl (List.mem_takeWhile_imp hc)
    · exact Or.inr hc
  rw [toList_trim, List.mem_reverse]
  obtain hspace | hc := hdrop h
  · exact Or.inl hspace
  · exact hdrop (List.mem_reverse.2 hc)

/-- There is nothing left to trim, also when the characters are changed to others of their kind. -/
theorem trim_map_trim {f : Char → Char} (hf : ∀ c, isWhitespace (f c) = isWhitespace c)
    (s : String) : trim (String.ofList ((trim s).toList.map f)) =
      String.ofList ((trim s).toList.map f) := by
  have hkind : isWhitespace ∘ f = isWhitespace := funext hf
  have hback (l : List Char) : (l.map f).rdropWhile isWhitespace =
      (l.rdropWhile isWhitespace).map f := by
    rw [List.rdropWhile, List.rdropWhile, ← List.map_reverse, List.dropWhile_map, hkind,
      List.map_reverse]
  have htrim (s : String) : (trim s).toList =
      (s.toList.dropWhile isWhitespace).rdropWhile isWhitespace := toList_trim s
  -- What is left begins as the text without its leading whitespace does.
  have hfront : (trim s).toList.dropWhile isWhitespace = (trim s).toList := by
    have hbegin : (trim s).toList <+: s.toList.dropWhile isWhitespace := by
      rw [htrim]
      exact List.rdropWhile_prefix isWhitespace _
    rw [List.dropWhile_eq_self_iff]
    intro hpos
    rw [hbegin.getElem hpos]
    exact List.dropWhile_get_zero_not isWhitespace _ _
  refine String.toList_inj.1 ?_
  rw [htrim, String.toList_ofList, List.dropWhile_map, hkind, hfront, hback, htrim,
    List.rdropWhile_idempotent]

theorem trimEnd_eq_self {p : Char → Bool} {s : String} (h : ∀ c ∈ s.toList, p c = false) :
    trimEnd p s = s := by
  have hlast : s.toList.rdropWhile p = s.toList := by
    rw [List.rdropWhile_eq_self_iff]
    intro hne
    rw [h _ (List.getLast_mem hne)]
    decide
  refine String.toList_inj.1 ?_
  rw [toList_trimEnd]
  exact hlast

/-! ## Searching and replacing -/

/-- `str::replace` of a character. -/
def replace (c : Char) (replacement : String) (s : String) : String :=
  String.ofList (s.toList.flatMap fun d ↦ if d = c then replacement.toList else [d])

/-- Replacing a character by two of it doubles it. -/
theorem replace_eq_double (c : Char) (pair : String) (h : pair.toList = [c, c]) (s : String) :
    (replace c pair s).toList = Quoting.double c s.toList := by
  rw [replace, Quoting.double, h, String.toList_ofList]
  congr 1
  funext d
  by_cases hd : d = c
  · rw [if_pos hd, if_pos hd, hd]
  · rw [if_neg hd, if_neg hd]

/-- `str::find`: where the pattern begins first. -/
def find (pattern : List Char) : List Char → Option ℕ
  | [] => if pattern = [] then some 0 else none
  | c :: text =>
    if pattern <+: c :: text then some 0 else (find pattern text).map (· + 1)

/-- `str::contains`. -/
def contains (pattern : List Char) (text : List Char) : Bool := (find pattern text).isSome

theorem find_of_prefix {pattern text : List Char} (h : pattern <+: text) :
    find pattern text = some 0 := by
  cases text with
  | nil => exact if_pos (List.prefix_nil.1 h)
  | cons c text => exact if_pos h

theorem contains_iff {pattern text : List Char} : contains pattern text ↔ pattern <:+: text := by
  induction text with
  | nil =>
    rw [contains, find, List.infix_nil]
    split <;> simp [*]
  | cons c text ih =>
    rw [contains, find, List.infix_cons_iff]
    split
    · rename_i hstart
      simp [hstart]
    · rename_i hstart
      rw [Option.isSome_map]
      exact ih.trans (or_iff_right hstart).symm

/-- Searching for a character stops where it begins to be left out. -/
theorem drop_find_char (c : Char) (text : List Char) :
    text.drop ((find [c] text).getD text.length) = text.dropWhile fun d ↦ d ≠ c := by
  induction text with
  | nil => rfl
  | cons d text ih =>
    rw [find]
    by_cases hd : d = c
    · subst hd
      rw [if_pos (by simp), List.dropWhile_cons_of_neg (by simp)]
      rfl
    · have hstart : ¬ [c] <+: d :: text := fun h ↦ hd (List.cons_prefix_cons.1 h).1.symm
      rw [if_neg hstart, List.dropWhile_cons_of_pos (by simpa using hd), ← ih]
      cases find [c] text with
      | none => rfl
      | some i => rfl

/-- A character is found behind the ones that are left out. -/
theorem take_find_char (c : Char) (text : List Char) :
    text.take ((find [c] text).getD text.length) = text.takeWhile fun d ↦ d ≠ c := by
  have hsplit := List.take_append_drop ((find [c] text).getD text.length) text
  rw [drop_find_char] at hsplit
  refine List.append_cancel_right (hsplit.trans ?_)
  exact (List.takeWhile_append_dropWhile (p := fun d ↦ decide (d ≠ c)) (l := text)).symm

/-- `str::find`, as the byte where the pattern begins first. -/
def findByte (pattern text : List Char) : Option ℕ :=
  (find pattern text).map fun i ↦ String.utf8Len (text.take i)

theorem findByte_char (c : Char) (text : List Char) (start : ℕ) :
    ((findByte [c] text).map (start + ·)).getD (start + String.utf8Len text) =
      start + String.utf8Len (text.takeWhile fun d ↦ d ≠ c) := by
  have htake := take_find_char c text
  rw [findByte]
  cases hfind : find [c] text with
  | none =>
    rw [hfind, Option.getD_none, List.take_length] at htake
    rw [← htake]
    rfl
  | some i =>
    rw [hfind, Option.getD_some] at htake
    rw [← htake]
    rfl

/-- A string before a byte, and from there on.  There is no such slice unless a character begins at
the byte, or the string ends there. -/
def splitAtByte : ℕ → List Char → Option (List Char × List Char)
  | 0, text => some ([], text)
  | _ + 1, [] => none
  | n + 1, c :: text =>
    if c.utf8Size ≤ n + 1 then
      (splitAtByte (n + 1 - c.utf8Size) text).map fun (before, rest) ↦ (c :: before, rest)
    else none

theorem utf8Len_append (text text' : List Char) :
    String.utf8Len (text ++ text') = String.utf8Len text + String.utf8Len text' := by
  induction text with
  | nil => simp
  | cons c text ih =>
    rw [List.cons_append, String.utf8Len_cons, String.utf8Len_cons, ih]
    omega

theorem splitAtByte_zero {text before rest : List Char} :
    splitAtByte 0 text = some (before, rest) ↔
      text = before ++ rest ∧ String.utf8Len before = 0 := by
  rw [splitAtByte, Option.some.injEq, Prod.mk.injEq, String.utf8Len_eq_zero]
  constructor
  · rintro ⟨rfl, rfl⟩
    exact ⟨rfl, rfl⟩
  · rintro ⟨htext, rfl⟩
    exact ⟨rfl, htext⟩

theorem splitAtByte_eq_some {n : ℕ} {text before rest : List Char} :
    splitAtByte n text = some (before, rest) ↔
      text = before ++ rest ∧ String.utf8Len before = n := by
  induction text generalizing n before with
  | nil =>
    cases n with
    | zero => exact splitAtByte_zero
    | succ n =>
      refine ⟨nofun, fun h ↦ ?_⟩
      have hnil := (List.append_eq_nil_iff.1 h.1.symm).1
      rw [hnil] at h
      cases h.2
  | cons c text ih =>
    cases n with
    | zero => exact splitAtByte_zero
    | succ n =>
      rw [splitAtByte]
      constructor
      · intro h
        split at h
        · obtain ⟨⟨before', rest'⟩, hsplit, hpair⟩ := Option.map_eq_some_iff.1 h
          cases hpair
          obtain ⟨rfl, hlen⟩ := ih.1 hsplit
          refine ⟨rfl, ?_⟩
          rw [String.utf8Len_cons, hlen]
          omega
        · cases h
      · rintro ⟨htext, hlen⟩
        cases before with
        | nil => cases hlen
        | cons d before =>
          rw [List.cons_append, List.cons.injEq] at htext
          obtain ⟨rfl, rfl⟩ := htext
          rw [String.utf8Len_cons] at hlen
          have hrest : splitAtByte (n + 1 - c.utf8Size) (before ++ rest) = some (before, rest) :=
            ih.2 ⟨rfl, by omega⟩
          rw [if_pos (by omega), hrest]
          rfl

/-- `str::split_once` at a character. -/
def splitOnce (separator : Char) (text : List Char) : Option (List Char × List Char) :=
  match text.dropWhile (fun c ↦ c ≠ separator) with
  | [] => none
  | _ :: rest => some (text.takeWhile (fun c ↦ c ≠ separator), rest)

section SplitOnce

variable {separator c : Char} {text before rest : List Char}

theorem splitOnce_self (text : List Char) :
    splitOnce separator (separator :: text) = some ([], text) := by
  rw [splitOnce, List.dropWhile_cons_of_neg (by simp), List.takeWhile_cons_of_neg (by simp)]

theorem splitOnce_cons_of_ne (h : c ≠ separator) (text : List Char) :
    splitOnce separator (c :: text) =
      (splitOnce separator text).map fun (before, rest) ↦ (c :: before, rest) := by
  rw [splitOnce, splitOnce, List.dropWhile_cons_of_pos (by simpa using h),
    List.takeWhile_cons_of_pos (by simpa using h)]
  cases text.dropWhile fun c ↦ c ≠ separator with
  | nil => rfl
  | cons d rest => rfl

/-- The text is split at the first separator. -/
theorem splitOnce_eq_some (h : splitOnce separator text = some (before, rest)) :
    text = before ++ separator :: rest ∧ separator ∉ before := by
  induction text generalizing before with
  | nil => cases h
  | cons c text ih =>
    by_cases hc : c = separator
    · subst hc
      rw [splitOnce_self] at h
      cases h
      exact ⟨rfl, List.not_mem_nil⟩
    · rw [splitOnce_cons_of_ne hc, Option.map_eq_some_iff] at h
      obtain ⟨⟨before', rest'⟩, hsplit, heq⟩ := h
      cases heq
      obtain ⟨htext, hnot⟩ := ih hsplit
      refine ⟨congrArg (c :: ·) htext, fun hmem ↦ ?_⟩
      rcases List.mem_cons.1 hmem with heq | hmem
      · exact hc heq.symm
      · exact hnot hmem

/-- A text is split at the separator that stands behind characters that are none. -/
theorem splitOnce_append (h : separator ∉ before) (rest : List Char) :
    splitOnce separator (before ++ separator :: rest) = some (before, rest) := by
  induction before with
  | nil => exact splitOnce_self rest
  | cons c before ih =>
    rw [List.mem_cons, not_or] at h
    rw [List.cons_append, splitOnce_cons_of_ne (Ne.symm h.1), ih h.2]
    rfl

theorem splitOnce_eq_none : splitOnce separator text = none ↔ separator ∉ text := by
  induction text with
  | nil => exact ⟨fun _ ↦ List.not_mem_nil, fun _ ↦ rfl⟩
  | cons c text ih =>
    by_cases hc : c = separator
    · subst hc
      simp [splitOnce_self]
    · rw [splitOnce_cons_of_ne hc, Option.map_eq_none_iff, ih, List.mem_cons, not_or]
      exact ⟨fun h ↦ ⟨Ne.symm hc, h⟩, fun h ↦ h.2⟩

end SplitOnce

/-! ## Integers -/

/-- The integer types that are read from columns and bound to parameters. -/
inductive IntType where
  | i8 | i16 | i32 | i64 | u8 | u16 | u32 | u64
deriving DecidableEq, Repr

namespace IntType

def name : IntType → String
  | .i8 => "i8"
  | .i16 => "i16"
  | .i32 => "i32"
  | .i64 => "i64"
  | .u8 => "u8"
  | .u16 => "u16"
  | .u32 => "u32"
  | .u64 => "u64"

def min : IntType → ℤ
  | .i8 => -128
  | .i16 => -32768
  | .i32 => -2147483648
  | .i64 => -9223372036854775808
  | .u8 | .u16 | .u32 | .u64 => 0

def max : IntType → ℤ
  | .i8 => 127
  | .i16 => 32767
  | .i32 => 2147483647
  | .i64 => 9223372036854775807
  | .u8 => 255
  | .u16 => 65535
  | .u32 => 4294967295
  | .u64 => 18446744073709551615

/-- A number in the range of the type. -/
abbrev Value (ty : IntType) : Type := {v : ℤ // ty.min ≤ v ∧ v ≤ ty.max}

/-- `TryFrom`: the number, if it is in range. -/
def tryFrom (ty : IntType) (v : ℤ) : Option ty.Value :=
  if h : ty.min ≤ v ∧ v ≤ ty.max then some ⟨v, h⟩ else none

variable {ty : IntType}

@[simp] theorem tryFrom_val (v : ty.Value) : ty.tryFrom v.val = some v := dif_pos v.property

theorem tryFrom_eq_some {v : ℤ} {x : ty.Value} : ty.tryFrom v = some x ↔ x.val = v := by
  constructor
  · intro h
    rw [tryFrom] at h
    split at h
    · cases h
      rfl
    · cases h
  · rintro rfl
    exact tryFrom_val x

end IntType

instance (ty : IntType) : Inhabited ty.Value := ⟨0, by cases ty <;> decide⟩

/-- `as`: what is left of a number in the bits of the type. -/
def IntType.wrap (ty : IntType) (v : ℤ) : ty.Value :=
  ⟨(v - ty.min) % (ty.max - ty.min + 1) + ty.min, by
    have hwidth : 0 < ty.max - ty.min + 1 := by cases ty <;> decide
    have hnonneg := Int.emod_nonneg (v - ty.min) (Int.ne_of_gt hwidth)
    have hlt := Int.emod_lt_of_pos (v - ty.min) hwidth
    omega⟩

/-- `From`: a number of a type is one of every type with wider bounds. -/
def IntType.Value.widen {ty ty' : IntType} (v : ty.Value)
    (h : ty'.min ≤ ty.min ∧ ty.max ≤ ty'.max := by decide) : ty'.Value :=
  ⟨v.val, Int.le_trans h.1 v.property.1, Int.le_trans v.property.2 h.2⟩

@[simp] theorem IntType.Value.widen_val {ty ty' : IntType} (v : ty.Value)
    (h : ty'.min ≤ ty.min ∧ ty.max ≤ ty'.max) : (v.widen h).val = v.val := rfl

theorem IntType.one_mem_u16 : IntType.u16.min ≤ 1 ∧ 1 ≤ IntType.u16.max := by decide

/-- The narrower types of columns are within the widest one. -/
theorem IntType.i16_within_i64 : IntType.i64.min ≤ IntType.i16.min ∧
    IntType.i16.max ≤ IntType.i64.max := by decide

theorem IntType.u8_within_i64 : IntType.i64.min ≤ IntType.u8.min ∧
    IntType.u8.max ≤ IntType.i64.max := by decide

theorem IntType.i32_within_i64 : IntType.i64.min ≤ IntType.i32.min ∧
    IntType.i32.max ≤ IntType.i64.max := by decide

abbrev I16 : Type := IntType.i16.Value

abbrev I32 : Type := IntType.i32.Value

abbrev I64 : Type := IntType.i64.Value

abbrev U16 : Type := IntType.u16.Value

abbrev U32 : Type := IntType.u32.Value

/-- The number a non-empty list of decimal digits denotes. -/
def parseDigits (digits : List Char) : Option ℕ :=
  if !digits.isEmpty && digits.all Char.isDigit then
    some (digits.foldl (fun n c ↦ 10 * n + (c.toNat - '0'.toNat)) 0)
  else none

/-- `str::parse` for an integer type. -/
def parseInt (ty : IntType) (text : List Char) : Option ty.Value :=
  match text with
  | '+' :: digits => (parseDigits digits).bind fun n ↦ ty.tryFrom n
  | '-' :: digits => if ty.min < 0 then (parseDigits digits).bind fun n ↦ ty.tryFrom (-n) else none
  | digits => (parseDigits digits).bind fun n ↦ ty.tryFrom n

/-! ## Floating point numbers -/

/-- The exponent that ends a number: its digits behind an `e`, or nothing at all. -/
def parseExponent (text : List Char) : Option ℤ :=
  match text with
  | [] => some 0
  | e :: rest =>
    if e = 'e' ∨ e = 'E' then
      match rest with
      | '+' :: digits => (parseDigits digits).map fun n ↦ (n : ℤ)
      | '-' :: digits => (parseDigits digits).map fun n ↦ -(n : ℤ)
      | digits => (parseDigits digits).map fun n ↦ (n : ℤ)
    else none

/-- `as i64`: the integer part, if it is in range, and else the bound it is beyond.  NaN is 0. -/
def floatAsI64 (x : Float) : ℤ :=
  if x < 0 then -(min x.neg.toUInt64.toNat 9223372036854775808 : ℕ)
  else (min x.toUInt64.toNat 9223372036854775807 : ℕ)

/-- The double nearest to `mantissa * 10 ^ exponent`. -/
def scientific (mantissa : ℕ) (exponent : ℤ) : Float :=
  Float.ofScientific mantissa (decide (exponent < 0)) exponent.natAbs

/-- A number without a sign: digits on at least one side of an optional point, and an exponent. -/
def parseNumber (text : List Char) : Option Float := do
  let whole := text.takeWhile Char.isDigit
  let rest := text.dropWhile Char.isDigit
  let (fraction, rest) := match rest with
    | '.' :: rest => (rest.takeWhile Char.isDigit, rest.dropWhile Char.isDigit)
    | rest => ([], rest)
  let mantissa ← parseDigits (whole ++ fraction)
  let exponent ← parseExponent rest
  return scientific mantissa (exponent - fraction.length)

/-- A floating point number without a sign. -/
def parseMagnitude (text : List Char) : Option Float :=
  let lower := text.map Char.toLower
  if lower = "inf".toList ∨ lower = "infinity".toList then some (1.0 / 0.0)
  else if lower = "nan".toList then some (0.0 / 0.0)
  else parseNumber text

/-- `str::parse` for `f64`. -/
def parseF64 (text : List Char) : Option Float :=
  match text with
  | '+' :: rest => parseMagnitude rest
  | '-' :: rest => (parseMagnitude rest).map Float.neg
  | rest => parseMagnitude rest

end MssqlOdbc
