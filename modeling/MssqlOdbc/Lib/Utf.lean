import Mathlib.Algebra.Ring.Nat
import Mathlib.Data.List.Basic

/-!
# Text as UTF-16 and as UTF-8

The two encodings a database interface hands text out in, read *lossily*: every ill-formed part is
replaced by U+FFFD, so that reading always succeeds.  On well-formed input reading is the inverse of
writing (`Utf16.ofUtf16Lossy_encode`, `Utf8.ofUtf8Lossy_encode`), and this is all that is used of
the repair of ill-formed input: it is the same function of the same units wherever they are read.
-/

set_option autoImplicit false

/-- U+FFFD, which stands for what could not be decoded. -/
def replacementChar : Char := '\uFFFD'

/-! ## UTF-16 -/

namespace Utf16

def isLead (u : UInt16) : Bool := decide (0xD800 ≤ u.toNat) && decide (u.toNat < 0xDC00)

def isTrail (u : UInt16) : Bool := decide (0xDC00 ≤ u.toNat) && decide (u.toNat < 0xE000)

/-- The character of a surrogate pair. -/
def combine (lead trail : UInt16) : Char :=
  Char.ofNat (0x10000 + (lead.toNat - 0xD800) * 0x400 + (trail.toNat - 0xDC00))

def encodeChar (c : Char) : List UInt16 :=
  if c.toNat < 0x10000 then [UInt16.ofNat c.toNat]
  else [UInt16.ofNat (0xD800 + (c.toNat - 0x10000) / 0x400),
    UInt16.ofNat (0xDC00 + (c.toNat - 0x10000) % 0x400)]

def encode (s : String) : List UInt16 := s.toList.flatMap encodeChar

/-- The characters of a list of code units.  A surrogate that is not part of a pair is replaced,
and what follows it is read as if it had not been there. -/
def decodeLossy : List UInt16 → List Char
  | [] => []
  | [u] => [if isLead u || isTrail u then replacementChar else Char.ofNat u.toNat]
  | u :: v :: rest =>
    if isLead u then
      if isTrail v then combine u v :: decodeLossy rest
      else replacementChar :: decodeLossy (v :: rest)
    else if isTrail u then replacementChar :: decodeLossy (v :: rest)
    else Char.ofNat u.toNat :: decodeLossy (v :: rest)

def ofUtf16Lossy (units : List UInt16) : String := String.ofList (decodeLossy units)

/-- No character is a surrogate. -/
theorem toNat_not_surrogate (c : Char) :
    c.toNat < 0xD800 ∨ 0xE000 ≤ c.toNat ∧ c.toNat < 0x110000 := by
  have hvalid : c.toNat < 0xD800 ∨ 0xDFFF < c.toNat ∧ c.toNat < 0x110000 := c.valid
  omega

theorem decodeLossy_single {u : UInt16} (hlead : isLead u = false) (htrail : isTrail u = false)
    (rest : List UInt16) : decodeLossy (u :: rest) = Char.ofNat u.toNat :: decodeLossy rest := by
  rcases rest with _ | ⟨v, rest⟩
  · simp [decodeLossy, hlead, htrail]
  · rw [decodeLossy, hlead, htrail]
    rfl

theorem decodeLossy_encodeChar (c : Char) (rest : List UInt16) :
    decodeLossy (encodeChar c ++ rest) = c :: decodeLossy rest := by
  have hc := toNat_not_surrogate c
  by_cases hsmall : c.toNat < 0x10000
  · have hunit : (UInt16.ofNat c.toNat).toNat = c.toNat := by
      simpa using hsmall
    have hlead : isLead (UInt16.ofNat c.toNat) = false := by
      rw [isLead, hunit]
      simp only [Bool.and_eq_false_iff, decide_eq_false_iff_not]
      omega
    have htrail : isTrail (UInt16.ofNat c.toNat) = false := by
      rw [isTrail, hunit]
      simp only [Bool.and_eq_false_iff, decide_eq_false_iff_not]
      omega
    rw [encodeChar, if_pos hsmall, List.singleton_append, decodeLossy_single hlead htrail, hunit,
      Char.ofNat_toNat]
  · have hlead : (UInt16.ofNat (0xD800 + (c.toNat - 0x10000) / 0x400)).toNat =
        0xD800 + (c.toNat - 0x10000) / 0x400 := by
      simp only [UInt16.toNat_ofNat']
      omega
    have htrail : (UInt16.ofNat (0xDC00 + (c.toNat - 0x10000) % 0x400)).toNat =
        0xDC00 + (c.toNat - 0x10000) % 0x400 := by
      simp only [UInt16.toNat_ofNat']
      omega
    have hpair : 0x10000 + (0xD800 + (c.toNat - 0x10000) / 0x400 - 0xD800) * 0x400 +
        (0xDC00 + (c.toNat - 0x10000) % 0x400 - 0xDC00) = c.toNat := by
      omega
    rw [encodeChar, if_neg hsmall]
    simp only [List.cons_append, List.nil_append]
    rw [decodeLossy, if_pos, if_pos, combine, hlead, htrail, hpair, Char.ofNat_toNat]
    · rw [isTrail, htrail]
      simp only [Bool.and_eq_true, decide_eq_true_eq]
      omega
    · rw [isLead, hlead]
      simp only [Bool.and_eq_true, decide_eq_true_eq]
      omega

/-- **Text written as UTF-16 is read back.** -/
theorem ofUtf16Lossy_encode (s : String) : ofUtf16Lossy (encode s) = s := by
  have h (cs : List Char) : decodeLossy (cs.flatMap encodeChar) = cs := by
    induction cs with
    | nil => rfl
    | cons c cs ih => rw [List.flatMap_cons, decodeLossy_encodeChar, ih]
  rw [ofUtf16Lossy, encode, h, String.ofList_toList]

end Utf16

/-! ## UTF-8 -/

namespace Utf8

def encode (s : String) : List UInt8 := s.toByteArray.data.toList

/-- `String::from_utf8`. -/
def ofUtf8? (bytes : List UInt8) : Option String := String.fromUTF8? ⟨bytes.toArray⟩

/-- The number of continuation bytes a first byte asks for, and the range of the first of them. -/
def header (b : UInt8) : Option (ℕ × ℕ × ℕ) :=
  let n := b.toNat
  if n < 0x80 then some (0, 0, 0)
  else if 0xC2 ≤ n ∧ n < 0xE0 then some (1, 0x80, 0xC0)
  else if n = 0xE0 then some (2, 0xA0, 0xC0)
  else if n = 0xED then some (2, 0x80, 0xA0)
  else if 0xE1 ≤ n ∧ n < 0xF0 then some (2, 0x80, 0xC0)
  else if n = 0xF0 then some (3, 0x90, 0xC0)
  else if 0xF1 ≤ n ∧ n < 0xF4 then some (3, 0x80, 0xC0)
  else if n = 0xF4 then some (3, 0x80, 0x90)
  else none

/-- Reads up to `want` continuation bytes: their value so far, and how many there were. -/
def continuation (want lo hi value : ℕ) : List UInt8 → ℕ × ℕ
  | [] => (value, 0)
  | b :: rest =>
    match want with
    | 0 => (value, 0)
    | want + 1 =>
      if lo ≤ b.toNat ∧ b.toNat < hi then
        let (value, count) := continuation want 0x80 0xC0 (value * 64 + b.toNat % 64) rest
        (value, count + 1)
      else (value, 0)

/-- The character at the head, or its replacement, and the number of bytes behind the first one
that belong to it. -/
def head (b : UInt8) (rest : List UInt8) : Char × ℕ :=
  match header b with
  | none => (replacementChar, 0)
  | some (want, lo, hi) =>
    let first := if want = 0 then b.toNat else b.toNat % 2 ^ (6 - want)
    let (value, count) := continuation want lo hi first rest
    (if count = want then Char.ofNat value else replacementChar, count)

/-- The characters of a list of bytes, every maximal ill-formed part replaced; `skip` bytes at the
front belong to the character before. -/
def decodeLossy (skip : ℕ) : List UInt8 → List Char
  | [] => []
  | b :: rest =>
    match skip with
    | 0 => (head b rest).1 :: decodeLossy (head b rest).2 rest
    | skip + 1 => decodeLossy skip rest

/-- `String::from_utf8_lossy`: valid text is taken as it is. -/
def ofUtf8Lossy (bytes : List UInt8) : String :=
  match ofUtf8? bytes with
  | some s => s
  | none => String.ofList (decodeLossy 0 bytes)

theorem ofUtf8?_encode (s : String) : ofUtf8? (encode s) = some s := by
  have hbytes : (⟨(encode s).toArray⟩ : ByteArray) = s.toByteArray := rfl
  rw [ofUtf8?, hbytes, String.fromUTF8?, dif_pos s.isValidUTF8]
  rfl

/-- **Text written as UTF-8 is read back.** -/
theorem ofUtf8Lossy_encode (s : String) : ofUtf8Lossy (encode s) = s := by
  rw [ofUtf8Lossy, ofUtf8?_encode]

end Utf8
