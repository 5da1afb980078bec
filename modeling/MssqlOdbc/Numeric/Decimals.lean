import MssqlOdbc.Numeric.Exact

/-!
# Two decimal types

`Decimal` and `BigDecimal` are decoded from the same columns.  Their crates read the numerals that
are written with a point; the decoder of `Decimal` undoes a decimal comma before it asks its crate,
the decoder of `BigDecimal` only trims.
-/

set_option autoImplicit false

namespace MssqlOdbc

/-- What the crates promise, where `decimal` and `big` are the numbers that their values stand for:
they read a numeral with a point if they can represent it, which `BigDecimal` always can, and a
text with a comma is no number. -/
structure DecimalLaws (X : Crates) (decimal : X.Decimal → ℚ) (big : X.BigDecimal → ℚ) : Prop where
  decimalFromStr : ∀ num : Numeral, num.Full → (∃ d, decimal d = num.value) →
    ∃ d, X.decimalFromStr (String.ofList (num.text '.')) = .ok d ∧ decimal d = num.value
  bigDecimalFromStr : ∀ num : Numeral, num.Full →
    ∃ b, X.bigDecimalFromStr (String.ofList (num.text '.')) = .ok b ∧ big b = num.value
  bigDecimalFromStr_comma : ∀ text b, X.bigDecimalFromStr text = .ok b → ',' ∉ text.toList

/-- The kinds of value that carry a text. -/
inductive CarriesText (text : String) : MssqlValueKind → Prop where
  | text : CarriesText text (.text text)
  | decimal (precision : ℕ) (scale : ℤ) : CarriesText text (.decimal text precision scale)
  | binary : CarriesText text (.binary (Utf8.encode text))

section Decoders

variable {X : Crates} {text : String} {kind : MssqlValueKind}

theorem orPassed_eq_ok {α : Type} {e : Except String α} {a : α} :
    orPassed e = .ok a ↔ e = .ok a := by
  cases e with
  | ok b => exact ⟨fun h ↦ by cases h; rfl, fun h ↦ by cases h; rfl⟩
  | error text => exact ⟨nofun, nofun⟩

theorem orExplained_eq_ok {α : Type} {explain : String → String} {e : Except String α} {a : α} :
    orExplained explain e = .ok a ↔ e = .ok a := by
  cases e with
  | ok b => exact ⟨fun h ↦ by cases h; rfl, fun h ↦ by cases h; rfl⟩
  | error text => exact ⟨nofun, nofun⟩

theorem utf8Text_encode (text : String) : utf8Text (Utf8.encode text) = .ok text := by
  rw [utf8Text, Utf8.ofUtf8?_encode]

theorem CarriesText.decode_decimal (h : CarriesText text kind) {d : X.Decimal} :
    decode X ⟨⟨kind⟩⟩ .decimal = .ok d ↔ X.decimalFromStr (normalizeDecimal text) = .ok d := by
  have hread : decode X ⟨⟨kind⟩⟩ .decimal =
      orPassed (X.decimalFromStr (normalizeDecimal text)) := by
    cases h with
    | text | decimal precision scale => rfl
    | binary =>
      show (do orPassed (X.decimalFromStr (normalizeDecimal (← utf8Text (Utf8.encode text))))) = _
      rw [utf8Text_encode]
      rfl
  rw [hread]
  exact orPassed_eq_ok

theorem CarriesText.decode_bigDecimal (h : CarriesText text kind) {b : X.BigDecimal} :
    decode X ⟨⟨kind⟩⟩ .bigDecimal = .ok b ↔ X.bigDecimalFromStr (trim text) = .ok b := by
  have hread : ∃ explain, decode X ⟨⟨kind⟩⟩ .bigDecimal =
      orExplained explain (X.bigDecimalFromStr (trim text)) := by
    cases h with
    | text | decimal precision scale => exact ⟨fun error ↦ s!"bad decimal text: {error}", rfl⟩
    | binary =>
      refine ⟨fun error ↦ s!"bad decimal bytes: {error}", ?_⟩
      show (do
        let text ← utf8Text (Utf8.encode text)
        orExplained (fun error ↦ s!"bad decimal bytes: {error}")
          (X.bigDecimalFromStr (trim text))) = _
      rw [utf8Text_encode]
      rfl
  obtain ⟨explain, hread⟩ := hread
  rw [hread]
  exact orExplained_eq_ok

end Decoders

/-- A value is decoded as a number by both types. -/
def DecodesTo (X : Crates) (decimal : X.Decimal → ℚ) (big : X.BigDecimal → ℚ)
    (kind : MssqlValueKind) (q : ℚ) : Prop :=
  (∃ d, decode X ⟨⟨kind⟩⟩ .decimal = .ok d ∧ decimal d = q) ∧
    ∃ b, decode X ⟨⟨kind⟩⟩ .bigDecimal = .ok b ∧ big b = q

/-- **Where the decimal types agree.**  Of the numerals that `Decimal` represents, both types decode
the ones without a separator and the ones with a point. -/
theorem decimals_agree_iff {X : Crates} {decimal : X.Decimal → ℚ} {big : X.BigDecimal → ℚ}
    (laws : DecimalLaws X decimal big) {num : Numeral} (hfull : num.Full)
    (hrepresented : ∃ d, decimal d = num.value) {separator : Char} {text : String}
    (htext : Rendered num separator text) {kind : MssqlValueKind} (hkind : CarriesText text kind) :
    DecodesTo X decimal big kind num.value ↔ num.fraction = none ∨ separator = '.' := by
  have htrim : trim text = String.ofList (num.text separator) := by
    rw [← htext.trim, String.ofList_toList]
  have hnormal : normalizeDecimal text = String.ofList (num.text '.') := by
    rw [← htext.normalizeDecimal, String.ofList_toList]
  constructor
  · rintro ⟨-, b, hread, -⟩
    have hcomma := laws.bigDecimalFromStr_comma _ b (hkind.decode_bigDecimal.1 hread)
    rw [htrim, String.toList_ofList] at hcomma
    obtain hpoint | rfl := htext.separator_mem
    · exact Or.inr hpoint
    · cases hfraction : num.fraction with
      | none => exact Or.inl rfl
      | some digits =>
        refine absurd ?_ hcomma
        rw [Numeral.text, hfraction]
        exact List.mem_append_right _ List.mem_cons_self
  · intro hseparator
    have hsame : num.text separator = num.text '.' := by
      obtain hnone | rfl := hseparator
      · rw [Numeral.text, Numeral.text, hnone]
        rfl
      · rfl
    obtain ⟨d, hread, hd⟩ := laws.decimalFromStr num hfull hrepresented
    obtain ⟨b, hread', hb⟩ := laws.bigDecimalFromStr num hfull
    refine ⟨⟨d, ?_, hd⟩, b, ?_, hb⟩
    · rw [← hnormal] at hread
      exact hkind.decode_decimal.2 hread
    · rw [← hsame, ← htrim] at hread'
      exact hkind.decode_bigDecimal.2 hread'

/-- Crates whose numbers are the rational ones. -/
def Crates.rational : Crates :=
  let read (text : String) : Except String ℚ := (exactValue text.toList).elim (.error "invalid") .ok
  { Crates.sample with
    Decimal := ℚ
    decimalFromStr := read
    decimalFromI64 := fun n ↦ n.val
    decimalTryFromF64 := fun _ ↦ none
    BigDecimal := ℚ
    bigDecimalFromStr := read
    bigDecimalFromI64 := fun n ↦ n.val
    bigDecimalTryFromF64 := fun _ ↦ .error "invalid" }

theorem Crates.rational_laws : DecimalLaws Crates.rational id id := by
  have hread (num : Numeral) : ∃ q : ℚ, ((exactValue (String.ofList (num.text '.')).toList).elim
      (.error "invalid") .ok : Except String ℚ) = .ok q ∧ id q = num.value := by
    rw [String.toList_ofList, exactValue_numeral]
    exact ⟨num.value, rfl, rfl⟩
  refine ⟨fun num _ _ ↦ hread num, fun num _ ↦ hread num, fun text q h hcomma ↦ ?_⟩
  have hq : ((exactValue text.toList).elim (.error "invalid") .ok : Except String ℚ) = .ok q := h
  cases hvalue : exactValue text.toList with
  | none => rw [hvalue] at hq; cases hq
  | some q' => exact absurd (chars_of_exactValue hvalue ',' hcomma) (by decide)

/-- Three halves. -/
def threeHalves : Numeral :=
  ⟨.minus, ['1'], some ['5'], List.all_eq_true.1 rfl, List.all_eq_true.1 rfl, by decide⟩

theorem threeHalves_full : threeHalves.Full := ⟨by decide, by decide⟩

theorem threeHalves_agree :
    DecodesTo Crates.rational id id (.binary (Utf8.encode "-1.5 ")) threeHalves.value :=
  (decimals_agree_iff Crates.rational_laws threeHalves_full ⟨threeHalves.value, rfl⟩
    ⟨Or.inl rfl, [], [' '], List.forall_mem_nil _, List.all_eq_true.1 rfl, by decide⟩
    CarriesText.binary).2 (Or.inr rfl)

theorem comma_not_agreed : DecimalLaws Crates.rational id id ∧ threeHalves.Full ∧
    Rendered threeHalves ',' "-1,5" ∧
    ¬ DecodesTo Crates.rational id id (.text "-1,5") threeHalves.value := by
  refine ⟨Crates.rational_laws, threeHalves_full,
    ⟨Or.inr rfl, [], [], List.forall_mem_nil _, List.forall_mem_nil _, by decide⟩, fun h ↦ ?_⟩
  obtain ⟨-, b, hread, -⟩ := h
  have hcomma := Crates.rational_laws.bigDecimalFromStr_comma _ b
    (CarriesText.text.decode_bigDecimal.1 hread)
  exact absurd hcomma (by decide)

end MssqlOdbc
