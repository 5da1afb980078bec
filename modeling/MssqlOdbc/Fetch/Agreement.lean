import MssqlOdbc.Decode
import MssqlOdbc.Fetch.Delivered

/-!
# The two fetch modes agree, except on GUIDs

Buffered fetching reads every integer column as 64-bit integers, so the two modes make different
kinds of the same cell.  Nothing that looks at a value can tell these kinds apart: they have the
same readings, and no Rust type reads from one integer type only.

A `UNIQUEIDENTIFIER` is different.  Unbuffered it is fetched as its sixteen bytes, buffered it falls
to the narrow text buffer, and a UUID is read from the former but not from the latter.
`fetch_modes_agree_iff` says that this is the only exception.
-/

set_option autoImplicit false

namespace MssqlOdbc

/-- No accessor, no compatibility check and no decoder tells the two values apart.  Two failures to
decode count as the same outcome, whatever kind their messages name. -/
structure ObservablyEqual (X : Crates) (v w : MssqlValue) : Prop where
  isNull : v.isNull = w.isNull
  asI64 : v.asI64 = w.asI64
  asBool : (MssqlValueRef.mk v).asBool = (MssqlValueRef.mk w).asBool
  asStr : v.asStr = w.asStr
  asStr_ref : (MssqlValueRef.mk v).asStr = (MssqlValueRef.mk w).asStr
  asBytes : v.asBytes = w.asBytes
  compatible : ∀ t : RustType, t.compatible v.typeInfo = t.compatible w.typeInfo
  decode : ∀ t : RustType, (decode X ⟨v⟩ t).toOption = (decode X ⟨w⟩ t).toOption

/-- Both modes fetch the cell, and what they make of it is observably equal. -/
def ModesAgree (X : Crates) (column : MssqlColumn) (maxColumnSize : ℕ) (cell : Cell) : Prop :=
  ∃ v w, FetchMode.unbuffered.fetch column cell = .ok v ∧
    (FetchMode.buffered maxColumnSize).fetch column cell = .ok w ∧ ObservablyEqual X v w

theorem ObservablyEqual.refl (X : Crates) (v : MssqlValue) : ObservablyEqual X v v :=
  ⟨rfl, rfl, rfl, rfl, rfl, rfl, fun _ ↦ rfl, fun _ ↦ rfl⟩

section

variable {X : Crates} {fits : Prop} {dataType : DataType} {k k' : MssqlValueKind}

/-- What is read of an integer that was fetched as a 64-bit one. -/
theorem readings_widen {ty : IntType} (v : ty.Value)
    (h : IntType.i64.min ≤ ty.min ∧ ty.max ≤ IntType.i64.max) :
    (MssqlValueRef.mk ⟨.bigInt (v.widen h)⟩).readings =
      ⟨some (v.widen h), some (Float.ofInt v.val), none, none, some (decide (v.val ≠ 0)), none,
        none, none⟩ :=
  congrArg (fun n ↦ Readings.mk (some (v.widen h)) (some (Float.ofInt n)) none none
    (some (decide (n ≠ 0))) none none none) (v.widen_val h)

theorem observablyEqual_of_readings
    (hreadings : (MssqlValueRef.mk ⟨k⟩).readings = (MssqlValueRef.mk ⟨k'⟩).readings)
    (hnull : (MssqlValue.mk k).isNull = (MssqlValue.mk k').isNull)
    (hstr : (MssqlValue.mk k).asStr = (MssqlValue.mk k').asStr)
    (hcompatible : ∀ t : RustType, t.compatible k.typeInfo = t.compatible k'.typeInfo) :
    ObservablyEqual X ⟨k⟩ ⟨k'⟩ where
  isNull := hnull
  asI64 := congrArg Readings.asI64 hreadings
  asBool := congrArg Readings.asBool hreadings
  asStr := hstr
  asStr_ref := congrArg Readings.asStr hreadings
  asBytes := congrArg Readings.asBytes hreadings
  compatible := hcompatible
  decode := decode_outcome hreadings

/-- The kinds of the two modes cannot be told apart unless they are those of a GUID. -/
theorem Fetched.observablyEqual (h : Fetched fits dataType k k') (hfits : fits)
    (hguid : dataType.isOther (-11) = false) : ObservablyEqual X ⟨k⟩ ⟨k'⟩ := by
  cases h with
  | tinyInt v | smallInt v | integer v =>
    refine observablyEqual_of_readings (readings_widen v _).symm rfl rfl fun t ↦ ?_
    exact compatible_integers t (by simp) (by simp)
  | guid columnSize decimalDigits bytes hhyphenated => cases hguid
  | binary h hsame | text h hsame | decimal precision scale hsame | numeric precision scale hsame =>
    rw [hsame hfits]
    exact .refl X _
  | _ => exact .refl X _

theorem Fetched.ne_null (h : Fetched fits dataType k k') : k ≠ .null := by
  rintro rfl
  cases h

/-- A GUID is read as a UUID in one mode only. -/
theorem Fetched.not_observablyEqual (h : Fetched fits dataType k k')
    (hguid : dataType.isOther (-11) = true) : ¬ ObservablyEqual X ⟨k⟩ ⟨k'⟩ := by
  intro hequal
  cases h with
  | guid columnSize decimalDigits bytes hhyphenated =>
    have huuid : true = false := hequal.compatible .uuid
    cases huuid
  | text htext hsame =>
    cases dataType with
    | other sqlType columnSize decimalDigits =>
      have hne : sqlType ≠ -11 := of_decide_eq_true htext
      exact hne (of_decide_eq_true hguid)
    | _ => cases hguid
  | binary hbinary hsame => cases dataType <;> first | cases hguid | cases hbinary
  | _ => cases hguid

end

/-- **The two fetch modes agree exactly when there is no GUID to read.**  For every column, with
either report of its nullability, and every cell of it that fits the buffer: what the two modes make
of the cell is observably equal if and only if the column is no `UNIQUEIDENTIFIER` or the cell is
NULL. -/
theorem fetch_modes_agree_iff (X : Crates) {column : MssqlColumn} {maxColumnSize : ℕ} {cell : Cell}
    (hdelivered : cell.Delivered column)
    (hfits : cell.Fits (column.binding maxColumnSize).bufferDesc) :
    ModesAgree X column maxColumnSize cell ↔
      (column.typeInfo.dataType.isOther (-11) = true → cell = .null) := by
  obtain ⟨convert, hconvert⟩ := bufferedKind_ok column maxColumnSize
  have hbuffered := buffered_fetch hconvert cell
  obtain ⟨rfl, hnullable⟩ | hholds := hdelivered
  · refine iff_of_true ⟨⟨.null⟩, ⟨.null⟩, ?_, ?_, .refl X _⟩ fun _ ↦ rfl
    · exact unbuffered_fetch fetchKind_null
    · rw [hbuffered, bufferedKind_null hnullable hconvert]
  · obtain ⟨k, hfetch, hfetched⟩ := fetched_of_holds hholds hconvert
    have hunbuffered := unbuffered_fetch hfetch
    cases hguid : column.typeInfo.dataType.isOther (-11) with
    | false =>
      refine iff_of_true ⟨_, _, hunbuffered, hbuffered, hfetched.observablyEqual hfits hguid⟩ ?_
      exact fun h ↦ Bool.noConfusion h
    | true =>
      refine iff_of_false ?_ fun h ↦ ?_
      · rintro ⟨v, w, hv, hw, hequal⟩
        cases hunbuffered.symm.trans hv
        cases hbuffered.symm.trans hw
        exact hfetched.not_observablyEqual hguid hequal
      · rw [h rfl, fetchKind_null] at hfetch
        exact hfetched.ne_null (Except.ok.inj hfetch).symm

/-- A tiny integer, with a buffer for text that it does not need. -/
theorem tinyInt_modes_agree :
    ModesAgree Crates.sample ⟨0, "n", ⟨.tinyInt⟩, some false⟩ 0
      { Cell.null with i16 := .ok (some ⟨7, by decide⟩), i64 := .ok (some ⟨7, by decide⟩) } := by
  refine (fetch_modes_agree_iff Crates.sample (.inr ?_) ?_).2 fun h ↦ Bool.noConfusion h
  · exact ⟨⟨7, by decide⟩, rfl, rfl⟩
  · trivial

/-- A UUID that is read from the unbuffered value, but not from the buffered one. -/
theorem guid_modes_disagree :
    let column : MssqlColumn := ⟨0, "id", .guid, some false⟩
    let cell := Cell.ofGuid #v[0, 1, 2, 3, 4, 5, 6, 7, 8, 9, 10, 11, 12, 13, 14, 15]
    cell.Delivered column ∧ cell.Fits (column.binding 36).bufferDesc ∧
      ¬ ModesAgree Crates.sample column 36 cell := by
  refine ⟨.inr (Cell.ofGuid_holds _ none 0), fun bytes hbytes ↦ ?_, ?_⟩
  · cases hbytes
    decide
  · rintro ⟨v, w, hv, hw, hequal⟩
    cases hv
    cases hw
    have huuid : true = false := hequal.compatible .uuid
    cases huuid

end MssqlOdbc
