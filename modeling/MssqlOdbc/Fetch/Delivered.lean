import MssqlOdbc.Connection.Fetch

/-!
# What the driver delivers, and what becomes of it

The driver is trusted with a few things only: a value has the C types that fit its data type,
narrow text is UTF-8 and wide text is UTF-16 of the same characters, and a `UNIQUEIDENTIFIER` is
sixteen bytes, or the hyphenated text of these.  This is `Cell.Holds`.

`Fetched` lists, data type by data type, the kind either fetch mode makes of such a cell, and
`fetched_of_holds` is the one place where the two conversions are looked into.  Everything that
compares the modes, or follows a value from the column to a Rust type, goes through that list.
-/

set_option autoImplicit false

namespace MssqlOdbc

/-! ## Cells of a data type -/

/-- The same text in both widths. -/
structure Cell.HasText (cell : Cell) (text : String) : Prop where
  narrow : cell.narrowText = .ok (some (Utf8.encode text))
  wide : cell.wideText = .ok (some (Utf16.encode text))

/-- The cell is a value of the data type. -/
def Cell.Holds (cell : Cell) : DataType → Prop
  | .tinyInt | .smallInt =>
    ∃ v : I16, cell.i16 = .ok (some v) ∧ cell.i64 = .ok (some (v.widen IntType.i16_within_i64))
  | .integer =>
    ∃ v : I32, cell.i32 = .ok (some v) ∧ cell.i64 = .ok (some (v.widen IntType.i32_within_i64))
  | .bigInt => ∃ v : I64, cell.i64 = .ok (some v)
  | .real => ∃ x, cell.f32 = .ok (some x)
  | .float _ | .double => ∃ x, cell.f64 = .ok (some x)
  | .bit => ∃ b, cell.bit = .ok (some b)
  | .date => ∃ d, cell.date = .ok (some d)
  | .time _ => ∃ t, cell.time = .ok (some t)
  | .timestamp _ => ∃ t, cell.timestamp = .ok (some t)
  | .binary _ | .varbinary _ | .longVarbinary _ => ∃ bytes, cell.binary = .ok (some bytes)
  | .wChar _ | .wVarchar _ | .wLongVarchar _ => ∃ units, cell.wideText = .ok (some units)
  | .char _ | .varchar _ | .longVarchar _ | .unknown | .decimal _ _ | .numeric _ _ =>
    ∃ text, cell.HasText text
  | .other sqlType _ _ =>
    if sqlType = -11 then
      ∃ (bytes : Guid) (text : String), cell.binary = .ok (some bytes.toList) ∧
        cell.HasText text ∧ text.toList.map Char.toLower = (uuidGuidToString bytes).toList
    else ∃ text, cell.HasText text

/-- A cell the driver can deliver for the column: NULL, unless the column is reported to have none,
or a value of its data type. -/
def Cell.Delivered (cell : Cell) (column : MssqlColumn) : Prop :=
  cell = .null ∧ column.nullable ≠ some false ∨ cell.Holds column.typeInfo.dataType

/-- The cell is not cut by the buffer. -/
def Cell.Fits (cell : Cell) : BufferDesc → Prop
  | .text max => ∀ bytes, cell.narrowText = .ok (some bytes) → bytes.length ≤ max
  | .wText max => ∀ units, cell.wideText = .ok (some units) → units.length ≤ max
  | .binary max => ∀ bytes, cell.binary = .ok (some bytes) → bytes.length ≤ max
  | _ => True

/-- A `UNIQUEIDENTIFIER`, with its hyphenated text in lower case. -/
def Cell.ofGuid (bytes : Guid) : Cell :=
  { Cell.null with
    binary := .ok (some bytes.toList)
    narrowText := .ok (some (Utf8.encode (uuidGuidToString bytes)))
    wideText := .ok (some (Utf16.encode (uuidGuidToString bytes))) }

theorem lowerHex_toLower (byte : UInt8) : (lowerHex byte).map Char.toLower = lowerHex byte := by
  have hdigit : ∀ n < 16, (Nat.digitChar n).toLower = Nat.digitChar n := by decide
  have hbyte : byte.toNat < 256 := byte.toNat_lt
  rw [lowerHex, List.map_cons, List.map_cons, List.map_nil, hdigit _ (by omega),
    hdigit _ (by omega)]

theorem hexGroup_toLower (bytes : List UInt8) :
    (hexGroup bytes).map Char.toLower = hexGroup bytes := by
  rw [hexGroup, List.map_flatMap]
  simp only [lowerHex_toLower]

theorem uuidGuidToString_toLower (bytes : Guid) :
    (uuidGuidToString bytes).toList.map Char.toLower = (uuidGuidToString bytes).toList := by
  have hdash : Char.toLower '-' = '-' := by decide
  rw [uuidGuidToString, String.toList_ofList]
  simp only [List.map_append, List.map_cons, hexGroup_toLower, hdash]

theorem Cell.ofGuid_holds (bytes : Guid) (columnSize : Option ℕ) (decimalDigits : ℤ) :
    (Cell.ofGuid bytes).Holds (.other (-11) columnSize decimalDigits) := by
  rw [Cell.Holds, if_pos rfl]
  exact ⟨bytes, uuidGuidToString bytes, rfl, ⟨rfl, rfl⟩, uuidGuidToString_toLower bytes⟩

/-! ## Kinds -/

/-- The data types that are fetched as text in both modes. -/
def DataType.fetchedAsText : DataType → Bool
  | .other sqlType _ _ => decide (sqlType ≠ -11)
  | .unknown => true
  | dataType => dataType.acceptsCharacterData

/-- The kinds a cell of a data type is fetched as, unbuffered and buffered.  The contents are the
same if the cell `fits` the buffer. -/
inductive Fetched (fits : Prop) : DataType → MssqlValueKind → MssqlValueKind → Prop where
  | tinyInt (v : I16) : Fetched fits .tinyInt (.tinyInt v) (.bigInt (v.widen (by decide)))
  | smallInt (v : I16) : Fetched fits .smallInt (.smallInt v) (.bigInt (v.widen (by decide)))
  | integer (v : I32) : Fetched fits .integer (.integer v) (.bigInt (v.widen (by decide)))
  | bigInt (v : I64) : Fetched fits .bigInt (.bigInt v) (.bigInt v)
  | real (x : Float32) : Fetched fits .real (.real x) (.real x)
  | float (precision : ℕ) (x : Float) : Fetched fits (.float precision) (.double x) (.double x)
  | double (x : Float) : Fetched fits .double (.double x) (.double x)
  | bit (b : Bool) : Fetched fits .bit (.bit b) (.bit b)
  | date (d : Date) : Fetched fits .date (.date d) (.date d)
  | time (precision : ℤ) (t : Time) : Fetched fits (.time precision) (.time t) (.time t)
  | timestamp (precision : ℤ) (t : Timestamp) :
    Fetched fits (.timestamp precision) (.timestamp t) (.timestamp t)
  | binary {dataType : DataType} (h : dataType.acceptsBinaryData = true)
      {bytes bytes' : List UInt8} (hfits : fits → bytes' = bytes) :
    Fetched fits dataType (.binary bytes) (.binary bytes')
  | text {dataType : DataType} (h : dataType.fetchedAsText = true) {text text' : String}
      (hfits : fits → text' = text) : Fetched fits dataType (.text text) (.text text')
  | decimal (precision : ℕ) (scale : ℤ) {text text' : String} (hfits : fits → text' = text) :
    Fetched fits (.decimal precision scale) (.decimal text precision scale)
      (.decimal text' precision scale)
  | numeric (precision : ℕ) (scale : ℤ) {text text' : String} (hfits : fits → text' = text) :
    Fetched fits (.numeric precision scale) (.decimal text precision scale)
      (.decimal text' precision scale)
  | guid (columnSize : Option ℕ) (decimalDigits : ℤ) (bytes : Guid) {text : String}
      (hfits : fits → text.toList.map Char.toLower = (uuidGuidToString bytes).toList) :
    Fetched fits (.other (-11) columnSize decimalDigits) (.guid bytes) (.text text)

theorem guidOrText_guid (bytes : Guid) : guidOrText bytes.toList = .guid bytes := by
  have hlength : bytes.toList.length = 16 := bytes.length_toList
  rw [guidOrText, dif_pos hlength]
  congr 1

section Answers

variable {α : Type} {column : MssqlColumn}

theorem fetchNullable_some {answer : Except OdbcError (Option α)} {x : α}
    (h : answer = .ok (some x)) (map : α → MssqlValueKind) :
    fetchNullable column answer map = .ok (map x) := by
  rw [h]
  rfl

theorem bufferedNumeric_some [Inhabited α] {answer : Except OdbcError (Option α)} {x : α}
    (h : answer = .ok (some x)) (nullable : Bool) (map : α → MssqlValueKind) :
    bufferedNumeric nullable map (bound answer) = map x := by
  rw [h]
  cases nullable <;> rfl

theorem bufferedSlice_some {answer : Except OdbcError (Option (List α))} {units : List α}
    (h : answer = .ok (some units)) (max : ℕ) (map : List α → MssqlValueKind) :
    bufferedSlice max map (bound answer) = map (units.take max) := by
  rw [h]
  rfl

end Answers

section Cells

variable {column : MssqlColumn} {cell : Cell}

theorem fetchKind_null : fetchKind column .null = .ok .null := by
  rw [fetchKind]
  cases column.typeInfo.dataType with
  | other sqlType columnSize decimalDigits =>
    dsimp only
    split <;> rfl
  | _ => rfl

theorem bufferedKind_ok (column : MssqlColumn) (maxColumnSize : ℕ) :
    ∃ convert, bufferedKind (column.binding maxColumnSize) = .ok convert := by
  rw [bufferedKind, MssqlColumn.binding]
  cases column.typeInfo.dataType <;> exact ⟨_, rfl⟩

/-- NULL, where the column can be NULL. -/
theorem bufferedKind_null {maxColumnSize : ℕ} {convert : Cell → MssqlValueKind}
    (hnullable : column.nullable ≠ some false)
    (h : bufferedKind (column.binding maxColumnSize) = .ok convert) : convert .null = .null := by
  have htrue : column.nullable.getD true = true := by
    rcases hcase : column.nullable with _ | _ | _
    · rfl
    · exact absurd hcase hnullable
    · rfl
  rw [bufferedKind, MssqlColumn.binding, htrue] at h
  cases hD : column.typeInfo.dataType <;> rw [hD] at h <;> cases h <;> rfl

theorem unbuffered_fetch {kind : MssqlValueKind} (h : fetchKind column cell = .ok kind) :
    FetchMode.unbuffered.fetch column cell = .ok ⟨kind⟩ := by
  rw [FetchMode.fetch, fetchValue, h]
  rfl

theorem buffered_fetch {maxColumnSize : ℕ} {convert : Cell → MssqlValueKind}
    (h : bufferedKind (column.binding maxColumnSize) = .ok convert) (cell : Cell) :
    (FetchMode.buffered maxColumnSize).fetch column cell = .ok ⟨convert cell⟩ := by
  rw [FetchMode.fetch, bufferedColumn, h]
  rfl

variable {fits : Prop} {dataType : DataType} {kind : MssqlValueKind}

/-- A value of fixed size, asked for in one C type by either mode. -/
theorem fetched_fixed {α β : Type} [Inhabited β] {answer : Except OdbcError (Option α)}
    {answer' : Except OdbcError (Option β)} {x : α} {y : β} {map : α → MssqlValueKind}
    {map' : β → MssqlValueKind} {nullable : Bool}
    (hunbuffered : fetchKind column cell = fetchNullable column answer map)
    (hbuffered : kind = bufferedNumeric nullable map' (bound answer'))
    (h : answer = .ok (some x)) (h' : answer' = .ok (some y))
    (hfetched : Fetched fits dataType (map x) (map' y)) :
    ∃ k, fetchKind column cell = .ok k ∧ Fetched fits dataType k kind := by
  refine ⟨map x, hunbuffered.trans (fetchNullable_some h map), ?_⟩
  rw [hbuffered, bufferedNumeric_some h']
  exact hfetched

/-- A value of variable size, cut by the buffer. -/
theorem fetched_slice {α β : Type} {answer : Except OdbcError (Option α)}
    {answer' : Except OdbcError (Option (List β))} {x : α} {y : List β} {map : α → MssqlValueKind}
    {map' : List β → MssqlValueKind} {max : ℕ}
    (hunbuffered : fetchKind column cell = fetchNullable column answer map)
    (hbuffered : kind = bufferedSlice max map' (bound answer'))
    (h : answer = .ok (some x)) (h' : answer' = .ok (some y))
    (hfetched : Fetched fits dataType (map x) (map' (y.take max))) :
    ∃ k, fetchKind column cell = .ok k ∧ Fetched fits dataType k kind := by
  refine ⟨map x, hunbuffered.trans (fetchNullable_some h map), ?_⟩
  rw [hbuffered, bufferedSlice_some h']
  exact hfetched

/-- A text, wide in one mode and narrow in the other. -/
theorem fetched_text {text : String} {max : ℕ} (map : String → MssqlValueKind)
    (hunbuffered : fetchKind column cell =
      fetchNullable column cell.wideText fun units ↦ map (Utf16.ofUtf16Lossy units))
    (hbuffered : kind = bufferedSlice max (bufferedText dataType) (bound cell.narrowText))
    (hmap : ∀ bytes, bufferedText dataType bytes = map (Utf8.ofUtf8Lossy bytes))
    (h : cell.HasText text)
    (hfetched : ∀ text' : String, (cell.Fits (.text max) → text' = text) →
      Fetched fits dataType (map text) (map text')) :
    ∃ k, fetchKind column cell = .ok k ∧ Fetched fits dataType k kind := by
  refine fetched_slice hunbuffered hbuffered h.wide h.narrow ?_
  rw [Utf16.ofUtf16Lossy_encode, hmap]
  refine hfetched _ fun hfits ↦ ?_
  rw [List.take_of_length_le (hfits _ h.narrow), Utf8.ofUtf8Lossy_encode]

/-- **What a cell becomes** in the two fetch modes. -/
theorem fetched_of_holds {maxColumnSize : ℕ} {convert : Cell → MssqlValueKind}
    (hholds : cell.Holds column.typeInfo.dataType)
    (hconvert : bufferedKind (column.binding maxColumnSize) = .ok convert) :
    ∃ k, fetchKind column cell = .ok k ∧ Fetched
      (cell.Fits (column.binding maxColumnSize).bufferDesc) column.typeInfo.dataType k
      (convert cell) := by
  rw [MssqlColumn.binding]
  rw [bufferedKind, MssqlColumn.binding] at hconvert
  have hfetch := fetchKind.eq_def column cell
  cases hD : column.typeInfo.dataType <;> rw [hD] at hholds hconvert hfetch <;> cases hconvert
  case tinyInt =>
    obtain ⟨v, h16, h64⟩ := hholds
    exact fetched_fixed hfetch rfl h16 h64 (.tinyInt v)
  case smallInt =>
    obtain ⟨v, h16, h64⟩ := hholds
    exact fetched_fixed hfetch rfl h16 h64 (.smallInt v)
  case integer =>
    obtain ⟨v, h32, h64⟩ := hholds
    exact fetched_fixed hfetch rfl h32 h64 (.integer v)
  case bigInt =>
    obtain ⟨v, h64⟩ := hholds
    exact fetched_fixed hfetch rfl h64 h64 (.bigInt v)
  case real =>
    obtain ⟨x, h⟩ := hholds
    exact fetched_fixed hfetch rfl h h (.real x)
  case float precision =>
    obtain ⟨x, h⟩ := hholds
    exact fetched_fixed hfetch rfl h h (.float precision x)
  case double =>
    obtain ⟨x, h⟩ := hholds
    exact fetched_fixed hfetch rfl h h (.double x)
  case bit =>
    obtain ⟨b, h⟩ := hholds
    exact fetched_fixed hfetch rfl h h (.bit b)
  case date =>
    obtain ⟨d, h⟩ := hholds
    exact fetched_fixed hfetch rfl h h (.date d)
  case time precision =>
    obtain ⟨t, h⟩ := hholds
    exact fetched_fixed hfetch rfl h h (.time precision t)
  case timestamp precision =>
    obtain ⟨t, h⟩ := hholds
    exact fetched_fixed hfetch rfl h h (.timestamp precision t)
  case decimal precision scale =>
    obtain ⟨text, h⟩ := hholds
    exact fetched_text (.decimal · precision scale) hfetch rfl (fun _ ↦ rfl) h
      fun _ hfits ↦ .decimal precision scale hfits
  case numeric precision scale =>
    obtain ⟨text, h⟩ := hholds
    exact fetched_text (.decimal · precision scale) hfetch rfl (fun _ ↦ rfl) h
      fun _ hfits ↦ .numeric precision scale hfits
  case other sqlType columnSize decimalDigits =>
    dsimp only at hfetch
    by_cases hguid : sqlType = -11
    · subst hguid
      rw [if_pos rfl] at hfetch
      obtain ⟨bytes, text, hbinary, htext, hhyphenated⟩ := hholds
      refine fetched_slice hfetch rfl hbinary htext.narrow ?_
      rw [guidOrText_guid]
      refine .guid columnSize decimalDigits bytes fun hfits ↦ ?_
      rw [List.take_of_length_le (hfits _ htext.narrow), Utf8.ofUtf8Lossy_encode]
      exact hhyphenated
    · rw [Cell.Holds, if_neg hguid] at hholds
      rw [if_neg hguid] at hfetch
      have hfallback : (DataType.other sqlType columnSize decimalDigits).fetchedAsText = true :=
        decide_eq_true hguid
      obtain ⟨text, h⟩ := hholds
      exact fetched_text .text hfetch rfl (fun _ ↦ rfl) h fun _ hfits ↦ .text hfallback hfits
  case binary | varbinary | longVarbinary =>
    obtain ⟨bytes, h⟩ := hholds
    exact fetched_slice hfetch rfl h h
      (.binary rfl fun hfits ↦ List.take_of_length_le (hfits _ h))
  case wChar | wVarchar | wLongVarchar =>
    obtain ⟨units, h⟩ := hholds
    exact fetched_slice hfetch rfl h h
      (.text rfl fun hfits ↦ congrArg Utf16.ofUtf16Lossy (List.take_of_length_le (hfits _ h)))
  case char | varchar | longVarchar | unknown =>
    obtain ⟨text, h⟩ := hholds
    exact fetched_text .text hfetch rfl (fun _ ↦ rfl) h fun _ hfits ↦ .text rfl hfits

end Cells

end MssqlOdbc
