import MssqlOdbc.Arguments
import MssqlOdbc.Fetch.Delivered

/-!
# What is written is read back

A value is bound as an argument, the server stores it in a column of the type's own data type and
hands the same logical value back, the cell is fetched in either mode, and the value is read again.
Five tables meet: the encoders, the declared types, the kinds that are fetched, the types these
report, and the decoders.

They meet for every type but `bool`, which does not accept the type it declares
(`round_trips_iff`).
-/

set_option autoImplicit false

namespace MssqlOdbc

/-! ## The same logical value -/

/-- The cell is the value of the argument, in a column of the data type. -/
inductive Cell.Carries (cell : Cell) : DataType → MssqlArgumentValue → Prop where
  | tinyInt {n : I64} {v : I16} (hv : v.val = n.val) (h16 : cell.i16 = .ok (some v))
      (h64 : cell.i64 = .ok (some n)) : cell.Carries .tinyInt (.int n)
  | smallInt {n : I64} {v : I16} (hv : v.val = n.val) (h16 : cell.i16 = .ok (some v))
      (h64 : cell.i64 = .ok (some n)) : cell.Carries .smallInt (.int n)
  | integer {n : I64} {v : I32} (hv : v.val = n.val) (h32 : cell.i32 = .ok (some v))
      (h64 : cell.i64 = .ok (some n)) : cell.Carries .integer (.int n)
  | bigInt {n : I64} (h64 : cell.i64 = .ok (some n)) : cell.Carries .bigInt (.int n)
  | bit {b : Bool} (h : cell.bit = .ok (some b)) : cell.Carries .bit (.bit b)
  | text {length : Option ℕ} {text : String}
      (h : cell.wideText = .ok (some (Utf16.encode text))) :
    cell.Carries (.wVarchar length) (.text text)
  | binary {length : Option ℕ} {bytes : List UInt8} (h : cell.binary = .ok (some bytes)) :
    cell.Carries (.varbinary length) (.bytes bytes)
  | date {date : Date} (h : cell.date = .ok (some date)) : cell.Carries .date (.date date)
  | time {precision : ℤ} {time : Time} (h : cell.time = .ok (some time)) :
    cell.Carries (.time precision) (.time time)
  | timestamp {precision : ℤ} {timestamp : Timestamp}
      (h : cell.timestamp = .ok (some timestamp)) :
    cell.Carries (.timestamp precision) (.timestamp timestamp)

/-- The kind is the value of the argument. -/
def MssqlValueKind.Denotes : MssqlValueKind → MssqlArgumentValue → Prop
  | .tinyInt v, .int n | .smallInt v, .int n => v.val = n.val
  | .integer v, .int n => v.val = n.val
  | .bigInt v, .int n => v = n
  | .bit b, .bit b' => b = b'
  | .text s, .text s' => s = s'
  | .binary bs, .bytes bs' => bs = bs'
  | .date d, .date d' => d = d'
  | .time t, .time t' => t = t'
  | .timestamp t, .timestamp t' => t = t'
  | _, _ => False

/-- The cell is not cut in this mode. -/
def FetchMode.Fits (mode : FetchMode) (column : MssqlColumn) (cell : Cell) : Prop :=
  match mode with
  | .unbuffered => True
  | .buffered maxColumnSize => cell.Fits (column.binding maxColumnSize).bufferDesc

section Fetch

variable {column : MssqlColumn} {cell : Cell} {mode : FetchMode} {value : MssqlArgumentValue}

theorem Cell.Carries.unbuffered (h : cell.Carries column.typeInfo.dataType value) :
    ∃ kind, fetchKind column cell = .ok kind ∧ kind.Denotes value := by
  have hfetch := fetchKind.eq_def column cell
  generalize column.typeInfo.dataType = dataType at h hfetch
  cases h with
  | tinyInt hv h16 h64 | smallInt hv h16 h64 =>
    exact ⟨_, hfetch.trans (fetchNullable_some h16 _), hv⟩
  | integer hv h32 h64 => exact ⟨_, hfetch.trans (fetchNullable_some h32 _), hv⟩
  | bigInt h64 => exact ⟨_, hfetch.trans (fetchNullable_some h64 _), rfl⟩
  | text h =>
    exact ⟨_, hfetch.trans (fetchNullable_some h _), Utf16.ofUtf16Lossy_encode _⟩
  | _ h => exact ⟨_, hfetch.trans (fetchNullable_some h _), rfl⟩

theorem Cell.Carries.buffered {maxColumnSize : ℕ} {convert : Cell → MssqlValueKind}
    (h : cell.Carries column.typeInfo.dataType value)
    (hfits : cell.Fits (column.binding maxColumnSize).bufferDesc)
    (hconvert : bufferedKind (column.binding maxColumnSize) = .ok convert) :
    (convert cell).Denotes value := by
  rw [bufferedKind, MssqlColumn.binding] at hconvert
  rw [MssqlColumn.binding] at hfits
  generalize column.typeInfo.dataType = dataType at h hconvert hfits
  cases h with
  | tinyInt hv h16 h64 | smallInt hv h16 h64 | integer hv h32 h64 | bigInt h64 =>
    cases hconvert
    dsimp only
    rw [bufferedNumeric_some h64]
    rfl
  | text h =>
    cases hconvert
    dsimp only
    rw [bufferedSlice_some h, List.take_of_length_le (hfits _ h), Utf16.ofUtf16Lossy_encode]
    rfl
  | binary h =>
    cases hconvert
    dsimp only
    rw [bufferedSlice_some h, List.take_of_length_le (hfits _ h)]
    rfl
  | _ h =>
    cases hconvert
    dsimp only
    rw [bufferedNumeric_some h]
    rfl

/-- **Fetching keeps the logical value**, in both modes. -/
theorem Cell.Carries.fetch (h : cell.Carries column.typeInfo.dataType value)
    (hfits : mode.Fits column cell) :
    ∃ kind, mode.fetch column cell = .ok ⟨kind⟩ ∧ kind.Denotes value := by
  cases mode with
  | unbuffered =>
    obtain ⟨kind, hkind, hdenotes⟩ := h.unbuffered
    exact ⟨kind, unbuffered_fetch hkind, hdenotes⟩
  | buffered maxColumnSize =>
    obtain ⟨convert, hconvert⟩ := bufferedKind_ok column maxColumnSize
    exact ⟨convert cell, buffered_fetch hconvert cell, h.buffered hfits hconvert⟩

end Fetch

/-! ## Reading it again -/

section Read

variable {X : Crates} {kind : MssqlValueKind}

theorem tryGet_int {ty : IntType} {x : ty.Value} {n : I64} (hn : n.val = x.val)
    (h : kind.Denotes (.int n)) : tryGet X ⟨kind⟩ (.int ty) = .ok x := by
  have hread : ∃ m : I64, (MssqlValueRef.mk ⟨kind⟩).asI64 = some m ∧ m.val = x.val := by
    cases kind with
    | tinyInt v | smallInt v | integer v =>
      have hv : v.val = n.val := h
      exact ⟨v.widen, rfl, (v.widen_val _).trans (hv.trans hn)⟩
    | bigInt v =>
      have hv : v = n := h
      exact ⟨v, rfl, hv ▸ hn⟩
    | _ => cases h
  have hnumeric : kind.typeInfo.dataType.acceptsNumericData = true := by
    cases kind <;> first | rfl | cases h
  obtain ⟨m, hm, hx⟩ := hread
  refine tryGet_ok ?_ (decode_int hm (IntType.tryFrom_eq_some.2 hx.symm))
  exact (IntType.compatible_eq _ ty).trans hnumeric

/-- The types of the language and of the ODBC layer that are bound as they are. -/
def RustType.isPlain : RustType → Bool
  | .int _ | .bool | .string | .bytes | .date | .time | .timestamp => true
  | _ => false

/-- An unsigned number that is no 64-bit integer. -/
def TooLarge : (t : RustType) → t.Carrier X → Prop
  | .int .u64, x => IntType.i64.max < x.val
  | _, _ => False

/-- Whatever cell of a column of the type's own data type carries the argument: fetched in either
mode, it is read as `x`. -/
def ReadsBack (t : RustType) (x : t.Carrier X) (v : MssqlArgumentValue) : Prop :=
  ∀ (column : MssqlColumn) (cell : Cell) (mode : FetchMode), column.typeInfo = t.typeInfo →
    cell.Carries column.typeInfo.dataType v → mode.Fits column cell →
    ∃ value, mode.fetch column cell = .ok value ∧ tryGet X value t = .ok x

/-- Encoding `x` fails because it is too large and pushes nothing, or it pushes one argument that is
read back as `x`. -/
def RoundTrips (W : X.Writers) (t : RustType) (x : t.Carrier X) : Prop :=
  ∀ buf, (TooLarge t x ∧ ∃ e, encode W buf t x = (.error e, buf)) ∨
    ∃ v, encode W buf t x = (.ok .no, buf ++ [v]) ∧ ReadsBack t x v

theorem readsBack_of_denotes {t : RustType} {x : t.Carrier X} {v : MssqlArgumentValue}
    (h : ∀ kind : MssqlValueKind, kind.Denotes v → tryGet X ⟨kind⟩ t = .ok x) :
    ReadsBack t x v := by
  intro column cell mode hcolumn hcarries hfits
  obtain ⟨kind, hfetch, hdenotes⟩ := hcarries.fetch hfits
  exact ⟨⟨kind⟩, hfetch, h kind hdenotes⟩

/-- It is enough to read one kind, if no other denotes the argument. -/
theorem readsBack_of_kind {t : RustType} {x : t.Carrier X} {v : MssqlArgumentValue}
    (kind' : MssqlValueKind) (hkind : ∀ kind : MssqlValueKind, kind.Denotes v → kind = kind')
    (hcompat : t.compatible kind'.typeInfo = true) (hx : decode X ⟨⟨kind'⟩⟩ t = .ok x) :
    ReadsBack t x v := by
  refine readsBack_of_denotes fun kind hdenotes ↦ ?_
  rw [hkind kind hdenotes]
  exact tryGet_ok hcompat hx

theorem denotes_text {kind : MssqlValueKind} {text : String} (h : kind.Denotes (.text text)) :
    kind = .text text := by
  cases kind <;> cases h
  rfl

theorem denotes_bytes {kind : MssqlValueKind} {bytes : List UInt8}
    (h : kind.Denotes (.bytes bytes)) : kind = .binary bytes := by
  cases kind <;> cases h
  rfl

theorem denotes_date {kind : MssqlValueKind} {date : Date} (h : kind.Denotes (.date date)) :
    kind = .date date := by
  cases kind <;> cases h
  rfl

theorem denotes_time {kind : MssqlValueKind} {time : Time} (h : kind.Denotes (.time time)) :
    kind = .time time := by
  cases kind <;> cases h
  rfl

theorem denotes_timestamp {kind : MssqlValueKind} {timestamp : Timestamp}
    (h : kind.Denotes (.timestamp timestamp)) : kind = .timestamp timestamp := by
  cases kind <;> cases h
  rfl

theorem readsBack_int {ty : IntType} {x : ty.Value} {n : I64} (h : n.val = x.val) :
    ReadsBack (X := X) (.int ty) x (.int n) :=
  readsBack_of_denotes fun _ hdenotes ↦ tryGet_int h hdenotes

/-- A `BIT` is fetched as one, which no type accepts. -/
theorem not_readsBack_bool (b : Bool) : ¬ ReadsBack (X := X) .bool b (.bit b) := by
  intro h
  obtain ⟨value, hfetch, hread⟩ := h ⟨0, "", ⟨.bit⟩, none⟩ { Cell.null with bit := .ok (some b) }
    .unbuffered rfl (.bit rfl) trivial
  cases hfetch
  cases hread

/-- An integer round trips, up to the largest that can be bound. -/
theorem roundTrips_int (W : X.Writers) {ty : IntType} (x : ty.Value) :
    RoundTrips W (.int ty) x := by
  intro buf
  have hx : ty.min ≤ x.val ∧ x.val ≤ ty.max := x.property
  have hmin : IntType.i64.min ≤ ty.min := by cases ty <;> decide
  by_cases hmax : x.val ≤ IntType.i64.max
  · have hn : (⟨x.val, Int.le_trans hmin hx.1, hmax⟩ : I64).val = x.val := rfl
    exact .inr ⟨_, IntType.encode_eq buf hn, readsBack_int hn⟩
  · have hlarge : IntType.i64.max < x.val := Int.not_le.1 hmax
    refine .inl ⟨?_, IntType.encode_tooLarge buf hlarge⟩
    cases ty with
    | u64 => exact hlarge
    | _ => exact absurd (Int.lt_of_lt_of_le hlarge hx.2) (by decide)

/-- **What is written is read back, unless it is a `bool`.**  For every integer type, `bool`,
`String`, `Vec<u8>` and the three ODBC structures, every value of the type and either fetch mode:
encoding fails without a trace, which happens to a `u64` above `i64::MAX` only, or pushes one
argument that is read back from a column of the type's own data type as the value itself; if and
only if the type is not `bool`. -/
theorem round_trips_iff (W : X.Writers) {t : RustType} (ht : t.isPlain = true)
    (x : t.Carrier X) : RoundTrips W t x ↔ t ≠ .bool := by
  cases t with
  | bool =>
    refine iff_of_false (fun h ↦ ?_) (fun h ↦ h rfl)
    obtain ⟨hlarge, -⟩ | ⟨v, hencode, hread⟩ := h []
    · exact hlarge
    · cases hencode
      exact not_readsBack_bool x hread
  | int ty => exact iff_of_true (roundTrips_int W x) RustType.noConfusion
  | string =>
    exact iff_of_true (fun buf ↦ .inr ⟨.text x, rfl,
      readsBack_of_kind (.text x) (fun _ ↦ denotes_text) rfl rfl⟩) RustType.noConfusion
  | bytes =>
    exact iff_of_true (fun buf ↦ .inr ⟨.bytes x, rfl,
      readsBack_of_kind (.binary x) (fun _ ↦ denotes_bytes) rfl rfl⟩) RustType.noConfusion
  | date =>
    exact iff_of_true (fun buf ↦ .inr ⟨.date x, rfl,
      readsBack_of_kind (.date x) (fun _ ↦ denotes_date) rfl rfl⟩) RustType.noConfusion
  | time =>
    exact iff_of_true (fun buf ↦ .inr ⟨.time x, rfl,
      readsBack_of_kind (.time x) (fun _ ↦ denotes_time) rfl rfl⟩) RustType.noConfusion
  | timestamp =>
    exact iff_of_true (fun buf ↦ .inr ⟨.timestamp x, rfl,
      readsBack_of_kind (.timestamp x) (fun _ ↦ denotes_timestamp) rfl rfl⟩) RustType.noConfusion
  | _ => cases ht

end Read

/-- The last day of 2023. -/
theorem date_roundTrips :
    RoundTrips Crates.sampleWriters .date
      ⟨⟨2023, by decide⟩, ⟨12, by decide⟩, ⟨31, by decide⟩⟩ :=
  (round_trips_iff Crates.sampleWriters rfl _).2 RustType.noConfusion

/-- `true` is bound, and cannot be read again. -/
theorem true_not_roundTrips : ¬ RoundTrips Crates.sampleWriters .bool true := by
  intro h
  obtain ⟨hlarge, -⟩ | ⟨v, hencode, hread⟩ := h []
  · exact hlarge
  · cases hencode
    exact not_readsBack_bool true hread

/-! ## What a column holds -/

/-- The integers that fit a column of the data type of an integer type. -/
def IntType.columnType : IntType → IntType
  | .i8 | .u8 | .i16 | .u16 => .i16
  | .i32 | .u32 => .i32
  | .i64 | .u64 => .i64

/-- There is a cell to read back whenever the number fits the column. -/
theorem exists_carries_iff (ty : IntType) (n : I64) :
    (∃ cell : Cell, cell.Carries ty.dataType (.int n)) ↔
      ty.columnType.min ≤ n.val ∧ n.val ≤ ty.columnType.max := by
  constructor
  · rintro ⟨cell, hcarries⟩
    cases ty with
    | i8 | u8 =>
      cases hcarries with
      | @tinyInt _ v hv h16 h64 =>
        rw [← hv]
        exact v.property
    | i16 | u16 =>
      cases hcarries with
      | @smallInt _ v hv h16 h64 =>
        rw [← hv]
        exact v.property
    | i32 | u32 =>
      cases hcarries with
      | @integer _ v hv h32 h64 =>
        rw [← hv]
        exact v.property
    | i64 | u64 => exact n.property
  · intro h
    cases ty with
    | i8 | u8 =>
      let cell : Cell := { Cell.null with i16 := .ok (some ⟨n.val, h⟩), i64 := .ok (some n) }
      exact ⟨cell, .tinyInt rfl rfl rfl⟩
    | i16 | u16 =>
      let cell : Cell := { Cell.null with i16 := .ok (some ⟨n.val, h⟩), i64 := .ok (some n) }
      exact ⟨cell, .smallInt rfl rfl rfl⟩
    | i32 | u32 =>
      let cell : Cell := { Cell.null with i32 := .ok (some ⟨n.val, h⟩), i64 := .ok (some n) }
      exact ⟨cell, .integer rfl rfl rfl⟩
    | i64 | u64 => exact ⟨{ Cell.null with i64 := .ok (some n) }, .bigInt rfl⟩

end MssqlOdbc
