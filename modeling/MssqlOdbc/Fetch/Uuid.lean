import MssqlOdbc.Arguments
import MssqlOdbc.Fetch.Delivered

/-!
# Reading UUIDs

The server keeps a `UNIQUEIDENTIFIER` as a UUID, and its binary form is the mixed-endian layout of
one: the first three groups have their low byte first (`Guid.sqlLayout`).  The text the driver makes
of the sixteen bytes undoes the layout (`uuidGuidToString_sqlLayout`); the decoder of `Uuid` takes
the bytes as they are.

The two agree exactly on the UUIDs that the layout leaves alone (`uuid_read_iff`).
-/

set_option autoImplicit false

namespace MssqlOdbc

/-! ## The texts -/

theorem lowerHex_injective {x y : UInt8} (h : lowerHex x = lowerHex y) : x = y := by
  have hdigit : ∀ m < 16, ∀ n < 16, Nat.digitChar m = Nat.digitChar n → m = n := by decide
  have hx := x.toNat_lt
  have hy := y.toNat_lt
  injection h with hhigh h
  injection h with hlow h
  have hhigh := hdigit _ (by omega) _ (by omega) hhigh
  have hlow := hdigit _ (by omega) _ (by omega) hlow
  exact UInt8.toNat_inj.1 (by omega)

theorem length_hexGroup (bytes : List UInt8) : (hexGroup bytes).length = 2 * bytes.length := by
  induction bytes with
  | nil => rfl
  | cons byte bytes ih =>
    have hcons : hexGroup (byte :: bytes) = lowerHex byte ++ hexGroup bytes := rfl
    rw [hcons, List.length_append, ih, List.length_cons]
    have hbyte : (lowerHex byte).length = 2 := rfl
    omega

theorem hexGroup_injective {xs ys : List UInt8} (h : hexGroup xs = hexGroup ys) : xs = ys := by
  induction xs generalizing ys with
  | nil =>
    cases ys with
    | nil => rfl
    | cons y ys => cases h
  | cons x xs ih =>
    cases ys with
    | nil => cases h
    | cons y ys =>
      obtain ⟨hhead, htail⟩ := List.append_inj (show lowerHex x ++ hexGroup xs =
        lowerHex y ++ hexGroup ys from h) rfl
      rw [lowerHex_injective hhead, ih htail]

/-- The text of the sixteen bytes is that of the UUID they are the layout of. -/
theorem uuidGuidToString_sqlLayout (u : Guid) : uuidGuidToString u.sqlLayout = uuidToString u := by
  rw [uuidToString, Guid.toList_eq u]
  rfl

/-- Groups of the same lengths are known by their text. -/
theorem groups_injective {before before' : List Char} {xs ys : List UInt8}
    (h : before ++ '-' :: hexGroup xs = before' ++ '-' :: hexGroup ys)
    (hlength : xs.length = ys.length) :
    before = before' ∧ xs = ys := by
  have hlength' : ('-' :: hexGroup xs).length = ('-' :: hexGroup ys).length := by
    rw [List.length_cons, List.length_cons, length_hexGroup, length_hexGroup, hlength]
  obtain ⟨hbefore, hgroup⟩ := List.append_inj' h hlength'
  exact ⟨hbefore, hexGroup_injective (List.cons.inj hgroup).2⟩

/-- A UUID is known by its text. -/
theorem uuidToString_injective {u v : Guid} (h : uuidToString u = uuidToString v) : u = v := by
  have htext := String.ofList_injective h
  rw [Guid.toList_eq u, Guid.toList_eq v] at htext
  obtain ⟨htext, hnode⟩ := groups_injective htext rfl
  obtain ⟨htext, hclock⟩ := groups_injective htext rfl
  obtain ⟨htext, hhigh⟩ := groups_injective htext rfl
  obtain ⟨htext, hmid⟩ := groups_injective htext rfl
  have hlow := hexGroup_injective htext
  have happend := congrArg₂ (· ++ ·) hlow (congrArg₂ (· ++ ·) hmid
    (congrArg₂ (· ++ ·) hhigh (congrArg₂ (· ++ ·) hclock hnode)))
  rw [← Vector.toList_inj, Guid.toList_eq u, Guid.toList_eq v]
  exact happend

/-! ## The decoder -/

section Read

variable (X : Crates) (W : X.Writers)

/-- The bytes decode to the UUID whose text the value shows. -/
def ReadAsText (b : Guid) : Prop :=
  ∃ u : Guid, decode X ⟨⟨.guid b⟩⟩ .uuid = .ok u ∧
    (MssqlValue.mk (.guid b)).asStr = some (uuidToString u)

/-- The UUID is bound as its text, and the GUID of that text is fetched as its binary form and read
as the UUID. -/
def UuidRoundTrips (u : Guid) : Prop :=
  ∀ (column : MssqlColumn) (cell : Cell), column.typeInfo.dataType.isOther (-11) = true →
    cell.binary = .ok (some u.sqlLayout.toList) →
    ∃ value, encode W [] .uuid u = (.ok .no, [.text (uuidGuidToString u.sqlLayout)]) ∧
      fetchValue column cell = .ok value ∧ decode X ⟨value⟩ .uuid = .ok u

/-- A GUID is decoded as the bytes it has. -/
theorem decode_guid (b : Guid) : decode X ⟨⟨.guid b⟩⟩ .uuid = .ok b := by
  have hslice : uuidFromSlice b.toList = some b := by
    have hlength : b.toList.length = 16 := b.length_toList
    rw [uuidFromSlice, dif_pos hlength]
    congr 1
  have hbytes : (MssqlValueRef.mk ⟨.guid b⟩).asBytes = some b.toList := rfl
  show decodeUuid X ⟨⟨.guid b⟩⟩ = .ok b
  rw [decodeUuid, hbytes, Option.bind_some, hslice]
  rfl

theorem readAsText_iff (b : Guid) : ReadAsText X b ↔ b.Symmetric := by
  rw [← Guid.sqlLayout_eq_iff]
  have htext : (MssqlValue.mk (.guid b)).asStr = some (uuidToString b.sqlLayout) := by
    rw [← uuidGuidToString_sqlLayout, Guid.sqlLayout_sqlLayout]
    rfl
  constructor
  · rintro ⟨u, hdecode, hstr⟩
    rw [decode_guid] at hdecode
    cases hdecode
    rw [htext] at hstr
    exact uuidToString_injective (Option.some.inj hstr)
  · intro hsymmetric
    exact ⟨b, decode_guid X b, by rw [htext, hsymmetric]⟩

theorem fetchValue_guid {column : MssqlColumn} {cell : Cell} {b : Guid}
    (hguid : column.typeInfo.dataType.isOther (-11) = true)
    (hcell : cell.binary = .ok (some b.toList)) : fetchValue column cell = .ok ⟨.guid b⟩ := by
  have hfetch := fetchKind.eq_def column cell
  cases hD : column.typeInfo.dataType with
  | other sqlType columnSize decimalDigits =>
    rw [hD] at hguid hfetch
    have hcode : sqlType = -11 := of_decide_eq_true hguid
    dsimp only at hfetch
    rw [if_pos hcode, fetchNullable_some hcell, guidOrText_guid] at hfetch
    rw [fetchValue, hfetch]
    rfl
  | _ =>
    rw [hD] at hguid
    cases hguid

theorem uuidRoundTrips_iff (u : Guid) : UuidRoundTrips X W u ↔ u.Symmetric := by
  rw [← Guid.sqlLayout_eq_iff]
  constructor
  · intro h
    obtain ⟨value, -, hfetch, hdecode⟩ := h ⟨0, "", .guid, none⟩ (Cell.ofGuid u.sqlLayout) rfl rfl
    rw [fetchValue_guid rfl rfl] at hfetch
    cases hfetch
    exact Except.ok.inj ((decode_guid X _).symm.trans hdecode)
  · intro hsymmetric column cell hguid hcell
    refine ⟨_, ?_, fetchValue_guid hguid hcell, ?_⟩
    · rw [uuidGuidToString_sqlLayout]
      rfl
    · rw [decode_guid, hsymmetric]

/-- **A GUID is read as the UUID it shows exactly when its layout leaves it alone.**  Decoding the
sixteen bytes gives the UUID of the hyphenated text of the same value, and a UUID that was bound as
its text and stored as that GUID is read back, if and only if the first three groups of bytes are
symmetric. -/
theorem uuid_read_iff (u : Guid) :
    (ReadAsText X u ↔ u.Symmetric) ∧ (UuidRoundTrips X W u ↔ u.Symmetric) :=
  ⟨readAsText_iff X u, uuidRoundTrips_iff X W u⟩

end Read

/-- A UUID that is bound and comes back as another one. -/
theorem uuid_not_read :
    let u : Guid := #v[0x55, 0x0e, 0x84, 0x00, 0xe2, 0x9b, 0x41, 0xd4, 0xa7, 0x16, 0x44, 0x66,
      0x55, 0x44, 0x00, 0x00]
    ¬ ReadAsText Crates.sample u ∧ ¬ UuidRoundTrips Crates.sample Crates.sampleWriters u := by
  have hasymmetric : (0x55 : UInt8) ≠ 0x00 := by decide
  refine ⟨fun h ↦ ?_, fun h ↦ ?_⟩
  · exact hasymmetric ((readAsText_iff _ _).1 h).1
  · exact hasymmetric ((uuidRoundTrips_iff _ _ _).1 h).1

end MssqlOdbc
