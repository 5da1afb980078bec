import Mathlib.Data.List.Induction
import Mathlib.Data.List.NodupEquivFin
import Mathlib.Order.Bounds.Basic

/-!
# Finding an entry by its key

There are two ways to find the entry with a given key in a list.  A search from the front returns
the first one, and a map that is filled by inserting one entry after the other returns the last one
(`search_eq_some_iff`, `inserted_eq_some_iff`).

They return the same one exactly when the key is there once (`isLeast_eq_isGreatest_iff`).
-/

set_option autoImplicit false

namespace Keys

variable {κ : Type}

/-- Where the key stands. -/
def positions (keys : List κ) (key : κ) : Set ℕ := {i | keys[i]? = some key}

theorem mem_positions {keys : List κ} {key : κ} {i : ℕ} :
    i ∈ positions keys key ↔ keys[i]? = some key := Iff.rfl

theorem exists_mem_positions {keys : List κ} {key : κ} :
    (∃ i, i ∈ positions keys key) ↔ key ∈ keys := by
  simp only [mem_positions]
  exact List.mem_iff_getElem?.symm

theorem positions_concat (keys : List κ) (last key : κ) (i : ℕ) :
    i ∈ positions (keys ++ [last]) key ↔
      i ∈ positions keys key ∨ i = keys.length ∧ key = last := by
  rw [mem_positions, mem_positions, List.getElem?_append]
  split
  · rename_i hlt
    simp [Nat.ne_of_lt hlt]
  · rename_i hge
    have hnone : keys[i]? = none := List.getElem?_eq_none (Nat.le_of_not_lt hge)
    rw [hnone]
    obtain ⟨d, rfl⟩ := Nat.exists_eq_add_of_le (Nat.le_of_not_lt hge)
    cases d with
    | zero => simp [eq_comm]
    | succ d => simp

/-- The first entry that is found. -/
theorem findIdx?_eq_some_iff_isLeast {p : κ → Bool} {keys : List κ} {i : ℕ} :
    keys.findIdx? p = some i ↔ IsLeast {j | ∃ k, keys[j]? = some k ∧ p k = true} i := by
  rw [List.findIdx?_eq_some_iff_getElem]
  constructor
  · rintro ⟨hi, hkey, hbefore⟩
    refine ⟨⟨keys[i], List.getElem?_eq_getElem hi, hkey⟩, ?_⟩
    rintro j ⟨k, hk, hpk⟩
    by_contra hlt
    obtain ⟨hlength, rfl⟩ := List.getElem?_eq_some_iff.1 hk
    exact hbefore j (Nat.lt_of_not_le hlt) hpk
  · rintro ⟨⟨k, hk, hpk⟩, hleast⟩
    obtain ⟨hlength, rfl⟩ := List.getElem?_eq_some_iff.1 hk
    refine ⟨hlength, hpk, fun j hj hpj ↦ ?_⟩
    exact absurd (hleast ⟨_, List.getElem?_eq_getElem (hj.trans hlength), hpj⟩)
      (Nat.not_le_of_lt hj)

variable [DecidableEq κ]

/-- The position at which a search from the front stops. -/
def search (keys : List κ) (key : κ) : Option ℕ := keys.findIdx? fun k ↦ k == key

/-- The map from keys to positions, filled by insertion. -/
def inserted (keys : List κ) : κ → Option ℕ :=
  keys.zipIdx.foldl (fun map entry ↦ Function.update map entry.1 (some entry.2)) fun _ ↦ none

/-- A search stops at the first position. -/
theorem search_eq_some_iff {keys : List κ} {key : κ} {i : ℕ} :
    search keys key = some i ↔ IsLeast (positions keys key) i := by
  have hpositions : positions keys key = {j | ∃ k, keys[j]? = some k ∧ (k == key) = true} := by
    ext j
    simp [positions]
  rw [search, findIdx?_eq_some_iff_isLeast, hpositions]

/-- The last insertion wins. -/
theorem inserted_concat (keys : List κ) (last key : κ) :
    inserted (keys ++ [last]) key =
      if key = last then some keys.length else inserted keys key := by
  rw [inserted, List.zipIdx_append, List.foldl_append, List.zipIdx_singleton, List.foldl_cons,
    List.foldl_nil, Function.update_apply, Nat.zero_add]
  rfl

/-- A map that is filled by insertion has the last position. -/
theorem inserted_eq_some_iff {keys : List κ} {key : κ} {i : ℕ} :
    inserted keys key = some i ↔ IsGreatest (positions keys key) i := by
  induction keys using List.reverseRecOn with
  | nil => simp [inserted, positions, IsGreatest]
  | append_singleton keys last ih =>
    have hbound : ∀ j ∈ positions keys key, j < keys.length := by
      intro j hj
      exact (List.getElem?_eq_some_iff.1 (mem_positions.1 hj)).1
    rw [inserted_concat]
    split
    · rename_i hkey
      have hlast : IsGreatest (positions (keys ++ [last]) key) keys.length := by
        refine ⟨(positions_concat keys last key _).2 (.inr ⟨rfl, hkey⟩), fun j hj ↦ ?_⟩
        rcases (positions_concat keys last key j).1 hj with hbefore | ⟨hj, -⟩
        · exact (hbound j hbefore).le
        · exact hj.le
      constructor
      · intro h
        cases h
        exact hlast
      · intro h
        rw [hlast.unique h]
    · rename_i hkey
      have hsame : positions (keys ++ [last]) key = positions keys key := by
        ext j
        rw [positions_concat, or_iff_left fun h ↦ hkey h.2]
      rw [hsame, ih]

theorem exists_search {keys : List κ} {key : κ} (h : key ∈ keys) :
    ∃ i, search keys key = some i := by
  cases hsearch : search keys key with
  | some i => exact ⟨i, rfl⟩
  | none =>
    have hne := List.findIdx?_eq_none_iff.1 hsearch key h
    rw [beq_self_eq_true] at hne
    cases hne

theorem exists_inserted {keys : List κ} {key : κ} (h : key ∈ keys) :
    ∃ j, inserted keys key = some j := by
  induction keys using List.reverseRecOn with
  | nil => exact absurd h List.not_mem_nil
  | append_singleton keys last ih =>
    rw [inserted_concat]
    split
    · exact ⟨_, rfl⟩
    · rename_i hne
      rcases List.mem_append.1 h with hmem | hmem
      · exact ih hmem
      · exact absurd (List.mem_singleton.1 hmem) hne

/-- **The first position is the last** exactly when the key is there once. -/
theorem isLeast_eq_isGreatest_iff {keys : List κ} {key : κ} {i j : ℕ}
    (hi : IsLeast (positions keys key) i) (hj : IsGreatest (positions keys key) j) :
    i = j ↔ keys.count key = 1 := by
  have hmem : key ∈ keys := exists_mem_positions.1 ⟨i, hi.1⟩
  have honce : keys.count key = 1 ↔ ¬ keys.Duplicate key := by
    have hpos := List.count_pos_iff.2 hmem
    rw [List.duplicate_iff_two_le_count]
    omega
  rw [honce, List.duplicate_iff_exists_distinct_get]
  constructor
  · rintro rfl ⟨n, m, hlt, hn, hm⟩
    have hfirst : n.val ∈ positions keys key := by
      rw [mem_positions, hn]
      exact List.getElem?_eq_getElem n.isLt
    have hsecond : m.val ∈ positions keys key := by
      rw [mem_positions, hm]
      exact List.getElem?_eq_getElem m.isLt
    have hle : m.val ≤ n.val := (hj.2 hsecond).trans (hi.2 hfirst)
    exact absurd hlt (Nat.not_lt_of_le hle)
  · intro hnone
    by_contra hne
    obtain ⟨hilength, hieq⟩ := List.getElem?_eq_some_iff.1 (mem_positions.1 hi.1)
    obtain ⟨hjlength, hjeq⟩ := List.getElem?_eq_some_iff.1 (mem_positions.1 hj.1)
    have hlt : i < j := Nat.lt_of_le_of_ne (hi.2 hj.1) hne
    exact hnone ⟨⟨i, hilength⟩, ⟨j, hjlength⟩, hlt, hieq.symm, hjeq.symm⟩

end Keys
