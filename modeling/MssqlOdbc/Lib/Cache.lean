import Mathlib.Data.List.Basic

/-!
# Bounded caches

`CacheImpl K V` is a cache from keys to values that may forget: it is described by what a lookup
finds after each operation, and says nothing about *which* entries are forgotten.  A user of a
cache that is correct for every `CacheImpl` is correct for every capacity and every eviction
policy.

`lru` is the implementation that forgets the least recently used entry.
-/

set_option autoImplicit false

/-- A cache with its laws. -/
structure CacheImpl (K V : Type) where
  /-- The cache itself. -/
  State : Type
  /-- An empty cache of the given capacity. -/
  new : ℕ → State
  get : State → K → Option V
  /-- Writes through the reference a successful lookup has handed out. -/
  put : State → K → V → State
  insert : State → K → V → State
  clear : State → State
  len : State → ℕ
  /-- Whether the capacity is positive. -/
  isEnabled : State → Bool
  get_new : ∀ n k, get (new n) k = none
  get_put_self : ∀ s k v u, get s k = some u → get (put s k v) k = some v
  get_put_of_ne : ∀ s k v k', k' ≠ k → get (put s k v) k' = get s k'
  get_insert_of_ne : ∀ s k v k' w, k' ≠ k → get (insert s k v) k' = some w → get s k' = some w
  get_insert_self : ∀ s k v, get (insert s k v) k = if isEnabled s then some v else none
  get_clear : ∀ s k, get (clear s) k = none

namespace CacheImpl

variable {K V : Type} (c : CacheImpl K V)

/-- Every entry satisfies `Q`. -/
def All (Q : K → V → Prop) (s : c.State) : Prop := ∀ k v, c.get s k = some v → Q k v

/-- A lookup that counts as a use of the entry it finds. -/
def touch (s : c.State) (k : K) : c.State :=
  match c.get s k with
  | some v => c.put s k v
  | none => s

variable {c} {Q : K → V → Prop} {s : c.State}

theorem touch_of_get_eq_none {k : K} (h : c.get s k = none) : c.touch s k = s := by
  rw [touch, h]

/-- A use of an entry may change what is forgotten next, not what is found now. -/
theorem get_touch (k k' : K) : c.get (c.touch s k) k' = c.get s k' := by
  cases hget : c.get s k with
  | none => rw [touch_of_get_eq_none hget]
  | some v =>
    rw [touch, hget]
    by_cases hk : k' = k
    · rw [hk, c.get_put_self s k v v hget, hget]
    · exact c.get_put_of_ne s k v k' hk

theorem all_new (n : ℕ) : c.All Q (c.new n) := by
  intro k v h
  rw [c.get_new] at h
  cases h

theorem all_clear (s : c.State) : c.All Q (c.clear s) := by
  intro k v h
  rw [c.get_clear] at h
  cases h

theorem All.touch (h : c.All Q s) (k : K) : c.All Q (c.touch s k) := by
  intro k' v hv
  rw [get_touch] at hv
  exact h k' v hv

theorem All.put (h : c.All Q s) {k : K} {u v : V} (hget : c.get s k = some u) (hv : Q k v) :
    c.All Q (c.put s k v) := by
  intro k' w hw
  by_cases hk : k' = k
  · subst hk
    rw [c.get_put_self s k' v u hget] at hw
    cases hw
    exact hv
  · rw [c.get_put_of_ne s k v k' hk] at hw
    exact h k' w hw

/-- An insertion may forget entries and may itself be refused, but what it leaves is either old or
the new entry. -/
theorem All.insert (h : c.All Q s) {k : K} {v : V} (hv : c.isEnabled s = true → Q k v) :
    c.All Q (c.insert s k v) := by
  intro k' w hw
  by_cases hk : k' = k
  · subst hk
    rw [c.get_insert_self] at hw
    split at hw
    · rename_i henabled
      cases hw
      exact hv henabled
    · cases hw
  · exact h k' w (c.get_insert_of_ne s k v k' w hk hw)

end CacheImpl

namespace Lru

variable {K V : Type}

/-- The entries, most recently used first. -/
structure State (K V : Type) where
  capacity : ℕ
  entries : List (K × V)

variable [DecidableEq K]

def get (s : State K V) (k : K) : Option V :=
  (s.entries.find? fun e ↦ decide (e.1 = k)).map Prod.snd

/-- The entries of the other keys. -/
def others (k : K) (entries : List (K × V)) : List (K × V) :=
  entries.filter fun e ↦ decide (e.1 ≠ k)

def put (s : State K V) (k : K) (v : V) : State K V :=
  { s with entries := (k, v) :: others k s.entries }

def insert (s : State K V) (k : K) (v : V) : State K V :=
  { s with entries := ((k, v) :: others k s.entries).take s.capacity }

theorem find?_others {k k' : K} (h : k' ≠ k) (entries : List (K × V)) :
    ((others k entries).find? fun e ↦ decide (e.1 = k')) =
      entries.find? fun e ↦ decide (e.1 = k') := by
  rw [others, List.find?_filter]
  congr 1
  funext e
  have hkey : e.1 = k' → e.1 ≠ k := fun he hk ↦ h (he.symm.trans hk)
  simpa using hkey

end Lru

/-- The cache that forgets the least recently used entry. -/
def lru (K V : Type) [DecidableEq K] : CacheImpl K V where
  State := Lru.State K V
  new n := ⟨n, []⟩
  get := Lru.get
  put := Lru.put
  insert := Lru.insert
  clear s := { s with entries := [] }
  len s := s.entries.length
  isEnabled s := decide (0 < s.capacity)
  get_new _ _ := rfl
  get_put_self s k v u _ := by simp [Lru.get, Lru.put]
  get_put_of_ne s k v k' h := by
    rw [Lru.get, Lru.put, List.find?_cons_of_neg (by simpa using h.symm), Lru.find?_others h]
    rfl
  get_insert_of_ne s k v k' w h hw := by
    rw [Lru.get, Lru.insert, Option.map_eq_some_iff] at hw
    obtain ⟨e, he, rfl⟩ := hw
    have hfound := (List.take_prefix s.capacity _).find?_eq_some he
    rw [List.find?_cons_of_neg (by simpa using h.symm), Lru.find?_others h] at hfound
    rw [Lru.get, hfound]
    rfl
  get_insert_self s k v := by
    cases hc : s.capacity with
    | zero => simp [Lru.get, Lru.insert, hc]
    | succ n => simp [Lru.get, Lru.insert, hc]
  get_clear _ _ := rfl
