import Mathlib.Logic.Function.Basic

/-!
# Reading a record from a map

A record is read from a map entry by entry: the key names a field, a field that has been read before
is an error, and the value is parsed as the type of the field.  What has been read so far is kept in
`Slots`, one for each field.

The entries of a map have no order.  `visitAll_eq` determines the slots from the entries as a set,
so any order of distinct keys reads the same record.
-/

set_option autoImplicit false

namespace Record

variable {F K D E : Type} [DecidableEq F] {V : F → Type}

/-- What has been read of each field. -/
abbrev Slots (V : F → Type) : Type := (f : F) → Option (V f)

/-- How a record is read: a key is identified as a field, and a value is parsed as that of a field.
A field may be absent although it is present in the map. -/
structure Reader (F K D E : Type) (V : F → Type) where
  identify : K → Except E F
  parse : (f : F) → D → Except E (Option (V f))
  duplicate : F → E

namespace Reader

variable (R : Reader F K D E V)

/-- One entry of the map. -/
def visit (slots : Slots V) (entry : K × D) : Except E (Slots V) :=
  match R.identify entry.1 with
  | .error e => .error e
  | .ok f =>
    if (slots f).isSome then .error (R.duplicate f)
    else (R.parse f entry.2).map (Function.update slots f)

/-- The whole map. -/
def visitAll (slots : Slots V) : List (K × D) → Except E (Slots V)
  | [] => .ok slots
  | entry :: entries =>
    match R.visit slots entry with
    | .error e => .error e
    | .ok slots => visitAll slots entries

variable {R}

/-- A fresh field takes its value. -/
theorem visit_eq {slots : Slots V} {entry : K × D} {f : F} {x : Option (V f)}
    (hidentify : R.identify entry.1 = .ok f) (hfresh : slots f = none)
    (hparse : R.parse f entry.2 = .ok x) :
    R.visit slots entry = .ok (Function.update slots f x) := by
  rw [visit, hidentify]
  dsimp only
  rw [hfresh, hparse]
  rfl

/-- **The slots are determined by the entries, not by their order.**  If the keys are distinct and
name fresh fields, every entry of a field is parsed as what `result` has for it, and `result` leaves
the other fields alone, then the map is read as `result`. -/
theorem visitAll_eq {key : F → K} (hkey : ∀ f, R.identify (key f) = .ok f) {result : Slots V}
    {entries : List (K × D)} {slots : Slots V} (hnodup : (entries.map Prod.fst).Nodup)
    (hfresh : ∀ f, key f ∈ entries.map Prod.fst → slots f = none)
    (hparse : ∀ entry ∈ entries, ∃ f, entry.1 = key f ∧ R.parse f entry.2 = .ok (result f))
    (hrest : ∀ f, key f ∉ entries.map Prod.fst → result f = slots f) :
    R.visitAll slots entries = .ok result := by
  induction entries generalizing slots with
  | nil =>
    have hresult : result = slots := funext fun f ↦ hrest f List.not_mem_nil
    rw [visitAll, hresult]
  | cons entry entries ih =>
    rw [List.map_cons, List.nodup_cons] at hnodup
    obtain ⟨f, hf, hvalue⟩ := hparse entry List.mem_cons_self
    have hidentify : R.identify entry.1 = .ok f := by rw [hf, hkey]
    have hslot : slots f = none := by
      apply hfresh
      rw [← hf]
      exact List.mem_map_of_mem List.mem_cons_self
    rw [visitAll, visit_eq hidentify hslot hvalue]
    have hne {g : F} (hg : key g ∈ entries.map Prod.fst) : g ≠ f := by
      rintro rfl
      exact hnodup.1 (hf ▸ hg)
    refine ih hnodup.2 (fun g hg ↦ ?_) (fun e he ↦ hparse e (List.mem_cons_of_mem _ he))
      fun g hg ↦ ?_
    · rw [Function.update_of_ne (hne hg)]
      exact hfresh g (List.mem_cons_of_mem _ hg)
    · by_cases hgf : g = f
      · subst hgf
        rw [Function.update_self]
      · rw [Function.update_of_ne hgf]
        apply hrest
        intro hmem
        rw [List.map_cons, List.mem_cons] at hmem
        rcases hmem with hhead | htail
        · have hsame : R.identify (key g) = R.identify (key f) := by rw [hhead, hf]
          rw [hkey, hkey] at hsame
          exact hgf (Except.ok.inj hsame)
        · exact hg htail

end Reader

end Record
