import Mathlib.Data.List.Forall2

/-!
# Streams that may end in an error

A producer hands out items one by one and may stop with an error; whoever reads the items sees
them, and then the error.  `ErrStream ε α` is such a finite stream.  `s ++ t` goes on with `t`
unless `s` has ended in an error, and `concat` chains a whole list this way, so that a producer
made of parts has the stream made of theirs.

What a reader needs to know about a chain is `concat_cases`: either every part came to its end and
the items are those of all the parts, or there is a first part that failed, and the items are those
of the parts before it followed by what it produced itself.
-/

set_option autoImplicit false

/-- A finite stream that may end in an error. -/
@[ext] structure ErrStream (ε α : Type) where
  items : List α
  error : Option ε
deriving DecidableEq, Repr

namespace ErrStream

variable {ε α β : Type}

/-- The stream of a list. -/
def ofList (l : List α) : ErrStream ε α := ⟨l, none⟩

/-- No item, and an error if there is one. -/
def check (e : Option ε) : ErrStream ε α := ⟨[], e⟩

/-- One item or an error. -/
def ofExcept : Except ε α → ErrStream ε α
  | .ok a => ⟨[a], none⟩
  | .error e => ⟨[], some e⟩

/-- `t` follows `s`, unless `s` ends in an error. -/
def append (s t : ErrStream ε α) : ErrStream ε α :=
  match s.error with
  | none => ⟨s.items ++ t.items, t.error⟩
  | some _ => s

instance : Append (ErrStream ε α) := ⟨append⟩

/-- One stream after the other. -/
def concat : List (ErrStream ε α) → ErrStream ε α
  | [] => ofList []
  | s :: l => s ++ concat l

/-- A stream with its items translated. -/
def map (f : α → β) (s : ErrStream ε α) : ErrStream ε β := ⟨s.items.map f, s.error⟩

/-- What a reader sees. -/
def toList (s : ErrStream ε α) : List (Except ε α) := s.items.map .ok ++ s.error.toList.map .error

/-- How the producer ends. -/
def outcome (s : ErrStream ε α) : Except ε Unit :=
  match s.error with
  | none => .ok ()
  | some e => .error e

variable (s t : ErrStream ε α)

/-! ## Simplification -/

@[simp] theorem ofList_items (l : List α) : (ofList l : ErrStream ε α).items = l := rfl

@[simp] theorem ofList_error (l : List α) : (ofList l : ErrStream ε α).error = none := rfl

@[simp] theorem check_items (e : Option ε) : (check e : ErrStream ε α).items = [] := rfl

@[simp] theorem check_error (e : Option ε) : (check e : ErrStream ε α).error = e := rfl

@[simp] theorem map_items (f : α → β) : (s.map f).items = s.items.map f := rfl

@[simp] theorem map_error (f : α → β) : (s.map f).error = s.error := rfl

@[simp] theorem concat_nil : concat ([] : List (ErrStream ε α)) = ofList [] := rfl

@[simp] theorem concat_cons (l : List (ErrStream ε α)) : concat (s :: l) = s ++ concat l := rfl

variable {s t}

theorem append_of_error {e : ε} (h : s.error = some e) : s ++ t = s := by
  show s.append t = s
  rw [append, h]

theorem append_items (h : s.error = none) : (s ++ t).items = s.items ++ t.items := by
  show (s.append t).items = _
  rw [append, h]

theorem append_error (h : s.error = none) : (s ++ t).error = t.error := by
  show (s.append t).error = _
  rw [append, h]

theorem append_error_eq_none : (s ++ t).error = none ↔ s.error = none ∧ t.error = none := by
  cases h : s.error with
  | none => rw [append_error h]; simp
  | some e => rw [append_of_error h, h]; simp

theorem append_assoc (s t u : ErrStream ε α) : s ++ t ++ u = s ++ (t ++ u) := by
  cases hs : s.error with
  | some e => rw [append_of_error (t := t) hs, append_of_error hs, append_of_error hs]
  | none =>
    cases ht : t.error with
    | some e =>
      have hst : (s ++ t).error = some e := by rw [append_error hs, ht]
      rw [append_of_error hst, append_of_error (t := u) ht]
    | none =>
      have hst : (s ++ t).error = none := by rw [append_error hs, ht]
      refine ErrStream.ext ?_ ?_
      · rw [append_items hst, append_items hs, append_items hs, append_items ht, List.append_assoc]
      · rw [append_error hst, append_error hs, append_error ht]

theorem check_none_append (s : ErrStream ε α) : check none ++ s = s := rfl

theorem append_check_none (s : ErrStream ε α) : s ++ check none = s := by
  cases hs : s.error with
  | some e => exact append_of_error hs
  | none =>
    refine ErrStream.ext ?_ ?_
    · rw [append_items hs, check_items, List.append_nil]
    · rw [append_error hs, check_error, hs]

theorem outcome_of_none (h : s.error = none) : s.outcome = .ok () := by rw [outcome, h]

theorem outcome_of_some {e : ε} (h : s.error = some e) : s.outcome = .error e := by rw [outcome, h]

/-! ## Chains -/

theorem concat_error_eq_none {l : List (ErrStream ε α)} :
    (concat l).error = none ↔ ∀ s ∈ l, s.error = none := by
  induction l with
  | nil => simp
  | cons s l ih => rw [concat_cons, append_error_eq_none, ih, List.forall_mem_cons]

/-- **How a chain ends.**  By induction on the chain: the first part fails, or it came to its end
and the rest of the chain is as the induction hypothesis says. -/
theorem concat_cases (l : List (ErrStream ε α)) :
    (concat l).error = none ∧ (concat l).items = l.flatMap items ∨
      ∃ front s back e, l = front ++ s :: back ∧ (∀ t ∈ front, t.error = none) ∧
        s.error = some e ∧ concat l = ⟨front.flatMap items ++ s.items, some e⟩ := by
  induction l with
  | nil => exact Or.inl ⟨rfl, rfl⟩
  | cons s l ih =>
    rw [concat_cons]
    cases hs : s.error with
    | some e =>
      refine Or.inr ⟨[], s, l, e, rfl, by simp, hs, ?_⟩
      rw [append_of_error hs]
      exact ErrStream.ext rfl hs
    | none =>
      rw [append_error hs, append_items hs]
      obtain ⟨herror, hitems⟩ | ⟨front, t, back, e, rfl, hfront, ht, hconcat⟩ := ih
      · exact Or.inl ⟨herror, by rw [hitems, List.flatMap_cons]⟩
      · refine Or.inr ⟨s :: front, t, back, e, rfl, ?_, ht, ?_⟩
        · exact List.forall_mem_cons.2 ⟨hs, hfront⟩
        · refine ErrStream.ext ?_ ?_
          · rw [append_items hs, hconcat, List.flatMap_cons, List.append_assoc]
          · rw [append_error hs, hconcat]

/-- What a chain produces, one of its parts has produced. -/
theorem mem_append_items {a : α} (h : a ∈ (s ++ t).items) : a ∈ s.items ∨ a ∈ t.items := by
  cases hs : s.error with
  | some e =>
    rw [append_of_error hs] at h
    exact Or.inl h
  | none =>
    rw [append_items hs] at h
    exact List.mem_append.1 h

theorem mem_concat_items {l : List (ErrStream ε α)} {a : α} (h : a ∈ (concat l).items) :
    ∃ s ∈ l, a ∈ s.items := by
  induction l with
  | nil => cases h
  | cons s l ih =>
    obtain hs | hl := mem_append_items h
    · exact ⟨s, List.mem_cons_self, hs⟩
    · obtain ⟨t, ht, hat⟩ := ih hl
      exact ⟨t, List.mem_cons_of_mem s ht, hat⟩

/-- The error of a chain is the error of one of its parts. -/
theorem error_of_append {e : ε} (h : (s ++ t).error = some e) :
    s.error = some e ∨ t.error = some e := by
  cases hs : s.error with
  | some e' =>
    rw [append_of_error hs, hs] at h
    exact Or.inl h
  | none =>
    rw [append_error hs] at h
    exact Or.inr h

theorem error_of_concat {l : List (ErrStream ε α)} {e : ε} (h : (concat l).error = some e) :
    ∃ s ∈ l, s.error = some e := by
  induction l with
  | nil => cases h
  | cons s l ih =>
    obtain hs | hl := error_of_append h
    · exact ⟨s, List.mem_cons_self, hs⟩
    · obtain ⟨t, ht, hte⟩ := ih hl
      exact ⟨t, List.mem_cons_of_mem s ht, hte⟩

/-- Lists that come to their end are one list, wherever it was cut. -/
theorem concat_map_ofList (f : α → β) (l : List (List α)) :
    concat (l.map fun part ↦ (ofList (part.map f) : ErrStream ε β)) = ofList (l.flatten.map f) := by
  induction l with
  | nil => rfl
  | cons part l ih =>
    rw [List.map_cons, concat_cons, ih, List.flatten_cons, List.map_append]
    rfl

/-! ## Agreement -/

/-- Two streams agree if their items do, one by one, and either neither of them ends in an error or
both do, in errors that agree. -/
structure Agree {δ : Type} (Q : ε → δ → Prop) (R : α → β → Prop) (s : ErrStream ε α)
    (t : ErrStream δ β) : Prop where
  items : List.Forall₂ R s.items t.items
  error : Option.Rel Q s.error t.error

/-- What a reader of one stream sees where the reader of the other sees that. -/
inductive AgreeItem {δ : Type} (Q : ε → δ → Prop) (R : α → β → Prop) :
    Except ε α → Except δ β → Prop
  | ok {a : α} {b : β} (h : R a b) : AgreeItem Q R (.ok a) (.ok b)
  | error {e : ε} {d : δ} (h : Q e d) : AgreeItem Q R (.error e) (.error d)

theorem AgreeItem.imp {δ : Type} {Q Q' : ε → δ → Prop} {R : α → β → Prop} {x : Except ε α}
    {y : Except δ β} (hQ : ∀ e d, Q e d → Q' e d) (h : AgreeItem Q R x y) : AgreeItem Q' R x y := by
  cases h with
  | ok hab => exact .ok hab
  | error hed => exact .error (hQ _ _ hed)

namespace Agree

variable {δ α' β' : Type} {Q : ε → δ → Prop} {R : α → β → Prop} {s s' : ErrStream ε α}
  {t t' : ErrStream δ β}

theorem ofList {l : List α} {l' : List β} (h : List.Forall₂ R l l') :
    Agree Q R (.ofList l) (.ofList l') := ⟨h, .none⟩

theorem check {e : Option ε} {d : Option δ} (h : Option.Rel Q e d) :
    Agree Q R (.check e) (.check d) := ⟨.nil, h⟩

theorem append (h : Agree Q R s t) (h' : Agree Q R s' t') : Agree Q R (s ++ s') (t ++ t') := by
  have herror := h.error
  cases hs : s.error with
  | some e =>
    cases ht : t.error with
    | some d => rwa [append_of_error hs, append_of_error ht]
    | none =>
      rw [hs, ht] at herror
      cases herror
  | none =>
    cases ht : t.error with
    | some d =>
      rw [hs, ht] at herror
      cases herror
    | none =>
      constructor
      · rw [append_items hs, append_items ht]
        exact List.rel_append h.items h'.items
      · rw [append_error hs, append_error ht]
        exact h'.error

theorem concat {l : List (ErrStream ε α)} {l' : List (ErrStream δ β)}
    (h : List.Forall₂ (Agree Q R) l l') : Agree Q R (.concat l) (.concat l') := by
  induction h with
  | nil => exact ofList .nil
  | cons hst _ ih => exact hst.append ih

theorem map {R' : α' → β' → Prop} {f : α → α'} {g : β → β'} (h : Agree Q R s t)
    (hR : ∀ a b, R a b → R' (f a) (g b)) : Agree Q R' (s.map f) (t.map g) := by
  refine ⟨?_, h.error⟩
  rw [map_items, map_items, List.forall₂_map_left_iff, List.forall₂_map_right_iff]
  exact h.items.imp hR

theorem toList (h : Agree Q R s t) : List.Forall₂ (AgreeItem Q R) s.toList t.toList := by
  refine List.rel_append ?_ ?_
  · rw [List.forall₂_map_left_iff, List.forall₂_map_right_iff]
    exact h.items.imp fun _ _ ↦ .ok
  · have herror := h.error
    cases hs : s.error with
    | some e =>
      cases ht : t.error with
      | some d =>
        rw [hs, ht] at herror
        cases herror with
        | some hed => exact .cons (.error hed) .nil
      | none =>
        rw [hs, ht] at herror
        cases herror
    | none =>
      cases ht : t.error with
      | some d =>
        rw [hs, ht] at herror
        cases herror
      | none => exact .nil

end Agree

/-! ## Converting a list -/

/-- **How far a conversion gets.**  To the end of the list, or to the first entry that fails. -/
theorem concat_ofExcept_cases (f : β → Except ε α) (l : List β) :
    (concat (l.map fun b ↦ ofExcept (f b))).error = none ∧
        (concat (l.map fun b ↦ ofExcept (f b))).items.map .ok = l.map f ∨
      ∃ before b after e, l = before ++ b :: after ∧ f b = .error e ∧
        (concat (l.map fun b ↦ ofExcept (f b))).error = some e ∧
        (concat (l.map fun b ↦ ofExcept (f b))).items.map .ok = before.map f := by
  induction l with
  | nil => exact Or.inl ⟨rfl, rfl⟩
  | cons b l ih =>
    rw [List.map_cons, concat_cons]
    cases hb : f b with
    | error e =>
      refine Or.inr ⟨[], b, l, e, rfl, hb, ?_, ?_⟩
      · rw [append_of_error (e := e) rfl]
        rfl
      · rw [append_of_error (e := e) rfl]
        rfl
    | ok a =>
      rw [append_error (s := ofExcept (.ok a)) rfl, append_items (s := ofExcept (.ok a)) rfl]
      obtain ⟨herror, hitems⟩ | ⟨before, b', after, e, rfl, hb', herror, hitems⟩ := ih
      · refine Or.inl ⟨herror, ?_⟩
        rw [List.map_append, hitems, List.map_cons, hb]
        rfl
      · refine Or.inr ⟨b :: before, b', after, e, rfl, hb', herror, ?_⟩
        rw [List.map_append, hitems, List.map_cons, hb]
        rfl

/-- A conversion that fails nowhere is the list of what it makes. -/
theorem concat_ofExcept {f : β → Except ε α} {l : List β} {l' : List α}
    (h : List.Forall₂ (fun b a ↦ f b = .ok a) l l') :
    concat (l.map fun b ↦ ofExcept (f b)) = ofList l' := by
  induction h with
  | nil => rfl
  | cons hb _ ih =>
    rw [List.map_cons, concat_cons, ih, hb]
    rfl

end ErrStream

/-! ## Conversions without a stream -/

theorem mapM_eq_ok_iff {ε α β : Type} {f : α → Except ε β} {l : List α} {l' : List β} :
    l.mapM f = .ok l' ↔ List.Forall₂ (fun a b ↦ f a = .ok b) l l' := by
  constructor
  · intro h
    induction l generalizing l' with
    | nil =>
      cases h
      exact .nil
    | cons a l ih =>
      rw [List.mapM_cons] at h
      cases ha : f a with
      | error e => rw [ha] at h; cases h
      | ok b =>
        cases hl : l.mapM f with
        | error e => rw [ha, hl] at h; cases h
        | ok bs =>
          rw [ha, hl] at h
          cases h
          exact .cons ha (ih hl)
  · intro h
    induction h with
    | nil => rfl
    | cons ha _ ih =>
      rw [List.mapM_cons, ha, ih]
      rfl

/-- A conversion that fails, fails on one of the entries. -/
theorem exists_of_mapM_error {ε α β : Type} {f : α → Except ε β} {l : List α} {e : ε}
    (h : l.mapM f = .error e) : ∃ a ∈ l, f a = .error e := by
  induction l with
  | nil => cases h
  | cons a l ih =>
    rw [List.mapM_cons] at h
    cases ha : f a with
    | error e' =>
      rw [ha] at h
      cases h
      exact ⟨a, List.mem_cons_self, ha⟩
    | ok b =>
      cases hl : l.mapM f with
      | error e' =>
        rw [ha, hl] at h
        cases h
        obtain ⟨a', ha', hfa'⟩ := ih hl
        exact ⟨a', List.mem_cons_of_mem a ha', hfa'⟩
      | ok bs =>
        rw [ha, hl] at h
        cases h

theorem exists_forall₂_iff {α β : Type} {R : α → β → Prop} {l : List α} :
    (∃ u, List.Forall₂ R l u) ↔ ∀ a ∈ l, ∃ b, R a b := by
  constructor
  · rintro ⟨u, hu⟩
    induction hu with
    | nil => simp
    | cons hab _ ih => exact List.forall_mem_cons.2 ⟨⟨_, hab⟩, ih⟩
  · intro h
    induction l with
    | nil => exact ⟨[], .nil⟩
    | cons a l ih =>
      obtain ⟨⟨b, hb⟩, hl⟩ := List.forall_mem_cons.1 h
      obtain ⟨u, hu⟩ := ih hl
      exact ⟨b :: u, .cons hb hu⟩
