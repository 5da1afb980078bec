import Mathlib.Data.List.Basic

/-!
# Quoting by doubling

A text is put between delimiters by doubling every occurrence of the closing one.  It is read back
up to the first closing delimiter that is not doubled.

`readQuoted_double` is the law of the two: what is read is the text, and the reading stops behind
the delimiter, unless it is followed by another one.
-/

set_option autoImplicit false

namespace Quoting

variable {close : Char}

/-- The text with every `close` doubled. -/
def double (close : Char) (text : List Char) : List Char :=
  text.flatMap fun c ↦ if c = close then [c, c] else [c]

theorem double_cons_self (text : List Char) :
    double close (close :: text) = close :: close :: double close text := by
  rw [double, List.flatMap_cons, if_pos rfl]
  rfl

theorem double_cons_of_ne {c : Char} (h : c ≠ close) (text : List Char) :
    double close (c :: text) = c :: double close text := by
  rw [double, List.flatMap_cons, if_neg h]
  rfl

theorem double_append (text text' : List Char) :
    double close (text ++ text') = double close text ++ double close text' :=
  List.flatMap_append

@[simp] theorem mem_double {c : Char} {text : List Char} : c ∈ double close text ↔ c ∈ text := by
  constructor
  · intro h
    obtain ⟨d, hd, hc⟩ := List.mem_flatMap.1 h
    split at hc
    · simp only [List.mem_cons, List.not_mem_nil, or_false, or_self] at hc
      exact hc ▸ hd
    · exact List.mem_singleton.1 hc ▸ hd
  · intro h
    refine List.mem_flatMap.2 ⟨c, h, ?_⟩
    split
    · exact List.mem_cons_self
    · exact List.mem_singleton.2 rfl

/-- The delimiter is there twice as often, and every other character as often as before. -/
theorem count_double (c : Char) (text : List Char) :
    (double close text).count c = (if c = close then 2 else 1) * text.count c := by
  induction text with
  | nil => rfl
  | cons d text ih =>
    by_cases hd : d = close
    · subst hd
      rw [double_cons_self, List.count_cons, List.count_cons, List.count_cons, ih]
      by_cases hc : c = d
      · subst hc
        simp only [beq_self_eq_true, if_true]
        omega
      · have hne : ¬ (d == c) = true := fun h ↦ hc (eq_of_beq h).symm
        simp only [if_neg hc, if_neg hne, Nat.add_zero]
    · rw [double_cons_of_ne hd, List.count_cons, List.count_cons, ih, Nat.mul_add]
      by_cases hc : d = c
      · subst hc
        rw [if_neg hd, Nat.one_mul, Nat.one_mul]
      · have hne : ¬ (d == c) = true := fun h ↦ hc (eq_of_beq h)
        rw [if_neg hne, Nat.mul_zero]

/-- Without the delimiter there is nothing to double. -/
theorem double_of_not_mem {text : List Char} (h : close ∉ text) : double close text = text := by
  induction text with
  | nil => rfl
  | cons c text ih =>
    rw [List.mem_cons, not_or] at h
    rw [double_cons_of_ne (Ne.symm h.1), ih h.2]

/-- Reads up to the first `close` that is not doubled; two of them stand for one. -/
def readQuoted (close : Char) : List Char → Option (List Char × List Char)
  | [] => none
  | [c] => if c = close then some ([], []) else none
  | c :: c' :: rest =>
    if c = close then
      if c' = close then (readQuoted close rest).map fun (text, rest) ↦ (close :: text, rest)
      else some ([], c' :: rest)
    else (readQuoted close (c' :: rest)).map fun (text, rest) ↦ (c :: text, rest)

theorem readQuoted_cons_of_ne {c : Char} (h : c ≠ close) (rest : List Char) :
    readQuoted close (c :: rest) =
      (readQuoted close rest).map fun (text, rest) ↦ (c :: text, rest) := by
  cases rest with
  | nil => exact if_neg h
  | cons c' rest => exact if_neg h

theorem readQuoted_cons_cons (rest : List Char) :
    readQuoted close (close :: close :: rest) =
      (readQuoted close rest).map fun (text, rest) ↦ (close :: text, rest) := by
  rw [readQuoted, if_pos rfl, if_pos rfl]

/-- The closing delimiter ends the text. -/
theorem readQuoted_close {rest : List Char} (h : rest.head? ≠ some close) :
    readQuoted close (close :: rest) = some ([], rest) := by
  cases rest with
  | nil => rw [readQuoted, if_pos rfl]
  | cons c rest =>
    have hne : c ≠ close := fun hc ↦ h (congrArg some hc)
    rw [readQuoted, if_pos rfl, if_neg hne]

/-- **A quoted text is read back**, and nothing behind it. -/
theorem readQuoted_double (text : List Char) {rest : List Char} (h : rest.head? ≠ some close) :
    readQuoted close (double close text ++ close :: rest) = some (text, rest) := by
  induction text with
  | nil => exact readQuoted_close h
  | cons c text ih =>
    by_cases hc : c = close
    · subst hc
      rw [double_cons_self, List.cons_append, List.cons_append, readQuoted_cons_cons, ih]
      rfl
    · rw [double_cons_of_ne hc, List.cons_append, readQuoted_cons_of_ne hc, ih]
      rfl

/-- Nothing else is read back as that text. -/
theorem eq_double_of_readQuoted {input text rest : List Char}
    (h : readQuoted close input = some (text, rest)) :
    input = double close text ++ close :: rest ∧ rest.head? ≠ some close := by
  induction input using readQuoted.induct close generalizing text with
  | case1 => cases h
  | case2 =>
    rw [readQuoted, if_pos rfl] at h
    cases h
    exact ⟨rfl, by simp⟩
  | case3 c hc =>
    rw [readQuoted, if_neg hc] at h
    cases h
  | case4 rest' ih =>
    rw [readQuoted_cons_cons, Option.map_eq_some_iff] at h
    obtain ⟨⟨text', rest''⟩, hread, heq⟩ := h
    cases heq
    obtain ⟨htext, hhead⟩ := ih hread
    rw [double_cons_self, htext]
    exact ⟨rfl, hhead⟩
  | case5 c' rest' hc' =>
    have hne : (c' :: rest').head? ≠ some close := fun hhead ↦ hc' (Option.some.inj hhead)
    rw [readQuoted_close hne] at h
    cases h
    exact ⟨rfl, hne⟩
  | case6 c c' rest' hc ih =>
    rw [readQuoted_cons_of_ne hc, Option.map_eq_some_iff] at h
    obtain ⟨⟨text', rest''⟩, hread, heq⟩ := h
    cases heq
    obtain ⟨htext, hhead⟩ := ih hread
    rw [double_cons_of_ne hc, htext]
    exact ⟨rfl, hhead⟩

/-- A text in which every `close` is doubled has no end. -/
theorem readQuoted_eq_none_iff {input : List Char} :
    readQuoted close input = none ↔ ∃ text, input = double close text := by
  constructor
  · intro h
    induction input using readQuoted.induct close with
    | case1 => exact ⟨[], rfl⟩
    | case2 =>
      rw [readQuoted, if_pos rfl] at h
      cases h
    | case3 c hc => exact ⟨[c], by rw [double_cons_of_ne hc, double, List.flatMap_nil]⟩
    | case4 rest ih =>
      rw [readQuoted_cons_cons, Option.map_eq_none_iff] at h
      obtain ⟨text, rfl⟩ := ih h
      exact ⟨close :: text, (double_cons_self text).symm⟩
    | case5 c' rest hc' =>
      have hne : (c' :: rest).head? ≠ some close := fun hhead ↦ hc' (Option.some.inj hhead)
      rw [readQuoted_close hne] at h
      cases h
    | case6 c c' rest hc ih =>
      rw [readQuoted_cons_of_ne hc, Option.map_eq_none_iff] at h
      obtain ⟨text, htext⟩ := ih h
      exact ⟨c :: text, by rw [double_cons_of_ne hc, htext]⟩
  · rintro ⟨text, rfl⟩
    induction text with
    | nil => rfl
    | cons c text ih =>
      by_cases hc : c = close
      · rw [hc, double_cons_self, readQuoted_cons_cons, ih, Option.map_none]
      · rw [double_cons_of_ne hc, readQuoted_cons_of_ne hc, ih, Option.map_none]

/-! ## Searching in quoted text -/

section Infix

variable {c : Char} {needle text rest : List Char}

/-- What does not contain this character is found on one side of it. -/
theorem infix_append_cons_iff (hc : c ∉ needle) :
    needle <:+: text ++ c :: rest ↔ needle <:+: text ∨ needle <:+: rest := by
  constructor
  · intro h
    rcases List.infix_append_iff.1 h with htext | hcons | ⟨first, last, heq, hfirst, hlast⟩
    · exact .inl htext
    · rcases List.infix_cons_iff.1 hcons with hprefix | hrest
      · cases needle with
        | nil => exact .inl (List.nil_infix)
        | cons d needle =>
          have hd := (List.cons_prefix_cons.1 hprefix).1
          exact absurd (hd ▸ List.mem_cons_self) hc
      · exact .inr hrest
    · cases last with
      | nil =>
        rw [heq, List.append_nil]
        exact .inl hfirst.isInfix
      | cons d last =>
        have hd := (List.cons_prefix_cons.1 hlast).1
        have hmem : d ∈ needle := heq ▸ List.mem_append_right first List.mem_cons_self
        exact absurd (hd ▸ hmem) hc
  · rintro (h | h)
    · exact List.infix_append_of_infix_left h
    · exact List.infix_append_of_infix_right (List.infix_cons h)

/-- Doubling a character hides nothing that does not contain it. -/
theorem infix_append_double_iff (hne : needle ≠ []) (hc : c ∉ needle) (before : List Char) :
    needle <:+: before ++ double c text ↔ needle <:+: before ++ text := by
  have hnil : ¬ needle <:+: [] := fun h ↦ hne (List.eq_nil_of_infix_nil h)
  induction text generalizing before with
  | nil => exact Iff.rfl
  | cons d text ih =>
    by_cases hd : d = c
    · subst hd
      have hsecond : needle <:+: d :: double d text ↔ needle <:+: double d text := by
        have hsplit : needle <:+: [] ++ d :: double d text ↔ _ := infix_append_cons_iff hc
        rwa [List.nil_append, or_iff_right hnil] at hsplit
      rw [double_cons_self, infix_append_cons_iff hc, infix_append_cons_iff hc, hsecond]
      exact or_congr_right (ih [])
    · have hbehind := ih (before ++ [d])
      rw [double_cons_of_ne hd]
      rwa [List.append_assoc, List.append_assoc, List.singleton_append,
        List.singleton_append] at hbehind

theorem infix_double_iff (hne : needle ≠ []) (hc : c ∉ needle) :
    needle <:+: double c text ↔ needle <:+: text :=
  infix_append_double_iff hne hc []

end Infix

end Quoting
