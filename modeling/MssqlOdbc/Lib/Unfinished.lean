import MssqlOdbc.Lib.OdbcString

/-!
# Connection strings that go on

A connection string is put together from the left, so the question arises how a text is read that
has more fields behind it.  It comes to the end of its last pair, or its last value has begun with a
brace and goes on, or it cannot be read whatever stands behind it (`describes_readFront`).

A value that goes on swallows what is behind it, up to the first value in braces: the brace that
closes that one closes both (`readPairs_of_opened`).
-/

set_option autoImplicit false

namespace OdbcString

open Quoting

/-! ## Reading a key -/

/-- Reads a key, and what stands behind the sign. -/
def readKey (text : List Char) : Option (List Char × List Char) :=
  match text.dropWhile fun c ↦ c ≠ '=' with
  | [] => none
  | _ :: rest =>
    let key := text.takeWhile fun c ↦ c ≠ '='
    if ';' ∈ key then none else some (key, rest)

theorem readPair_eq (text : List Char) : readPair text =
    (readKey text).bind fun (key, rest) ↦
      (readValue rest).map fun (value, rest) ↦ ((key, value), rest) := by
  rw [readPair, readKey]
  cases text.dropWhile fun c ↦ c ≠ '=' with
  | nil => rfl
  | cons c rest =>
    dsimp only
    split
    · rfl
    · rfl

theorem readKey_append {key : List Char} (h : '=' ∉ key) (rest : List Char) :
    readKey (key ++ '=' :: rest) = if ';' ∈ key then none else some (key, rest) := by
  have hall : ∀ c ∈ key, decide (c ≠ '=') = true :=
    fun c hc ↦ decide_eq_true fun heq ↦ h (heq ▸ hc)
  rw [readKey, List.dropWhile_append_of_pos hall, List.takeWhile_append_of_pos hall]
  simp

theorem readKey_eq_some {text key rest : List Char} (h : readKey text = some (key, rest)) :
    text = key ++ '=' :: rest ∧ IsKey key := by
  by_cases hmem : '=' ∈ text
  · obtain ⟨before, behind, rfl, hbefore⟩ := List.eq_append_cons_of_mem hmem
    rw [readKey_append hbefore] at h
    split at h
    · cases h
    · rename_i hsemicolon
      cases h
      exact ⟨rfl, hbefore, hsemicolon⟩
  · have hall : ∀ c ∈ text, decide (c ≠ '=') = true :=
      fun c hc ↦ decide_eq_true fun heq ↦ hmem (heq ▸ hc)
    rw [readKey, List.dropWhile_eq_nil_iff.2 hall] at h
    cases h

/-- A key that cannot be read cannot be read with a semicolon behind it either. -/
theorem readKey_append_eq_none {text rest : List Char} (h : readKey text = none)
    (hrest : EndsField rest) : readKey (text ++ rest) = none := by
  by_cases hmem : '=' ∈ text
  · obtain ⟨before, behind, rfl, hbefore⟩ := List.eq_append_cons_of_mem hmem
    have hsemicolon : ';' ∈ before := by
      by_contra hnot
      rw [readKey_append hbefore, if_neg hnot] at h
      cases h
    rw [List.append_assoc, List.cons_append, readKey_append hbefore, if_pos hsemicolon]
  · rcases hrest with rfl | hhead
    · rwa [List.append_nil]
    · obtain ⟨more, rfl⟩ := List.head?_eq_some_iff.1 hhead
      cases hread : readKey (text ++ ';' :: more) with
      | none => rfl
      | some pair =>
        obtain ⟨key, behind⟩ := pair
        obtain ⟨htext, -, hsemicolon⟩ := readKey_eq_some hread
        obtain ⟨between, rfl, hbehind⟩ := exists_of_append_cons hmem htext
        cases between with
        | nil => cases (List.cons.inj hbehind).1
        | cons c between =>
          have hc : ';' = c := (List.cons.inj hbehind).1
          rw [← hc] at hsemicolon
          exact absurd (List.mem_append_right text List.mem_cons_self) hsemicolon

/-! ## Reading what stands in front -/

/-- How a text is read that may have more fields behind it. -/
inductive Front where
  | broken
  | complete (pairs : List (List Char × List Char))
  /-- The last value has begun with a brace, and goes on. -/
  | opened (pairs : List (List Char × List Char)) (key raw : List Char)
deriving DecidableEq, Repr

def Front.cons (pair : List Char × List Char) : Front → Front
  | .broken => .broken
  | .complete pairs => .complete (pair :: pairs)
  | .opened pairs key raw => .opened (pair :: pairs) key raw

/-- Reads pair by pair, as far as the text goes. -/
def readFront (text : List Char) : Front :=
  match _hkey : readKey text with
  | none => .broken
  | some (key, raw) =>
    match _hvalue : readValue raw with
    | none => .opened [] key raw
    | some (value, []) => .complete [(key, value)]
    | some (value, c :: rest) =>
      if c = ';' then (readFront rest).cons (key, value) else .broken
termination_by text.length
decreasing_by
  obtain ⟨rfl, -⟩ := readKey_eq_some _hkey
  have hlength := readValue_length _hvalue
  simp only [List.length_cons, List.length_append] at hlength ⊢
  omega

/-- What the outcome says about the text. -/
def Front.Describes (text : List Char) : Front → Prop
  | .broken => ∀ rest, EndsField rest → readPairs (text ++ rest) = none
  | .complete pairs => ∃ fields, fields ≠ [] ∧ text = render fields ∧ Spells fields pairs
  | .opened pairs key raw => ∃ fields inner, text = front fields ++ (key ++ '=' :: raw) ∧
      Spells fields pairs ∧ IsKey key ∧ raw = '{' :: double '}' inner

theorem readPairs_eq_none {text : List Char} (h : readPair text = none) :
    readPairs text = none := by
  cases hread : readPairs text with
  | none => rfl
  | some pairs =>
    obtain ⟨pair, rest, hpair, -⟩ := readPairs_eq_some hread
    cases h.symm.trans hpair

/-- A value that is not read to its end has begun with a brace, and goes on. -/
theorem exists_of_readValue_eq_none {raw : List Char} (h : readValue raw = none) :
    ∃ inner, raw = '{' :: double '}' inner := by
  by_cases hbrace : raw.head? = some '{'
  · obtain ⟨text, rfl⟩ := List.head?_eq_some_iff.1 hbrace
    obtain ⟨inner, rfl⟩ := readQuoted_eq_none_iff.1 h
    exact ⟨inner, rfl⟩
  · rw [readValue_plain hbrace] at h
    cases h

/-- Behind a brace that closes a value, anything but a semicolon breaks the text. -/
theorem readPairs_of_garbage {key raw value rest : List Char} {c : Char} (hkey : IsKey key)
    (hvalue : readValue raw = some (value, c :: rest)) (hc : c ≠ ';') (more : List Char) :
    readPairs (key ++ '=' :: raw ++ more) = none := by
  have hread : readValue (raw ++ more) = some (value, c :: (rest ++ more)) := by
    by_cases hbrace : raw.head? = some '{'
    · obtain ⟨text, rfl⟩ := List.head?_eq_some_iff.1 hbrace
      obtain ⟨rfl, hhead⟩ := eq_double_of_readQuoted hvalue
      rw [List.cons_append, List.append_assoc]
      exact readQuoted_double value hhead
    · rw [readValue_plain hbrace] at hvalue
      have hhead := List.head?_dropWhile_not (fun c ↦ decide (c ≠ ';')) raw
      rw [(Prod.mk.inj (Option.some.inj hvalue)).2] at hhead
      exact absurd (by simpa using hhead) hc
  have hpair : readPair (key ++ '=' :: raw ++ more) = some ((key, value), c :: (rest ++ more)) := by
    rw [List.append_assoc, List.cons_append, readPair_key hkey, hread, Option.map_some]
  rw [readPairs_of_readPair hpair]
  exact if_neg hc

theorem Front.Describes.cons {front : Front} {rest key raw value : List Char}
    (h : front.Describes rest) (hkey : IsKey key) (hraw : Denotes raw value) :
    (front.cons (key, value)).Describes (key ++ '=' :: raw ++ ';' :: rest) := by
  have hfield : Spells [(key, raw)] [(key, value)] := .cons ⟨hkey, rfl, hraw⟩ .nil
  cases front with
  | broken =>
    intro more hmore
    have hread := readPairs_front hfield (rest ++ more)
    rw [h more hmore, Option.map_none] at hread
    rw [← hread]
    simp [OdbcString.front, Field.text]
  | complete pairs =>
    obtain ⟨fields, hne, rfl, hspells⟩ := h
    refine ⟨(key, raw) :: fields, List.cons_ne_nil _ _, ?_, .cons ⟨hkey, rfl, hraw⟩ hspells⟩
    rw [render_cons _ hne, Field.text]
  | opened pairs key' raw' =>
    obtain ⟨fields, inner, rfl, hspells, hkey', hraw'⟩ := h
    refine ⟨(key, raw) :: fields, inner, ?_, .cons ⟨hkey, rfl, hraw⟩ hspells, hkey', hraw'⟩
    simp [OdbcString.front, Field.text]

/-- **How a text is read in front of others**: not at all, as whole pairs, or up to a value that
goes on. -/
theorem describes_readFront (text : List Char) : (readFront text).Describes text := by
  fun_induction readFront text with
  | case1 text hkey =>
    intro rest hrest
    have hpair : readPair (text ++ rest) = none := by
      rw [readPair_eq, readKey_append_eq_none hkey hrest, Option.bind_none]
    exact readPairs_eq_none hpair
  | case2 text key raw hkey hvalue =>
    obtain ⟨rfl, hisKey⟩ := readKey_eq_some hkey
    obtain ⟨inner, hraw⟩ := exists_of_readValue_eq_none hvalue
    exact ⟨[], inner, rfl, .nil, hisKey, hraw⟩
  | case3 text key raw hkey value hvalue =>
    obtain ⟨rfl, hisKey⟩ := readKey_eq_some hkey
    exact ⟨[(key, raw)], List.cons_ne_nil _ _, rfl, .cons ⟨hisKey, rfl, hvalue⟩ .nil⟩
  | case4 text key raw hkey value rest hvalue ih =>
    obtain ⟨rfl, hisKey⟩ := readKey_eq_some hkey
    obtain ⟨raw', rfl, hraw'⟩ := exists_raw hvalue
    have h := ih.cons hisKey hraw'
    rwa [List.append_assoc, List.cons_append] at h
  | case5 text key raw hkey value c rest hvalue hc =>
    obtain ⟨rfl, hisKey⟩ := readKey_eq_some hkey
    exact fun more _ ↦ readPairs_of_garbage hisKey hvalue hc more

theorem describes_of_readFront {text : List Char} {front : Front} (h : readFront text = front) :
    front.Describes text := by
  rw [← h]
  exact describes_readFront text

/-! ## Fields behind the text -/

theorem render_append {fields : List Field} (hne : fields ≠ []) (fields' : List Field) :
    render (fields ++ fields') = render fields ++ back fields' := by
  induction fields with
  | nil => exact absurd rfl hne
  | cons field fields ih =>
    cases fields with
    | nil => exact render_cons_back field fields'
    | cons second fields =>
      have hrest : second :: fields ≠ [] := List.cons_ne_nil _ _
      rw [List.cons_append, render_cons field (List.append_ne_nil_of_left_ne_nil hrest _), ih hrest,
        render_cons field hrest, List.append_assoc, List.cons_append]

/-- Whole pairs are read, and then the fields behind them. -/
theorem readPairs_of_complete {text : List Char} {pairs pairs' : List (List Char × List Char)}
    {fields : List Field} (h : readFront text = .complete pairs) (hfields : Spells fields pairs') :
    readPairs (text ++ back fields) = some (pairs ++ pairs') := by
  obtain ⟨fields', hne, rfl, hspells⟩ := describes_of_readFront h
  rw [← render_append hne]
  exact readPairs_render (hspells.append hfields) (List.append_ne_nil_of_left_ne_nil hne _)

theorem readPairs_of_broken {text : List Char} (h : readFront text = .broken)
    (fields : List Field) : readPairs (text ++ back fields) = none :=
  describes_of_readFront h _ (endsField_back fields)

/-- A brace closes the text of a value only where the value is in braces. -/
def Tame (field : Field) : Prop :=
  '}' ∉ field.1 ∧ ('}' ∈ field.2 → ∃ value, field.2 = '{' :: double '}' value ++ ['}'])

/-- The text up to the first value in braces, and the fields behind it. -/
def closing : List Field → Option (List Char × List Field)
  | [] => none
  | field :: fields =>
    if '}' ∈ field.2 then some (';' :: field.text, fields)
    else (closing fields).map fun (text, behind) ↦ (';' :: field.text ++ text, behind)

/-- A value that goes on is closed by the first value in braces, or not at all. -/
theorem readQuoted_back {fields : List Field} (htame : ∀ field ∈ fields, Tame field)
    (inner : List Char) :
    match closing fields with
    | none => readQuoted '}' (double '}' inner ++ back fields) = none
    | some (text, behind) => ∃ value, readQuoted '}' (double '}' inner ++ text) = some (value, []) ∧
        readQuoted '}' (double '}' inner ++ back fields) = some (value, back behind) := by
  induction fields generalizing inner with
  | nil =>
    rw [closing, back_nil, List.append_nil]
    exact readQuoted_eq_none_iff.2 ⟨inner, rfl⟩
  | cons field fields ih =>
    obtain ⟨⟨hkey, hraw⟩, hfields⟩ := List.forall_mem_cons.1 htame
    have hback : back (field :: fields) = ';' :: field.text ++ back fields := by
      rw [back_of_ne_nil (List.cons_ne_nil _ _), render_cons_back, List.cons_append]
    rw [closing, hback, ← List.append_assoc]
    by_cases hmem : '}' ∈ field.2
    · rw [if_pos hmem]
      obtain ⟨value, hvalue⟩ := hraw hmem
      have hplain : '}' ∉ ';' :: (field.1 ++ ['=', '{']) := by simp [hkey]
      have htext : double '}' inner ++ ';' :: field.text =
          double '}' (inner ++ (';' :: (field.1 ++ ['=', '{']) ++ value)) ++ ['}'] := by
        rw [double_append, double_append, double_of_not_mem hplain, Field.text, hvalue]
        simp
      have hhead : (back fields).head? ≠ some '}' := by
        rcases endsField_back fields with hnil | hsemicolon
        · rw [hnil]
          exact (Option.some_ne_none _).symm
        · rw [hsemicolon]
          decide
      refine ⟨inner ++ (';' :: (field.1 ++ ['=', '{']) ++ value), ?_, ?_⟩
      · rw [htext]
        exact readQuoted_double _ (Option.some_ne_none _).symm
      · rw [htext, List.append_assoc]
        exact readQuoted_double _ hhead
    · rw [if_neg hmem]
      have hplain : '}' ∉ ';' :: field.text := by simp [Field.text, hkey, hmem]
      have htext : double '}' inner ++ ';' :: field.text =
          double '}' (inner ++ ';' :: field.text) := by
        rw [double_append, double_of_not_mem hplain]
      have hrest := ih hfields (inner ++ ';' :: field.text)
      rw [← htext] at hrest
      cases hclosing : closing fields with
      | none =>
        rw [hclosing] at hrest
        exact hrest
      | some closed =>
        rw [hclosing] at hrest
        obtain ⟨value, hclosed, hback'⟩ := hrest
        rw [List.append_assoc] at hclosed
        exact ⟨value, hclosed, hback'⟩

/-- The fields behind the first value in braces are some of the last ones. -/
theorem suffix_of_closing {fields behind : List Field} {text : List Char}
    (h : closing fields = some (text, behind)) : behind <:+ fields.tail := by
  induction fields generalizing text with
  | nil => cases h
  | cons field fields ih =>
    rw [closing] at h
    split at h
    · cases h
      exact List.suffix_rfl
    · obtain ⟨⟨text', behind'⟩, hclosing, heq⟩ := Option.map_eq_some_iff.1 h
      cases heq
      exact (ih hclosing).trans (List.tail_suffix fields)

theorem closing_of_plain {fields : List Field} (h : ∀ field ∈ fields, '}' ∉ field.2) :
    closing fields = none := by
  induction fields with
  | nil => rfl
  | cons field fields ih =>
    obtain ⟨hfield, hfields⟩ := List.forall_mem_cons.1 h
    rw [closing, if_neg hfield, ih hfields, Option.map_none]

/-- Fields without braces close nothing. -/
theorem closing_append {fields' : List Field} (h : ∀ field ∈ fields', '}' ∉ field.2)
    (fields : List Field) : closing (fields ++ fields') =
      (closing fields).map fun (text, behind) ↦ (text, behind ++ fields') := by
  induction fields with
  | nil => exact closing_of_plain h
  | cons field fields ih =>
    rw [List.cons_append, closing, closing]
    split
    · rfl
    · rw [ih, Option.map_map, Option.map_map]
      rfl

theorem Spells.suffix {fields fields' : List Field} {pairs : List (List Char × List Char)}
    (h : Spells fields pairs) (hsuffix : fields' <:+ fields) : ∃ pairs', Spells fields' pairs' := by
  rw [List.suffix_iff_eq_drop] at hsuffix
  rw [hsuffix]
  exact ⟨_, List.forall₂_drop _ h⟩

section Opened

variable {text key raw : List Char} {pairs : List (List Char × List Char)} {fields : List Field}

/-- A value that goes on is read with what stands behind the text. -/
theorem exists_of_opened (h : readFront text = .opened pairs key raw) :
    IsKey key ∧ ∃ inner, raw = '{' :: double '}' inner ∧
      ∀ more, readPairs (text ++ more) =
        (readPairs (key ++ '=' :: (raw ++ more))).map (pairs ++ ·) := by
  obtain ⟨before, inner, rfl, hspells, hkey, hraw⟩ := describes_of_readFront h
  refine ⟨hkey, inner, hraw, fun more ↦ ?_⟩
  rw [List.append_assoc, List.append_assoc, readPairs_front hspells]
  rfl

/-- A value that goes on and is not closed breaks the text. -/
theorem readPairs_of_not_closed (h : readFront text = .opened pairs key raw)
    (htame : ∀ field ∈ fields, Tame field) (hclosing : closing fields = none) :
    readPairs (text ++ back fields) = none := by
  obtain ⟨hkey, inner, rfl, hread⟩ := exists_of_opened h
  have hquoted := readQuoted_back htame inner
  rw [hclosing] at hquoted
  have hvalue : readValue ('{' :: double '}' inner ++ back fields) = none := hquoted
  have hpair : readPair (key ++ '=' :: ('{' :: double '}' inner ++ back fields)) = none := by
    rw [readPair_key hkey, hvalue, Option.map_none]
  rw [hread, readPairs_eq_none hpair, Option.map_none]

/-- **A value that goes on swallows what is behind it**, up to the first value in braces. -/
theorem readPairs_of_opened (h : readFront text = .opened pairs key raw)
    (htame : ∀ field ∈ fields, Tame field) {closed : List Char} {behind : List Field}
    (hclosing : closing fields = some (closed, behind)) {pairs' : List (List Char × List Char)}
    (hbehind : Spells behind pairs') :
    ∃ value, Denotes (raw ++ closed) value ∧
      readPairs (text ++ back fields) = some (pairs ++ (key, value) :: pairs') := by
  obtain ⟨hkey, inner, rfl, hread⟩ := exists_of_opened h
  have hquoted := readQuoted_back htame inner
  rw [hclosing] at hquoted
  obtain ⟨value, hclosed, hback⟩ := hquoted
  have hvalue : readValue ('{' :: double '}' inner ++ back fields) = some (value, back behind) :=
    hback
  have hpair : readPair (key ++ '=' :: ('{' :: double '}' inner ++ back fields)) =
      some ((key, value), back behind) := by
    rw [readPair_key hkey, hvalue, Option.map_some]
  refine ⟨value, hclosed, ?_⟩
  have hpairs : readPairs (key ++ '=' :: ('{' :: double '}' inner ++ back fields)) =
      some ((key, value) :: pairs') := by
    by_cases hne : behind = []
    · subst hne
      cases hbehind
      exact readPairs_of_last hpair
    · rw [back_of_ne_nil hne] at hpair
      rw [readPairs_of_pair hpair, readPairs_render hbehind hne, Option.map_some]
  rw [hread, hpairs, Option.map_some]

end Opened

/-- Fields that are complete are read as the pairs they spell. -/
theorem readFront_render {fields : List Field} {pairs : List (List Char × List Char)}
    (h : Spells fields pairs) (hne : fields ≠ []) :
    readFront (render fields) = .complete pairs := by
  have hread := readPairs_render h hne
  have hback : render fields ++ back [] = render fields := List.append_nil _
  cases hfront : readFront (render fields) with
  | broken =>
    have hnone := readPairs_of_broken hfront []
    rw [hback, hread] at hnone
    cases hnone
  | complete pairs' =>
    have hsome := readPairs_of_complete hfront .nil
    rw [hback, hread, List.append_nil, Option.some.injEq] at hsome
    rw [hsome]
  | opened pairs' key raw =>
    have hnone : readPairs (render fields ++ back []) = none :=
      readPairs_of_not_closed hfront nofun rfl
    rw [hback, hread] at hnone
    cases hnone

end OdbcString
