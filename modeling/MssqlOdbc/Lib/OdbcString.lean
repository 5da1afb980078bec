import Mathlib.Data.List.Forall2
import Mathlib.Data.List.TakeWhile
import MssqlOdbc.Lib.Quoting

/-!
# ODBC connection strings

A connection string is a list of pairs `key=value`, separated by semicolons.  A value that begins
with a brace ends at the next closing brace that is not doubled; every other value ends at the next
semicolon.

`readPairs_render` reads back what has been put together from well-formed values, and
`infix_render_iff` says where a search for a key finds one: as the end of a key, or inside a value.
-/

set_option autoImplicit false

namespace OdbcString

open Quoting

/-! ## Reading -/

/-- Reads a value, and what stands behind it. -/
def readValue : List Char → Option (List Char × List Char)
  | '{' :: text => readQuoted '}' text
  | text => some (text.takeWhile fun c ↦ c ≠ ';', text.dropWhile fun c ↦ c ≠ ';')

/-- Reads a pair, and what stands behind it. -/
def readPair (text : List Char) : Option ((List Char × List Char) × List Char) :=
  match text.dropWhile fun c ↦ c ≠ '=' with
  | [] => none
  | _ :: rest =>
    let key := text.takeWhile fun c ↦ c ≠ '='
    if ';' ∈ key then none else (readValue rest).map fun (value, rest) ↦ ((key, value), rest)

theorem readValue_plain {text : List Char} (h : text.head? ≠ some '{') :
    readValue text = some (text.takeWhile (fun c ↦ c ≠ ';'), text.dropWhile fun c ↦ c ≠ ';') := by
  rw [readValue.eq_def]
  split
  · exact absurd rfl h
  · rfl

theorem readValue_length {text value rest : List Char} (h : readValue text = some (value, rest)) :
    rest.length ≤ text.length := by
  rw [readValue.eq_def] at h
  split at h
  · rename_i inner
    obtain ⟨htext, -⟩ := eq_double_of_readQuoted h
    rw [htext]
    simp only [List.length_cons, List.length_append]
    omega
  · cases h
    exact (List.dropWhile_sublist _).length_le

theorem readPair_eq_some {text key value rest : List Char}
    (h : readPair text = some ((key, value), rest)) :
    ∃ behind, text = key ++ '=' :: behind ∧ '=' ∉ key ∧ ';' ∉ key ∧
      readValue behind = some (value, rest) := by
  rw [readPair] at h
  have hsplit := List.takeWhile_append_dropWhile (p := fun c ↦ decide (c ≠ '=')) (l := text)
  split at h
  · cases h
  · rename_i c behind heq
    dsimp only at h
    split at h
    · cases h
    · rename_i hsemicolon
      rw [Option.map_eq_some_iff] at h
      obtain ⟨⟨value', rest'⟩, hread, hpair⟩ := h
      cases hpair
      have hc : c = '=' := by
        have hhead := List.head?_dropWhile_not (fun c ↦ decide (c ≠ '=')) text
        rw [heq] at hhead
        simpa using hhead
      refine ⟨behind, ?_, ?_, hsemicolon, hread⟩
      · rw [heq, hc] at hsplit
        exact hsplit.symm
      · intro hmem
        exact absurd (List.mem_takeWhile_imp hmem) (by decide)

theorem readPair_length {text rest : List Char} {pair : List Char × List Char}
    (h : readPair text = some (pair, rest)) : rest.length < text.length := by
  obtain ⟨behind, htext, -, -, hread⟩ := readPair_eq_some h
  have hvalue := readValue_length hread
  rw [htext, List.length_append, List.length_cons]
  omega

/-- The pairs of a connection string. -/
def readPairs (text : List Char) : Option (List (List Char × List Char)) :=
  match _hread : readPair text with
  | none => none
  | some (pair, []) => some [pair]
  | some (pair, c :: rest) =>
    if c = ';' then (readPairs rest).map (pair :: ·) else none
termination_by text.length
decreasing_by
  have hlength := readPair_length _hread
  rw [List.length_cons] at hlength
  omega

/-- The pairs of a text. -/
def read (text : String) : Option (List (String × String)) :=
  (readPairs text.toList).map
    (List.map fun pair ↦ (String.ofList pair.1, String.ofList pair.2))

theorem readPairs_of_readPair {text rest : List Char} {pair : List Char × List Char}
    (h : readPair text = some (pair, rest)) : readPairs text =
      match rest with
      | [] => some [pair]
      | c :: rest => if c = ';' then (readPairs rest).map (pair :: ·) else none := by
  rw [readPairs]
  split
  · rename_i heq
    cases h.symm.trans heq
  · rename_i heq
    cases h.symm.trans heq
    rfl
  · rename_i heq
    cases h.symm.trans heq
    rfl

theorem readPairs_of_last {text : List Char} {pair : List Char × List Char}
    (h : readPair text = some (pair, [])) : readPairs text = some [pair] :=
  readPairs_of_readPair h

theorem readPairs_of_pair {text rest : List Char} {pair : List Char × List Char}
    (h : readPair text = some (pair, ';' :: rest)) :
    readPairs text = (readPairs rest).map (pair :: ·) :=
  (readPairs_of_readPair h).trans (if_pos rfl)

/-- What is read begins with a pair, and what stands behind it is read as well. -/
theorem readPairs_eq_some {text : List Char} {pairs : List (List Char × List Char)}
    (h : readPairs text = some pairs) :
    ∃ pair rest, readPair text = some (pair, rest) ∧
      ((rest = [] ∧ pairs = [pair]) ∨
        ∃ rest' pairs', rest = ';' :: rest' ∧ readPairs rest' = some pairs' ∧
          pairs = pair :: pairs') := by
  rw [readPairs] at h
  split at h
  · cases h
  · rename_i pair heq
    cases h
    exact ⟨pair, [], heq, .inl ⟨rfl, rfl⟩⟩
  · rename_i pair c rest heq
    split at h
    · rename_i hc
      subst hc
      obtain ⟨pairs', hrest, hpairs⟩ := Option.map_eq_some_iff.1 h
      exact ⟨pair, _, heq, .inr ⟨rest, pairs', rfl, hrest, hpairs.symm⟩⟩
    · cases h

/-- A pair of texts, character by character. -/
def charPair (pair : String × String) : List Char × List Char := (pair.1.toList, pair.2.toList)

theorem read_eq_some {text : String} {pairs : List (String × String)} :
    read text = some pairs ↔ readPairs text.toList = some (pairs.map charPair) := by
  have hback : ∀ pairs : List (String × String), (pairs.map charPair).map
      (fun pair ↦ (String.ofList pair.1, String.ofList pair.2)) = pairs := by
    intro pairs
    rw [List.map_map]
    exact List.map_id'' (fun pair ↦ by simp [charPair]) pairs
  have hforth : ∀ pairs : List (List Char × List Char),
      (pairs.map fun pair ↦ (String.ofList pair.1, String.ofList pair.2)).map charPair = pairs := by
    intro pairs
    rw [List.map_map]
    exact List.map_id'' (fun pair ↦ by simp [charPair]) pairs
  rw [read, Option.map_eq_some_iff]
  constructor
  · rintro ⟨chars, hread, rfl⟩
    rw [hread, hforth]
  · intro hread
    exact ⟨_, hread, hback pairs⟩

/-! ## Writing -/

/-- The text is read as this value, to its end. -/
def Denotes (raw value : List Char) : Prop := readValue raw = some (value, [])

instance (raw value : List Char) : Decidable (Denotes raw value) :=
  inferInstanceAs (Decidable (readValue raw = some (value, [])))

theorem denotes_plain {raw : List Char} (hbrace : raw.head? ≠ some '{') (hsemicolon : ';' ∉ raw) :
    Denotes raw raw := by
  have hall : ∀ c ∈ raw, decide (c ≠ ';') = true :=
    fun c hc ↦ decide_eq_true fun heq ↦ hsemicolon (heq ▸ hc)
  rw [Denotes, readValue_plain hbrace, List.takeWhile_eq_self_iff.2 hall,
    List.dropWhile_eq_nil_iff.2 hall]

theorem denotes_braced (value : List Char) : Denotes ('{' :: double '}' value ++ ['}']) value :=
  readQuoted_double value (by simp)

theorem denotes_unique {raw value value' : List Char} (h : Denotes raw value)
    (h' : Denotes raw value') : value = value' :=
  (Prod.mk.inj (Option.some.inj (h.symm.trans h'))).1

/-- A value is in braces, or it is its text. -/
theorem denotes_cases {raw value : List Char} (h : Denotes raw value) :
    (raw = '{' :: double '}' value ++ ['}']) ∨
      (raw = value ∧ raw.head? ≠ some '{' ∧ ';' ∉ raw) := by
  by_cases hbrace : raw.head? = some '{'
  · obtain ⟨text, rfl⟩ := List.head?_eq_some_iff.1 hbrace
    exact .inl (congrArg ('{' :: ·) (eq_double_of_readQuoted h).1)
  · rw [Denotes, readValue_plain hbrace] at h
    cases hdrop : raw.dropWhile fun c ↦ c ≠ ';' with
    | cons c rest =>
      rw [hdrop] at h
      cases h
    | nil =>
      have hall := List.dropWhile_eq_nil_iff.1 hdrop
      have hsemicolon : ';' ∉ raw := fun hmem ↦ absurd (hall _ hmem) (by decide)
      rw [hdrop, List.takeWhile_eq_self_iff.2 hall] at h
      cases h
      exact .inr ⟨rfl, hbrace, hsemicolon⟩

/-- The end of the text, or a semicolon. -/
def EndsField (rest : List Char) : Prop := rest = [] ∨ rest.head? = some ';'

/-- What is left out ends with the field. -/
theorem dropWhile_append_endsField (text : List Char) {rest : List Char} (h : EndsField rest) :
    (text ++ rest).dropWhile (fun c ↦ c ≠ ';') = text.dropWhile (fun c ↦ c ≠ ';') ++ rest := by
  have hrest : rest.dropWhile (fun c ↦ c ≠ ';') = rest := by
    rcases h with rfl | hhead
    · rfl
    · obtain ⟨rest, rfl⟩ := List.head?_eq_some_iff.1 hhead
      exact List.dropWhile_cons_of_neg (by decide)
  rw [List.dropWhile_append, hrest]
  split
  · rename_i hnil
    rw [List.isEmpty_iff.1 hnil, List.nil_append]
  · rfl

/-- What is left out ends where the field does. -/
theorem dropWhile_append_of_endsField {text rest : List Char} (h : ';' ∉ text)
    (hrest : EndsField rest) : (text ++ rest).dropWhile (fun c ↦ c ≠ ';') = rest := by
  have hall : ∀ c ∈ text, decide (c ≠ ';') = true :=
    fun c hc ↦ decide_eq_true fun heq ↦ h (heq ▸ hc)
  rw [dropWhile_append_endsField text hrest, List.dropWhile_eq_nil_iff.2 hall, List.nil_append]

/-- **A value is read where it ends**, whatever stands behind it. -/
theorem readValue_append {raw value rest : List Char} (h : Denotes raw value)
    (hrest : EndsField rest) : readValue (raw ++ rest) = some (value, rest) := by
  rcases denotes_cases h with rfl | ⟨rfl, hbrace, hsemicolon⟩
  · have hhead : rest.head? ≠ some '}' := by
      rcases hrest with rfl | hhead
      · simp
      · rw [hhead]
        decide
    rw [List.append_assoc]
    exact readQuoted_double value hhead
  · have hhead : (raw ++ rest).head? ≠ some '{' := by
      cases raw with
      | cons c raw => exact hbrace
      | nil =>
        rcases hrest with rfl | hhead
        · simp
        · rw [List.nil_append, hhead]
          decide
    have hdrop := dropWhile_append_of_endsField hsemicolon hrest
    have htake : (raw ++ rest).takeWhile (fun c ↦ c ≠ ';') = raw := by
      have hsplit := List.takeWhile_append_dropWhile (p := fun c ↦ decide (c ≠ ';'))
        (l := raw ++ rest)
      rw [hdrop] at hsplit
      exact List.append_cancel_right hsplit
    rw [readValue_plain hhead, hdrop, htake]

/-- A value that is read is the text of one, and what stands behind it. -/
theorem exists_raw {text value rest : List Char} (h : readValue text = some (value, rest)) :
    ∃ raw, text = raw ++ rest ∧ Denotes raw value := by
  by_cases hbrace : text.head? = some '{'
  · obtain ⟨inner, rfl⟩ := List.head?_eq_some_iff.1 hbrace
    obtain ⟨hinner, -⟩ := eq_double_of_readQuoted h
    refine ⟨'{' :: double '}' value ++ ['}'], ?_, denotes_braced value⟩
    rw [hinner, List.append_assoc]
    rfl
  · rw [readValue_plain hbrace] at h
    obtain ⟨hvalue, hbehind⟩ := Prod.mk.inj (Option.some.inj h)
    have hsplit := List.takeWhile_append_dropWhile (p := fun c ↦ decide (c ≠ ';')) (l := text)
    rw [hvalue, hbehind] at hsplit
    refine ⟨value, hsplit.symm, denotes_plain ?_ ?_⟩
    · intro hhead
      rw [← hsplit, List.head?_append, hhead] at hbrace
      exact hbrace rfl
    · intro hmem
      rw [← hvalue] at hmem
      exact absurd (List.mem_takeWhile_imp hmem) (by decide)

/-- A text without braces is found in a value wherever it is found in what the value denotes. -/
theorem infix_iff_of_denotes {needle raw value : List Char} (hne : needle ≠ [])
    (hopen : '{' ∉ needle) (hclose : '}' ∉ needle) (h : Denotes raw value) :
    needle <:+: raw ↔ needle <:+: value := by
  have hnil : ¬ needle <:+: [] := fun h ↦ hne (List.eq_nil_of_infix_nil h)
  obtain rfl | ⟨rfl, -⟩ := denotes_cases h
  · have hbraces : '{' :: double '}' value ++ ['}'] =
      [] ++ '{' :: (double '}' value ++ '}' :: []) := by simp
    rw [hbraces, infix_append_cons_iff hopen, infix_append_cons_iff hclose,
      infix_double_iff hne hclose, or_iff_right hnil, or_iff_left hnil]
  · exact Iff.rfl

theorem append_ne_brace_cons {text : List Char} (h : ∃ c ∈ text, c ≠ '{') (rest rest' : List Char) :
    text ++ rest ≠ '{' :: (double '}' text ++ rest') := by
  induction text with
  | nil =>
    obtain ⟨c, hc, -⟩ := h
    exact absurd hc List.not_mem_nil
  | cons c text ih =>
    intro heq
    obtain ⟨hc, heq⟩ := List.cons.inj heq
    subst hc
    obtain ⟨d, hd, hne⟩ := h
    rcases List.mem_cons.1 hd with hbrace | hd
    · exact hne hbrace
    · rw [double_cons_of_ne (by decide)] at heq
      exact ih ⟨d, hd, hne⟩ heq

/-- A text that is read as itself does not begin with a brace, and has no semicolon in it. -/
theorem plain_of_readValue {text rest rest' : List Char} (hother : ∃ c ∈ text, c ≠ '{')
    (h : readValue (text ++ rest) = some (text, rest')) :
    text.head? ≠ some '{' ∧ ';' ∉ text := by
  obtain ⟨c, hc, hne⟩ := hother
  by_cases hbrace : text.head? = some '{'
  · obtain ⟨inner, rfl⟩ := List.head?_eq_some_iff.1 hbrace
    have htext := (eq_double_of_readQuoted h).1
    rw [double_cons_of_ne (by decide), List.cons_append] at htext
    rcases List.mem_cons.1 hc with hc | hc
    · exact absurd hc hne
    · exact absurd htext (append_ne_brace_cons ⟨c, hc, hne⟩ rest _)
  · have hhead : (text ++ rest).head? ≠ some '{' := by
      cases text with
      | nil => exact absurd hc List.not_mem_nil
      | cons d text => exact hbrace
    rw [readValue_plain hhead, Option.some.injEq, Prod.mk.injEq] at h
    refine ⟨hbrace, fun hmem ↦ ?_⟩
    rw [← h.1] at hmem
    exact absurd (List.mem_takeWhile_imp hmem) (by decide)

/-- The name of a key contains neither of the separators. -/
def IsKey (key : List Char) : Prop := '=' ∉ key ∧ ';' ∉ key

instance (key : List Char) : Decidable (IsKey key) :=
  inferInstanceAs (Decidable ('=' ∉ key ∧ ';' ∉ key))

theorem readPair_append {key : List Char} (h : '=' ∉ key) (rest : List Char) :
    readPair (key ++ '=' :: rest) = if ';' ∈ key then none else
      (readValue rest).map fun (value, rest) ↦ ((key, value), rest) := by
  have hall : ∀ c ∈ key, decide (c ≠ '=') = true :=
    fun c hc ↦ decide_eq_true fun heq ↦ h (heq ▸ hc)
  rw [readPair, List.dropWhile_append_of_pos hall, List.takeWhile_append_of_pos hall]
  simp

theorem readPair_key {key : List Char} (h : IsKey key) (rest : List Char) :
    readPair (key ++ '=' :: rest) =
      (readValue rest).map fun (value, rest) ↦ ((key, value), rest) := by
  rw [readPair_append h.1, if_neg h.2]

/-- A key and the text of its value. -/
abbrev Field : Type := List Char × List Char

def Field.text (field : Field) : List Char := field.1 ++ '=' :: field.2

/-- The fields, one behind the other. -/
def render : List Field → List Char
  | [] => []
  | [field] => field.text
  | field :: fields => field.text ++ ';' :: render fields

theorem render_cons (field : Field) {fields : List Field} (h : fields ≠ []) :
    render (field :: fields) = field.text ++ ';' :: render fields := by
  cases fields with
  | nil => exact absurd rfl h
  | cons _ _ => rfl

/-- A field is added at the end. -/
theorem render_concat (fields : List Field) (field : Field) (h : fields ≠ []) :
    render (fields ++ [field]) = render fields ++ ';' :: field.text := by
  induction fields with
  | nil => exact absurd rfl h
  | cons first fields ih =>
    cases fields with
    | nil => rfl
    | cons second fields =>
      have hne : second :: fields ≠ [] := List.cons_ne_nil second fields
      rw [List.cons_append, render_cons first (List.append_ne_nil_of_left_ne_nil hne _), ih hne,
        render_cons first hne, List.append_assoc, List.cons_append]

/-- Fields with more behind them. -/
def front (fields : List Field) : List Char := fields.flatMap fun field ↦ field.text ++ [';']

/-- Fields behind others. -/
def back (fields : List Field) : List Char := if fields = [] then [] else ';' :: render fields

theorem back_nil : back [] = [] := rfl

theorem back_of_ne_nil {fields : List Field} (h : fields ≠ []) :
    back fields = ';' :: render fields := if_neg h

theorem render_cons_back (field : Field) (fields : List Field) :
    render (field :: fields) = field.text ++ back fields := by
  cases fields with
  | nil => exact (List.append_nil _).symm
  | cons second fields => rfl

theorem render_append_cons (fields : List Field) (field : Field) (fields' : List Field) :
    render (fields ++ field :: fields') = front fields ++ (field.text ++ back fields') := by
  induction fields with
  | nil => exact render_cons_back field fields'
  | cons first fields ih =>
    have hne : fields ++ field :: fields' ≠ [] :=
      List.append_ne_nil_of_right_ne_nil _ (List.cons_ne_nil _ _)
    rw [List.cons_append, render_cons first hne, ih, front, front, List.flatMap_cons]
    simp only [List.append_assoc, List.cons_append, List.nil_append]

theorem endsField_back (fields : List Field) : EndsField (back fields) := by
  rw [back]
  split
  · exact .inl rfl
  · exact .inr rfl

/-- What stands before a character is longer than a text that it is no part of. -/
theorem exists_of_append_cons {α : Type} {x : α} {core rest before behind : List α} (hx : x ∉ core)
    (h : core ++ rest = before ++ x :: behind) :
    ∃ more, before = core ++ more ∧ rest = more ++ x :: behind := by
  obtain ⟨more, hbefore, hrest⟩ | ⟨more, hcore, hbehind⟩ := List.append_eq_append_iff.1 h
  · exact ⟨more, hbefore, hrest⟩
  · cases more with
    | nil =>
      rw [List.append_nil] at hcore
      rw [List.nil_append] at hbehind
      exact ⟨[], by rw [hcore, List.append_nil], hbehind.symm⟩
    | cons c more =>
      have hc := (List.cons.inj hbehind).1
      rw [hcore, ← hc] at hx
      exact absurd (List.mem_append_right before List.mem_cons_self) hx

/-- What stands behind fields begins with a semicolon, if there is anything in between. -/
theorem exists_of_back {fields : List Field} {c : Char} {between behind : List Char} (hc : c ≠ ';')
    (h : back fields = between ++ c :: behind) : ∃ rest, between = ';' :: rest := by
  obtain hback | hback := endsField_back fields
  · rw [hback] at h
    exact absurd h.symm (List.append_ne_nil_of_right_ne_nil _ (List.cons_ne_nil _ _))
  · rw [h] at hback
    cases between with
    | nil => exact absurd (Option.some.inj hback) hc
    | cons d rest => exact ⟨rest, congrArg (· :: rest) (Option.some.inj hback)⟩

/-- What stands around an entry is related to what stands around the other. -/
theorem forall₂_append_cons {α β : Type} {r : α → β → Prop} {xs : List α} {ys ys' : List β} {y : β}
    (h : List.Forall₂ r xs (ys ++ y :: ys')) :
    ∃ first x behind, xs = first ++ x :: behind ∧ List.Forall₂ r first ys ∧ r x y ∧
      List.Forall₂ r behind ys' := by
  induction ys generalizing xs with
  | nil =>
    obtain ⟨x, behind, hx, hbehind, rfl⟩ := List.forall₂_cons_right_iff.1 h
    exact ⟨[], x, behind, rfl, List.Forall₂.nil, hx, hbehind⟩
  | cons other ys ih =>
    obtain ⟨x, xs, hx, hxs, rfl⟩ := List.forall₂_cons_right_iff.1 h
    obtain ⟨first, x', behind, rfl, hfirst, hx', hbehind⟩ := ih hxs
    exact ⟨x :: first, x', behind, rfl, List.Forall₂.cons hx hfirst, hx', hbehind⟩

/-- The fields spell these pairs. -/
def Spells (fields : List Field) (pairs : List (List Char × List Char)) : Prop :=
  List.Forall₂ (fun field pair ↦ IsKey field.1 ∧ field.1 = pair.1 ∧ Denotes field.2 pair.2)
    fields pairs

theorem readPair_text {field : Field} {value rest : List Char} (hrest : EndsField rest)
    (hkey : IsKey field.1) (hvalue : Denotes field.2 value) :
    readPair (field.text ++ rest) = some ((field.1, value), rest) := by
  rw [Field.text, List.append_assoc, List.cons_append, readPair_key hkey,
    readValue_append hvalue hrest]
  rfl

/-- **Fields are read back** as the pairs they spell. -/
theorem readPairs_render {fields : List Field} {pairs : List (List Char × List Char)}
    (h : Spells fields pairs) (hne : fields ≠ []) : readPairs (render fields) = some pairs := by
  induction h with
  | nil => exact absurd rfl hne
  | @cons field pair fields pairs hfield hfields ih =>
    obtain ⟨hkey, hname, hvalue⟩ := hfield
    cases hfields with
    | nil =>
      have hread := readPair_text (.inl rfl) hkey hvalue
      rw [List.append_nil] at hread
      rw [render, readPairs_of_last hread, hname]
    | @cons second pair' fields pairs hsecond hrest =>
      have hends : EndsField (';' :: render (second :: fields)) := .inr rfl
      have hread := readPair_text hends hkey hvalue
      rw [render_cons field (List.cons_ne_nil second fields), readPairs_of_pair hread,
        ih (List.cons_ne_nil second fields), Option.map_some, hname]

/-- Fields are read before what stands behind them. -/
theorem readPairs_front {fields : List Field} {pairs : List (List Char × List Char)}
    (h : Spells fields pairs) (text : List Char) :
    readPairs (front fields ++ text) = (readPairs text).map (pairs ++ ·) := by
  induction h with
  | nil =>
    rw [front, List.flatMap_nil, List.nil_append]
    exact Option.map_id'.symm
  | @cons field pair fields pairs hfield hfields ih =>
    obtain ⟨hkey, hname, hvalue⟩ := hfield
    have hread : readPair (field.text ++ ';' :: (front fields ++ text)) =
        some ((field.1, pair.2), ';' :: (front fields ++ text)) :=
      readPair_text (.inr rfl) hkey hvalue
    have hfront : front (field :: fields) ++ text =
        field.text ++ ';' :: (front fields ++ text) := by
      rw [front, List.flatMap_cons, front]
      simp only [List.append_assoc, List.cons_append, List.nil_append]
    rw [hfront, readPairs_of_pair hread, ih, Option.map_map, hname]
    rfl

theorem Spells.append {fields fields' : List Field} {pairs pairs' : List (List Char × List Char)}
    (h : Spells fields pairs) (h' : Spells fields' pairs') :
    Spells (fields ++ fields') (pairs ++ pairs') := by
  induction h with
  | nil => exact h'
  | cons hfield _ ih => exact .cons hfield ih

/-- **What is read back** are the pairs that fields spell. -/
theorem exists_fields {text : List Char} {pairs : List (List Char × List Char)}
    (h : readPairs text = some pairs) :
    ∃ fields, fields ≠ [] ∧ text = render fields ∧ Spells fields pairs := by
  induction pairs generalizing text with
  | nil =>
    obtain ⟨pair, rest, -, ⟨-, hpairs⟩ | ⟨rest', pairs', -, -, hpairs⟩⟩ := readPairs_eq_some h
    · cases hpairs
    · cases hpairs
  | cons pair pairs ih =>
    obtain ⟨⟨key, value⟩, rest, hpair, hbehind⟩ := readPairs_eq_some h
    obtain ⟨behind, rfl, hequals, hsemicolon, hread⟩ := readPair_eq_some hpair
    obtain ⟨raw, rfl, hraw⟩ := exists_raw hread
    obtain ⟨rfl, hpairs⟩ | ⟨rest', pairs', rfl, hothers, hpairs⟩ := hbehind
    · cases hpairs
      refine ⟨[(key, raw)], List.cons_ne_nil _ _, ?_, .cons ⟨⟨hequals, hsemicolon⟩, rfl, hraw⟩ .nil⟩
      rw [List.append_nil]
      rfl
    · cases hpairs
      obtain ⟨fields, hne, rfl, hspells⟩ := ih hothers
      refine ⟨(key, raw) :: fields, List.cons_ne_nil _ _, ?_,
        .cons ⟨⟨hequals, hsemicolon⟩, rfl, hraw⟩ hspells⟩
      rw [render_cons _ hne, Field.text, List.append_assoc, List.cons_append]

theorem Spells.isKey {fields : List Field} {pairs : List (List Char × List Char)}
    (h : Spells fields pairs) : ∀ field ∈ fields, IsKey field.1 := by
  induction h with
  | nil => exact nofun
  | cons hfield _ ih => exact List.forall_mem_cons.2 ⟨hfield.1, ih⟩

/-- What is true of a field just if it is true of the pair it spells is true of some field just if
it is true of some pair. -/
theorem Spells.exists_iff {fields : List Field} {pairs : List (String × String)}
    {p : Field → Prop} {q : String × String → Prop} (h : Spells fields (pairs.map charPair))
    (hpq : ∀ (field : Field) (pair : String × String), field.1 = pair.1.toList →
      Denotes field.2 pair.2.toList → (p field ↔ q pair)) :
    (∃ field ∈ fields, p field) ↔ ∃ pair ∈ pairs, q pair := by
  rw [Spells, List.forall₂_map_right_iff] at h
  induction h with
  | nil => simp
  | cons hfield _ ih =>
    rw [List.exists_mem_cons_iff, List.exists_mem_cons_iff, ih, hpq _ _ hfield.2.1 hfield.2.2]

/-- Whatever its value is read as, a field is read under its key. -/
theorem readPairs_render_cons {key raw : List Char} {fields : List Field}
    {pairs : List (List Char × List Char)} (hkey : IsKey key)
    (h : readPairs (render ((key, raw) :: fields)) = some pairs) :
    ∃ value rest rest' pairs', pairs = (key, value) :: pairs' ∧
      readValue (raw ++ rest) = some (value, rest') := by
  have htext : ∃ rest, render ((key, raw) :: fields) = key ++ '=' :: (raw ++ rest) := by
    cases fields with
    | nil => exact ⟨[], by rw [render, Field.text, List.append_nil]⟩
    | cons second fields =>
      refine ⟨';' :: render (second :: fields), ?_⟩
      rw [render_cons (key, raw) (List.cons_ne_nil second fields), Field.text, List.append_assoc,
        List.cons_append]
  obtain ⟨rest, htext⟩ := htext
  rw [htext] at h
  obtain ⟨pair, behind, hpair, hpairs⟩ := readPairs_eq_some h
  rw [readPair_key hkey, Option.map_eq_some_iff] at hpair
  obtain ⟨⟨value, _⟩, hvalue, heq⟩ := hpair
  cases heq
  rcases hpairs with ⟨-, hpairs⟩ | ⟨_, pairs', -, -, hpairs⟩
  · exact ⟨value, rest, behind, [], hpairs, hvalue⟩
  · exact ⟨value, rest, behind, pairs', hpairs, hvalue⟩

/-! ## Searching for a key -/

section Search

variable {name : List Char}

theorem infix_text_iff (field : Field) (hname : '=' ∉ name) (hkey : '=' ∉ field.1) :
    name ++ ['='] <:+: field.text ↔ name <:+ field.1 ∨ name ++ ['='] <:+: field.2 := by
  have hmem : '=' ∈ name ++ ['='] := List.mem_append_right name (List.mem_singleton.2 rfl)
  constructor
  · intro h
    rcases List.infix_append_iff.1 h with hin | hin | ⟨first, last, heq, hfirst, hlast⟩
    · exact absurd (hin.subset hmem) hkey
    · rcases List.infix_cons_iff.1 hin with hprefix | hin
      · cases name with
        | nil => exact .inl List.nil_suffix
        | cons c name =>
          have hc := (List.cons_prefix_cons.1 hprefix).1
          exact absurd (hc ▸ List.mem_cons_self) hname
      · exact .inr hin
    · cases last with
      | nil =>
        rw [List.append_nil] at heq
        exact absurd (hfirst.subset (heq ▸ hmem)) hkey
      | cons c last =>
        have hc := (List.cons_prefix_cons.1 hlast).1
        subst hc
        rcases List.append_eq_append_iff.1 heq with ⟨rest, hrest, hlast⟩ | ⟨rest, hrest, hlast⟩
        · cases rest with
          | nil =>
            rw [List.append_nil] at hrest
            exact .inl (hrest ▸ hfirst)
          | cons d rest =>
            have hd : '=' = d := (List.cons.inj hlast).1
            have hfirstMem : '=' ∈ first := by
              rw [hrest, ← hd]
              exact List.mem_append_right name List.mem_cons_self
            exact absurd (hfirst.subset hfirstMem) hkey
        · cases rest with
          | nil =>
            rw [List.append_nil] at hrest
            exact .inl (hrest ▸ hfirst)
          | cons d rest =>
            have hd : '=' = d := (List.cons.inj hlast).1
            have hnameMem : '=' ∈ name := by
              rw [hrest, ← hd]
              exact List.mem_append_right first List.mem_cons_self
            exact absurd hnameMem hname
  · rintro (hsuffix | hin)
    · obtain ⟨before, hbefore⟩ := hsuffix
      refine ⟨before, field.2, ?_⟩
      rw [Field.text, ← hbefore]
      simp
    · exact List.infix_append_of_infix_right (List.infix_cons hin)

/-- **A key is found where a key ends with its name, or inside a value.** -/
theorem infix_render_iff {fields : List Field} (hname : IsKey name)
    (hkeys : ∀ field ∈ fields, IsKey field.1) :
    name ++ ['='] <:+: render fields ↔
      ∃ field ∈ fields, name <:+ field.1 ∨ name ++ ['='] <:+: field.2 := by
  have hsemicolon : ';' ∉ name ++ ['='] := by
    rw [List.mem_append, not_or]
    exact ⟨hname.2, by decide⟩
  induction fields with
  | nil =>
    rw [render, List.infix_nil]
    simp
  | cons field fields ih =>
    obtain ⟨hfield, hfields⟩ := List.forall_mem_cons.1 hkeys
    have htext := infix_text_iff field hname.1 hfield.1
    cases fields with
    | nil => simpa [render] using htext
    | cons second fields =>
      rw [render_cons field (List.cons_ne_nil second fields), infix_append_cons_iff hsemicolon,
        htext]
      refine (or_congr_right (ih hfields)).trans ?_
      simp

end Search

/-! ## Behind the middle of a value -/

/-- A value that begins in the middle of a braced one ends with it, or still before. -/
theorem readValue_tail (value rest : List Char) :
    ∃ v, readValue (double '}' value ++ '}' :: ';' :: rest) = some (v, ';' :: rest) ∨
      ∃ value', value'.length < value.length ∧
        readValue (double '}' value ++ '}' :: ';' :: rest) =
          some (v, ';' :: (double '}' value' ++ '}' :: ';' :: rest)) := by
  have hplain : value.head? ≠ some '{' →
      (double '}' value ++ '}' :: ';' :: rest).head? ≠ some '{' := by
    have hbrace : some '}' ≠ some '{' := by decide
    intro hhead
    cases value with
    | nil => exact hbrace
    | cons c value =>
      by_cases hc : c = '}'
      · rw [hc, double_cons_self]
        exact hbrace
      · rw [double_cons_of_ne hc]
        exact hhead
  by_cases hbrace : value.head? = some '{'
  · obtain ⟨text, rfl⟩ := List.head?_eq_some_iff.1 hbrace
    have hread : readQuoted '}' (double '}' text ++ '}' :: ';' :: rest) =
        some (text, ';' :: rest) := readQuoted_double text (by simp)
    rw [double_cons_of_ne (by decide)]
    exact ⟨text, .inl hread⟩
  · rw [readValue_plain (hplain hbrace)]
    refine ⟨(double '}' value ++ '}' :: ';' :: rest).takeWhile fun c ↦ c ≠ ';', ?_⟩
    by_cases hmem : ';' ∈ value
    · obtain ⟨before, behind, rfl, hbefore⟩ := List.eq_append_cons_of_mem hmem
      have hall : ∀ c ∈ double '}' before, decide (c ≠ ';') = true :=
        fun c hc ↦ decide_eq_true fun heq ↦ hbefore (heq ▸ mem_double.1 hc)
      refine .inr ⟨behind, ?_, ?_⟩
      · simp only [List.length_append, List.length_cons]
        omega
      · congr 2
        rw [double_append, List.append_assoc, List.dropWhile_append_of_pos hall,
          double_cons_of_ne (by decide), List.cons_append, List.dropWhile_cons_of_neg (by decide)]
    · have hall : ∀ c ∈ double '}' value ++ ['}'], decide (c ≠ ';') = true := by
        intro c hc
        rcases List.mem_append.1 hc with hc | hc
        · exact decide_eq_true fun heq ↦ hmem (heq ▸ mem_double.1 hc)
        · rw [List.mem_singleton.1 hc]
          decide
      have hsplit : double '}' value ++ '}' :: ';' :: rest =
        (double '}' value ++ ['}']) ++ ';' :: rest := by simp
      refine .inl ?_
      congr 2
      rw [hsplit, List.dropWhile_append_of_pos hall, List.dropWhile_cons_of_neg (by decide)]

/-- What is left of a braced value is read as fields of its own, and then the reading is in step
again. -/
theorem readPairs_tail (value rest : List Char) {pairs : List (List Char × List Char)}
    (h : readPairs (double '}' value ++ '}' :: ';' :: rest) = some pairs) :
    ∃ own others, own ≠ [] ∧ readPairs rest = some others ∧ pairs = own ++ others := by
  induction hn : value.length using Nat.strongRecOn generalizing value pairs with
  | ind n ih =>
    obtain ⟨⟨key, v⟩, behind, hpair, hbehind⟩ := readPairs_eq_some h
    by_cases hmem : '=' ∈ value
    · obtain ⟨name, text, rfl, hname⟩ := List.eq_append_cons_of_mem hmem
      have hdouble : '=' ∉ double '}' name := fun hin ↦ hname (mem_double.1 hin)
      have hlength : text.length < n := by
        rw [← hn, List.length_append, List.length_cons]
        omega
      rw [double_append, double_cons_of_ne (by decide), List.append_assoc, List.cons_append,
        readPair_append hdouble] at hpair
      split at hpair
      · cases hpair
      · obtain ⟨⟨v', behind'⟩, hvalue, heq⟩ := Option.map_eq_some_iff.1 hpair
        cases heq
        obtain ⟨w, hread | ⟨value', hlt, hread⟩⟩ := readValue_tail text rest
        · cases hvalue.symm.trans hread
          rcases hbehind with ⟨hnil, -⟩ | ⟨rest', others, hrest, hothers, hpairs⟩
          · cases hnil
          · cases hrest
            exact ⟨[_], others, List.cons_ne_nil _ _, hothers, hpairs⟩
        · cases hvalue.symm.trans hread
          rcases hbehind with ⟨hnil, -⟩ | ⟨rest', others, hrest, hothers, hpairs⟩
          · cases hnil
          · cases hrest
            obtain ⟨own, others', hown, hread', hsplit⟩ :=
              ih value'.length (Nat.lt_trans hlt hlength) value' hothers rfl
            have hall : pairs = ((double '}' name, v) :: own) ++ others' := by
              rw [hpairs, hsplit, List.cons_append]
            exact ⟨_, others', List.cons_ne_nil _ _, hread', hall⟩
    · have hprefix : '=' ∉ double '}' value ++ ['}', ';'] := by simp [hmem]
      have hsplit : double '}' value ++ '}' :: ';' :: rest =
        (double '}' value ++ ['}', ';']) ++ rest := by simp
      obtain ⟨behind', htext, hkey, hsemicolon, -⟩ := readPair_eq_some hpair
      rw [hsplit] at htext
      rcases List.append_eq_append_iff.1 htext with ⟨more, heq, -⟩ | ⟨more, heq, hmore⟩
      · exact absurd (heq ▸ List.mem_append_left more (by simp)) hsemicolon
      · cases more with
        | nil =>
          rw [List.append_nil] at heq
          exact absurd (heq ▸ by simp) hsemicolon
        | cons c more =>
          have hc : '=' = c := (List.cons.inj hmore).1
          rw [heq, ← hc] at hprefix
          exact absurd (List.mem_append_right key List.mem_cons_self) hprefix

/-- What is left of braced values that were cut off at a semicolon. -/
inductive Debris : List Char → Prop where
  | nil : Debris []
  | cons (value : List Char) {rest : List Char} (h : Debris rest) :
      Debris (';' :: (double '}' value ++ '}' :: rest))

theorem Debris.endsField {debris : List Char} (h : Debris debris) : EndsField debris := by
  cases h with
  | nil => exact .inl rfl
  | cons value h => exact .inr rfl

/-- A value without semicolons leaves nothing behind. -/
theorem dropWhile_of_not_mem {raw : List Char} (h : ';' ∉ raw) :
    raw.dropWhile (fun c ↦ c ≠ ';') = [] :=
  List.dropWhile_eq_nil_iff.2 fun _ hc ↦ decide_eq_true fun heq ↦ h (heq ▸ hc)

theorem not_mem_of_dropWhile {raw : List Char} (h : raw.dropWhile (fun c ↦ c ≠ ';') = []) :
    ';' ∉ raw :=
  fun hmem ↦ absurd (List.dropWhile_eq_nil_iff.1 h _ hmem) (by decide)

/-- A value that is cut off leaves debris behind. -/
theorem Debris.of_denotes {raw value debris : List Char} (h : Denotes raw value)
    (hdebris : Debris debris) : Debris (raw.dropWhile (fun c ↦ c ≠ ';') ++ debris) := by
  by_cases hmem : ';' ∈ raw
  · rcases denotes_cases h with rfl | ⟨-, -, hsemicolon⟩
    · have hvalue : ';' ∈ value := by simpa using hmem
      obtain ⟨before, behind, rfl, hbefore⟩ := List.eq_append_cons_of_mem hvalue
      have hplain : ';' ∉ '{' :: double '}' before := by
        rw [List.mem_cons, mem_double, not_or]
        exact ⟨by decide, hbefore⟩
      have hraw : '{' :: double '}' (before ++ ';' :: behind) ++ ['}'] =
          ('{' :: double '}' before) ++ ';' :: (double '}' behind ++ ['}']) := by
        rw [double_append, double_cons_of_ne (by decide)]
        simp
      rw [hraw, dropWhile_append_of_endsField hplain (.inr rfl), List.cons_append,
        List.append_assoc]
      exact .cons behind hdebris
    · exact absurd hmem hsemicolon
  · rw [dropWhile_of_not_mem hmem]
    exact hdebris

/-- **Debris is never overlooked**: it is read as fields of its own. -/
theorem readPairs_debris {debris rest : List Char} (hdebris : Debris (';' :: debris))
    {pairs : List (List Char × List Char)} (h : readPairs (debris ++ ';' :: rest) = some pairs) :
    ∃ own others, own ≠ [] ∧ readPairs rest = some others ∧ pairs = own ++ others := by
  generalize htext : ';' :: debris = text at hdebris
  induction hdebris generalizing debris pairs with
  | nil => cases htext
  | @cons value more hmore ih =>
    cases htext
    rw [List.append_assoc, List.cons_append] at h
    cases more with
    | nil => exact readPairs_tail value rest h
    | cons c more =>
      have hc : c = ';' := by
        cases hmore with
        | cons _ _ => rfl
      subst hc
      rw [List.cons_append] at h
      obtain ⟨own, others, hown, hothers, hpairs⟩ := readPairs_tail value _ h
      obtain ⟨own', others', -, hothers', hpairs'⟩ := ih hothers rfl
      have hall : pairs = (own ++ own') ++ others' := by
        rw [hpairs, hpairs', List.append_assoc]
      exact ⟨_, others', List.append_ne_nil_of_left_ne_nil hown own', hothers', hall⟩

/-- What is left of a value in braces is no other number of fields than before. -/
theorem not_mem_of_dropWhile_back {field : Field} {value : List Char} {fields fields' : List Field}
    {pairs pairs' : List (List Char × List Char)} (hkey : IsKey field.1)
    (hvalue : Denotes field.2 value) (hfields : Spells fields pairs)
    (hfields' : Spells fields' pairs') (hlength : pairs'.length = pairs.length)
    (h : (field.text ++ back fields).dropWhile (fun c ↦ c ≠ ';') = back fields') :
    ';' ∉ field.2 := by
  intro hmem
  obtain ⟨before, behind, hraw, hbefore⟩ := List.eq_append_cons_of_mem hmem
  have hplain : ';' ∉ field.1 ++ '=' :: before := by
    rw [List.mem_append, List.mem_cons, not_or, not_or]
    exact ⟨hkey.2, by decide, hbefore⟩
  have htext : field.text ++ back fields =
      (field.1 ++ '=' :: before) ++ ';' :: (behind ++ back fields) := by
    rw [Field.text, hraw]
    simp only [List.append_assoc, List.cons_append]
  have hdebris := Debris.of_denotes hvalue Debris.nil
  rw [List.append_nil, hraw, dropWhile_append_of_endsField hbefore (.inr rfl)] at hdebris
  rw [htext, dropWhile_append_of_endsField hplain (.inr rfl)] at h
  by_cases hne' : fields' = []
  · rw [hne', back_nil] at h
    cases h
  · rw [back_of_ne_nil hne', List.cons.injEq] at h
    have hread := readPairs_render hfields' hne'
    rw [← h.2] at hread
    by_cases hne : fields = []
    · subst hne
      cases hfields
      rw [List.length_nil, ← hfields'.length_eq, List.length_eq_zero_iff] at hlength
      exact hne' hlength
    · rw [back_of_ne_nil hne] at hread
      obtain ⟨own, others, hown, hothers, rfl⟩ := readPairs_debris hdebris hread
      rw [readPairs_render hfields hne, Option.some.injEq] at hothers
      rw [← hothers, List.length_append, Nat.add_eq_right, List.length_eq_zero_iff] at hlength
      exact hown hlength

end OdbcString
