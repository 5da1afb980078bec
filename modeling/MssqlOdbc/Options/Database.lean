import MssqlOdbc.Options

/-!
# Replacing the database

`withDatabase` looks for `DATABASE=` in an upper-cased copy of the string, and puts the new database
at the same byte of the string itself, up to the next semicolon.

The string is read as it should be when what is found is the key of the first such pair
(`database_replaced_iff`).  It is also found inside values and at the end of other keys, the bytes
of the copy may be others than those of the string, and a value in braces may contain a semicolon.
-/

set_option autoImplicit false

namespace MssqlOdbc

open Quoting OdbcString

namespace MssqlConnectOptions

variable (upper : Char → List Char) (database : String) (options : MssqlConnectOptions)

/-- What is replaced is the text up to the next semicolon. -/
theorem withDatabase_eq : options.withDatabase upper database =
    match findByte "DATABASE=".toList (options.connStr.toList.flatMap upper) with
    | some start => (splitAtByte start options.connStr.toList).map fun (before, rest) ↦
      ⟨String.ofList before ++ "Database=" ++ escapeOdbcValue database ++
        String.ofList (rest.dropWhile fun c ↦ c ≠ ';')⟩
    | none => some ⟨options.connStr ++ ";Database=" ++ escapeOdbcValue database⟩ := by
  rw [withDatabase]
  cases findByte "DATABASE=".toList (options.connStr.toList.flatMap upper) with
  | none => rfl
  | some start =>
    dsimp only
    cases hsplit : splitAtByte start options.connStr.toList with
    | none => rfl
    | some slices =>
      obtain ⟨before, rest⟩ := slices
      obtain ⟨htext, hstart⟩ := splitAtByte_eq_some.1 hsplit
      have hlen : String.utf8Len options.connStr.toList = start + String.utf8Len rest := by
        rw [htext, utf8Len_append, hstart]
      have hstop : splitAtByte (start + String.utf8Len (rest.takeWhile fun c ↦ c ≠ ';'))
          options.connStr.toList = some (before ++ rest.takeWhile (fun c ↦ c ≠ ';'),
            rest.dropWhile fun c ↦ c ≠ ';') := by
        rw [splitAtByte_eq_some, List.append_assoc, List.takeWhile_append_dropWhile,
          utf8Len_append, hstart]
        exact ⟨htext, rfl⟩
      rw [hlen]
      simp only [Option.bind_eq_bind, Option.bind_some, findByte_char, hstop]
      rfl

end MssqlConnectOptions

/-! ## The key -/

/-- The key of the database, in some letter case. -/
def IsDatabase (key : List Char) : Prop := key.map Char.toLower = "database".toList

instance (key : List Char) : Decidable (IsDatabase key) :=
  inferInstanceAs (Decidable (key.map Char.toLower = "database".toList))

theorem eqIgnoreAsciiCase_database (key : String) :
    eqIgnoreAsciiCase key "Database" = true ↔ IsDatabase key.toList := by
  have hlower : "Database".toList.map Char.toLower = "database".toList := by decide
  rw [eqIgnoreAsciiCase, hlower, beq_iff_eq]
  rfl

/-- `char::to_uppercase` is the one of ASCII on the characters of ASCII. -/
def AsciiUpper (upper : Char → List Char) : Prop :=
  ∀ c : Char, c.toNat < 128 → upper c = [c.toUpper]

theorem ascii_of_toLower {c : Char} (h : c.toLower.toNat < 128) : c.toNat < 128 := by
  delta Char.toLower at h
  split at h
  · rename_i hupper
    have hle := UInt32.le_iff_toNat_le.1 hupper.2
    exact hle.trans_lt (by decide)
  · exact h

theorem toUpper_of_toLower {c : Char} (h : c.toNat < 128) : c.toUpper = c.toLower.toUpper := by
  have hall : ∀ n < 128, (Char.ofNat n).toUpper = (Char.ofNat n).toLower.toUpper := by
    decide +kernel
  have hc := hall c.toNat h
  rw [Char.ofNat_toNat] at hc
  exact hc

section Key

variable {upper : Char → List Char} (hupper : AsciiUpper upper)
include hupper

theorem flatMap_upper {key : List Char} (h : ∀ c ∈ key.map Char.toLower, c.toNat < 128) :
    key.flatMap upper = (key.map Char.toLower).map Char.toUpper := by
  induction key with
  | nil => rfl
  | cons c key ih =>
    rw [List.map_cons, List.forall_mem_cons] at h
    have hc := ascii_of_toLower h.1
    rw [List.flatMap_cons, ih h.2, hupper c hc, toUpper_of_toLower hc]
    rfl

/-- The key of the database is found in the upper-cased copy. -/
theorem findByte_of_key {key text : List Char} (hkey : IsDatabase key)
    (h : key ++ ['='] <:+: text) :
    ∃ start, findByte "DATABASE=".toList (text.flatMap upper) = some start := by
  have hascii : ∀ c ∈ (key ++ ['=']).map Char.toLower, c.toNat < 128 := by
    rw [List.map_append, hkey]
    exact List.forall_iff_forall_mem.1 (by decide)
  have hneedle : (key ++ ['=']).flatMap upper = "DATABASE=".toList := by
    rw [flatMap_upper hupper hascii, List.map_append, hkey]
    decide
  have hfound : contains "DATABASE=".toList (text.flatMap upper) = true := by
    obtain ⟨before, behind, rfl⟩ := h
    rw [contains_iff, List.flatMap_append, List.flatMap_append, hneedle]
    exact ⟨_, _, rfl⟩
  obtain ⟨i, hi⟩ := Option.isSome_iff_exists.1 hfound
  exact ⟨_, congrArg (Option.map _) hi⟩

end Key

/-! ## What is meant -/

/-- The pairs with another database: the first value under its key is replaced, or else a pair is
appended. -/
def replaceDatabase (database : String) : List (String × String) → List (String × String)
  | [] => [("Database", database)]
  | (key, value) :: pairs =>
    if eqIgnoreAsciiCase key "Database" then (key, database) :: pairs
    else (key, value) :: replaceDatabase database pairs

/-- The pairs are the same, up to the letter case in which the key of the database is written. -/
def SamePairs (pairs pairs' : List (String × String)) : Prop :=
  List.Forall₂ (fun pair pair' ↦ pair.2 = pair'.2 ∧
    (pair.1 = pair'.1 ∨ IsDatabase pair.1.toList ∧ IsDatabase pair'.1.toList)) pairs pairs'

theorem SamePairs.refl (pairs : List (String × String)) : SamePairs pairs pairs :=
  List.forall₂_same.2 fun _ _ ↦ ⟨rfl, Or.inl rfl⟩

/-- The string is changed, and is read as it should be. -/
def Replaces (upper : Char → List Char) (options : MssqlConnectOptions)
    (pairs : List (String × String)) (database : String) : Prop :=
  ∃ options', options.withDatabase upper database = some options' ∧
    ∃ pairs', read options'.connStr = some pairs' ∧
      SamePairs pairs' (replaceDatabase database pairs)

/-- The first pair with the key of the database begins at this byte of the text, and the text of
its value has no semicolon in it. -/
def DatabaseAt (text : List Char) (start : ℕ) : Prop :=
  ∃ (first : List Field) (key raw : List Char) (behind : List Field)
    (pairs : List (List Char × List Char)),
    text = render (first ++ (key, raw) :: behind) ∧
    Spells (first ++ (key, raw) :: behind) pairs ∧
    (∀ field ∈ first, ¬ IsDatabase field.1) ∧ IsDatabase key ∧ ';' ∉ raw ∧
    String.utf8Len (front first) = start

/-- Wherever the key is found in the upper-cased copy, there it is in the string. -/
def FoundInPlace (upper : Char → List Char) (options : MssqlConnectOptions) : Prop :=
  ∀ start, findByte "DATABASE=".toList (options.connStr.toList.flatMap upper) = some start →
    DatabaseAt options.connStr.toList start

/-- A name that needs no braces, and is not found in the string. -/
def Fresh (options : MssqlConnectOptions) (database : String) : Prop :=
  database.toList ≠ [] ∧ (∀ c ∈ [';', '\x7b', '\x7d', '='], c ∉ database.toList) ∧
    ¬ database.toList <:+: options.connStr.toList

theorem replaceDatabase_of_forall {database : String} {pairs : List (String × String)}
    (h : ∀ pair ∈ pairs, ¬ IsDatabase pair.1.toList) :
    replaceDatabase database pairs = pairs ++ [("Database", database)] := by
  induction pairs with
  | nil => rfl
  | cons pair pairs ih =>
    obtain ⟨hpair, hpairs⟩ := List.forall_mem_cons.1 h
    rw [← eqIgnoreAsciiCase_database] at hpair
    rw [replaceDatabase, if_neg hpair, ih hpairs, List.cons_append]

theorem replaceDatabase_append {database key value : String} {first behind : List (String × String)}
    (h : ∀ pair ∈ first, ¬ IsDatabase pair.1.toList) (hkey : IsDatabase key.toList) :
    replaceDatabase database (first ++ (key, value) :: behind) =
      first ++ (key, database) :: behind := by
  induction first with
  | nil =>
    rw [← eqIgnoreAsciiCase_database] at hkey
    rw [List.nil_append, replaceDatabase, if_pos hkey, List.nil_append]
  | cons pair first ih =>
    obtain ⟨hpair, hfirst⟩ := List.forall_mem_cons.1 h
    rw [← eqIgnoreAsciiCase_database] at hpair
    rw [List.cons_append, replaceDatabase, if_neg hpair, ih hfirst, List.cons_append]

/-- There is a first pair with the key, or there is none. -/
theorem database_cases (pairs : List (String × String)) :
    (∀ pair ∈ pairs, ¬ IsDatabase pair.1.toList) ∨
      ∃ first key value behind, pairs = first ++ (key, value) :: behind ∧
        (∀ pair ∈ first, ¬ IsDatabase pair.1.toList) ∧ IsDatabase key.toList := by
  induction pairs with
  | nil => exact Or.inl nofun
  | cons pair pairs ih =>
    by_cases hpair : IsDatabase pair.1.toList
    · exact Or.inr ⟨[], pair.1, pair.2, pairs, rfl, nofun, hpair⟩
    · obtain hnone | ⟨first, key, value, behind, rfl, hfirst, hkey⟩ := ih
      · exact Or.inl (List.forall_mem_cons.2 ⟨hpair, hnone⟩)
      · exact Or.inr ⟨pair :: first, key, value, behind, rfl,
          List.forall_mem_cons.2 ⟨hpair, hfirst⟩, hkey⟩

/-! ## Found in place -/

/-- A field among others spells one of the pairs, and the others spell the others. -/
theorem spells_append_cons {first behind : List Field} {field : Field}
    {pairs : List (String × String)}
    (h : Spells (first ++ field :: behind) (pairs.map charPair)) :
    ∃ before pair after, pairs = before ++ pair :: after ∧ Spells first (before.map charPair) ∧
      (IsKey field.1 ∧ field.1 = pair.1.toList ∧ Denotes field.2 pair.2.toList) ∧
      Spells behind (after.map charPair) := by
  obtain ⟨before', pair', after', heq, hfirst, hfield, hbehind⟩ := forall₂_append_cons h.flip
  obtain ⟨before, rest, rfl, rfl, hrest⟩ := List.map_eq_append_iff.1 heq
  obtain ⟨pair, after, rfl, rfl, rfl⟩ := List.map_eq_cons_iff.1 hrest
  exact ⟨before, pair, after, rfl, hfirst.flip, hfield, hbehind.flip⟩

theorem forall_not_isDatabase_iff {fields : List Field} {pairs : List (String × String)}
    (h : Spells fields (pairs.map charPair)) :
    (∀ field ∈ fields, ¬ IsDatabase field.1) ↔ ∀ pair ∈ pairs, ¬ IsDatabase pair.1.toList := by
  have hexists : (∃ field ∈ fields, IsDatabase field.1) ↔
      ∃ pair ∈ pairs, IsDatabase pair.1.toList :=
    h.exists_iff fun field pair hkey _ ↦ by rw [hkey]
  simpa only [not_exists, not_and] using not_congr hexists

theorem spells_database (database : String) {fields : List Field}
    {pairs : List (String × String)} (h : Spells fields (pairs.map charPair)) :
    Spells (("Database".toList, (escapeOdbcValue database).toList) :: fields)
      ((("Database", database) :: pairs).map charPair) := by
  have hkey : IsKey "Database".toList := by decide
  rw [List.map_cons, charPair]
  exact List.Forall₂.cons ⟨hkey, rfl, denotes_escapeOdbcValue database⟩ h

section Sufficient

variable {upper : Char → List Char} {options : MssqlConnectOptions}
  {pairs : List (String × String)}

/-- A database that is not found is appended. -/
theorem replaces_of_not_found (hupper : AsciiUpper upper) (h : read options.connStr = some pairs)
    (hfind : findByte "DATABASE=".toList (options.connStr.toList.flatMap upper) = none)
    (database : String) : Replaces upper options pairs database := by
  obtain ⟨fields, hne, htext, hspells⟩ := exists_fields (read_eq_some.1 h)
  have hnone : ∀ field ∈ fields, ¬ IsDatabase field.1 := by
    intro field hfield hkey
    have hin : field.1 ++ ['='] <:+: options.connStr.toList := by
      rw [htext]
      exact (infix_render_iff (hspells.isKey field hfield) hspells.isKey).2
        ⟨field, hfield, Or.inl List.suffix_rfl⟩
    obtain ⟨start, hstart⟩ := findByte_of_key hupper hkey hin
    rw [hfind] at hstart
    cases hstart
  have hnil : Spells [] (([] : List (String × String)).map charPair) := List.Forall₂.nil
  have hspells' := hspells.append (spells_database database hnil)
  have hkey : ";Database=".toList = ';' :: ("Database".toList ++ ['=']) := rfl
  refine ⟨⟨options.connStr ++ ";Database=" ++ escapeOdbcValue database⟩, ?_,
    pairs ++ [("Database", database)], ?_, ?_⟩
  · rw [MssqlConnectOptions.withDatabase_eq, hfind]
  · have hread := readPairs_render hspells' (List.append_ne_nil_of_left_ne_nil hne _)
    rw [render_concat _ _ hne, ← htext] at hread
    rw [read_eq_some, List.map_append, String.toList_append, String.toList_append, hkey,
      List.append_assoc, List.cons_append, List.append_assoc]
    exact hread
  · rw [replaceDatabase_of_forall ((forall_not_isDatabase_iff hspells).1 hnone)]
    exact SamePairs.refl _

/-- A database that is found where it is is replaced. -/
theorem replaces_of_databaseAt (h : read options.connStr = some pairs) {start : ℕ}
    (hfind : findByte "DATABASE=".toList (options.connStr.toList.flatMap upper) = some start)
    (hat : DatabaseAt options.connStr.toList start) (database : String) :
    Replaces upper options pairs database := by
  obtain ⟨first, key, raw, behind, pairs', htext, hspells, hfirst, hkey, hraw, hstart⟩ := hat
  have hne : first ++ (key, raw) :: behind ≠ [] :=
    List.append_ne_nil_of_right_ne_nil _ (List.cons_ne_nil _ _)
  have hpairs : pairs' = pairs.map charPair := by
    have hread := readPairs_render hspells hne
    rw [← htext, read_eq_some.1 h, Option.some.injEq] at hread
    exact hread.symm
  rw [hpairs] at hspells
  obtain ⟨before, ⟨name, value⟩, after, rfl, hbefore, ⟨hisKey, hname, -⟩, hafter⟩ :=
    spells_append_cons hspells
  have hname' : key = name.toList := hname
  have hsplit : splitAtByte start options.connStr.toList =
      some (front first, key ++ '=' :: raw ++ back behind) := by
    rw [splitAtByte_eq_some, htext, render_append_cons]
    exact ⟨rfl, hstart⟩
  have hdrop : (key ++ '=' :: raw ++ back behind).dropWhile (fun c ↦ c ≠ ';') = back behind := by
    have hplain : ';' ∉ key ++ '=' :: raw := by
      rw [List.mem_append, List.mem_cons, not_or, not_or]
      exact ⟨hisKey.2, by decide, hraw⟩
    exact dropWhile_append_of_endsField hplain (endsField_back behind)
  have hspells' : Spells (first ++ ("Database".toList, (escapeOdbcValue database).toList) :: behind)
      ((before ++ ("Database", database) :: after).map charPair) := by
    rw [List.map_append]
    exact hbefore.append (spells_database database hafter)
  have hequals : "Database=".toList = "Database".toList ++ ['='] := rfl
  refine ⟨⟨String.ofList (front first) ++ "Database=" ++ escapeOdbcValue database ++
    String.ofList (back behind)⟩, ?_, before ++ ("Database", database) :: after, ?_, ?_⟩
  · rw [MssqlConnectOptions.withDatabase_eq, hfind]
    dsimp only
    rw [hsplit, Option.map_some, hdrop]
  · have hread := readPairs_render hspells'
      (List.append_ne_nil_of_right_ne_nil _ (List.cons_ne_nil _ _))
    rw [render_append_cons, Field.text] at hread
    rw [read_eq_some]
    simp only [String.toList_append, String.toList_ofList, hequals, List.append_assoc,
      List.cons_append, List.nil_append] at hread ⊢
    exact hread
  · have hkey' : IsDatabase name.toList := hname' ▸ hkey
    rw [replaceDatabase_append ((forall_not_isDatabase_iff hbefore).1 hfirst) hkey']
    have hwritten : IsDatabase "Database".toList := by decide
    exact List.rel_append (SamePairs.refl before)
      (.cons ⟨rfl, Or.inr ⟨hwritten, hkey'⟩⟩ (SamePairs.refl after))

end Sufficient

/-! ## Found elsewhere -/

section Name

variable {name before after : List Char}

theorem infix_of_denotes {raw : List Char} (hplain : ∀ c ∈ [';', '\x7b', '\x7d', '='], c ∉ name)
    (hvalue : Denotes raw name) : '=' ∉ raw ∧ name <:+: raw := by
  have hequals : '=' ∉ name := hplain '=' (by decide)
  have hclose : '\x7d' ∉ name := hplain '\x7d' (by decide)
  obtain hbraced | ⟨hraw, -, -⟩ := denotes_cases hvalue
  · rw [hbraced, double_of_not_mem hclose]
    refine ⟨?_, ['\x7b'], ['\x7d'], rfl⟩
    simp [hequals]
  · rw [hraw]
    exact ⟨hequals, List.infix_rfl⟩

/-- The key of a value that contains the name is the key before the name, as the name is found
neither before that key nor behind itself. -/
theorem eq_of_value {key raw first : List Char} {fields : List Field} (hkey : ';' ∉ key)
    (hname : '=' ∉ name) (hraw : '=' ∉ raw ∧ name <:+: raw) (hbefore : ¬ name <:+: before)
    (hafter : ¬ name <:+: after)
    (h : before ++ key ++ '=' :: (name ++ after) = first ++ '=' :: (raw ++ back fields)) :
    before ++ key = first := by
  obtain ⟨more, hmore, hbehind⟩ | ⟨more, hmore, hbehind⟩ := List.append_eq_append_iff.1 h
  · cases more with
    | nil => rw [hmore, List.append_nil]
    | cons c more =>
      -- The value would stand behind the name.
      rw [List.cons_append, List.cons.injEq] at hbehind
      obtain ⟨others, -, hrest⟩ := exists_of_append_cons hname hbehind.2
      refine absurd (hraw.2.trans ?_) hafter
      rw [hrest]
      exact List.infix_append_of_infix_right
        (List.infix_cons (List.infix_append_of_infix_left List.infix_rfl))
  · cases more with
    | nil => rw [hmore, List.append_nil]
    | cons c more =>
      -- The value would stand before the key, and end there.
      rw [List.cons_append, List.cons.injEq] at hbehind
      obtain ⟨others, rfl, hrest⟩ := exists_of_append_cons hraw.1 hbehind.2
      obtain ⟨others', rfl⟩ := exists_of_back (by decide) hrest
      rw [← hbehind.1] at hmore
      have hends : before ++ key = (first ++ '=' :: raw) ++ ';' :: others' := by
        rw [hmore]
        simp only [List.append_assoc, List.cons_append]
      obtain ⟨tail, -, htail⟩ | ⟨tail, htail, -⟩ := List.append_eq_append_iff.1 hends
      · rw [htail] at hkey
        exact absurd (List.mem_append_right tail List.mem_cons_self) hkey
      · refine absurd (hraw.2.trans ?_) hbefore
        rw [htail]
        exact List.infix_append_of_infix_left
          (List.infix_append_of_infix_right (List.infix_cons List.infix_rfl))

/-- **Where a name stands.**  A name that is found nowhere else and is read as the value of a key
stands behind that key. -/
theorem eq_of_field {fields fields' : List Field} {field : Field} (hne : name ≠ [])
    (hplain : ∀ c ∈ [';', '\x7b', '\x7d', '='], c ∉ name) (hbefore : ¬ name <:+: before)
    (hafter : ¬ name <:+: after) (hkey : IsDatabase field.1) (hvalue : Denotes field.2 name)
    (h : before ++ "Database".toList ++ '=' :: (name ++ after) =
      front fields ++ (field.text ++ back fields')) :
    before = front fields ∧ after = back fields' := by
  have hshape : before ++ "Database".toList ++ '=' :: (name ++ after) =
      front fields ++ field.1 ++ '=' :: (field.2 ++ back fields') := by
    rw [h, Field.text]
    simp only [List.append_assoc, List.cons_append]
  have hkeys : before ++ "Database".toList = front fields ++ field.1 :=
    eq_of_value (by decide) (hplain '=' (by decide)) (infix_of_denotes hplain hvalue) hbefore hafter
      hshape
  have hlength : "Database".toList.length = field.1.length := by
    have hmap := congrArg List.length hkey
    rw [List.length_map] at hmap
    rw [hmap]
    decide
  obtain ⟨hfront, -⟩ := List.append_inj' hkeys hlength
  refine ⟨hfront, ?_⟩
  rw [hkeys, List.append_cancel_left_eq, List.cons.injEq] at hshape
  have hbehind := hshape.2
  obtain hbraced | ⟨hraw, -, -⟩ := denotes_cases hvalue
  · obtain ⟨c, rest, rfl⟩ := List.exists_cons_of_ne_nil hne
    rw [hbraced, List.cons_append, List.cons_append, List.cons_append, List.cons.injEq] at hbehind
    exact absurd (hbehind.1 ▸ List.mem_cons_self) (hplain '\x7b' (by decide))
  · rwa [hraw, List.append_cancel_left_eq] at hbehind

end Name

/-- The value is replaced, or there was none and the pair is the last one. -/
theorem replaceDatabase_cases (database : String) (pairs : List (String × String)) :
    ∃ first key behind, replaceDatabase database pairs = first ++ (key, database) :: behind ∧
      (∀ pair ∈ first, ¬ IsDatabase pair.1.toList) ∧ IsDatabase key.toList ∧
      (pairs = first ∨ ∃ value, pairs = first ++ (key, value) :: behind) := by
  obtain hnone | ⟨first, key, value, behind, rfl, hfirst, hkey⟩ := database_cases pairs
  · exact ⟨pairs, "Database", [], replaceDatabase_of_forall hnone, hnone, by decide, Or.inl rfl⟩
  · exact ⟨first, key, behind, replaceDatabase_append hfirst hkey, hfirst, hkey,
      Or.inr ⟨value, rfl⟩⟩

section Necessary

variable {upper : Char → List Char} {options : MssqlConnectOptions}
  {pairs : List (String × String)} {database : String}

theorem escapeOdbcValue_of_fresh (h : Fresh options database) :
    escapeOdbcValue database = database := by
  obtain ⟨-, hplain, -⟩ := h
  refine if_neg ?_
  rw [not_or, not_or, not_or]
  exact ⟨hplain _ (by decide), hplain _ (by decide), hplain _ (by decide), hplain _ (by decide)⟩

/-- The pair that is the same as the one of the database is spelled by a field. -/
theorem exists_field_of_same {text key : String} {pairs' first behind : List (String × String)}
    (hread : read text = some pairs')
    (hsame : SamePairs pairs' (first ++ (key, database) :: behind)) (hkey : IsDatabase key.toList) :
    ∃ (first' behind' : List (String × String)) (fields : List Field) (field : Field)
      (fields' : List Field), text.toList = render (fields ++ field :: fields') ∧
      Spells fields (first'.map charPair) ∧ IsDatabase field.1 ∧
      Denotes field.2 database.toList ∧ Spells fields' (behind'.map charPair) ∧
      first'.length = first.length ∧ behind'.length = behind.length := by
  obtain ⟨first', pair', behind', rfl, hsameFirst, ⟨hsameValue, hsameKey⟩, hsameBehind⟩ :=
    forall₂_append_cons hsame
  obtain ⟨fields, -, hrender, hspells⟩ := exists_fields (read_eq_some.1 hread)
  rw [List.map_append, List.map_cons] at hspells
  obtain ⟨fields, field, fields', rfl, hfields, ⟨-, hname, hvalue⟩, hfields'⟩ :=
    forall₂_append_cons hspells
  have hname' : field.1 = pair'.1.toList := hname
  have hpair' : pair'.2 = database := hsameValue
  have hkey' : IsDatabase field.1 := by
    rw [hname']
    obtain heq | ⟨hkey', -⟩ := hsameKey
    · rw [heq]
      exact hkey
    · exact hkey'
  have hvalue' : Denotes field.2 database.toList := by
    rw [← hpair']
    exact hvalue
  exact ⟨first', behind', fields, field, fields', hrender, hfields, hkey', hvalue', hfields',
    hsameFirst.length_eq, hsameBehind.length_eq⟩

/-- A name that was not there before is read as the database only where the database was. -/
theorem databaseAt_of_replaces (h : read options.connStr = some pairs) {start : ℕ}
    (hfind : findByte "DATABASE=".toList (options.connStr.toList.flatMap upper) = some start)
    (hfresh : Fresh options database) (hreplaces : Replaces upper options pairs database) :
    DatabaseAt options.connStr.toList start := by
  obtain ⟨options', hwith, pairs', hread, hsame⟩ := hreplaces
  rw [MssqlConnectOptions.withDatabase_eq, hfind] at hwith
  obtain ⟨⟨before, rest⟩, hsplit, rfl⟩ := Option.map_eq_some_iff.1 hwith
  obtain ⟨htext, hstart⟩ := splitAtByte_eq_some.1 hsplit
  obtain ⟨first, key, behind, hreplaced, hfirst, hkey, hpairs⟩ :=
    replaceDatabase_cases database pairs
  rw [SamePairs, hreplaced] at hsame
  obtain ⟨first', behind', fields, field, fields', hrender, hfields, hkey', hvalue', hfields',
    hsameFirst, hsameBehind⟩ := exists_field_of_same hread hsame hkey
  have hequals : "Database=".toList = "Database".toList ++ ['='] := rfl
  have hin : ∀ {part : List Char}, part <:+: options.connStr.toList →
      ¬ database.toList <:+: part :=
    fun hpart hfound ↦ hfresh.2.2 (hfound.trans hpart)
  have hbefore : before <:+: options.connStr.toList := by
    rw [htext]
    exact (List.prefix_append before rest).isInfix
  have hrest : rest <:+: options.connStr.toList := by
    rw [htext]
    exact (List.suffix_append before rest).isInfix
  have hafter : (rest.dropWhile fun c ↦ c ≠ ';') <:+: options.connStr.toList :=
    (List.dropWhile_suffix _).isInfix.trans hrest
  rw [render_append_cons] at hrender
  simp only [String.toList_append, String.toList_ofList, hequals, escapeOdbcValue_of_fresh hfresh,
    List.append_assoc, List.cons_append, List.nil_append] at hrender
  rw [← List.append_assoc] at hrender
  -- The fields around the new value are the text around the old one.
  obtain ⟨rfl, hback⟩ := eq_of_field hfresh.1 hfresh.2.1 (hin hbefore) (hin hafter) hkey' hvalue'
    hrender
  have hreadRest := read_eq_some.1 h
  rw [htext, readPairs_front hfields, Option.map_eq_some_iff] at hreadRest
  obtain ⟨own, hown, hall⟩ := hreadRest
  have hlengthFirst : (first'.map charPair).length = (first.map charPair).length := by
    rw [List.length_map, List.length_map, hsameFirst]
  obtain rfl | ⟨value, rfl⟩ := hpairs
  · -- The rest of the string would have no pairs in it.
    obtain ⟨-, rfl⟩ := List.append_inj (hall.trans (List.append_nil _).symm) hlengthFirst
    obtain ⟨pair, behind, -, ⟨-, hpairs⟩ | ⟨behind', others, -, -, hpairs⟩⟩ :=
      readPairs_eq_some hown
    · cases hpairs
    · cases hpairs
  · rw [List.map_append, List.map_cons] at hall
    obtain ⟨hsameAs, rfl⟩ := List.append_inj hall hlengthFirst
    obtain ⟨others, -, rfl, hothers⟩ := exists_fields hown
    obtain ⟨⟨name, raw⟩, others, ⟨hisKey, hnameKey, hraw⟩, hspellsOthers, rfl⟩ :=
      List.forall₂_cons_right_iff.1 hothers
    have hnameKey' : name = key.toList := hnameKey
    have hlengthBehind : (behind'.map charPair).length = (behind.map charPair).length := by
      rw [List.length_map, List.length_map, hsameBehind]
    rw [render_cons_back] at htext hback
    refine ⟨fields, name, raw, others, _, ?_, Spells.append hfields hothers, ?_, ?_, ?_, hstart⟩
    · rw [htext, render_append_cons]
    · rw [hsameAs] at hfields
      exact (forall_not_isDatabase_iff hfields).2 hfirst
    · rw [hnameKey']
      exact hkey
    · exact not_mem_of_dropWhile_back hisKey hraw hspellsOthers hfields' hlengthBehind hback

end Necessary

theorem exists_fresh (options : MssqlConnectOptions) : ∃ database, Fresh options database := by
  refine ⟨String.ofList (List.replicate (options.connStr.toList.length + 1) 'x'), ?_, ?_, ?_⟩
  · rw [String.toList_ofList]
    exact List.cons_ne_nil _ _
  · intro c hc hmem
    rw [String.toList_ofList] at hmem
    rw [List.eq_of_mem_replicate hmem] at hc
    exact absurd hc (by decide)
  · intro hfound
    have hlength := hfound.length_le
    rw [String.toList_ofList, List.length_replicate] at hlength
    omega

/-- **When the database is replaced.**  The key has to be found where it is, and its value must have
no semicolon in it; where it is found elsewhere, no name that was not there before is read back. -/
theorem database_replaced_iff {upper : Char → List Char} (hupper : AsciiUpper upper)
    {options : MssqlConnectOptions} {pairs : List (String × String)}
    (h : read options.connStr = some pairs) :
    ((∀ database, Replaces upper options pairs database) ↔ FoundInPlace upper options) ∧
      ∀ database, Fresh options database →
        (Replaces upper options pairs database ↔ FoundInPlace upper options) := by
  have hsufficient : FoundInPlace upper options →
      ∀ database, Replaces upper options pairs database := by
    intro hplace database
    cases hfind : findByte "DATABASE=".toList (options.connStr.toList.flatMap upper) with
    | none => exact replaces_of_not_found hupper h hfind database
    | some start => exact replaces_of_databaseAt h hfind (hplace start hfind) database
  have hnecessary : ∀ database, Fresh options database →
      Replaces upper options pairs database → FoundInPlace upper options := by
    intro database hfresh hreplaces start hfind
    exact databaseAt_of_replaces h hfind hfresh hreplaces
  refine ⟨⟨fun hall ↦ ?_, hsufficient⟩, fun database hfresh ↦ ⟨?_, ?_⟩⟩
  · obtain ⟨database, hfresh⟩ := exists_fresh options
    exact hnecessary database hfresh (hall database)
  · exact hnecessary database hfresh
  · exact fun hplace ↦ hsufficient hplace database

/-- `char::to_uppercase`, where there are only characters of ASCII. -/
def asciiUpper (c : Char) : List Char := [c.toUpper]

/-- The key of the database, in lower case. -/
def lowerCase : MssqlConnectOptions := ⟨"UID=sa;database=x"⟩

theorem lowerCase_replaced : FoundInPlace asciiUpper lowerCase ∧
    Replaces asciiUpper lowerCase [("UID", "sa"), ("database", "x")] "a;b" := by
  have hread : read lowerCase.connStr = some [("UID", "sa"), ("database", "x")] := by
    decide +kernel
  have hfound : findByte "DATABASE=".toList (lowerCase.connStr.toList.flatMap asciiUpper) =
      some 7 := by decide +kernel
  have hplace : FoundInPlace asciiUpper lowerCase := by
    intro start hstart
    cases hstart.symm.trans hfound
    refine ⟨[("UID".toList, "sa".toList)], "database".toList, "x".toList, [],
      [("UID".toList, "sa".toList), ("database".toList, "x".toList)], by decide +kernel, ?_, ?_,
      by decide, by decide, by decide +kernel⟩
    · exact .cons ⟨by decide, rfl, by decide⟩ (.cons ⟨by decide, rfl, by decide⟩ .nil)
    · exact List.forall_mem_singleton.2 (by decide)
  exact ⟨hplace, (database_replaced_iff (fun _ _ ↦ rfl) hread).1.2 hplace "a;b"⟩

/-- A password in braces, with the key of the database in it. -/
def databaseInPassword : MssqlConnectOptions := ⟨"PWD=\x7bDatabase=x\x7d;Database=y"⟩

theorem databaseInPassword_not_replaced :
    read databaseInPassword.connStr = some [("PWD", "Database=x"), ("Database", "y")] ∧
      ¬ Replaces asciiUpper databaseInPassword [("PWD", "Database=x"), ("Database", "y")]
        "master" := by
  have hconnStr : (databaseInPassword.withDatabase asciiUpper "master").map
      MssqlConnectOptions.connStr = some "PWD=\x7bDatabase=master;Database=y" := by decide +kernel
  have hnone : read "PWD=\x7bDatabase=master;Database=y" = none := by decide +kernel
  refine ⟨by decide +kernel, ?_⟩
  rintro ⟨options', hwith, pairs', hread, -⟩
  rw [hwith, Option.map_some, Option.some.injEq] at hconnStr
  rw [hconnStr, hnone] at hread
  cases hread

end MssqlOdbc
