import MssqlOdbc.Error
import MssqlOdbc.Lib.Unfinished
import MssqlOdbc.Options.Database
import MssqlOdbc.Options.Url

/-!
# The options of a text

`from_str` takes a text for a URL if it begins with `mssql:` and can be parsed as one, and for a
connection string otherwise.

In the string of a URL the database has its own component, which is always read back.  The driver
and the host stand in front of it as they are, so they can spell a database of their own, or keep
the component from being read (`databaseOf_url_iff`).
-/

set_option autoImplicit false

namespace MssqlOdbc

open Quoting OdbcString

/-! ## The database of a string -/

/-- The first value with the key of the database. -/
def databaseValue (pairs : List (List Char × List Char)) : Option (List Char) :=
  (pairs.find? fun pair ↦ decide (IsDatabase pair.1)).map Prod.snd

/-- The database that is read in a connection string. -/
def databaseOf (connStr : String) : Option String :=
  ((readPairs connStr.toList).bind databaseValue).map String.ofList

theorem databaseOf_eq_some {connStr name : String} : databaseOf connStr = some name ↔
    (readPairs connStr.toList).bind databaseValue = some name.toList := by
  rw [databaseOf, Option.map_eq_some_iff]
  constructor
  · rintro ⟨value, hvalue, rfl⟩
    rw [hvalue, String.toList_ofList]
  · intro h
    exact ⟨_, h, String.ofList_toList⟩

theorem databaseValue_cons {key : List Char} (h : IsDatabase key) (value : List Char)
    (pairs : List (List Char × List Char)) :
    databaseValue ((key, value) :: pairs) = some value := by
  have hfind : ((key, value) :: pairs).find? (fun pair ↦ decide (IsDatabase pair.1)) =
      some (key, value) := List.find?_cons_of_pos (decide_eq_true h)
  rw [databaseValue, hfind, Option.map_some]

theorem databaseValue_append (pairs pairs' : List (List Char × List Char)) :
    databaseValue (pairs ++ pairs') = (databaseValue pairs).or (databaseValue pairs') := by
  rw [databaseValue, List.find?_append, databaseValue, databaseValue]
  cases pairs.find? fun pair ↦ decide (IsDatabase pair.1) with
  | none => rfl
  | some pair => rfl

theorem databaseValue_eq_none_iff {pairs : List (List Char × List Char)} :
    databaseValue pairs = none ↔ ∀ pair ∈ pairs, ¬ IsDatabase pair.1 := by
  simp [databaseValue]

/-- Fields without the key spell pairs without it. -/
theorem databaseValue_of_spells {fields : List Field} {pairs : List (List Char × List Char)}
    (h : Spells fields pairs) (hkeys : ∀ field ∈ fields, ¬ IsDatabase field.1) :
    databaseValue pairs = none := by
  rw [databaseValue_eq_none_iff]
  induction h with
  | nil => exact nofun
  | cons hfield _ ih =>
    obtain ⟨hkey, hrest⟩ := List.forall_mem_cons.1 hkeys
    rw [hfield.2.1] at hkey
    exact List.forall_mem_cons.2 ⟨hkey, ih hrest⟩

/-! ## Reading the options -/

/-- The text without the legacy prefix. -/
def withoutOdbc (text : String) : String :=
  if "odbc:".toList <+: text.toList then String.ofList (text.toList.drop "odbc:".toList.length)
  else text

/-- The URL the text is taken for, if it is. -/
def urlOf (parse : String → Except String Url) (text : String) : Option Url :=
  if "mssql://".toList <+: text.toList ∨ "mssql:".toList <+: text.toList then
    match parse text with
    | .ok url => if eqIgnoreAsciiCase url.scheme "mssql" then some url else none
    | .error _ => none
  else none

/-- A raw connection string, or the name of a data source. -/
def rawConnectionString (text : String) : String :=
  if '=' ∈ text.toList then text else "DSN=" ++ text

/-- `from_str`, which accepts every text; `parse` is `Url::parse`, and says in words what is wrong
with a text that is not a URL. -/
def MssqlConnectOptions.fromStr (parse : String → Except String Url) (input : String) :
    Except Error MssqlConnectOptions :=
  let trimmed := withoutOdbc (trim input)
  match urlOf parse trimmed with
  | some url => .ok ⟨mssqlUrlToConnectionString url⟩
  | none => .ok ⟨rawConnectionString trimmed⟩

/-! ## What stands in front of the database -/

namespace Url

variable (url : Url)

/-- The text of the driver: each parameter replaces what stands before the first semicolon. -/
def driverText (pairs : List (String × String)) : List Char :=
  pairs.foldl (fun text pair ↦ if pair.1 = "driver" then
    pair.2.toList ++ text.dropWhile (fun c ↦ c ≠ ';') else text) defaultDriver.toList

/-- The text in front of the components: the driver and the server, as they are. -/
def frontText : List Char :=
  "Driver=".toList ++ (driverText url.queryPairs ++
    ';' :: Field.text ("Server".toList, url.server.toList))

/-- The text of the components. -/
def optionalFields : List Field :=
  optionalField "Database" url.database ++ optionalField "UID" url.username ++
    optionalField "PWD" url.passwordStr

/-- The flags that have been set. -/
def flagFields : List Field := (Progress.run url url.queryPairs).flags.map flagField

theorem driverText_concat (pairs : List (String × String)) (pair : String × String) :
    driverText (pairs ++ [pair]) = if pair.1 = "driver" then
      pair.2.toList ++ (driverText pairs).dropWhile (fun c ↦ c ≠ ';') else driverText pairs := by
  rw [driverText, List.foldl_append]
  rfl

theorem key_of_mem_optionalField {name value : String} {field : Field}
    (h : field ∈ optionalField name value) : field.1 = name.toList := by
  rw [optionalField] at h
  split at h
  · exact absurd h List.not_mem_nil
  · rw [List.mem_singleton.1 h]

end Url

/-- The driver and its debris are what the parameters make of it. -/
theorem Progress.run_driverText (url : Url) (pairs : List (String × String)) :
    EndsField (run url pairs).debris ∧
      (run url pairs).driver ++ (run url pairs).debris = Url.driverText pairs := by
  induction pairs using List.reverseRecOn with
  | nil => exact ⟨.inl rfl, List.append_nil _⟩
  | append_singleton pairs pair ih =>
    obtain ⟨hends, htext⟩ := ih
    rw [run_concat, Url.driverText_concat]
    rcases (run url pairs).step_cases url pair with ⟨flag, hflag, rfl, hstep⟩ | ⟨hdriver, hstep⟩ |
      ⟨hdriver, -, hstep⟩
    · rw [hstep, setFlag_driver, setFlag_debris, if_neg (key_ne_driver flag hflag)]
      exact ⟨hends, htext⟩
    · rw [hstep, if_pos hdriver, ← htext, dropWhile_append_endsField _ hends]
      exact ⟨endsField_replaceDriver pair.2 hends, rfl⟩
    · rw [hstep, if_neg hdriver]
      exact ⟨hends, htext⟩

namespace Url

variable (url : Url)

/-- Only the first component is the database. -/
theorem not_isDatabase_of_mem :
    ∀ field ∈ optionalField "UID" url.username ++ optionalField "PWD" url.passwordStr ++
      url.flagFields, ¬ IsDatabase field.1 := by
  have hnames : ∀ name ∈ flagNames, ¬ IsDatabase name.toList := by decide
  intro field hfield
  simp only [List.mem_append] at hfield
  rcases hfield with (hfield | hfield) | hfield
  · rw [key_of_mem_optionalField hfield]
    decide
  · rw [key_of_mem_optionalField hfield]
    decide
  · obtain ⟨name, hname, rfl⟩ := List.mem_map.1 hfield
    exact hnames name (Progress.run_flagsKnown url url.queryPairs name hname)

/-- The fields behind the text in front spell the database, and pairs with other keys. -/
theorem exists_spells_behind : ∃ pairs,
    Spells (url.optionalFields ++ url.flagFields)
      ((optional "Database" url.database).map charPair ++ pairs) ∧ databaseValue pairs = none := by
  have hdatabase := spells_optionalField "Database" (by decide) url.database
  have husername := spells_optionalField "UID" (by decide) url.username
  have hpassword := spells_optionalField "PWD" (by decide) url.passwordStr
  have hrest := (husername.append hpassword).append url.spells_flags
  refine ⟨_, ?_, databaseValue_of_spells hrest url.not_isDatabase_of_mem⟩
  have hall := hdatabase.append hrest
  rw [← List.append_assoc, ← List.append_assoc] at hall
  exact hall

variable {url}

/-- The string of a URL is the text in front and the fields behind it. -/
theorem toList_connStr (hscheme : eqIgnoreAsciiCase url.scheme "mssql") :
    (mssqlUrlToConnectionString url).toList =
      url.frontText ++ back (url.optionalFields ++ url.flagFields) := by
  have hfields : url.rawFields ++ (Progress.run url url.queryPairs).flags.map flagField =
      ("Server".toList, url.server.toList) :: (url.optionalFields ++ url.flagFields) := by
    rw [rawFields, flagFields, optionalFields, List.cons_append]
  obtain ⟨-, htext⟩ := Progress.run_driverText url url.queryPairs
  rw [toList_mssqlUrlToConnectionString hscheme, Progress.text_eq, Progress.behind, hfields,
    render_cons_back]
  unfold frontText
  rewrite [← htext]
  simp only [List.append_assoc, List.cons_append]

end Url

/-! ## Where the database is read -/

/-- A closing brace puts a value into braces. -/
theorem braced_of_mem {value : String} (h : '\x7d' ∈ (escapeOdbcValue value).toList) :
    ∃ v, (escapeOdbcValue value).toList = '\x7b' :: double '\x7d' v ++ ['\x7d'] := by
  rcases escapeOdbcValue_cases value with ⟨hplain, hbrace, -⟩ | hbraced
  · rw [hplain] at h
    have hbraces : escapeOdbcValue value =
        "\x7b" ++ replace '\x7d' "\x7d\x7d" value ++ "\x7d" := if_pos (.inr (.inr (.inl h)))
    rw [← hplain, hbraces, String.toList_append, String.toList_append] at hbrace
    exact absurd rfl hbrace
  · exact ⟨_, hbraced⟩

theorem tame_optionalField {name value : String} (hname : '\x7d' ∉ name.toList) :
    ∀ field ∈ optionalField name value, Tame field := by
  rw [optionalField]
  split
  · exact List.forall_mem_nil _
  · exact List.forall_mem_singleton.2 ⟨hname, braced_of_mem⟩

namespace Url

variable (url : Url)

theorem not_mem_flags {flags : List String} : ∀ field ∈ flags.map flagField, '\x7d' ∉ field.2 := by
  intro field hfield
  obtain ⟨name, -, rfl⟩ := List.mem_map.1 hfield
  exact (by decide : '\x7d' ∉ "yes".toList)

theorem tame_behind : ∀ field ∈ url.optionalFields ++ url.flagFields, Tame field := by
  intro field hfield
  simp only [optionalFields, List.mem_append] at hfield
  rcases hfield with ((hfield | hfield) | hfield) | hfield
  · exact tame_optionalField (by decide) field hfield
  · exact tame_optionalField (by decide) field hfield
  · exact tame_optionalField (by decide) field hfield
  · have hvalue := not_mem_flags field hfield
    have hkeys : ∀ name ∈ flagNames, '\x7d' ∉ name.toList := by decide
    obtain ⟨name, hname, rfl⟩ := List.mem_map.1 hfield
    have hknown := Progress.run_flagsKnown url url.queryPairs name hname
    exact ⟨hkeys name hknown, fun h ↦ absurd h hvalue⟩

/-- The pairs that are read in front of the components.  A value that goes on takes the place of
the components up to the first one in braces. -/
def frontPairs : Option (List (List Char × List Char)) :=
  match readFront url.frontText with
  | .broken => none
  | .complete pairs => some pairs
  | .opened pairs key raw =>
    (closing url.optionalFields).bind fun (closed, _) ↦
      (readValue (raw ++ closed)).map fun (value, _) ↦ pairs ++ [(key, value)]

/-- The database that the string opens has this name. -/
inductive Opens (name : String) : Prop
  /-- It is spelled by the driver or by the host. -/
  | front (pairs : List (List Char × List Char)) (hread : url.frontPairs = some pairs)
      (hname : databaseValue pairs = some name.toList)
  /-- The driver and the host spell no database, and all of what they spell is read. -/
  | path (pairs : List (List Char × List Char))
      (hread : readFront url.frontText = .complete pairs)
      (hnone : databaseValue pairs = none) (hname : url.database = name)

variable {url}

theorem databaseValue_optional {name : String} (hname : name ≠ "") :
    databaseValue ((optional "Database" url.database).map charPair) = some name.toList ↔
      url.database = name := by
  rw [optional]
  split
  · rename_i hempty
    rw [hempty]
    exact iff_of_false (Option.some_ne_none _).symm (Ne.symm hname)
  · have hkey : IsDatabase "Database".toList := by decide
    rw [List.map_singleton, charPair, databaseValue_cons hkey, Option.some.injEq]
    exact String.toList_inj

/-- Behind a value that takes the place of components there is no database. -/
theorem databaseValue_of_closing {closed : List Char} {behind : List Field}
    (h : closing url.optionalFields = some (closed, behind)) :
    ∃ pairs, Spells (behind ++ url.flagFields) pairs ∧ databaseValue pairs = none := by
  have htail : url.optionalFields.tail <:+
      optionalField "UID" url.username ++ optionalField "PWD" url.passwordStr := by
    rw [optionalFields, List.append_assoc, optionalField]
    split
    · exact List.tail_suffix _
    · exact List.suffix_rfl
  have hbehind := (suffix_of_closing h).trans htail
  obtain ⟨pairs, hspells, -⟩ := exists_spells_behind url
  have hsuffix : behind ++ url.flagFields <:+ url.optionalFields ++ url.flagFields := by
    obtain ⟨before, hbefore⟩ := (suffix_of_closing h).trans (List.tail_suffix _)
    exact ⟨before, by rw [← List.append_assoc, hbefore]⟩
  obtain ⟨pairs', hspells'⟩ := hspells.suffix hsuffix
  refine ⟨pairs', hspells', databaseValue_of_spells hspells' fun field hfield ↦ ?_⟩
  refine not_isDatabase_of_mem url field ?_
  rcases List.mem_append.1 hfield with hfield | hfield
  · exact List.mem_append_left _ (hbehind.subset hfield)
  · exact List.mem_append_right _ hfield

/-- A value that goes on is read as `frontPairs` says. -/
theorem databaseValue_of_opened {pairs : List (List Char × List Char)} {key raw : List Char}
    (h : readFront url.frontText = .opened pairs key raw) :
    (readPairs (url.frontText ++ back (url.optionalFields ++ url.flagFields))).bind databaseValue =
      url.frontPairs.bind databaseValue := by
  have hflags : closing (url.optionalFields ++ url.flagFields) =
      (closing url.optionalFields).map fun (text, behind) ↦ (text, behind ++ url.flagFields) :=
    closing_append not_mem_flags _
  rw [frontPairs, h]
  dsimp only
  cases hclosing : closing url.optionalFields with
  | none =>
    rw [hclosing, Option.map_none] at hflags
    rw [readPairs_of_not_closed h url.tame_behind hflags]
    rfl
  | some closed =>
    obtain ⟨closed, behind⟩ := closed
    rw [hclosing, Option.map_some] at hflags
    obtain ⟨others, hspells, hothers⟩ := databaseValue_of_closing hclosing
    obtain ⟨value, hvalue, hread⟩ := readPairs_of_opened h url.tame_behind hflags hspells
    have hvalue' : readValue (raw ++ closed) = some (value, []) := hvalue
    rw [hread, Option.bind_some, Option.bind_some, hvalue', Option.map_some, Option.bind_some,
      List.append_cons, databaseValue_append, hothers, Option.or_none]

/-- Where not all of the text in front is read, the path does not matter. -/
theorem opens_iff_of_not_complete {name : String}
    (h : ∀ pairs, readFront url.frontText ≠ .complete pairs) :
    url.Opens name ↔ url.frontPairs.bind databaseValue = some name.toList := by
  rw [Option.bind_eq_some_iff]
  constructor
  · intro hopens
    cases hopens with
    | front pairs hread hname => exact ⟨pairs, hread, hname⟩
    | path pairs hread => exact absurd hread (h pairs)
  · rintro ⟨pairs, hread, hname⟩
    exact .front pairs hread hname

theorem opens_iff_of_complete {name : String} {pairs : List (List Char × List Char)}
    (h : readFront url.frontText = .complete pairs) :
    url.Opens name ↔ databaseValue pairs = some name.toList ∨
      databaseValue pairs = none ∧ url.database = name := by
  have hpairs : url.frontPairs = some pairs := by rw [frontPairs, h]
  constructor
  · intro hopens
    cases hopens with
    | front pairs' hread hname =>
      cases hpairs.symm.trans hread
      exact .inl hname
    | path pairs' hread hnone hname =>
      cases h.symm.trans hread
      exact .inr ⟨hnone, hname⟩
  · rintro (hname | ⟨hnone, hname⟩)
    · exact .front pairs hpairs hname
    · exact .path pairs h hnone hname

/-- **The database that the string of a URL opens** is that of its path, unless what stands in front
of it is read otherwise. -/
theorem databaseOf_url_iff {name : String} (hname : name ≠ "")
    (hscheme : eqIgnoreAsciiCase url.scheme "mssql") :
    databaseOf (mssqlUrlToConnectionString url) = some name ↔ url.Opens name := by
  rw [databaseOf_eq_some, toList_connStr hscheme]
  cases hfront : readFront url.frontText with
  | broken =>
    rw [readPairs_of_broken hfront, opens_iff_of_not_complete (by rw [hfront]; exact nofun),
      frontPairs, hfront]
  | complete pairs =>
    obtain ⟨others, hspells, hothers⟩ := exists_spells_behind url
    rw [readPairs_of_complete hfront hspells, Option.bind_some, databaseValue_append,
      databaseValue_append, hothers, Option.or_none, Option.or_eq_some_iff,
      databaseValue_optional hname, opens_iff_of_complete hfront]
  | opened pairs key raw =>
    rw [databaseValue_of_opened hfront, opens_iff_of_not_complete (by rw [hfront]; exact nofun)]

/-- **A plain URL opens the database of its path**: the host is legible as it stands, no driver with
a semicolon is replaced, and the driver in force is the text of a value. -/
theorem opens_iff_of_plain {name : String} {driver : List Char}
    (hplain : ';' ∉ url.hostStr.toList ∧ url.hostStr.toList.head? ≠ some '\x7b')
    (hclean : ¬ Occurs Cut url.queryPairs)
    (hdriver : Denotes (driverAfter url.queryPairs).toList driver) :
    url.Opens name ↔ url.database = name := by
  obtain ⟨hserver, hsemicolon⟩ := url.server_plain_iff.2 hplain
  have hkeys : IsKey "Driver".toList ∧ IsKey "Server".toList := by decide
  have hspells : Spells [("Driver".toList, (driverAfter url.queryPairs).toList),
      ("Server".toList, url.server.toList)]
      [("Driver".toList, driver), ("Server".toList, url.server.toList)] :=
    .cons ⟨hkeys.1, rfl, hdriver⟩ (.cons ⟨hkeys.2, rfl, denotes_plain hserver hsemicolon⟩ .nil)
  have hfront : url.frontText = render [("Driver".toList, (driverAfter url.queryPairs).toList),
      ("Server".toList, url.server.toList)] := by
    obtain ⟨-, htext⟩ := Progress.run_driverText url url.queryPairs
    rw [(Progress.run_debris_eq_nil url url.queryPairs).2 hclean, List.append_nil,
      Progress.run_driver] at htext
    have hequals : "Driver=".toList = "Driver".toList ++ ['='] := by decide
    unfold frontText
    rewrite [← htext, hequals, render_cons _ (List.cons_ne_nil _ _), Field.text]
    simp only [List.append_assoc, List.cons_append, List.nil_append]
    rfl
  have hread := readFront_render hspells (List.cons_ne_nil _ _)
  rw [← hfront] at hread
  have hnone : databaseValue [("Driver".toList, driver), ("Server".toList, url.server.toList)] =
      none := by
    have hother : ¬ IsDatabase "Driver".toList ∧ ¬ IsDatabase "Server".toList := by decide
    rw [databaseValue_eq_none_iff, List.forall_mem_cons, List.forall_mem_singleton]
    exact hother
  rw [opens_iff_of_complete hread, hnone, and_iff_right rfl]
  exact or_iff_right (Option.some_ne_none _).symm

end Url

/-! ## The database of a text -/

/-- The name of a data source opens no database. -/
theorem databaseOf_dsn {text : String} (h : '=' ∉ text.toList) :
    databaseOf ("DSN=" ++ text) = none := by
  have hkey : IsKey "DSN".toList := by decide
  have htext : ("DSN=" ++ text).toList = "DSN".toList ++ '=' :: text.toList := String.toList_append
  rw [databaseOf, htext, Option.map_eq_none_iff, Option.bind_eq_none_iff]
  intro pairs hread
  obtain ⟨pair, rest, hpair, hrest⟩ := readPairs_eq_some hread
  rw [readPair_key hkey, Option.map_eq_some_iff] at hpair
  obtain ⟨⟨value, rest'⟩, hvalue, heq⟩ := hpair
  cases heq
  obtain ⟨raw, hraw, -⟩ := exists_raw hvalue
  rcases hrest with ⟨-, rfl⟩ | ⟨behind, pairs', rfl, hbehind, -⟩
  · have hother : ¬ IsDatabase "DSN".toList := by decide
    exact databaseValue_eq_none_iff.2 (List.forall_mem_singleton.2 hother)
  · -- Another pair would need another sign.
    obtain ⟨pair', _, hpair', -⟩ := readPairs_eq_some hbehind
    obtain ⟨text', rfl, -⟩ := readPair_eq_some hpair'
    refine absurd ?_ h
    rw [hraw]
    simp

/-- When the database that a text opens has this name: the text is taken for a URL that opens it, or
is a connection string that does. -/
def OpensDatabase (parse : String → Except String Url) (input name : String) : Prop :=
  match urlOf parse (withoutOdbc (trim input)) with
  | some url => url.Opens name
  | none => '=' ∈ (withoutOdbc (trim input)).toList ∧
      databaseOf (withoutOdbc (trim input)) = some name

theorem urlOf_scheme {parse : String → Except String Url} {text : String} {url : Url}
    (h : urlOf parse text = some url) :
    parse text = .ok url ∧ eqIgnoreAsciiCase url.scheme "mssql" = true := by
  rw [urlOf] at h
  split at h
  · split at h
    · rename_i url' hparse
      split at h
      · rename_i hscheme
        cases h
        exact ⟨hparse, hscheme⟩
      · cases h
    · cases h
  · cases h

theorem fromStr_of_url {parse : String → Except String Url} {input : String} {url : Url}
    (h : urlOf parse (withoutOdbc (trim input)) = some url) :
    MssqlConnectOptions.fromStr parse input = .ok ⟨mssqlUrlToConnectionString url⟩ := by
  unfold MssqlConnectOptions.fromStr
  dsimp only
  rw [h]

theorem fromStr_of_none {parse : String → Except String Url} {input : String}
    (h : urlOf parse (withoutOdbc (trim input)) = none) :
    MssqlConnectOptions.fromStr parse input =
      .ok ⟨rawConnectionString (withoutOdbc (trim input))⟩ := by
  unfold MssqlConnectOptions.fromStr
  dsimp only
  rw [h]

/-- **The database that a text opens.** -/
theorem databaseOf_fromStr_iff {parse : String → Except String Url} {input name : String}
    {options : MssqlConnectOptions} (h : MssqlConnectOptions.fromStr parse input = .ok options)
    (hname : name ≠ "") :
    databaseOf options.connStr = some name ↔ OpensDatabase parse input name := by
  unfold OpensDatabase
  cases hurl : urlOf parse (withoutOdbc (trim input)) with
  | some url =>
    rw [← Except.ok.inj ((fromStr_of_url hurl).symm.trans h)]
    exact Url.databaseOf_url_iff hname (urlOf_scheme hurl).2
  | none =>
    rw [← Except.ok.inj ((fromStr_of_none hurl).symm.trans h)]
    dsimp only
    unfold rawConnectionString
    split
    · rename_i hequals
      rw [and_iff_right hequals]
    · rename_i hequals
      rw [databaseOf_dsn hequals]
      exact iff_of_false nofun fun h ↦ hequals h.1

end MssqlOdbc
