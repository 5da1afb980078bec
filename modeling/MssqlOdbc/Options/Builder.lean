import MssqlOdbc.Options.Url

/-!
# Flags that are set on options

`encrypt` and `trustCertificate` add a flag to a connection string unless its key is found there.
However often and in whatever order they are called, what they add are the flags that are asked for
and not found in the string at the outset (`toList_foldl_setFlag`): a flag that has been added is
found, and is no part of another one.

The string is read as it should be when each flag is found exactly where it is a key
(`flags_read_iff`).  It is not found in other letter case, and it is found inside values and at the
end of other keys.
-/

set_option autoImplicit false

namespace MssqlOdbc

open OdbcString

/-! ## Calls -/

/-- A call of one of the methods that set a flag. -/
inductive FlagCall where
  | encrypt (enable : Bool)
  | trustCertificate (enable : Bool)
deriving DecidableEq, Repr

namespace FlagCall

def apply (options : MssqlConnectOptions) : FlagCall → MssqlConnectOptions
  | encrypt enable => options.encrypt enable
  | trustCertificate enable => options.trustCertificate enable

/-- The flag that the call asks for. -/
def flag? : FlagCall → Option String
  | encrypt enable => if enable then some "Encrypt" else none
  | trustCertificate enable => if enable then some "TrustServerCertificate" else none

theorem mem_flagNames {call : FlagCall} {name : String} (h : call.flag? = some name) :
    name ∈ flagNames := by
  cases call with
  | encrypt enable | trustCertificate enable =>
    rw [flag?] at h
    split at h
    · cases h
      simp [flagNames]
    · cases h

theorem connStr_apply (options : MssqlConnectOptions) (call : FlagCall) :
    (call.apply options).connStr = call.flag?.elim options.connStr (setFlag · options.connStr) := by
  cases call with
  | encrypt enable => cases enable <;> rfl
  | trustCertificate enable => cases enable <;> rfl

end FlagCall

/-- The flags that the calls ask for, in the order of the first calls. -/
def requestedFlags (calls : List FlagCall) : List String :=
  (calls.filterMap FlagCall.flag?).eraseDups

theorem mem_flagNames_of_requested {calls : List FlagCall} {name : String}
    (h : name ∈ calls.filterMap FlagCall.flag?) : name ∈ flagNames := by
  obtain ⟨call, -, hflag⟩ := List.mem_filterMap.1 h
  exact FlagCall.mem_flagNames hflag

theorem connStr_foldl_apply (calls : List FlagCall) (options : MssqlConnectOptions) :
    (calls.foldl FlagCall.apply options).connStr =
      (calls.filterMap FlagCall.flag?).foldl (fun connStr name ↦ setFlag name connStr)
        options.connStr := by
  induction calls generalizing options with
  | nil => rfl
  | cons call calls ih =>
    rw [List.foldl_cons, ih, FlagCall.connStr_apply, List.filterMap_cons]
    cases call.flag? with
    | none => rfl
    | some name => rfl

/-! ## What is added -/

instance (name : String) (fields : List Field) : Decidable (FoundIn name fields) :=
  inferInstanceAs (Decidable (∃ field ∈ fields,
    name.toList <:+ field.1 ∨ (name ++ "=").toList <:+: field.2))

/-- The flags of these names that are not found in the fields. -/
def addedFlags (fields : List Field) (names : List String) : List String :=
  names.eraseDups.filter fun name ↦ ¬ FoundIn name fields

theorem addedFlags_known {fields : List Field} {names : List String}
    (h : ∀ name ∈ names, name ∈ flagNames) : ∀ flag ∈ addedFlags fields names, flag ∈ flagNames :=
  fun flag hflag ↦ h flag (List.mem_eraseDups.1 (List.mem_filter.1 hflag).1)

theorem eraseDups_concat {α : Type} [DecidableEq α] (entries : List α) (last : α) :
    (entries ++ [last]).eraseDups =
      if last ∈ entries then entries.eraseDups else entries.eraseDups ++ [last] := by
  rw [List.eraseDups_append, List.removeAll]
  split
  · rename_i hmem
    simp [hmem]
  · rename_i hmem
    simp [hmem, List.eraseDups_cons]

section Added

variable {fields : List Field} {names : List String} {name : String}

theorem addedFlags_concat : addedFlags fields (names ++ [name]) =
    if FoundIn name fields ∨ name ∈ names then addedFlags fields names
    else addedFlags fields names ++ [name] := by
  rw [addedFlags, eraseDups_concat]
  by_cases hmem : name ∈ names
  · rw [if_pos hmem, if_pos (Or.inr hmem), addedFlags]
  · rw [if_neg hmem, List.filter_append, addedFlags]
    by_cases hfound : FoundIn name fields
    · simp [hfound]
    · simp [hfound, hmem]

/-- A flag is found among the fields, or among the flags that have been added. -/
theorem contains_added_iff (hname : name ∈ flagNames) (hkeys : ∀ field ∈ fields, IsKey field.1)
    (hnames : ∀ name ∈ names, name ∈ flagNames) :
    contains (name ++ "=").toList (render (fields ++ (addedFlags fields names).map flagField)) ↔
      FoundIn name fields ∨ name ∈ names := by
  have hall : ∀ field ∈ fields ++ (addedFlags fields names).map flagField, IsKey field.1 := by
    intro field hfield
    obtain hfield | hfield := List.mem_append.1 hfield
    · exact hkeys field hfield
    · obtain ⟨flag, hflag, rfl⟩ := List.mem_map.1 hfield
      exact (flagName_facts flag (addedFlags_known hnames flag hflag)).1.1
  have hfound : contains (name ++ "=").toList
      (render (fields ++ (addedFlags fields names).map flagField)) ↔
        FoundIn name (fields ++ (addedFlags fields names).map flagField) := by
    rw [contains_iff, FoundIn, toList_flagKey]
    exact infix_render_iff (flagName_facts name hname).1.1 hall
  rw [hfound, foundIn_append, foundIn_flags hname (addedFlags_known hnames), addedFlags,
    List.mem_filter, List.mem_eraseDups, decide_eq_true_eq]
  tauto

/-- **What the calls add**, and in which order. -/
theorem toList_foldl_setFlag {connStr : String} (h : connStr.toList = render fields)
    (hne : fields ≠ []) (hkeys : ∀ field ∈ fields, IsKey field.1)
    (hnames : ∀ name ∈ names, name ∈ flagNames) :
    (names.foldl (fun connStr name ↦ setFlag name connStr) connStr).toList =
      render (fields ++ (addedFlags fields names).map flagField) := by
  induction names using List.reverseRecOn with
  | nil =>
    rw [List.foldl_nil, h]
    simp [addedFlags]
  | append_singleton names name ih =>
    have hbefore : ∀ name ∈ names, name ∈ flagNames :=
      fun other hother ↦ hnames other (List.mem_append_left _ hother)
    have hname : name ∈ flagNames :=
      hnames name (List.mem_append_right _ (List.mem_singleton.2 rfl))
    have hcontains := contains_added_iff hname hkeys hbefore
    rw [← ih hbefore] at hcontains
    have hsemicolon : ";".toList = [';'] := rfl
    have hyes : "=yes".toList = '=' :: "yes".toList := rfl
    rw [List.foldl_append, List.foldl_cons, List.foldl_nil, setFlag, addedFlags_concat]
    split
    · rename_i hfound
      rw [if_pos (hcontains.1 hfound)]
      exact ih hbefore
    · rename_i hfound
      have hfields : fields ++ (addedFlags fields names).map flagField ≠ [] :=
        List.append_ne_nil_of_left_ne_nil hne _
      rw [if_neg (fun hadded ↦ hfound (hcontains.2 hadded)), List.map_append, ← List.append_assoc,
        List.map_singleton, render_concat _ _ hfields]
      simp only [String.toList_append, ih hbefore, flagField, Field.text, hsemicolon, hyes,
        List.append_assoc, List.cons_append, List.nil_append]

end Added

/-! ## What is read back -/

/-- A key of the pairs is this name, in some letter case. -/
def HasKey (name : String) (pairs : List (String × String)) : Prop :=
  ∃ pair ∈ pairs, eqIgnoreAsciiCase pair.1 name = true

instance (name : String) (pairs : List (String × String)) : Decidable (HasKey name pairs) :=
  inferInstanceAs (Decidable (∃ pair ∈ pairs, eqIgnoreAsciiCase pair.1 name = true))

/-- The flag is found in the pairs: at the end of a key, or with the sign behind it in a value. -/
def Mentioned (name : String) (pairs : List (String × String)) : Prop :=
  ∃ pair ∈ pairs, name.toList <:+ pair.1.toList ∨ (name ++ "=").toList <:+: pair.2.toList

instance (name : String) (pairs : List (String × String)) : Decidable (Mentioned name pairs) :=
  inferInstanceAs (Decidable (∃ pair ∈ pairs,
    name.toList <:+ pair.1.toList ∨ (name ++ "=").toList <:+: pair.2.toList))

/-- The pairs with the flags that the calls ask for, unless a key is there already. -/
def withFlags (pairs : List (String × String)) (calls : List FlagCall) : List (String × String) :=
  pairs ++ ((requestedFlags calls).filter fun name ↦ ¬ HasKey name pairs).map
    fun name ↦ (name, "yes")

/-- The string is read as it should be when the calls have been made, and making one of them again
changes nothing. -/
def FlagsSet (options : MssqlConnectOptions) (pairs : List (String × String))
    (calls : List FlagCall) : Prop :=
  let final := calls.foldl FlagCall.apply options
  read final.connStr = some (withFlags pairs calls) ∧ ∀ call ∈ calls, call.apply final = final

theorem foundIn_iff_mentioned {name : String} (hname : name ∈ flagNames) {fields : List Field}
    {pairs : List (String × String)} (h : Spells fields (pairs.map charPair)) :
    FoundIn name fields ↔ Mentioned name pairs := by
  obtain ⟨⟨-, -, hopen, hclose⟩, -, -, -⟩ := flagName_facts name hname
  have hne : (name ++ "=").toList ≠ [] := by
    rw [toList_flagKey]
    exact List.append_ne_nil_of_right_ne_nil _ (List.cons_ne_nil _ _)
  rw [FoundIn, Mentioned]
  refine h.exists_iff fun field pair hkey hvalue ↦ ?_
  rw [hkey, infix_iff_of_denotes hne hopen hclose hvalue]

theorem filter_eq_filter_iff {α : Type} {p q : α → Bool} {entries : List α} :
    entries.filter p = entries.filter q ↔ ∀ x ∈ entries, p x = q x := by
  constructor
  · intro h x hx
    have hmem : x ∈ entries.filter p ↔ x ∈ entries.filter q := by rw [h]
    simp only [List.mem_filter, hx, true_and] at hmem
    exact Bool.eq_iff_iff.2 hmem
  · exact List.filter_congr

/-- Making a call again changes nothing: its flag is found. -/
theorem apply_foldl_of_mem {options : MssqlConnectOptions} {fields : List Field}
    (hfields : options.connStr.toList = render fields) (hne : fields ≠ [])
    (hkeys : ∀ field ∈ fields, IsKey field.1) {calls : List FlagCall} {call : FlagCall}
    (hcall : call ∈ calls) : call.apply (calls.foldl FlagCall.apply options) =
      calls.foldl FlagCall.apply options := by
  have hconnStr : (call.apply (calls.foldl FlagCall.apply options)).connStr =
      (calls.foldl FlagCall.apply options).connStr := by
    rw [FlagCall.connStr_apply]
    cases hflag : call.flag? with
    | none => rfl
    | some name =>
      have hmem : name ∈ calls.filterMap FlagCall.flag? := List.mem_filterMap.2 ⟨call, hcall, hflag⟩
      have hfound := (contains_added_iff (FlagCall.mem_flagNames hflag) hkeys
        fun _ ↦ mem_flagNames_of_requested).2 (Or.inr hmem)
      rw [← toList_foldl_setFlag hfields hne hkeys fun _ ↦ mem_flagNames_of_requested,
        ← connStr_foldl_apply] at hfound
      exact if_pos hfound
  cases hfinal : call.apply (calls.foldl FlagCall.apply options) with
  | mk connStr =>
    rw [hfinal] at hconnStr
    exact congrArg MssqlConnectOptions.mk hconnStr

/-- **When flags are set as they should be.**  Of the flags that are asked for, each has to be found
in the string exactly if it is the name of a key. -/
theorem flags_set_iff {options : MssqlConnectOptions} {pairs : List (String × String)}
    (h : read options.connStr = some pairs) (calls : List FlagCall) :
    FlagsSet options pairs calls ↔
      ∀ name ∈ requestedFlags calls, Mentioned name pairs ↔ HasKey name pairs := by
  obtain ⟨fields, hne, hfields, hspells⟩ := exists_fields (read_eq_some.1 h)
  have hkeys := hspells.isKey
  have hnames : ∀ name ∈ calls.filterMap FlagCall.flag?, name ∈ flagNames :=
    fun _ ↦ mem_flagNames_of_requested
  have hread : read (calls.foldl FlagCall.apply options).connStr = some (pairs ++
      (addedFlags fields (calls.filterMap FlagCall.flag?)).map fun name ↦ (name, "yes")) := by
    rw [read_eq_some, connStr_foldl_apply, toList_foldl_setFlag hfields hne hkeys hnames,
      List.map_append]
    exact readPairs_render (hspells.append (spells_flagFields (addedFlags_known hnames)))
      (List.append_ne_nil_of_left_ne_nil hne _)
  have hsame : FlagsSet options pairs calls ↔
      addedFlags fields (calls.filterMap FlagCall.flag?) =
        (requestedFlags calls).filter fun name ↦ ¬ HasKey name pairs := by
    have hinj : Function.Injective fun name : String ↦ (name, "yes") :=
      fun _ _ heq ↦ (Prod.mk.inj heq).1
    rw [FlagsSet, hread, withFlags, Option.some.injEq, List.append_cancel_left_eq,
      hinj.list_map.eq_iff]
    exact and_iff_left fun call ↦ apply_foldl_of_mem hfields hne hkeys
  rw [hsame, addedFlags, requestedFlags, filter_eq_filter_iff]
  refine forall₂_congr fun name hname ↦ ?_
  rw [decide_eq_decide, not_iff_not,
    foundIn_iff_mentioned (hnames name (List.mem_eraseDups.1 hname)) hspells]

/-- A data source, with nothing in its string but its name. -/
theorem dsn_read : read "DSN=Test" = some [("DSN", "Test")] := by decide +kernel

theorem dsn_flags_set : FlagsSet ⟨"DSN=Test"⟩ [("DSN", "Test")]
    [.encrypt true, .trustCertificate true, .encrypt true] :=
  have hread : read (MssqlConnectOptions.mk "DSN=Test").connStr = some [("DSN", "Test")] := dsn_read
  (flags_set_iff hread _).2 (by decide +kernel)

/-- A password in braces, with the key of a flag in it. -/
def keyInPassword : MssqlConnectOptions := ⟨"DSN=Test;PWD=\x7bEncrypt=\x7d"⟩

theorem keyInPassword_not_encrypted :
    read keyInPassword.connStr = some [("DSN", "Test"), ("PWD", "Encrypt=")] ∧
      [FlagCall.encrypt true].foldl FlagCall.apply keyInPassword = keyInPassword ∧
      ¬ FlagsSet keyInPassword [("DSN", "Test"), ("PWD", "Encrypt=")] [.encrypt true] := by
  have hread : read keyInPassword.connStr = some [("DSN", "Test"), ("PWD", "Encrypt=")] := by
    decide +kernel
  have hunchanged : [FlagCall.encrypt true].foldl FlagCall.apply keyInPassword = keyInPassword := by
    refine congrArg MssqlConnectOptions.mk (if_pos ?_)
    decide +kernel
  refine ⟨hread, hunchanged, fun hset ↦ ?_⟩
  have hflags := hset.1
  rw [hunchanged, hread, Option.some.injEq] at hflags
  exact absurd hflags (by decide +kernel)

end MssqlOdbc
