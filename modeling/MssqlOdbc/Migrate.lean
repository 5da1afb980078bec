import MssqlOdbc.Lib.Tsql
import MssqlOdbc.Connection.Actor

/-!
# The statements of the migrator

The tracking table of the migrations is read and written by statements that are put together as
text: names go into brackets, texts into string literals, checksums into binary literals.

`statements_lex` reads those of the tracking table back: whatever the names and the texts contain,
the tokens are those of the template, with the given values in their places.
-/

set_option autoImplicit false

namespace MssqlOdbc

open Quoting Tsql

/-! ## Building the statements -/

def escapeSqlBracket (value : String) : String := replace ']' "]]" value

def escapeSqlString (value : String) : String := replace '\'' "''" value

def formatHex (bytes : List UInt8) : String := String.ofList ('0' :: 'x' :: bytes.flatMap upperHex)

def splitTableName (tableName : String) : String × String :=
  match splitOnce '.' tableName.toList with
  | some (schema, table) => (String.ofList schema, String.ofList table)
  | none => ("", tableName)

def quotedTableName (tableName : String) : String :=
  let (schema, table) := splitTableName tableName
  if schema = "" then "[" ++ escapeSqlBracket table ++ "]"
  else "[" ++ escapeSqlBracket schema ++ "].[" ++ escapeSqlBracket table ++ "]"

/-- A migration as the migrator hands it over; the type is its debug text. -/
structure Migration where
  version : IntType.i64.Value
  description : String
  migrationType : String
  sql : String
  checksum : List UInt8
  noTx : Bool

variable {A : Type}

def createSchemaSql (schemaName : String) : String :=
  "IF NOT EXISTS (SELECT * FROM sys.schemas WHERE name = N'" ++ escapeSqlString schemaName ++
    "') EXEC('CREATE SCHEMA [" ++ escapeSqlBracket schemaName ++ "]')"

def createSchemaIfNotExists (schemaName : String) : Command A :=
  .execSql (createSchemaSql schemaName)

def schemaCondition (schema : String) : String :=
  if schema = "" then "TABLE_SCHEMA = 'dbo'"
  else "TABLE_SCHEMA = N'" ++ escapeSqlString schema ++ "'"

def trackingColumns : String :=
  "version    BIGINT         NOT NULL PRIMARY KEY, " ++
  "description NVARCHAR(MAX) NOT NULL, " ++
  "migration_type NVARCHAR(20)  NOT NULL, " ++
  "sql        NVARCHAR(MAX) NOT NULL, " ++
  "checksum   VARBINARY(8000)  NOT NULL, " ++
  "executed_at DATETIME2     NOT NULL DEFAULT GETUTCDATE(), " ++
  "no_tx      BIT            NOT NULL DEFAULT 0 )"

def createSql (tableName : String) : String :=
  let (schema, table) := splitTableName tableName
  "IF NOT EXISTS ( SELECT * FROM INFORMATION_SCHEMA.TABLES WHERE TABLE_NAME = N'" ++
    escapeSqlString table ++ "' AND " ++ schemaCondition schema ++ " ) CREATE TABLE " ++
    quotedTableName tableName ++ " ( " ++ trackingColumns

def ensureMigrationsTable (tableName : String) : Command A := .execSql (createSql tableName)

def selectSql (tableName : String) : String :=
  "SELECT version, checksum FROM " ++ quotedTableName tableName ++ " ORDER BY version"

def listAppliedMigrations (tableName : String) : Command A :=
  .listMigrations (selectSql tableName)

/-- The statement that records a migration; it is skipped with an empty text. -/
def insertSql (tableName : String) (migration : Migration) (sqlText : String) : String :=
  "INSERT INTO " ++ quotedTableName tableName ++
    " (version, description, migration_type, sql, checksum, no_tx) VALUES (" ++
    toString migration.version.val ++ ", N'" ++ escapeSqlString migration.description ++ "', N'" ++
    escapeSqlString migration.migrationType ++ "', N'" ++ sqlText ++ "', " ++
    formatHex migration.checksum ++ ", " ++ (if migration.noTx then "1" else "0") ++ ")"

def apply (tableName : String) (migration : Migration) : Command A :=
  .applyMigration migration.sql
    (insertSql tableName migration (escapeSqlString migration.sql)) migration.version.val
    migration.noTx

def deleteSql (tableName : String) (version : ℤ) : String :=
  "DELETE FROM " ++ quotedTableName tableName ++ " WHERE version = " ++ toString version

def revert (tableName : String) (migration : Migration) : Command A :=
  .revertMigration migration.sql (deleteSql tableName migration.version.val)
    migration.version.val migration.noTx

def skip (tableName : String) (migration : Migration) : Command A :=
  .execSql (insertSql tableName migration "")

/-! ## What the server reads -/

theorem toList_escapeSqlBracket (value : String) :
    (escapeSqlBracket value).toList = double ']' value.toList :=
  replace_eq_double ']' "]]" rfl value

theorem toList_escapeSqlString (value : String) :
    (escapeSqlString value).toList = double '\'' value.toList :=
  replace_eq_double '\'' "''" rfl value

/-- An escaped text fills its literal. -/
theorem reads_escapeSqlString (value : String) :
    Reads (.inside .national []) (escapeSqlString value).toList (.inside .national value.toList)
      [] := by
  rw [toList_escapeSqlString]
  exact reads_double .national value.toList []

theorem reads_escapeSqlBracket (value : String) :
    Reads (.inside .bracket []) (escapeSqlBracket value).toList (.inside .bracket value.toList)
      [] := by
  rw [toList_escapeSqlBracket]
  exact reads_double .bracket value.toList []

/-- The parts of a name: those before and behind its first dot. -/
def NameParts (tableName schema table : String) : Prop :=
  (tableName = schema ++ "." ++ table ∧ '.' ∉ schema.toList) ∨
    (schema = "" ∧ table = tableName ∧ '.' ∉ tableName.toList)

theorem splitTableName_parts (tableName : String) :
    NameParts tableName (splitTableName tableName).1 (splitTableName tableName).2 := by
  rw [splitTableName]
  cases hsplit : splitOnce '.' tableName.toList with
  | none => exact .inr ⟨rfl, rfl, splitOnce_eq_none.1 hsplit⟩
  | some parts =>
    obtain ⟨schema, table⟩ := parts
    obtain ⟨htext, hnot⟩ := splitOnce_eq_some hsplit
    refine .inl ⟨?_, by rwa [String.toList_ofList]⟩
    apply String.toList_injective
    simp only [String.toList_append, String.toList_ofList, htext, List.append_assoc]
    rfl

/-! ### The tracking table -/

def schemaTokens (schema : String) : List Token :=
  if schema = "" then [] else [.delimited .bracket schema, .symbol '.']

/-- `[schema].[table]`, or the table alone. -/
def nameTokens (schema table : String) : List Token :=
  schemaTokens schema ++ [.delimited .bracket table]

def columnTokens : List Token :=
  [.word "version", .word "BIGINT", .word "NOT", .word "NULL", .word "PRIMARY", .word "KEY",
    .symbol ',',
    .word "description", .word "NVARCHAR", .symbol '(', .word "MAX", .symbol ')', .word "NOT",
    .word "NULL", .symbol ',',
    .word "migration_type", .word "NVARCHAR", .symbol '(', .number 20, .symbol ')', .word "NOT",
    .word "NULL", .symbol ',',
    .word "sql", .word "NVARCHAR", .symbol '(', .word "MAX", .symbol ')', .word "NOT",
    .word "NULL", .symbol ',',
    .word "checksum", .word "VARBINARY", .symbol '(', .number 8000, .symbol ')', .word "NOT",
    .word "NULL", .symbol ',',
    .word "executed_at", .word "DATETIME2", .word "NOT", .word "NULL", .word "DEFAULT",
    .word "GETUTCDATE", .symbol '(', .symbol ')', .symbol ',',
    .word "no_tx", .word "BIT", .word "NOT", .word "NULL", .word "DEFAULT", .number 0,
    .symbol ')']

def createTokens (schema table : String) : List Token :=
  [.word "IF", .word "NOT", .word "EXISTS", .symbol '(', .word "SELECT", .symbol '*',
    .word "FROM", .word "INFORMATION_SCHEMA", .symbol '.', .word "TABLES", .word "WHERE",
    .word "TABLE_NAME", .symbol '=', .delimited .national table, .word "AND",
    .word "TABLE_SCHEMA", .symbol '=',
    if schema = "" then .delimited .quote "dbo" else .delimited .national schema, .symbol ')',
    .word "CREATE", .word "TABLE"] ++ nameTokens schema table ++ .symbol '(' :: columnTokens

def selectTokens (schema table : String) : List Token :=
  [.word "SELECT", .word "version", .symbol ',', .word "checksum", .word "FROM"] ++
    nameTokens schema table ++ [.word "ORDER", .word "BY", .word "version"]

def insertTokens (schema table : String) (migration : Migration) (sqlText : String) :
    List Token :=
  [.word "INSERT", .word "INTO"] ++ nameTokens schema table ++
  [.symbol '(', .word "version", .symbol ',', .word "description", .symbol ',',
    .word "migration_type", .symbol ',', .word "sql", .symbol ',', .word "checksum", .symbol ',',
    .word "no_tx", .symbol ')', .word "VALUES", .symbol '('] ++
  intTokens migration.version.val ++
  [.symbol ',', .delimited .national migration.description, .symbol ',',
    .delimited .national migration.migrationType, .symbol ',', .delimited .national sqlText,
    .symbol ',', .binary migration.checksum, .symbol ',',
    .number (if migration.noTx then 1 else 0), .symbol ')']

def deleteTokens (schema table : String) (version : ℤ) : List Token :=
  [.word "DELETE", .word "FROM"] ++ nameTokens schema table ++
    [.word "WHERE", .word "version", .symbol '='] ++ intTokens version

section Statements

variable {tableName schema table : String} {version : ℤ}

theorem reads_quotedTableName (hsplit : splitTableName tableName = (schema, table)) :
    Reads .start (quotedTableName tableName).toList (.closing .bracket table.toList)
      (schemaTokens schema) := by
  have hopen : Reads .start "[".toList (.inside .bracket []) [] := rfl
  have hclose : Reads (.inside .bracket table.toList) "]".toList (.closing .bracket table.toList)
    [] := rfl
  rw [quotedTableName, hsplit]
  dsimp only
  rw [schemaTokens]
  by_cases hschema : schema = ""
  · rw [if_pos hschema, if_pos hschema]
    simp only [String.toList_append]
    exact (hopen.append (reads_escapeSqlBracket table)).append hclose
  · have hdot : Reads (.inside .bracket schema.toList) "].[".toList (.inside .bracket [])
        [.delimited .bracket (String.ofList schema.toList), .symbol '.'] := rfl
    rw [String.ofList_toList] at hdot
    rw [if_neg hschema, if_neg hschema]
    simp only [String.toList_append]
    exact (((hopen.append (reads_escapeSqlBracket schema)).append hdot).append
      (reads_escapeSqlBracket table)).append hclose

theorem reads_schemaCondition (schema : String) :
    ∃ d text, Reads .start (schemaCondition schema).toList (.closing d text)
        [.word "TABLE_SCHEMA", .symbol '='] ∧
      d.close = '\'' ∧ Token.delimited d (String.ofList text) =
        if schema = "" then .delimited .quote "dbo" else .delimited .national schema := by
  rw [schemaCondition]
  by_cases hschema : schema = ""
  · have h : Reads .start "TABLE_SCHEMA = 'dbo'".toList (.closing .quote ['d', 'b', 'o'])
      [.word "TABLE_SCHEMA", .symbol '='] := by decide
    rw [if_pos hschema, if_pos hschema]
    exact ⟨.quote, _, h, rfl, rfl⟩
  · have hhead : Reads .start "TABLE_SCHEMA = N'".toList (.inside .national [])
      [.word "TABLE_SCHEMA", .symbol '='] := by decide
    have hclose : Reads (.inside .national schema.toList) "'".toList
      (.closing .national schema.toList) [] := rfl
    have h := (hhead.append (reads_escapeSqlString schema)).append hclose
    rw [if_neg hschema, if_neg hschema]
    simp only [← String.toList_append] at h
    exact ⟨.national, _, h, rfl, by rw [String.ofList_toList]⟩

theorem lex_selectSql (hsplit : splitTableName tableName = (schema, table)) :
    lex (selectSql tableName) = selectTokens schema table := by
  have hhead : Reads .start "SELECT version, checksum FROM ".toList .start
    [.word "SELECT", .word "version", .symbol ',', .word "checksum", .word "FROM"] := by decide
  have htail : Reads (.closing .bracket table.toList) " ORDER BY version".toList
    (.word "version".toList)
    [.delimited .bracket (String.ofList table.toList), .word "ORDER", .word "BY"] := rfl
  have h := (hhead.append (reads_quotedTableName hsplit)).append htail
  rw [← String.toList_append, ← String.toList_append] at h
  refine h.lex.trans ?_
  rw [String.ofList_toList, selectTokens, nameTokens]
  simp [finish]

theorem lex_deleteSql (hsplit : splitTableName tableName = (schema, table)) :
    lex (deleteSql tableName version) = deleteTokens schema table version := by
  have hhead : Reads .start "DELETE FROM ".toList .start [.word "DELETE", .word "FROM"] := by
    decide
  have hwhere : Reads (.closing .bracket table.toList) " WHERE version = ".toList .start
    [.delimited .bracket (String.ofList table.toList), .word "WHERE", .word "version",
      .symbol '='] := rfl
  have h := ((hhead.append (reads_quotedTableName hsplit)).append hwhere).append
    (reads_int version)
  rw [← String.toList_append, ← String.toList_append, ← String.toList_append] at h
  refine h.lex.trans ?_
  rw [String.ofList_toList, deleteTokens, nameTokens, intTokens, finish,
    Nat.ofDigitChars_ten_toDigits]
  simp

theorem reads_trackingColumns : Reads .start trackingColumns.toList .start columnTokens := by
  have hversion : Reads .start "version    BIGINT         NOT NULL PRIMARY KEY, ".toList .start
    [.word "version", .word "BIGINT", .word "NOT", .word "NULL", .word "PRIMARY", .word "KEY",
      .symbol ','] := by decide +kernel
  have hdescription : Reads .start "description NVARCHAR(MAX) NOT NULL, ".toList .start
    [.word "description", .word "NVARCHAR", .symbol '(', .word "MAX", .symbol ')', .word "NOT",
      .word "NULL", .symbol ','] := by decide +kernel
  have htype : Reads .start "migration_type NVARCHAR(20)  NOT NULL, ".toList .start
    [.word "migration_type", .word "NVARCHAR", .symbol '(', .number 20, .symbol ')', .word "NOT",
      .word "NULL", .symbol ','] := by decide +kernel
  have hsql : Reads .start "sql        NVARCHAR(MAX) NOT NULL, ".toList .start
    [.word "sql", .word "NVARCHAR", .symbol '(', .word "MAX", .symbol ')', .word "NOT",
      .word "NULL", .symbol ','] := by decide +kernel
  have hchecksum : Reads .start "checksum   VARBINARY(8000)  NOT NULL, ".toList .start
    [.word "checksum", .word "VARBINARY", .symbol '(', .number 8000, .symbol ')', .word "NOT",
      .word "NULL", .symbol ','] := by decide +kernel
  have hexecuted : Reads .start
    "executed_at DATETIME2     NOT NULL DEFAULT GETUTCDATE(), ".toList .start
    [.word "executed_at", .word "DATETIME2", .word "NOT", .word "NULL", .word "DEFAULT",
      .word "GETUTCDATE", .symbol '(', .symbol ')', .symbol ','] := by decide +kernel
  have hnoTx : Reads .start "no_tx      BIT            NOT NULL DEFAULT 0 )".toList .start
    [.word "no_tx", .word "BIT", .word "NOT", .word "NULL", .word "DEFAULT", .number 0,
      .symbol ')'] := by decide +kernel
  have h := (((((hversion.append hdescription).append htype).append hsql).append hchecksum).append
    hexecuted).append hnoTx
  simp only [← String.toList_append] at h
  exact h

theorem lex_createSql (hsplit : splitTableName tableName = (schema, table)) :
    lex (createSql tableName) = createTokens schema table := by
  obtain ⟨d, text, hcondition, hclose, htoken⟩ := reads_schemaCondition schema
  have hhead : Reads .start
      "IF NOT EXISTS ( SELECT * FROM INFORMATION_SCHEMA.TABLES WHERE TABLE_NAME = N'".toList
      (.inside .national [])
      [.word "IF", .word "NOT", .word "EXISTS", .symbol '(', .word "SELECT", .symbol '*',
        .word "FROM", .word "INFORMATION_SCHEMA", .symbol '.', .word "TABLES", .word "WHERE",
        .word "TABLE_NAME", .symbol '='] := by decide +kernel
  have hand : Reads (.inside .national table.toList) "' AND ".toList .start
    [.delimited .national (String.ofList table.toList), .word "AND"] := rfl
  have hcreate : Reads (.closing d text) " ) CREATE TABLE ".toList .start
      (.delimited d (String.ofList text) :: [.symbol ')', .word "CREATE", .word "TABLE"]) := by
    have hne : ' ' ≠ d.close := by
      rw [hclose]
      decide
    have hrest : Reads .start " ) CREATE TABLE ".toList .start
      [.symbol ')', .word "CREATE", .word "TABLE"] := by decide
    exact hrest.emit rfl (if_neg hne)
  have hcolumns : Reads (.closing .bracket table.toList) " ( ".toList .start
    [.delimited .bracket (String.ofList table.toList), .symbol '('] := rfl
  have h := ((((((hhead.append (reads_escapeSqlString table)).append hand).append
    hcondition).append hcreate).append (reads_quotedTableName hsplit)).append hcolumns).append
    reads_trackingColumns
  simp only [← String.toList_append] at h
  unfold createSql
  rw [hsplit]
  refine h.lex.trans ?_
  rw [htoken, createTokens, nameTokens]
  simp [finish]

theorem lex_insertSql (hsplit : splitTableName tableName = (schema, table))
    (migration : Migration) {sqlText : String} {sql : String}
    (htext : Reads (.inside .national []) sqlText.toList (.inside .national sql.toList) []) :
    lex (insertSql tableName migration sqlText) = insertTokens schema table migration sql := by
  have hhead : Reads .start "INSERT INTO ".toList .start [.word "INSERT", .word "INTO"] := by
    decide
  have hcolumns : Reads (.closing .bracket table.toList)
      " (version, description, migration_type, sql, checksum, no_tx) VALUES (".toList .start
      (.delimited .bracket (String.ofList table.toList) ::
        [.symbol '(', .word "version", .symbol ',', .word "description", .symbol ',',
          .word "migration_type", .symbol ',', .word "sql", .symbol ',', .word "checksum",
          .symbol ',', .word "no_tx", .symbol ')', .word "VALUES", .symbol '(']) := by
    exact .emit rfl (step_closing (by decide) table.toList) (by decide +kernel)
  have hversion (digits : List Char) : Reads (.number digits) ", N'".toList (.inside .national [])
      (.number (Nat.ofDigitChars 10 digits 0) :: [.symbol ',']) := by
    exact .emit rfl (step_number (by decide) digits) (by decide)
  have hnext (text : List Char) : Reads (.inside .national text) "', N'".toList
    (.inside .national []) [.delimited .national (String.ofList text), .symbol ','] := rfl
  have hlast (text : List Char) : Reads (.inside .national text) "', ".toList .start
    [.delimited .national (String.ofList text), .symbol ','] := rfl
  have hchecksum : Reads .start (formatHex migration.checksum).toList
      (.binary (migration.checksum.flatMap upperHex)) [] := by
    rw [formatHex, String.toList_ofList]
    exact reads_binary migration.checksum
  have hcomma (digits : List Char) : Reads (.binary digits) ", ".toList .start
    [.binary (hexBytes digits), .symbol ','] := rfl
  have hnoTx : ∀ noTx : Bool, Reads .start ((if noTx then "1" else "0") ++ ")" : String).toList
    .start [.number (if noTx then 1 else 0), .symbol ')'] := by decide
  have h := ((((((((((((hhead.append (reads_quotedTableName hsplit)).append hcolumns).append
    (reads_int migration.version.val)).append (hversion _)).append
    (reads_escapeSqlString migration.description)).append (hnext _)).append
    (reads_escapeSqlString migration.migrationType)).append (hnext _)).append htext).append
    (hlast _)).append hchecksum).append (hcomma _)).append (hnoTx migration.noTx)
  simp only [← String.toList_append, ← String.append_assoc] at h
  refine h.lex.trans ?_
  rw [insertTokens, nameTokens, intTokens, hexBytes_upperHex]
  simp [finish]

end Statements

/-- **The statements of the tracking table are read as they are meant**: their tokens are those of
the template, with the parts of the name, the texts and the checksum in their places. -/
theorem statements_lex (tableName : String) (migration : Migration) :
    ∃ schema table, NameParts tableName schema table ∧
      (∃ sql, (ensureMigrationsTable tableName : Command A) = .execSql sql ∧
        lex sql = createTokens schema table) ∧
      (∃ sql, (listAppliedMigrations tableName : Command A) = .listMigrations sql ∧
        lex sql = selectTokens schema table) ∧
      (∃ sql, (apply tableName migration : Command A) =
          .applyMigration migration.sql sql migration.version.val migration.noTx ∧
        lex sql = insertTokens schema table migration migration.sql) ∧
      (∃ sql, (skip tableName migration : Command A) = .execSql sql ∧
        lex sql = insertTokens schema table migration "") ∧
      (∃ sql, (revert tableName migration : Command A) =
          .revertMigration migration.sql sql migration.version.val migration.noTx ∧
        lex sql = deleteTokens schema table migration.version.val) := by
  have hparts := splitTableName_parts tableName
  have hempty : Reads (.inside .national []) "".toList (.inside .national "".toList) [] := rfl
  cases hsplit : splitTableName tableName with
  | mk schema table =>
    rw [hsplit] at hparts
    exact ⟨schema, table, hparts, ⟨_, rfl, lex_createSql hsplit⟩, ⟨_, rfl, lex_selectSql hsplit⟩,
      ⟨_, rfl, lex_insertSql hsplit migration (reads_escapeSqlString migration.sql)⟩,
      ⟨_, rfl, lex_insertSql hsplit migration hempty⟩, ⟨_, rfl, lex_deleteSql hsplit⟩⟩

/-! ### Creating a schema -/

/-- The statement that creates a schema, when the literal of the inner one holds this text. -/
def createSchemaTokens (schemaName text : String) : List Token :=
  [.word "IF", .word "NOT", .word "EXISTS", .symbol '(', .word "SELECT", .symbol '*',
    .word "FROM", .word "sys", .symbol '.', .word "schemas", .word "WHERE", .word "name",
    .symbol '=', .delimited .national schemaName, .symbol ')', .word "EXEC", .symbol '(',
    .delimited .quote text, .symbol ')']

def innerTokens (schemaName : String) : List Token :=
  [.word "CREATE", .word "SCHEMA", .delimited .bracket schemaName]

/-- The statement is read as meant, and so is the one it executes. -/
def CreatesSchema (schemaName sql : String) : Prop :=
  ∃ text, lex sql = createSchemaTokens schemaName text ∧ lex text = innerTokens schemaName

/-- Three quotes for each in the name are too few: the literal of the inner statement takes two for
each of its own, and it contains the name. -/
theorem not_mem_of_createsSchema {schemaName : String}
    (h : CreatesSchema schemaName (createSchemaSql schemaName)) : '\'' ∉ schemaName.toList := by
  obtain ⟨text, houter, hinner⟩ := h
  have hroom := quotes_lex (createSchemaSql schemaName)
  have hinnerRoom := quotes_lex text
  have hcount : (createSchemaSql schemaName).toList.count '\'' =
      4 + 3 * schemaName.toList.count '\'' := by
    have hconst : "IF NOT EXISTS (SELECT * FROM sys.schemas WHERE name = N'".toList.count '\'' = 1 ∧
      "') EXEC('CREATE SCHEMA [".toList.count '\'' = 2 ∧ "]')".toList.count '\'' = 1 := by
      decide +kernel
    have hquote : (double '\'' schemaName.toList).count '\'' =
        2 * schemaName.toList.count '\'' := count_double _ _
    have hbracket : (double ']' schemaName.toList).count '\'' =
        1 * schemaName.toList.count '\'' := count_double _ _
    unfold createSchemaSql
    simp only [String.toList_append, List.count_append, toList_escapeSqlString,
      toList_escapeSqlBracket, hquote, hbracket]
    omega
  have houterSum : ((createSchemaTokens schemaName text).map Token.quotes).sum =
      (2 * schemaName.toList.count '\'' + 2) + (2 * text.toList.count '\'' + 2) := by
    simp [createSchemaTokens, Token.quotes, Delimiter.quotes, Delimiter.close]
  have hinnerSum : ((innerTokens schemaName).map Token.quotes).sum =
      schemaName.toList.count '\'' := by
    simp [innerTokens, Token.quotes, Delimiter.quotes, Delimiter.close]
  rw [houter, houterSum, hcount] at hroom
  rw [hinner, hinnerSum] at hinnerRoom
  rw [← List.count_eq_zero]
  omega

theorem lex_innerSql (schemaName : String) :
    lex ("CREATE SCHEMA [" ++ escapeSqlBracket schemaName ++ "]") = innerTokens schemaName := by
  have hhead : Reads .start "CREATE SCHEMA [".toList (.inside .bracket [])
    [.word "CREATE", .word "SCHEMA"] := by decide
  have hclose : Reads (.inside .bracket schemaName.toList) "]".toList
    (.closing .bracket schemaName.toList) [] := rfl
  have h := (hhead.append (reads_escapeSqlBracket schemaName)).append hclose
  simp only [← String.toList_append] at h
  refine h.lex.trans ?_
  rw [finish, String.ofList_toList]
  rfl

theorem lex_createSchemaSql {schemaName : String} (h : '\'' ∉ schemaName.toList) :
    lex (createSchemaSql schemaName) = createSchemaTokens schemaName
      ("CREATE SCHEMA [" ++ escapeSqlBracket schemaName ++ "]") := by
  have hplain : '\'' ∉ (escapeSqlBracket schemaName).toList := by
    rw [toList_escapeSqlBracket, mem_double]
    exact h
  have hhead : Reads .start "IF NOT EXISTS (SELECT * FROM sys.schemas WHERE name = N'".toList
    (.inside .national [])
    [.word "IF", .word "NOT", .word "EXISTS", .symbol '(', .word "SELECT", .symbol '*',
      .word "FROM", .word "sys", .symbol '.', .word "schemas", .word "WHERE", .word "name",
      .symbol '='] := by decide +kernel
  have hexec : Reads (.inside .national schemaName.toList) "') EXEC('CREATE SCHEMA [".toList
    (.inside .quote "CREATE SCHEMA [".toList)
    [.delimited .national (String.ofList schemaName.toList), .symbol ')', .word "EXEC",
      .symbol '('] := rfl
  have hclose (text : List Char) : Reads (.inside .quote text) "]')".toList .start
    [.delimited .quote (String.ofList (text ++ [']'])), .symbol ')'] := rfl
  have hreads := (((hhead.append (reads_escapeSqlString schemaName)).append hexec).append
    (reads_plain hplain _)).append (hclose _)
  have htext : String.ofList (("CREATE SCHEMA [".toList ++ (escapeSqlBracket schemaName).toList) ++
      [']']) = "CREATE SCHEMA [" ++ escapeSqlBracket schemaName ++ "]" := by
    apply String.toList_injective
    simp only [String.toList_ofList, String.toList_append]
    rfl
  simp only [← String.toList_append] at hreads
  refine hreads.lex.trans ?_
  rw [String.toList_append, htext, String.ofList_toList]
  rfl

/-- **A schema is created under its name exactly when the name contains no quote**: the inner
statement is put into its literal without doubling any. -/
theorem createSchema_iff (schemaName : String) :
    (∃ sql, (createSchemaIfNotExists schemaName : Command A) = .execSql sql ∧
        CreatesSchema schemaName sql) ↔
      '\'' ∉ schemaName.toList := by
  constructor
  · rintro ⟨sql, hsql, hcreates⟩
    cases hsql
    exact not_mem_of_createsSchema hcreates
  · intro h
    exact ⟨_, rfl, _, lex_createSchemaSql h, lex_innerSql schemaName⟩

/-- A name with a quote ends the literal. -/
theorem quoted_schema_not_created :
    ¬ ∃ sql, (createSchemaIfNotExists "o'b" : Command ℤ) = .execSql sql ∧
      CreatesSchema "o'b" sql := by
  rintro ⟨sql, hsql, hcreates⟩
  cases hsql
  exact not_mem_of_createsSchema hcreates (by decide)

end MssqlOdbc
