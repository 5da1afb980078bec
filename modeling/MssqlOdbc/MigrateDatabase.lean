import MssqlOdbc.Lib.Proc
import MssqlOdbc.Migrate
import MssqlOdbc.Options.FromStr

/-!
# Creating, finding and dropping a database

The operations of `MigrateDatabase` get one text.  `from_str` makes the options of it that they
connect with, and `extract_database_name` the name that they put into their statement; the two
prepare the text differently before they parse it.

`same_database_iff` says when the statement is about the database that the options open.
-/

set_option autoImplicit false

namespace MssqlOdbc

open Quoting OdbcString Tsql

/-! ## The operations -/

def extractDatabaseName (parse : String → Except String Url) (url : String) :
    Except Error String :=
  match parse url with
  | .error e => .error (.protocol ("failed to parse migration URL: " ++ e))
  | .ok parsed =>
    if parsed.database = "" then
      .error (.configuration "migration URL does not contain a database name")
    else .ok parsed.database

def createDatabaseSql (database : String) : String :=
  "CREATE DATABASE [" ++ escapeSqlBracket database ++ "]"

def databaseExistsSql (database : String) : String :=
  "SELECT COUNT(*) FROM sys.databases WHERE name = N'" ++ escapeSqlString database ++ "'"

def dropDatabaseSql (database : String) : String :=
  "DROP DATABASE IF EXISTS [" ++ escapeSqlBracket database ++ "]"

/-- What an operation asks of the server. -/
inductive ServerCall where
  | connect (options : MssqlConnectOptions)
  | execSql (options : MssqlConnectOptions) (sql : String)
  | scalarI64 (options : MssqlConnectOptions) (sql : String)

/-- The statement that is run. -/
def ServerCall.statement : ServerCall → Option String
  | .connect _ => none
  | .execSql _ sql | .scalarI64 _ sql => some sql

/-- What the server answers, given what it has been asked before. -/
structure ServerAnswers where
  connect : List ServerCall → MssqlConnectOptions → Except Error Unit
  execSql : List ServerCall → MssqlConnectOptions → String → Except Error Unit
  scalarI64 : List ServerCall → MssqlConnectOptions → String → Except Error (Option ℤ)

/-- How an operation ends early. -/
inductive Interruption where
  | error (e : Error)
  | panic

/-- An operation, with the calls it has made. -/
abbrev Operation (α : Type) : Type := Proc (List ServerCall) Interruption α

section Operations

variable (parse : String → Except String Url) (upper : Char → List Char) (server : ServerAnswers)

/-- What `?` makes of a result. -/
def orReturn {α : Type} (result : Except Error α) : Operation α :=
  .ofExcept (result.mapError .error)

def connectBlocking (options : MssqlConnectOptions) : Operation Unit := do
  let before ← .get
  .modify (· ++ [.connect options])
  orReturn (server.connect before options)

def execSqlBlocking (options : MssqlConnectOptions) (sql : String) : Operation Unit := do
  let before ← .get
  .modify (· ++ [.execSql options sql])
  orReturn (server.execSql before options sql)

def scalarI64Blocking (options : MssqlConnectOptions) (sql : String) : Operation (Option ℤ) := do
  let before ← .get
  .modify (· ++ [.scalarI64 options sql])
  orReturn (server.scalarI64 before options sql)

/-- The options of the connection that the statement is run on. -/
def masterOptions (options : MssqlConnectOptions) : Operation MssqlConnectOptions :=
  match options.withDatabase upper "master" with
  | some options => pure options
  | none => .fail .panic

/-- Runs a statement about the database of the URL on `master`. -/
def runOnMaster (statement : String → String) (url : String) : Operation Unit := do
  let options ← orReturn (MssqlConnectOptions.fromStr parse url)
  let database ← orReturn (extractDatabaseName parse url)
  let master ← masterOptions upper options
  connectBlocking server master
  execSqlBlocking server master (statement database)

def createDatabase (url : String) : Operation Unit :=
  runOnMaster parse upper server createDatabaseSql url

def databaseExists (url : String) : Operation Bool := do
  let options ← orReturn (MssqlConnectOptions.fromStr parse url)
  match ← (connectBlocking server options).attempt with
  | .ok () => return true
  | .error _ => do
    let database ← orReturn (extractDatabaseName parse url)
    let master ← masterOptions upper options
    match ← (connectBlocking server master).attempt with
    | .error _ => return false
    | .ok () => do
      let count ← scalarI64Blocking server master (databaseExistsSql database)
      return 0 < count.getD 0

def dropDatabase (url : String) : Operation Unit :=
  runOnMaster parse upper server dropDatabaseSql url

/-- The calls of each operation. -/
def operationCalls (url : String) : List (List ServerCall) :=
  [(createDatabase parse upper server url []).2, (databaseExists parse upper server url []).2,
    (dropDatabase parse upper server url []).2]

end Operations

/-! ## What the statements are about -/

/-- The database that a statement is about, as the server reads it. -/
def targetOf (sql : String) : Option String :=
  match lex sql with
  | [.word "CREATE", .word "DATABASE", .delimited .bracket database] => some database
  | [.word "DROP", .word "DATABASE", .word "IF", .word "EXISTS", .delimited .bracket database] =>
    some database
  | [.word "SELECT", .word "COUNT", .symbol '(', .symbol '*', .symbol ')', .word "FROM",
      .word "sys", .symbol '.', .word "databases", .word "WHERE", .word "name", .symbol '=',
      .delimited .national database] => some database
  | _ => none

theorem lex_createDatabaseSql (database : String) :
    lex (createDatabaseSql database) =
      [.word "CREATE", .word "DATABASE", .delimited .bracket database] := by
  have hhead : Reads .start "CREATE DATABASE [".toList (.inside .bracket [])
    [.word "CREATE", .word "DATABASE"] := by decide
  exact Reads.lex_delimited hhead (reads_escapeSqlBracket database) rfl

theorem lex_dropDatabaseSql (database : String) :
    lex (dropDatabaseSql database) = [.word "DROP", .word "DATABASE", .word "IF", .word "EXISTS",
      .delimited .bracket database] := by
  have hhead : Reads .start "DROP DATABASE IF EXISTS [".toList (.inside .bracket [])
    [.word "DROP", .word "DATABASE", .word "IF", .word "EXISTS"] := by decide +kernel
  exact Reads.lex_delimited hhead (reads_escapeSqlBracket database) rfl

theorem lex_databaseExistsSql (database : String) :
    lex (databaseExistsSql database) = [.word "SELECT", .word "COUNT", .symbol '(', .symbol '*',
      .symbol ')', .word "FROM", .word "sys", .symbol '.', .word "databases", .word "WHERE",
      .word "name", .symbol '=', .delimited .national database] := by
  have hhead : Reads .start "SELECT COUNT(*) FROM sys.databases WHERE name = N'".toList
    (.inside .national []) [.word "SELECT", .word "COUNT", .symbol '(', .symbol '*', .symbol ')',
      .word "FROM", .word "sys", .symbol '.', .word "databases", .word "WHERE", .word "name",
      .symbol '='] := by decide +kernel
  exact Reads.lex_delimited hhead (reads_escapeSqlString database) rfl

/-- **Each statement is about the database with the given name**, whatever the name contains. -/
theorem targetOf_statements (database : String) :
    targetOf (createDatabaseSql database) = some database ∧
      targetOf (databaseExistsSql database) = some database ∧
      targetOf (dropDatabaseSql database) = some database := by
  unfold targetOf
  rw [lex_createDatabaseSql, lex_databaseExistsSql, lex_dropDatabaseSql]
  exact ⟨rfl, rfl, rfl⟩

/-- The statements among the calls are about this database. -/
def AreAbout (database : String) (calls : List ServerCall) : Prop :=
  ∀ sql ∈ calls.filterMap ServerCall.statement, targetOf sql = some database

section Calls

variable {parse : String → Except String Url} {upper : Char → List Char} {server : ServerAnswers}
  {url database : String}

theorem orReturn_ok_bind {α β : Type} (a : α) (k : α → Operation β) :
    (orReturn (.ok a) >>= k) = k a := rfl

theorem AreAbout.concat {calls : List ServerCall} {call : ServerCall} (h : AreAbout database calls)
    (hcall : ∀ sql, call.statement = some sql → targetOf sql = some database) :
    AreAbout database (calls ++ [call]) := by
  intro sql hsql
  rw [List.filterMap_append, List.mem_append] at hsql
  rcases hsql with hsql | hsql
  · exact h sql hsql
  · rw [List.mem_filterMap] at hsql
    obtain ⟨call', hmem, hsql⟩ := hsql
    rw [List.mem_singleton.1 hmem] at hsql
    exact hcall sql hsql

/-- A call keeps what is said about the statements if its own is one of them. -/
theorem keeps_call {α : Type} {call : ServerCall} (answer : List ServerCall → Except Error α)
    (hcall : ∀ sql, call.statement = some sql → targetOf sql = some database) :
    Proc.Keeps (AreAbout database) (do
      let before ← .get
      .modify (· ++ [call])
      orReturn (answer before)) := by
  refine .bind .get fun before ↦ .bind (.modify fun calls h ↦ ?_) fun _ ↦ .ofExcept _
  exact h.concat hcall

theorem keeps_connect (options : MssqlConnectOptions) :
    Proc.Keeps (AreAbout database) (connectBlocking server options) := by
  refine keeps_call _ ?_
  rintro sql ⟨⟩

theorem keeps_execSql (options : MssqlConnectOptions) {sql : String}
    (h : targetOf sql = some database) :
    Proc.Keeps (AreAbout database) (execSqlBlocking server options sql) := by
  refine keeps_call _ ?_
  rintro sql' ⟨⟩
  exact h

theorem keeps_scalarI64 (options : MssqlConnectOptions) {sql : String}
    (h : targetOf sql = some database) :
    Proc.Keeps (AreAbout database) (scalarI64Blocking server options sql) := by
  refine keeps_call _ ?_
  rintro sql' ⟨⟩
  exact h

theorem keeps_masterOptions (options : MssqlConnectOptions) :
    Proc.Keeps (AreAbout database) (masterOptions upper options) := by
  rw [masterOptions]
  cases options.withDatabase upper "master" with
  | some options => exact .pure _
  | none => exact .fail _

theorem keeps_runOnMaster (h : extractDatabaseName parse url = .ok database)
    {statement : String → String} (htarget : targetOf (statement database) = some database) :
    Proc.Keeps (AreAbout database) (runOnMaster parse upper server statement url) := by
  unfold runOnMaster
  rw [h]
  refine .bind (.ofExcept _) fun options ↦ ?_
  rw [orReturn_ok_bind]
  refine .bind (keeps_masterOptions options) fun master ↦ ?_
  exact .bind (keeps_connect master) fun _ ↦ keeps_execSql master htarget

theorem keeps_databaseExists (h : extractDatabaseName parse url = .ok database) :
    Proc.Keeps (AreAbout database) (databaseExists parse upper server url) := by
  have htarget := (targetOf_statements database).2.1
  unfold databaseExists
  rw [h]
  refine .bind (.ofExcept _) fun options ↦ ?_
  refine .bind (.attempt (keeps_connect options)) fun connected ↦ ?_
  cases connected with
  | ok _ => exact .pure _
  | error _ =>
    dsimp only
    rw [orReturn_ok_bind]
    refine .bind (keeps_masterOptions options) fun master ↦ ?_
    refine .bind (.attempt (keeps_connect master)) fun connected ↦ ?_
    cases connected with
    | ok _ => exact .bind (keeps_scalarI64 master htarget) fun _ ↦ .pure _
    | error _ => exact .pure _

/-- Whatever the server answers, every statement is about the database of the URL. -/
theorem areAbout_operationCalls (h : extractDatabaseName parse url = .ok database) :
    ∀ calls ∈ operationCalls parse upper server url, AreAbout database calls := by
  obtain ⟨hcreate, -, hdrop⟩ := targetOf_statements database
  have hnone : AreAbout database [] := nofun
  simp only [operationCalls, List.forall_mem_cons]
  exact ⟨keeps_runOnMaster h hcreate [] hnone, keeps_databaseExists h [] hnone,
    keeps_runOnMaster h hdrop [] hnone, nofun⟩

theorem ne_empty_of_extractDatabaseName (h : extractDatabaseName parse url = .ok database) :
    database ≠ "" := by
  rw [extractDatabaseName] at h
  split at h
  · cases h
  · split at h
    · cases h
    · rename_i hne
      cases h
      exact hne

end Calls

/-! ## The two routes -/

section Routes

variable {parse : String → Except String Url} {input name : String} {options : MssqlConnectOptions}

/-- The operations are about the database that the options open. -/
def SameDatabase (parse : String → Except String Url) (upper : Char → List Char) (input : String)
    (options : MssqlConnectOptions) (name : String) : Prop :=
  databaseOf options.connStr = some name ∧
    ∀ server, ∀ calls ∈ operationCalls parse upper server input, AreAbout name calls

/-- **When a database is created, found and dropped under the name it is opened by.** -/
theorem same_database_iff (upper : Char → List Char)
    (hname : extractDatabaseName parse input = .ok name)
    (hoptions : MssqlConnectOptions.fromStr parse input = .ok options) :
    SameDatabase parse upper input options name ↔ OpensDatabase parse input name := by
  rw [SameDatabase, and_iff_left fun _ ↦ areAbout_operationCalls hname]
  exact databaseOf_fromStr_iff hoptions (ne_empty_of_extractDatabaseName hname)

end Routes

/-! ## Two texts -/

/-- `mssql://localhost/mydb` -/
def plainUrl : Url :=
  ⟨"mssql", some "localhost", none, "/mydb", "", none, [], "mssql://localhost/mydb"⟩

/-- `odbc:mssql://localhost/mydb`: all that stands behind the scheme is the path. -/
def opaqueUrl : Url :=
  ⟨"odbc", none, none, "mssql://localhost/mydb", "", none, [], "odbc:mssql://localhost/mydb"⟩

/-- `mssql://localhost/mydb?driver=x;Database=prod` -/
def drivenUrl : Url :=
  ⟨"mssql", some "localhost", none, "/mydb", "", none, [("driver", "x;Database=prod")],
    "mssql://localhost/mydb?driver=x;Database=prod"⟩

/-- `Url::parse` of these texts. -/
def parseSample (text : String) : Except String Url :=
  if text = plainUrl.asStr then .ok plainUrl
  else if text = opaqueUrl.asStr then .ok opaqueUrl
  else if text = drivenUrl.asStr then .ok drivenUrl
  else .error "relative URL without a base"

/-- A plain URL is opened under the name that its database is created under. -/
theorem plainUrl_same_database :
    extractDatabaseName parseSample plainUrl.asStr = .ok "mydb" ∧
      MssqlConnectOptions.fromStr parseSample plainUrl.asStr =
        .ok ⟨mssqlUrlToConnectionString plainUrl⟩ ∧
      SameDatabase parseSample asciiUpper plainUrl.asStr ⟨mssqlUrlToConnectionString plainUrl⟩
        "mydb" := by
  have htext : withoutOdbc (trim plainUrl.asStr) = plainUrl.asStr := by decide +kernel
  have hurl : urlOf parseSample (withoutOdbc (trim plainUrl.asStr)) = some plainUrl := by
    rw [htext]
    rfl
  have hname : extractDatabaseName parseSample plainUrl.asStr = .ok "mydb" := rfl
  have hdriver : Denotes (Url.driverAfter plainUrl.queryPairs).toList
      "ODBC Driver 18 for SQL Server".toList := by decide +kernel
  have hopens : plainUrl.Opens "mydb" :=
    (Url.opens_iff_of_plain (by decide) not_occurs_nil hdriver).2 (by decide)
  have hoptions := fromStr_of_url hurl
  refine ⟨hname, hoptions, (same_database_iff asciiUpper hname hoptions).2 ?_⟩
  unfold OpensDatabase
  rw [hurl]
  exact hopens

/-- Only `from_str` strips the prefix, and the driver can spell a database of its own. -/
theorem other_database_opened :
    (extractDatabaseName parseSample opaqueUrl.asStr = .ok "mssql://localhost/mydb" ∧
      MssqlConnectOptions.fromStr parseSample opaqueUrl.asStr =
        .ok ⟨mssqlUrlToConnectionString plainUrl⟩ ∧
      databaseOf (mssqlUrlToConnectionString plainUrl) = some "mydb" ∧
      ¬ SameDatabase parseSample asciiUpper opaqueUrl.asStr ⟨mssqlUrlToConnectionString plainUrl⟩
        "mssql://localhost/mydb") ∧
    extractDatabaseName parseSample drivenUrl.asStr = .ok "mydb" ∧
      MssqlConnectOptions.fromStr parseSample drivenUrl.asStr =
        .ok ⟨mssqlUrlToConnectionString drivenUrl⟩ ∧
      databaseOf (mssqlUrlToConnectionString drivenUrl) = some "prod" ∧
      ¬ SameDatabase parseSample asciiUpper drivenUrl.asStr
        ⟨mssqlUrlToConnectionString drivenUrl⟩ "mydb" := by
  have hlegacy : databaseOf (mssqlUrlToConnectionString plainUrl) = some "mydb" := by
    decide +kernel
  have hdriven : databaseOf (mssqlUrlToConnectionString drivenUrl) = some "prod" := by
    decide +kernel
  refine ⟨⟨rfl, fromStr_of_url ?_, hlegacy, fun h ↦ ?_⟩, rfl, fromStr_of_url ?_, hdriven,
    fun h ↦ ?_⟩
  · have htext : withoutOdbc (trim opaqueUrl.asStr) = plainUrl.asStr := by decide +kernel
    rw [htext]
    rfl
  · have hsame := h.1
    rw [hlegacy] at hsame
    exact absurd hsame (by decide)
  · have htext : withoutOdbc (trim drivenUrl.asStr) = drivenUrl.asStr := by decide +kernel
    rw [htext]
    rfl
  · have hsame := h.1
    rw [hdriven] at hsame
    exact absurd hsame (by decide)

end MssqlOdbc
