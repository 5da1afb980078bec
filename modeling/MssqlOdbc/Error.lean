import Mathlib.Data.List.Basic

/-!
# Errors

What an ODBC call reports when it fails, and what the driver makes of it.  The text a caller sees
is the driver's context followed by the primary diagnostic message.
-/

set_option autoImplicit false

namespace MssqlOdbc

/-- A diagnostic record pulled off an ODBC handle. -/
structure Record where
  state : String
  message : String
deriving DecidableEq, Repr

/-- An error of the `odbc_api` crate: the diagnostic record it carries, if it carries one, and its
own text. -/
structure OdbcError where
  record : Option Record
  text : String
deriving DecidableEq, Repr

/-- Database error details extracted from ODBC diagnostics. -/
structure MssqlDatabaseError where
  error : OdbcError
  message : String
  code : Option String
deriving DecidableEq, Repr

namespace MssqlDatabaseError

/-- The SQLSTATE of a record, unless it was never filled in. -/
def diagnosticCode (record : Record) : Option String :=
  if record.state.toList.all (fun c ↦ c.toNat == 0) then none else some record.state

/-- `From<OdbcApiError>`: an empty diagnostic message is replaced by the error's own text. -/
def ofOdbc (error : OdbcError) : MssqlDatabaseError where
  error := error
  message := ((error.record.map Record.message).filter (fun m ↦ !m.isEmpty)).getD error.text
  code := error.record.bind diagnosticCode

/-- Prefixes the message with what the driver was doing. -/
def withContext (error : OdbcError) (context : String) : MssqlDatabaseError :=
  let databaseError := ofOdbc error
  { databaseError with message := s!"{context}: {databaseError.message}" }

end MssqlDatabaseError

/-- Error type returned by the crate. -/
inductive MssqlError where
  | database (error : MssqlDatabaseError)
  | configuration (message : String)
deriving DecidableEq, Repr

/-- The variants of `sqlx_core::Error` the driver produces. -/
inductive Error where
  | database (error : MssqlDatabaseError)
  | configuration (message : String)
  | protocol (message : String)
  | encode (message : String)
deriving DecidableEq, Repr

/-- `From<MssqlError> for sqlx_core::Error`. -/
def MssqlError.toError : MssqlError → Error
  | .database error => .database error
  | .configuration message => .configuration message

/-- `Display` of the variants, as `sqlx_core` words them. -/
def Error.display : Error → String
  | .database error => s!"error returned from database: {error.message}"
  | .configuration message => s!"error with configuration: {message}"
  | .protocol message => s!"encountered unexpected or invalid data: {message}"
  | .encode message => s!"error occurred while encoding a value: {message}"

def databaseErrorWithContext (error : OdbcError) (context : String) : MssqlError :=
  .database (MssqlDatabaseError.withContext error context)

/-- What `?` makes of a failed ODBC call with a context. -/
def databaseError (context : String) (error : OdbcError) : Error :=
  (databaseErrorWithContext error context).toError

end MssqlOdbc
