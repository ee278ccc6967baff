import Tabular.Format.Error
import Tabular.Table.StorageFault
import Tabular.Text.Quoted

/-!
# Faults

Every reason for which an operation on values, tables and artifacts is refused. Callers tell two
classes apart: a value of the wrong type for its place, and a value of the right type with the
wrong contents.

## Main definitions

- `TypeFault`, `ValueFault`, `RecordFault`, `ArtifactFault` — causes by class
- `Fault` — any of them, with the faults of formats and tables
- `Fault.isType`, `Fault.isTypeOrValue` — the classes that are tolerated in some places
- `Fault.message` — the wording
-/

namespace Tabular

/-- A value of the wrong type for its place. Values are quoted as they are shown, or by the name of
their type. -/
inductive TypeFault
  | notMessage (shown typeName : String)
  | messageId (shown : String)
  | messageArguments (shown : String)
  | notDiagnostic (shown : String)
  | fixesNotList (typeName : String)
  | namedFixesNotList (typeName : String)
  | tableExpected (typeName : String)
  | formatNotText (column typeName : String)
  | formatsNotDict (typeName : String)
  | notFinite (shown : String)
  | noJson (typeName : String)
  | columnNotObject (json : String)
  | numberFormatNotText (json : String)
deriving DecidableEq, Repr

/-- A value of the right type with the wrong contents. -/
inductive ValueFault
  | messageTuple (shown : String)
  | diagnosticKeys (shown : String)
  | fixWithoutJson (cause : TypeFault)
  | fixKey (key : String)
  | fixWithoutText
  | fixWithoutAction
  | fixArguments (typeName : String)
  | fixTooShort (count : Nat)
  | notFix (shown : String)
  | fixAction (typeName : String)
  | fixActionWithoutWireForm (action : String)
  | fixArgumentsWithoutWireForm (json : String)
  | resultKeys
  | fixesWithoutError
  | jsonNotDict (typeName : String)
  | formatOfNonNumber (column kind : String)
  | columnWithoutName
  | columnWithoutType
  | unknownColumnType (typeName : String)
  | formatOfColumnType (typeName : String)
  | nothingWanted
  | foundAgainstWanted (found wanted : String)
  | columnsOfOtherTable (columns table : List String)
  | raggedTable (column : String) (rows : Nat) (first : String) (firstRows : Nat)
  | raggedColumn (column : String) (rows tableRows : Nat)
deriving DecidableEq, Repr

/-- An artifact record whose path and columns do not go together. -/
inductive RecordFault
  | fileWithoutColumns (path : String)
  | columnsWithoutFile (count : Nat)
deriving DecidableEq, Repr

/-- What went wrong with the file of an artifact. -/
inductive ArtifactFault
  | encoding (column : String)
  | noFileName (path : String)
  | creation (path reason : String)
  | writing
  | finishing
  | publishing (source target reason : String)
  | opening (path reason : String)
  | mapping (path reason : String)
  | notArrow (path : String)
  | otherShape (path : String) (rows : Nat) (names : List String) (listedRows : Nat)
      (listedNames : List String)
  | unsupportedType (column typeName : String)
deriving DecidableEq, Repr

/-- Why an operation is refused. -/
inductive Fault
  | type (cause : TypeFault)
  | value (cause : ValueFault)
  /-- An item of a list of diagnostics was refused. -/
  | diagnosticList (shown : String) (cause : Fault)
  | format (cause : FormatError)
  | unknownDtype (dtype : Dtype)
  | storage (cause : StorageFault)
  | unsupportedDtype (column : String) (dtype : Dtype)
  | record (cause : RecordFault)
  | artifact (cause : ArtifactFault)
deriving DecidableEq, Repr

/-- The wording of a type fault. -/
def TypeFault.message : TypeFault → String
  | notMessage shown typeName =>
    s!"{shown} is of type {typeName}, which cannot be coerced to I18nMessage"
  | messageId shown => s!"Message ID must be string, got {shown}"
  | messageArguments shown => s!"Message arguments must be a dict, got {shown}"
  | notDiagnostic shown => s!"The value {shown} cannot be coerced to module error"
  | fixesNotList typeName => s!"quickFixes must be a list, got {typeName}"
  | namedFixesNotList typeName => s!"quick_fixes must be a list, got {typeName}"
  | tableExpected typeName => s!"dataframe must be a DataFrame, got {typeName}"
  | formatNotText column typeName =>
    s!"column_formats[\"{column}\"] must be a str, got {typeName}"
  | formatsNotDict typeName => s!"column_formats must be a dict, got {typeName}"
  | notFinite shown => s!"Out of range float value {shown} is not JSON serializable"
  | noJson typeName => s!"Object of type {typeName} is not JSON serializable"
  | columnNotObject json => s!"column must be an object, got {json}"
  | numberFormatNotText json => s!"number format must be a string, got {json}"

/-- The wording of a value fault. -/
def ValueFault.message : ValueFault → String
  | messageTuple shown => s!"This tuple cannot be coerced to I18nMessage: {shown}"
  | diagnosticKeys shown => s!"Missing 'message' or 'quickFixes' in {shown}"
  | fixWithoutJson cause => cause.message
  | fixKey key => s!"QuickFix got an unexpected keyword argument '{key}'"
  | fixWithoutText => "Missing text from quick fix"
  | fixWithoutAction => "QuickFix missing required argument: 'action'"
  | fixArguments typeName => s!"QuickFix args must be a list, got {typeName}"
  | fixTooShort count => s!"not enough values to unpack (expected at least 2, got {count})"
  | notFix shown => s!"Cannot build QuickFix from value: {shown}"
  | fixAction typeName => s!"QuickFix action must be a string, got {typeName}"
  | fixActionWithoutWireForm action =>
    s!"QuickFix action \"{action}\" has no wire form; only \"prependModule\" does"
  | fixArgumentsWithoutWireForm json =>
    s!"prependModule args must be [module_slug, partial_params], got {json}"
  | resultKeys =>
    "ProcessResult input must only contain \x7bdataframe, error, errors, json, quick_fixes, " ++
      "column_formats\x7d keys"
  | fixesWithoutError => "quick_fixes were given without an error"
  | jsonNotDict typeName => s!"json must be a dict, got {typeName}"
  | formatOfNonNumber column kind =>
    s!"\"format\" not allowed for column \"{column}\" because it is of type \"{kind}\""
  | columnWithoutName => "column is missing string \"name\""
  | columnWithoutType => "column is missing string \"type\""
  | unknownColumnType typeName => s!"unknown column type \"{typeName}\""
  | formatOfColumnType typeName => s!"\"format\" not allowed for column type \"{typeName}\""
  | nothingWanted => "wanted_types must not be empty"
  | foundAgainstWanted found wanted =>
    s!"found_type must be given unless text is wanted (found {found}, wanted {wanted})"
  | columnsOfOtherTable columns table =>
    "columns " ++ Quoted.list columns ++ " do not describe table columns " ++ Quoted.list table
  | raggedTable column rows first firstRows =>
    s!"column \"{column}\" has {rows} rows; column \"{first}\" has {firstRows}"
  | raggedColumn column rows tableRows =>
    s!"column \"{column}\" has {rows} rows; table has {tableRows}"

/-- The wording of a record fault. -/
def RecordFault.message : RecordFault → String
  | fileWithoutColumns path => s!"artifact {path} has a file but no columns"
  | columnsWithoutFile count => s!"artifact has {count} columns but no file"

/-- The wording of an artifact fault. -/
def ArtifactFault.message : ArtifactFault → String
  | encoding column => s!"Failed to encode categorical column \"{column}\""
  | noFileName path => s!"Artifact path has no file name: {path}"
  | creation path reason => s!"Failed to create temp Arrow file: {path}: {reason}"
  | writing => "Failed to write record batch to Arrow IPC file"
  | finishing => "Failed to finish Arrow IPC file"
  | publishing source target reason => s!"Failed to rename {source} -> {target}: {reason}"
  | opening path reason => s!"Failed to open Arrow file: {path}: {reason}"
  | mapping path reason => s!"Failed to map Arrow file: {path}: {reason}"
  | notArrow path => s!"Invalid Arrow IPC file: {path}"
  | otherShape path rows names listedRows listedNames =>
    s!"Arrow file {path} holds {rows} rows of " ++ Quoted.list names ++
      s!"; metadata says {listedRows} rows of " ++ Quoted.list listedNames
  | unsupportedType column typeName =>
    s!"Column \"{column}\" has unsupported Arrow type {typeName}"

namespace Fault

/-- The wording of a fault. -/
def message : Fault → String
  | type cause => cause.message
  | value cause => cause.message
  | diagnosticList shown cause =>
    s!"The list {shown} cannot be coerced to module error: " ++ cause.message
  | format cause => cause.message
  | unknownDtype dtype => "Unknown dtype: " ++ dtype.name
  | storage cause => cause.message
  | unsupportedDtype column dtype =>
    "Unhandled dtype " ++ dtype.name ++ " in column \"" ++ column ++ "\""
  | record cause => cause.message
  | artifact cause => cause.message

/-- A value of the wrong type for its place. -/
def isType : Fault → Bool
  | type _ => true
  | _ => false

/-- A value of the wrong type, or of the right type with wrong contents. -/
def isTypeOrValue : Fault → Bool
  | type _ | value _ | diagnosticList _ _ | format _ => true
  | _ => false

end Fault

end Tabular
