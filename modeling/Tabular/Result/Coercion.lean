import Tabular.Logging.Event
import Tabular.Report.Coercion
import Tabular.Table.Storage

/-!
# Results from values

A module may return nothing, a table, a result, diagnostics, a pair or a triple of these, or a dict.
Malformed configuration is refused. A value of the wrong shape is a bug of the module, and becomes a
result that says so.

## Main definitions

- `ModuleBug` — the ways in which a value has the wrong shape
- `Verdict` — a result, or a bug
- `Verdict.ofValue` — judges a value
- `StepResult.ofValue` — the result of a value; a bug is reported as its diagnostic
-/

namespace Tabular

/-- A returned value of the wrong shape. Types are given by their names. -/
inductive ModuleBug
  /-- A tuple of another size than two or three. -/
  | tupleSize (size : Nat)
  /-- A pair of the wrong types. -/
  | pair (types : String) (cause : Fault)
  /-- A triple of the wrong types. -/
  | triple (types : String)
  /-- No tuple, and nothing that stands for diagnostics. -/
  | returnType (typeName : String) (cause : Fault)
deriving DecidableEq, Repr

namespace ModuleBug

/-- The message about a tuple of the wrong types. -/
def wrongTypes (expected types : String) : Message :=
  ((Message.bare "kernel.process_result.wrong_types").withArgument "expected_type"
    (.string expected)).withArgument "type" (.string types)

/-- The message about a bug. -/
def message : ModuleBug → Message
  | tupleSize size =>
    (Message.bare "kernel.process_result.big_tuple").withArgument "length" (.ofNat size)
  | pair types _ => wrongTypes "(DataFrame, ModuleError)" types
  | triple types => wrongTypes "(DataFrame, ModuleError, dict)" types
  | returnType typeName _ =>
    (Message.bare "kernel.process_result.invalid_return_type").withArgument "type"
      (.string typeName)

/-- The text that is logged about a bug. -/
def warning : ModuleBug → String
  | tupleSize size => s!"Module returned a {size}-tuple"
  | pair types cause => s!"Module returned {types}: " ++ cause.message
  | triple types => s!"Module returned {types}"
  | returnType typeName cause =>
    s!"Module returned invalid type {typeName}: " ++ cause.message

end ModuleBug

/-- What a returned value amounts to. -/
inductive Verdict
  | result (value : StepResult)
  | bug (value : ModuleBug)
deriving Inhabited

/-- The result of a verdict. A bug becomes its message, without a table. -/
def Verdict.toResult : Verdict → StepResult
  | result r => r
  | bug b => .ofDiagnostics [.ofMessage b.message]

namespace StepResult

/-- A result of a table that can be stored, with inferred columns. -/
def ofTable (table : Table) (ds : List Diagnostic) (json : Members) (formats : Column.Formats)
    (fallbacks : List Column) : Except Fault StepResult :=
  match table.checkStorage with
  | .error fault => .error (.storage fault)
  | .ok () =>
    (Column.inferAll table formats fallbacks).map fun columns => ⟨table, ds, json, columns⟩

/-- The keywords of a result. -/
def keys : List String := ["dataframe", "error", "errors", "json", "quick_fixes", "column_formats"]

/-- The fixes of the keyword `quick_fixes`. -/
def fixesOf : Option Value → Except Fault (Option (List QuickFix))
  | none => .ok none
  | some (.list items) | some (.tuple items) => (items.mapM QuickFix.ofValue).map some
  | some other => .error (.type (.namedFixesNotList other.typeName))

/-- The diagnostic of the keywords `error` and `quick_fixes`. -/
def diagnosticOf (message : Option Message) (fixes : Option (List QuickFix)) :
    Except Fault (List Diagnostic) :=
  match message, fixes with
  | some message, fixes => .ok [⟨message, fixes.getD []⟩]
  | none, some _ => .error (.value .fixesWithoutError)
  | none, none => .ok []

/-- The table of the keyword `dataframe`. -/
def tableOf : Option Value → Except Fault Table
  | none => .ok .empty
  | some (.table t) => .ok t
  | some other => .error (.type (.tableExpected other.typeName))

/-- The members of the keyword `json`. -/
def jsonOf : Option Value → Except Fault Members
  | none | some .none => .ok []
  | some (.dict entries) =>
    match Value.entriesToJson entries with
    | .ok members => .ok (Members.ofList members)
    | .error fault => .error (.type fault)
  | some other => .error (.value (.jsonNotDict other.typeName))

/-- The number format of one column. -/
def formatOf : String × Value → Except Fault (String × String)
  | (name, .text format) => .ok (name, format)
  | (name, other) => .error (.type (.formatNotText name other.typeName))

/-- The number formats of the keyword `column_formats`. -/
def formatsOf : Option Value → Except Fault Column.Formats
  | none => .ok []
  | some (.dict entries) => entries.mapM formatOf
  | some other => .error (.type (.formatsNotDict other.typeName))

/-- A result from keywords. Of a repeated keyword the last value counts. -/
def ofEntries (entries : List (String × Value)) (fallbacks : List Column) :
    Except Fault StepResult := do
  if entries.any fun entry => !keys.contains entry.1 then
    throw (.value .resultKeys)
  let fixes ← fixesOf (Value.lastOf entries "quick_fixes")
  let message ← (Value.lastOf entries "error").mapM Message.ofValue
  let first ← diagnosticOf message fixes
  let more ← (Value.lastOf entries "errors").mapM Diagnostic.listOfValue
  let table ← tableOf (Value.lastOf entries "dataframe")
  let json ← jsonOf (Value.lastOf entries "json")
  let formats ← formatsOf (Value.lastOf entries "column_formats")
  ofTable table (first ++ more.getD []) json formats fallbacks

end StepResult

namespace Verdict

/-- A table that may be left out. -/
def table? : Value → Option Table
  | .table t => some t
  | .none => some .empty
  | _ => none

/-- The JSON of a triple. -/
def members? : Value → Option Members
  | .none => some []
  | .dict entries => (Value.entriesToJson entries).toOption.map Members.ofList
  | _ => none

/-- The types of a tuple. -/
def typesOf (items : List Value) : String :=
  "(" ++ String.intercalate ", " (items.map Value.typeName) ++ ")"

/-- Diagnostics alone. -/
def ofDiagnostics (ds : List Diagnostic) : Verdict := .result (.ofDiagnostics ds)

/-- A table or nothing with diagnostics; or a message of a key and arguments. -/
def ofPair (first second : Value) (fallbacks : List Column) : Except Fault Verdict :=
  match table? first with
  | some table =>
    match Diagnostic.listOfValue second with
    | .ok ds => (StepResult.ofTable table ds [] [] fallbacks).map .result
    | .error fault =>
      if fault.isType then .ok (.bug (.pair (typesOf [first, second]) fault)) else .error fault
  | none =>
    -- Without a table in front the pair can only be a message of a key and arguments.
    match Diagnostic.listOfValue (.tuple [first, second]) with
    | .ok ds => .ok (ofDiagnostics ds)
    | .error fault => .ok (.bug (.pair (typesOf [first, second]) fault))

/-- A table, diagnostics and JSON, each of which may be left out. -/
def ofTriple (first second third : Value) (fallbacks : List Column) : Except Fault Verdict :=
  match Diagnostic.listOfValue second with
  | .ok ds =>
    match table? first, members? third with
    | some table, some json => (StepResult.ofTable table ds json [] fallbacks).map .result
    | _, _ => .ok (.bug (.triple (typesOf [first, second, third])))
  | .error fault =>
    if fault.isType then .ok (.bug (.triple (typesOf [first, second, third]))) else .error fault

/-- A dict that stands for a diagnostic. -/
def isDiagnostic (entries : List (String × Value)) : Bool :=
  (Value.lastOf entries "message").isSome && (Value.lastOf entries "quickFixes").isSome

/-- Judges a value. Columns that the module gave no format for take the one of the fallback. -/
def ofValue (v : Value) (fallbacks : List Column) : Except Fault Verdict :=
  match v with
  | .none => .ok (.result .empty)
  | .result r =>
    match r.table.checkStorage with
    | .ok () => .ok (.result r)
    | .error fault => .error (.storage fault)
  | .table t => (StepResult.ofTable t [] [] [] fallbacks).map .result
  | .dict entries =>
    if isDiagnostic entries then (Diagnostic.listOfValue v).map ofDiagnostics
    else (StepResult.ofEntries entries fallbacks).map .result
  | .tuple [first, second] => ofPair first second fallbacks
  | .tuple [first, second, third] => ofTriple first second third fallbacks
  | .tuple items => .ok (.bug (.tupleSize items.length))
  | other =>
    match Diagnostic.listOfValue other with
    | .ok ds => .ok (ofDiagnostics ds)
    | .error fault =>
      if fault.isTypeOrValue then .ok (.bug (.returnType other.typeName fault)) else .error fault

end Verdict

/-- The result of a returned value. -/
def StepResult.ofValue (v : Value) (fallbacks : List Column) : Except Fault StepResult :=
  (Verdict.ofValue v fallbacks).map Verdict.toResult

end Tabular
