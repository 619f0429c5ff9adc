import CustomProperties.Flattening

/-!
# Diagnostics

What a build has to say about its requests, in the order in which it was found.
A request without an id is an error, because its module cannot be registered; all
else is a warning, and the build goes on with what it has.  Each diagnostic is one
line with the tag of the program in front.  Whoever builds modules receives the
lines through a `DiagnosticSink`.
-/

namespace CustomProperties

set_option autoImplicit false

/-- The name that tags every diagnostic line. -/
def pluginName : String := "cssvars"

/-- How grave a diagnostic is. -/
inductive Severity where
  | error
  | warning
  deriving DecidableEq, Repr

/-- The name of a severity. -/
def Severity.name : Severity → String
  | .error => "error"
  | .warning => "warning"

/-- Something to report about the requests of a build. -/
inductive Diagnostic where
  /-- The request at `index` has no id. -/
  | emptyModuleId (index : Nat)
  /-- The request at `index` has the id of an earlier one. -/
  | duplicateModuleId (moduleId : String) (index : Nat)
  /-- Some parts of the variables of a module were skipped. -/
  | malformedValue (moduleId : String) (problems : List Problem)
  deriving DecidableEq, Repr

namespace Diagnostic

/-- How grave a diagnostic is. -/
def severity : Diagnostic → Severity
  | .emptyModuleId _ => .error
  | .duplicateModuleId _ _ => .warning
  | .malformedValue _ _ => .warning

/-- Whether a diagnostic means that a module is missing. -/
def isFatal (diagnostic : Diagnostic) : Bool := diagnostic.severity = .error

/-- The wording of a diagnostic. -/
def message : Diagnostic → String
  | .emptyModuleId index => "empty module id found in plugin options at index " ++ toString index
  | .duplicateModuleId moduleId index =>
    "duplicate module id, \"" ++ moduleId ++ "\", found in plugin options at index "
      ++ toString index
  | .malformedValue moduleId _ =>
    "css variables object for module \"" ++ moduleId ++ "\" is malformed"

/-- The wording with the tag in front. -/
def line (diagnostic : Diagnostic) : String :=
  "[plugin:" ++ pluginName ++ "] " ++ diagnostic.message

end Diagnostic

/-! ## Delivery -/

/-- A receiver of diagnostic lines. -/
class DiagnosticSink (σ : Type) where
  warn : σ → String → σ
  error : σ → String → σ

namespace Diagnostics

/-- Whether any of the diagnostics is fatal. -/
def hasFatal (diagnostics : List Diagnostic) : Bool := diagnostics.any Diagnostic.isFatal

/-- The tagged lines, in order. -/
def lines (diagnostics : List Diagnostic) : List String := diagnostics.map Diagnostic.line

/-- Deliver the line of a diagnostic as an error or as a warning. -/
def deliver {σ : Type} [DiagnosticSink σ] (sink : σ) (diagnostic : Diagnostic) : σ :=
  match diagnostic.severity with
  | .error => DiagnosticSink.error sink diagnostic.line
  | .warning => DiagnosticSink.warn sink diagnostic.line

/-- Deliver every diagnostic, in order. -/
def emit {σ : Type} [DiagnosticSink σ] (diagnostics : List Diagnostic) (sink : σ) : σ :=
  diagnostics.foldl deliver sink

end Diagnostics

/-- A receiver that keeps the lines it is given. -/
structure CollectingSink where
  warnings : List String := []
  errors : List String := []
  deriving DecidableEq, Repr

/-- Whether an error has been delivered. -/
def CollectingSink.hasErrored (sink : CollectingSink) : Bool := !sink.errors.isEmpty

instance : DiagnosticSink CollectingSink where
  warn sink line := { sink with warnings := sink.warnings ++ [line] }
  error sink line := { sink with errors := sink.errors ++ [line] }

end CustomProperties
