import CustomProperties.CommandLine.Arguments
import CustomProperties.Log.Build
import CustomProperties.Log.Filter

/-!
# Running commands

Every command loads and compiles an options file; then `build` writes the
stylesheets to a directory, `render` and `bundle` print some of them, and `check`
prints the diagnostics.  A run yields what is printed, the log, and the failure that
ended it, if one did.  It does not know which of its records will be shown.
-/

namespace CustomProperties.CommandLine

set_option autoImplicit false

/-! ## Failures -/

/-- Why a command failed. -/
inductive Failure where
  | optionsNotFound (path : String)
  | load (error : LoadError)
  /-- Some requests have no id. -/
  | unregistered (count : Nat)
  | unknownModule (moduleId : String)
  | write (error : WriteError)

/-- The wording of a failure. -/
def Failure.message : Failure → String
  | .optionsNotFound path => "Options file not found: " ++ path
  | .load error => error.message
  | .unregistered count => toString count ++ " module option(s) could not be registered"
  | .unknownModule moduleId => "Unknown module id: " ++ moduleId
  | .write error => error.message

/-- The wording of what caused a failure, if that is an error of its own. -/
def Failure.cause? : Failure → Option String
  | .load (.options error) => some error.message
  | .write (.directory error) => some error.message
  | _ => none

/-- What is reported of a failure. -/
def Failure.report (failure : Failure) : String :=
  "Error: " ++ failure.message ++ "\n" ++
    match failure.cause? with
    | some cause => "\nCaused by:\n    " ++ cause ++ "\n"
    | none => ""

/-! ## Output -/

/-- A piece of what is printed. -/
inductive Chunk where
  | text (text : String)
  /-- The milliseconds that the command has taken so far. -/
  | elapsed
  deriving DecidableEq, Repr

/-- What is printed when the command has taken the time that `elapsed` tells. -/
def outputText (elapsed : String) (chunks : List Chunk) : String :=
  String.join <| chunks.map fun
    | .text text => text
    | .elapsed => elapsed

/-- A line of output. -/
def printed (line : String) : Chunk := .text (line ++ "\n")

/-- What a run came to. -/
structure Outcome where
  output : List Chunk := []
  log : List Log.Record := []
  failure : Option Failure := none

/-- The exit status of a run. -/
def Outcome.status (outcome : Outcome) : Nat := if outcome.failure.isSome then 1 else 0

/-- What a run prints to the side: complaints about the filter, the records that are
shown, and the failure. -/
def Outcome.sideText (outcome : Outcome) (filter : Log.Filter) : String :=
  String.join (filter.complaints.map (· ++ "\n")) ++
    String.join ((outcome.log.filter filter.shows).map fun record => record.text ++ "\n") ++
    match outcome.failure with
    | some failure => failure.report
    | none => ""

/-! ## Colours -/

/-- A text between the codes that set and unset a terminal style. -/
def styled (code text : String) : String := "\x1b[" ++ code ++ "m" ++ text ++ "\x1b[0m"

/-- Bold text. -/
def bold (text : String) : String := styled "1" text

/-- Dim text. -/
def dim (text : String) : String := styled "2" text

/-- Red text. -/
def red (text : String) : String := styled "31" text

/-- Green text. -/
def green (text : String) : String := styled "32" text

/-- Yellow text. -/
def yellow (text : String) : String := styled "33" text

/-- A horizontal line. -/
def rule : String := String.ofList (List.replicate 50 '─')

/-- The head of a report. -/
def heading (title options : String) : List Chunk :=
  [printed ("\n" ++ bold (pluginName ++ " " ++ title) ++ " - " ++ options), printed rule]

/-! ## Loading -/

variable {m : Type → Type} [Monad m] [Disk m]

/-- Load and compile an options file, and log it. -/
def loadModules (path : String) : m (List Log.Record × Except Failure VirtualModules) := do
  if !(← Disk.pathExists path) then
    return ([], .error (.optionsNotFound path))
  let report ← loadOptions path
  let loading := Log.ofLoading path report
  match report.result with
  | .error error => return (loading, .error (.load error))
  | .ok requests =>
    let (modules, delivered) :=
      VirtualModules.build requests (loading ++ Log.ofCompiling requests)
    return (delivered ++ Log.ofIndexing modules, .ok modules)

/-- The failure of modules of which some could not be registered. -/
def unregistered? (modules : VirtualModules) : Option Failure :=
  match (modules.diagnostics.filter Diagnostic.isFatal).length with
  | 0 => none
  | count => some (.unregistered count)

/-- Load modules and go on with them if all of them could be registered. -/
def withModules (path : String)
    (next : VirtualModules → List Log.Record → m Outcome) : m Outcome := do
  match ← loadModules path with
  | (log, .error failure) => return { log, failure := some failure }
  | (log, .ok modules) =>
    match unregistered? modules with
    | some failure => return { log, failure := some failure }
    | none => next modules log

/-! ## Building -/

/-- The line of a module in the report of a build. -/
def moduleLine (stylesheet : Stylesheet) : Chunk :=
  if stylesheet.isEmpty then
    printed ("  " ++ dim (stylesheet.moduleId ++ " (no variables, skipped)"))
  else printed ("  " ++ green "✓" ++ " " ++ stylesheet.moduleId)

/-- The summary of a build. -/
def buildSummary (files warnings : Nat) (directory : String) : List Chunk :=
  [.text (green "Wrote" ++ " " ++ toString files ++ " stylesheet(s) to " ++ directory ++ " in "),
    .elapsed,
    printed ("ms" ++
      if 0 < warnings then " (" ++ yellow (toString warnings ++ " warning(s)") ++ ")" else "")]

/-- Write the stylesheets of an options file to a directory. -/
def build (options directory : String) : m Outcome :=
  withModules options fun modules log => do
    let report ← writeStylesheets modules.stylesheets directory
    let log := log ++ Log.ofWriting report
    match report.failure with
    | some error => return { output := heading "Build" options, log, failure := some (.write error) }
    | none =>
      return {
        output := heading "Build" options ++ modules.stylesheets.map moduleLine ++ [printed rule]
          ++ buildSummary report.written.length modules.diagnostics.length directory
        log }

/-! ## Printing -/

/-- Print one stylesheet of an options file. -/
def render (options moduleId : String) : m Outcome :=
  withModules options fun modules log =>
    if modules.has moduleId then
      match modules.content? moduleId with
      | some css => return { output := [printed css], log }
      | none =>
        return { log := log ++ [⟨.info, .command, "Module " ++ moduleId ++ " declares no variables"⟩] }
    else return { log, failure := some (.unknownModule moduleId) }

/-- Print several stylesheets of an options file, in the order asked for. -/
def bundle (options : String) (moduleIds : List String) : m Outcome :=
  withModules options fun modules log =>
    match moduleIds.find? (!modules.has ·) with
    | some unknown => return { log, failure := some (.unknownModule unknown) }
    | none => return { output := (modules.bundle? moduleIds).toList.map printed, log }

/-! ## Checking -/

/-- The line of a diagnostic in the report of a check. -/
def diagnosticLine (diagnostic : Diagnostic) : Chunk :=
  let label :=
    match diagnostic.severity with
    | .error => red Severity.error.name
    | .warning => yellow Severity.warning.name
  printed ("  " ++ label ++ ": " ++ diagnostic.message)

/-- The summary of a check. -/
def checkSummary (modules : VirtualModules) : Chunk :=
  printed (green (toString modules.stylesheets.length ++ " module(s)") ++ ", "
    ++ toString (modules.stylesheets.filter Stylesheet.isEmpty).length ++ " without variables")

/-- Print the diagnostics of an options file. -/
def check (options : String) : m Outcome := do
  match ← loadModules options with
  | (log, .error failure) => return { log, failure := some failure }
  | (log, .ok modules) =>
    return {
      output := heading "Check" options ++ modules.diagnostics.map diagnosticLine
        ++ [checkSummary modules]
      log
      failure := unregistered? modules }

/-! ## Any command -/

/-- **Run a command.** -/
def run : Command → m Outcome
  | .build options directory => build options directory
  | .render options moduleId => render options moduleId
  | .bundle options moduleIds => bundle options moduleIds
  | .check options => check options

/-- The level up to which records are shown where no directive speaks. -/
def Invocation.level (invocation : Invocation) : Log.Level :=
  if invocation.verbose then .debug else .warn

/-- Which records of a command are shown, given the directives in force. -/
def Invocation.filter (invocation : Invocation) (directives : String) : Log.Filter :=
  .ofText invocation.level directives

/-- The line that tells the version. -/
def versionLine : String := pluginName ++ " 0.1.0"

end CustomProperties.CommandLine
