import CustomProperties.Proofs.CommandOutcomes
import CustomProperties.Proofs.Elementwise
import CustomProperties.Proofs.FileTrees
import CustomProperties.Proofs.VerboseFlag

/-!
# What the log shows

A run of a command can be seen from outside (`Invocation.seen`): how it behaves, that is its exit
status, what it prints, the files that it leaves and the failure that it reports; and what it shows
of its log.  Only the latter depends on the flag and on the directives.

Without directives the flag decides between two levels.  What is shown without it are the records
that are warnings or errors, and these come from delivering the diagnostics alone
(`grave_loadLog`): no other stage of loading leaves any, and no command adds one
(`grave_log_runOn`).

The main statement, `logging_changes_nothing`, is about two command lines, of which one has the
flag in addition.
-/

namespace CustomProperties

set_option autoImplicit false

/-! ## Warnings and errors in logs -/

namespace Log

/-- Whether a record is a warning or an error. -/
def Record.isGrave (record : Record) : Bool := record.level = .error || record.level = .warn

/-- The warnings and errors of a log. -/
def grave (log : List Record) : List Record := log.filter Record.isGrave

theorem grave_append (first second : List Record) :
    grave (first ++ second) = grave first ++ grave second :=
  List.filter_append _ _

/-- Records of lesser levels are passed over. -/
theorem grave_map_eq_nil {α : Type} {make : α → Record}
    (harmless : ∀ value, (make value).isGrave = false) (values : List α) :
    grave (values.map make) = [] := by
  refine List.filter_eq_nil_iff.mpr ?_
  intro record member
  obtain ⟨value, _, rfl⟩ := List.mem_map.mp member
  rw [harmless]
  exact Bool.false_ne_true

@[simp]
theorem grave_ofLoading (path : String) (report : LoadReport) :
    grave (ofLoading path report) = [] := by
  rw [ofLoading, grave_append, grave_map_eq_nil (fun _ => rfl)]
  cases report.result <;> rfl

theorem grave_ofCandidate (maxDepth : Nat) (candidate : Candidate) :
    grave (ofCandidate maxDepth candidate) = [] := by
  obtain ⟨index, request, admission⟩ := candidate
  cases admission with
  | unnamed => rfl
  | repeated moduleId => rfl
  | admitted moduleId =>
    rw [ofCandidate, grave_append, grave_map_eq_nil (fun _ => rfl)]
    rfl

@[simp]
theorem grave_ofCompiling (requests : List ModuleRequest) (maxDepth : Nat) :
    grave (ofCompiling requests maxDepth) = [] := by
  rw [ofCompiling, grave, List.filter_flatMap]
  exact List.flatMap_eq_nil_iff.mpr fun candidate _ => grave_ofCandidate maxDepth candidate

@[simp]
theorem grave_ofIndexing (modules : VirtualModules) : grave (ofIndexing modules) = [] := rfl

@[simp]
theorem grave_ofWriting (report : WriteReport) : grave (ofWriting report) = [] := by
  rw [ofWriting, grave_append, grave_map_eq_nil (fun _ => rfl), grave_map_eq_nil (fun _ => rfl)]
  rfl

end Log

/-! ## Diagnostics in logs -/

/-- The record of a diagnostic: an error if a request has no id, and otherwise a warning. -/
def Diagnostic.record (diagnostic : Diagnostic) : Log.Record :=
  ⟨if diagnostic.isEmptyModuleId then .error else .warn, .modules, diagnostic.line⟩

theorem Diagnostic.isGrave_record (diagnostic : Diagnostic) : diagnostic.record.isGrave = true := by
  cases diagnostic <;> rfl

/-- **A log that diagnostics are delivered to keeps a record of each of them, in order.** -/
theorem Diagnostics.emit_eq_append_records (diagnostics : List Diagnostic)
    (log : List Log.Record) :
    Diagnostics.emit diagnostics log = log ++ diagnostics.map Diagnostic.record := by
  induction diagnostics generalizing log with
  | nil => exact (List.append_nil log).symm
  | cons diagnostic rest ih =>
    have delivered : Diagnostics.deliver log diagnostic = log ++ [diagnostic.record] := by
      cases diagnostic <;> rfl
    rw [List.map_cons, List.append_cons, ← delivered]
    exact ih _

theorem Log.grave_records (diagnostics : List Diagnostic) :
    grave (diagnostics.map Diagnostic.record) = diagnostics.map Diagnostic.record := by
  refine List.filter_eq_self.mpr ?_
  intro record member
  obtain ⟨diagnostic, _, rfl⟩ := List.mem_map.mp member
  exact diagnostic.isGrave_record

namespace CommandLine

/-! ## Warnings and errors of commands -/

section Commands

variable {files : FileSystem} {path : String}

/-- **Loading warns of its diagnostics and of nothing else**, and of nothing at all if it fails. -/
theorem grave_loadLog (files : FileSystem) (path : String) :
    Log.grave (loadLog files path) =
      match requestsIn files path with
      | .error _ => []
      | .ok requests => (compile requests).diagnostics.map Diagnostic.record := by
  rw [loadLog, requestsIn]
  cases files.pathExists path with
  | false => rfl
  | true =>
    simp only [if_true]
    cases (loadReport files path).result with
    | error error => exact Log.grave_ofLoading _ _
    | ok requests =>
      simp only [VirtualModules.build, Diagnostics.emit_eq_append_records, Log.grave_append,
        Log.grave_ofLoading, Log.grave_ofCompiling, Log.grave_ofIndexing, Log.grave_records,
        List.nil_append, List.append_nil]
      rfl

/-- A command that goes on with its modules without warning of anything warns of what loading
does. -/
theorem grave_log_withModules {next : VirtualModules → List Log.Record → StateM FileSystem Outcome}
    (adds : ∀ modules log, Log.grave ((next modules log).run files).1.log = Log.grave log) :
    Log.grave ((withModules path next).run files).1.log = Log.grave (loadLog files path) := by
  rw [withModules, FileSystem.run_bind, loadModules_run_eq]
  cases modulesIn files path with
  | error failure => rfl
  | ok modules =>
    cases registered : unregistered? modules with
    | some failure => simp only [registered]; rfl
    | none =>
      simp only [registered]
      exact adds modules _

/-- **No command warns of more than loading does.** -/
theorem grave_log_runOn (command : Command) (files : FileSystem) :
    Log.grave (command.runOn files).1.log = Log.grave (loadLog files command.options) := by
  cases command with
  | build options directory =>
    refine grave_log_withModules ?_
    intro modules log
    have wrote (report : WriteReport) :
        Log.grave (log ++ Log.ofWriting report) = Log.grave log := by
      rw [Log.grave_append, Log.grave_ofWriting, List.append_nil]
    rw [FileSystem.run_bind]
    dsimp only
    split
    next => exact wrote _
    next => exact wrote _
  | render options moduleId =>
    refine grave_log_withModules ?_
    intro modules log
    split
    next =>
      split
      next => rfl
      next => exact (Log.grave_append _ _).trans (List.append_nil _)
    next => rfl
  | bundle options moduleIds =>
    refine grave_log_withModules ?_
    intro modules log
    split
    next => rfl
    next => rfl
  | check options =>
    rw [Command.runOn, run, check, FileSystem.run_bind, loadModules_run_eq]
    cases modulesIn files options <;> rfl

end Commands

/-! ## What is seen of a run -/

/-- How a run behaves. -/
structure Behaviour where
  status : Nat
  /-- What it prints, with the time that it has taken left open. -/
  output : List Chunk
  /-- The files that it leaves. -/
  files : FileSystem
  /-- What it reports of its failure, if it failed. -/
  report : Option String

/-- What can be seen of a run. -/
structure Seen extends Behaviour where
  /-- What it says about directives that cannot be read. -/
  complaints : List String
  /-- The records that it shows. -/
  records : List Log.Record

/-- What is seen of running an invocation under directives. -/
def Invocation.seen (invocation : Invocation) (directives : String) (files : FileSystem) : Seen :=
  let ran := invocation.command.runOn files
  let filter := invocation.filter directives
  { status := ran.1.status
    output := ran.1.output
    files := ran.2
    report := ran.1.failure.map Failure.report
    complaints := filter.complaints
    records := ran.1.log.filter filter.shows }

/-- What is seen of the program with arguments, if they ask for a command. -/
def seen? (arguments : List String) (directives : String) (files : FileSystem) : Option Seen :=
  match parse arguments with
  | .run invocation => some (invocation.seen directives files)
  | _ => none

/-- How the program behaves with arguments, if they ask for a command. -/
def behaviour? (arguments : List String) (directives : String) (files : FileSystem) :
    Option Behaviour :=
  (seen? arguments directives files).map Seen.toBehaviour

theorem seen?_of_parse {arguments : List String} {invocation : Invocation}
    (asked : parse arguments = .run invocation) (directives : String) (files : FileSystem) :
    seen? arguments directives files = some (invocation.seen directives files) := by
  rw [seen?, asked]

/-- **How the program behaves is a matter of the command** and of the files. -/
theorem behaviour?_congr {arguments arguments' : List String} {command : Command}
    {verbose verbose' : Bool} (asked : parse arguments = .run ⟨command, verbose⟩)
    (asked' : parse arguments' = .run ⟨command, verbose'⟩) (directives directives' : String)
    (files : FileSystem) :
    behaviour? arguments directives files = behaviour? arguments' directives' files := by
  rw [behaviour?, behaviour?, seen?_of_parse asked, seen?_of_parse asked']
  rfl

/-- What is seen to the side: complaints, records and the failure. -/
def Seen.sideText (seen : Seen) : String :=
  String.join (seen.complaints.map (· ++ "\n")) ++
    String.join (seen.records.map fun record => record.text ++ "\n") ++ seen.report.getD ""

/-- **A run prints to the side what is seen there.** -/
theorem sideText_seen (invocation : Invocation) (directives : String) (files : FileSystem) :
    (invocation.seen directives files).sideText
      = (invocation.command.runOn files).1.sideText (invocation.filter directives) := by
  rw [Outcome.sideText, Seen.sideText, Invocation.seen]
  cases (invocation.command.runOn files).1.failure <;> rfl

/-! ## Without directives -/

/-- Without the flag, warnings and errors are shown. -/
theorem records_seen_quiet (command : Command) (files : FileSystem) :
    ((⟨command, false⟩ : Invocation).seen "" files).records
      = Log.grave (command.runOn files).1.log := by
  refine List.filter_congr ?_
  intro record _
  obtain ⟨level, origin, message⟩ := record
  cases level <;> rfl

/-- With the flag, more than these are shown, in between. -/
theorem grave_records_seen_loud (command : Command) (files : FileSystem) :
    Log.grave ((⟨command, true⟩ : Invocation).seen "" files).records
      = Log.grave (command.runOn files).1.log := by
  refine List.filter_filter.trans (List.filter_congr ?_)
  intro record _
  obtain ⟨level, origin, message⟩ := record
  cases level <;> rfl

/-- **Logging changes nothing.**

Let a command line without the flag ask for a command.  With the flag in front, and with other
directives or none, the program behaves in the same way.  The flag may as well stand anywhere before
two dashes but in the place of a directory, which is a misuse and not the case at the end.

Without directives, what is shown without the flag is what is shown with the flag, as far as that is
warnings and errors.  If the options cannot be loaded, nothing but the failure is shown.  Otherwise
a record of each diagnostic is shown, in the order in which they are found. -/
theorem logging_changes_nothing {first second : List String} {command : Command} {flag : String}
    (known : flag ∈ flags) (asked : parse (first ++ second) = .run ⟨command, false⟩)
    (files : FileSystem) :
    (∀ directives directives' : String,
      behaviour? (first ++ second) directives' files
        = behaviour? (first ++ second) directives files ∧
      behaviour? (flag :: (first ++ second)) directives' files
        = behaviour? (first ++ second) directives files) ∧
    ("--" ∉ first →
      parse (first ++ flag :: second) = parse (flag :: (first ++ second)) ∨
        parse (first ++ flag :: second) = .misuse ∧ second ≠ []) ∧
    ∃ quiet loud,
      seen? (first ++ second) "" files = some quiet ∧
      seen? (flag :: (first ++ second)) "" files = some loud ∧
      quiet.complaints = [] ∧
      quiet.records = Log.grave loud.records ∧
      match requestsIn files command.options with
      | .error failure => quiet.report = some failure.report ∧ quiet.records = []
      | .ok requests =>
        quiet.records = (compile requests).diagnostics.map Diagnostic.record ∧
          ListedInOrder (Reports requests defaultMaxDepth) (compile requests).diagnostics := by
  obtain ⟨in_front, anywhere⟩ := parse_insert_flag known asked
  refine ⟨?_, ?_, _, _, seen?_of_parse asked _ files, seen?_of_parse in_front _ files, rfl, ?_, ?_⟩
  · intro directives directives'
    exact ⟨behaviour?_congr asked asked _ _ files, behaviour?_congr in_front asked _ _ files⟩
  · rw [in_front]
    exact anywhere
  · exact (records_seen_quiet command files).trans (grave_records_seen_loud command files).symm
  · have records := (records_seen_quiet command files).trans (grave_log_runOn command files)
    rw [grave_loadLog] at records
    cases loaded : requestsIn files command.options with
    | error failure =>
      rw [loaded] at records
      refine ⟨?_, records⟩
      have failed : loadFailure? files command.options = some failure := by
        rw [loadFailure?, modulesIn, loaded]
        rfl
      obtain ⟨outcome, ran, reason⟩ := runOn_of_loadFailure command failed
      rw [Invocation.seen, ran]
      exact congrArg (Option.map Failure.report) reason
    | ok requests =>
      rw [loaded] at records
      exact ⟨records, listedInOrder_diagnostics requests defaultMaxDepth⟩

set_option maxRecDepth 20000 in
/-- A request without id and a repeated one: with the flag and a directive a check behaves as
before, and with neither it shows an error and a warning. -/
theorem logging_changes_nothing_nameless :
    let text := "[[\"\"],[\"x\"],[\"x\"]]"
    let files := FileSystem.empty.place "options.json" (.file text.toUTF8)
    let command := Command.check "options.json"
    ("-v" ∈ flags ∧ parse (["check"] ++ ["options.json"]) = .run ⟨command, false⟩) ∧
    parse ["check", "-v", "options.json"] = .run ⟨command, true⟩ ∧
    behaviour? ["-v", "check", "options.json"] "cssvars_core=trace" files
      = behaviour? ["check", "options.json"] "" files ∧
    ∃ quiet, seen? ["check", "options.json"] "" files = some quiet ∧
      quiet.records.map Log.Record.text =
        ["ERROR [plugin:cssvars] empty module id found in plugin options at index 0",
        "WARN [plugin:cssvars] duplicate module id, \"x\", "
          ++ "found in plugin options at index 2"] := by
  intro text files command
  have known : "-v" ∈ flags := by decide
  have asked : parse (["check"] ++ ["options.json"]) = .run ⟨command, false⟩ := by decide
  have located : files.locate "options.json"
      = .ok ⟨.file text.toUTF8, [("options.json", files.top)]⟩ := rfl
  have read : files.readText "options.json" = .ok text :=
    FileSystem.readText_of_locate located rfl
  let item (moduleId : String) : Json := .array [.string moduleId]
  let requests : List ModuleRequest :=
    [{ moduleId := some "" }, { moduleId := some "x" }, { moduleId := some "x" }]
  have holds : Json.parse text = .ok (.array [item "", item "x", item "x"]) := by cbv
  have parsed : Options.parse text = .ok requests := by
    rw [Options.parse_of_array holds]
    rfl
  have loaded : requestsIn files command.options = .ok requests := by
    have present : files.pathExists "options.json" = true := rfl
    rw [Command.options, requestsIn, if_pos present, loadReport, read]
    dsimp only
    rw [LoadReport.result_ofText, parsed]
    rfl
  obtain ⟨same, anywhere, quiet, loud, ran, _, _, _, shown⟩ :=
    logging_changes_nothing known asked files
  rw [loaded] at shown
  refine ⟨⟨known, asked⟩, ?_, (same "" _).2, quiet, ran, ?_⟩
  · rcases anywhere (by decide) with taken | ⟨misused, _⟩
    · exact taken.trans (by decide)
    · exact absurd misused (by decide)
  · rw [shown.1]
    decide +kernel

end CommandLine

end CustomProperties
