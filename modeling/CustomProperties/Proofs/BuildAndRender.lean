import CustomProperties.Proofs.CommandOutcomes
import CustomProperties.Proofs.Elementwise
import CustomProperties.Proofs.WrittenFiles
import Mathlib

/-!
# What a build writes is what is printed

A build that succeeds has written the file of every module with content, and no later file has
replaced an earlier one (`wrote_of_failure_eq_none`).  Printing a module looks its content up in
the index, which holds the stylesheets as they were written.  So each accepted module is either
listed as skipped, and printing it prints nothing, or its file holds what is printed, up to the
line break at the end: `build_writes_what_render_prints`, which also says what the report of the
build counts.
-/

namespace CustomProperties

set_option autoImplicit false

/-! ## Writing without failure -/

section Writing

variable {files final : FileSystem} {directory : String} {stylesheets : List Stylesheet}
  {report : WriteReport}

/-- What has happened when writing did not fail: there was no conflict, the directory was made and
is at a location, and there all files were stored, since nothing stood against any of them. -/
structure Completed (files final : FileSystem) (directory : String) (base : Location)
    (stylesheets : List Stylesheet) : Prop where
  distinct : (fileNames stylesheets).Nodup
  made : (files.makeDirectories directory).2 = .ok ()
  led : (files.makeDirectories directory).1.DirectoryAt (FileSystem.names directory) base
  faultless : ∀ file ∈ outputFiles stylesheets,
    file.fault? (files.makeDirectories directory).1 directory base = none
  stored : Stored (files.makeDirectories directory).1 final base (outputFiles stylesheets)

theorem completed_of_failure_eq_none
    (ran : (writeStylesheets stylesheets directory : StateM FileSystem WriteReport).run files
      = (report, final)) (good : report.failure = none) :
    report = ⟨(scan stylesheets).skipped,
        (outputFiles stylesheets).map (OutputFile.written directory), none⟩ ∧
      ∃ base, Completed files final directory base stylesheets := by
  cases found : (scan stylesheets).conflict with
  | some conflict =>
    cases (writeStylesheets_run_of_conflict found).symm.trans ran
    cases good
  | none =>
    have distinct := (scan_conflict_eq_none_iff stylesheets).mp found
    cases made : (files.makeDirectories directory).2 with
    | error error =>
      cases (writeStylesheets_run_of_unmade distinct made).symm.trans ran
      cases good
    | ok _ =>
      obtain ⟨base, led⟩ := FileSystem.directoryAt_makeDirectories made
      have steps : ∀ file ∈ outputFiles stylesheets, IsStep file.name :=
        fun _ => isStep_of_mem_outputFiles
      let fault (file : OutputFile) : Option FileError :=
        file.fault? (files.makeDirectories directory).1 directory base
      obtain ⟨last, wrote, stored⟩ :=
        writeFiles_run directory fault steps distinct (directoryAt_directoryNames led)
          fun _ _ => rfl
      rw [writeStylesheets_run distinct made, wrote] at ran
      obtain ⟨rfl, rfl⟩ := Prod.mk.inj ran
      have faultless := (firstError?_eq_none_iff directory fault).mp good
      rw [goodPart_eq_self fault faultless] at stored ⊢
      have quiet : firstError? directory fault (outputFiles stylesheets) = none := good
      rw [quiet]
      exact ⟨rfl, base, distinct, made, led, faultless, stored⟩

/-- **Writing that does not fail writes the files of all stylesheets.** -/
theorem wrote_of_failure_eq_none
    (ran : (writeStylesheets stylesheets directory : StateM FileSystem WriteReport).run files
      = (report, final)) (good : report.failure = none) :
    report.written = (outputFiles stylesheets).map (OutputFile.written directory) ∧
      Wrote files final directory (outputFiles stylesheets) := by
  obtain ⟨rfl, base, completed⟩ := completed_of_failure_eq_none ran good
  have adds := FileSystem.addsDirectories_makeDirectories files directory
  have steps : ∀ file ∈ outputFiles stylesheets, IsStep file.name :=
    fun _ => isStep_of_mem_outputFiles
  exact ⟨rfl, completed.stored.wrote adds steps completed.faultless
    (directoryAt_directoryNames completed.led)⟩

theorem length_outputFiles (stylesheets : List Stylesheet) :
    (outputFiles stylesheets).length = stylesheets.countP (!·.isEmpty) := by
  induction stylesheets with
  | nil => rfl
  | cons stylesheet rest ih =>
    cases holds : stylesheet.text with
    | none =>
      rw [outputFiles_cons_none holds, ih,
        List.countP_cons_of_neg (by simp [Stylesheet.isEmpty, holds])]
    | some text =>
      rw [outputFiles_cons_some holds, List.length_cons, ih,
        List.countP_cons_of_pos (by simp [Stylesheet.isEmpty, holds])]

end Writing

namespace CommandLine

/-! ## Printing what was compiled -/

section Compiled

variable {files : FileSystem} {path : String} {requests : List ModuleRequest}

/-- **A stylesheet of a compilation is printed as its text.** -/
theorem render_prints_of_mem {stylesheet : Stylesheet}
    (loaded : modulesIn files path = .ok (.ofCompilation (compile requests)))
    (registered : unregistered? (.ofCompilation (compile requests)) = none)
    (member : stylesheet ∈ (compile requests).stylesheets) :
    (Command.render path stylesheet.moduleId).Prints files none (lineOf stylesheet.text) := by
  have found := VirtualModules.get?_contents_ofCompilation member
  have prints := render_prints loaded registered stylesheet.moduleId
  rw [unknown?, VirtualModules.has, Bindings.contains_eq_isSome_get?, VirtualModules.content?,
    found] at prints
  exact prints

/-- Without missing ids, every diagnostic is a warning. -/
theorem length_diagnostics_of_registered
    (registered : unregistered? (.ofCompilation (compile requests)) = none) :
    (compile requests).diagnostics.length
      = (compile requests).diagnostics.countP (!·.isFatal) := by
  have unnamed := countP_isFatal_compile requests defaultMaxDepth
  rw [unregistered?_ofCompilation] at registered
  split at registered
  · next none_unnamed =>
    have split_count := List.length_eq_countP_add_countP Diagnostic.isFatal
      (l := (compile requests).diagnostics)
    simp only [Bool.not_eq_true, Bool.decide_eq_false] at split_count
    omega
  · cases registered

end Compiled

/-! ## Builds and what they leave -/

/-- A build that succeeds got through all stages: it loaded and compiled requests, none of them
without id, wrote the stylesheets, and reported that. -/
theorem stages_of_succeeded {files final : FileSystem} {options directory : String}
    {outcome : Outcome} (ran : (Command.build options directory).runOn files = (outcome, final))
    (succeeded : outcome.failure = none) :
    ∃ text requests report,
      files.readText options = .ok text ∧ Options.parse text = .ok requests ∧
      modulesIn files options = .ok (.ofCompilation (compile requests)) ∧
      unregistered? (.ofCompilation (compile requests)) = none ∧
      (writeStylesheets (compile requests).stylesheets directory :
        StateM FileSystem WriteReport).run files = (report, final) ∧
      report.failure = none ∧
      outcome.output = buildReport options directory (.ofCompilation (compile requests))
        report.written.length := by
  cases usable : loadFailure? files options with
  | some failure =>
    obtain ⟨failed, failed_run, reason⟩ := runOn_of_loadFailure (.build options directory) usable
    cases failed_run.symm.trans ran
    cases succeeded.symm.trans reason
  | none =>
    obtain ⟨modules, loaded, registered⟩ := loadFailure?_eq_none_iff.mp usable
    obtain ⟨_, text, requests, read, parsed, rfl⟩ := (modulesIn_eq_ok_iff modules).mp loaded
    cases writing : (writeStylesheets (VirtualModules.ofCompilation (compile requests)).stylesheets
      directory : StateM FileSystem WriteReport).run files with
    | mk report later =>
      obtain ⟨log, built⟩ := build_runOn loaded registered writing
      rw [VirtualModules.stylesheets_ofCompilation] at writing
      cases good : report.failure with
      | some error =>
        rw [good] at built
        cases built.symm.trans ran
        cases succeeded
      | none =>
        rw [good] at built
        cases built.symm.trans ran
        exact ⟨text, requests, report, read, parsed, loaded, registered, writing, good, rfl⟩

/-- A module is printed as a build has written it to a directory: it was skipped and nothing is
printed, or its file holds what is printed but for the last line break. -/
inductive PrintedAsWritten (files final : FileSystem) (options directory : String)
    (stylesheet : Stylesheet) : Prop where
  | skipped
      (listed : moduleLine stylesheet
        = printed ("  " ++ dim (stylesheet.moduleId ++ " (no variables, skipped)")))
      (prints : (Command.render options stylesheet.moduleId).Prints files none "")
  | written {content : String}
      (listed : moduleLine stylesheet = printed ("  " ++ green "✓" ++ " " ++ stylesheet.moduleId))
      (stored : final.readText (pathIn directory (fileName stylesheet.moduleId)) = .ok content)
      (prints : (Command.render options stylesheet.moduleId).Prints files none (content ++ "\n"))

theorem printedAsWritten_of_wrote {files final : FileSystem} {options directory : String}
    {stylesheets : List Stylesheet} {stylesheet : Stylesheet}
    (wrote : Wrote files final directory (outputFiles stylesheets))
    (member : stylesheet ∈ stylesheets)
    (prints : (Command.render options stylesheet.moduleId).Prints files none
      (lineOf stylesheet.text)) :
    PrintedAsWritten files final options directory stylesheet := by
  cases holds : stylesheet.text with
  | none =>
    rw [holds, lineOf_none] at prints
    refine .skipped ?_ prints
    rw [moduleLine, if_pos (by rw [Stylesheet.isEmpty, holds, Option.isNone_none])]
  | some content =>
    rw [holds, lineOf_some] at prints
    have stored := wrote.texts _ (mem_outputFiles member holds)
    refine .written ?_ stored prints
    rw [moduleLine, if_neg (by rw [Stylesheet.isEmpty, holds]; exact Bool.false_ne_true)]

/-- **What a build writes is what is printed.**

After a build that succeeds, each accepted module is printed as it was written, before the build
and from the same options.  The report of the build lists the accepted modules once and in order.
It tells how many files were written, which is the number of modules that it marks so, and how many
warnings there are, unless there is none. -/
theorem build_writes_what_render_prints {files final : FileSystem} {options directory : String}
    {outcome : Outcome} (ran : (Command.build options directory).runOn files = (outcome, final))
    (succeeded : outcome.status = 0) :
    ∃ text requests accepted diagnostics,
      files.readText options = .ok text ∧ Options.parse text = .ok requests ∧
      ListedInOrder (Yields requests defaultMaxDepth) accepted ∧
      (accepted.map Stylesheet.moduleId).Nodup ∧
      ListedInOrder (Reports requests defaultMaxDepth) diagnostics ∧
      (∀ stylesheet ∈ accepted,
        ((Command.render options stylesheet.moduleId).runOn files).1.status = 0 ∧
        PrintedAsWritten files final options directory stylesheet) ∧
      ∃ report paths,
        (writeStylesheets accepted directory : StateM FileSystem WriteReport).run files
          = (report, final) ∧
        report.paths = .ok paths ∧
        outcome.output.countP (Chunk.begins writtenMark) = paths.length ∧
        let warnings := diagnostics.countP (!·.isFatal)
        outcome.output = heading "Build" options ++ accepted.map moduleLine ++ [printed rule]
          ++ [.text (green "Wrote" ++ " " ++ toString paths.length ++ " stylesheet(s) to "
                ++ directory ++ " in "),
              .elapsed,
              printed ("ms" ++ if 0 < warnings
                then " (" ++ yellow (toString warnings ++ " warning(s)") ++ ")" else "")] := by
  obtain ⟨text, requests, report, read, parsed, loaded, registered, writing, good, reported⟩ :=
    stages_of_succeeded ran ((outcome.status_eq_zero_iff).mp succeeded)
  obtain ⟨written, wrote⟩ := wrote_of_failure_eq_none writing good
  have paths : report.paths = .ok (report.written.map WrittenFile.path) := by
    rw [WriteReport.paths, good]
  refine ⟨text, requests, (compile requests).stylesheets, (compile requests).diagnostics, read,
    parsed, listedInOrder_stylesheets requests defaultMaxDepth,
    nodup_moduleId_compile requests defaultMaxDepth,
    listedInOrder_diagnostics requests defaultMaxDepth, ?_, report, _, writing, paths, ?_, ?_⟩
  · intro stylesheet member
    have prints := render_prints_of_mem loaded registered member
    exact ⟨prints.status_eq_zero_iff.mpr rfl, printedAsWritten_of_wrote wrote member prints⟩
  · rw [reported, countP_writtenMark, VirtualModules.stylesheets_ofCompilation, written,
      List.length_map, List.length_map, length_outputFiles]
  · rw [reported, ← length_diagnostics_of_registered registered, List.length_map, buildReport,
      VirtualModules.stylesheets_ofCompilation]
    rfl

set_option maxRecDepth 20000 in
/-- The first of two modules has content: its file holds what is printed. -/
theorem build_writes_what_render_prints_first :
    let text := "[[\"x:a\",\x7b\"n\":\"1\"\x7d],[\"b\"]]"
    let files := FileSystem.empty.place "options.json" (.file text.toUTF8)
    let built := (Command.build "options.json" "out").runOn files
    let rendered := (Command.render "options.json" "x:a").runOn files
    built.1.status = 0 ∧
    ∃ content, built.2.readText "out/a.css" = .ok content ∧
      rendered.1.stdout "0.1" = content ++ "\n" := by
  intro text files built rendered
  have succeeded : built.1.status = 0 := by decide +kernel
  obtain ⟨text', requests, accepted, _, read', parsed', listed, _, _, printed_as, _⟩ :=
    @build_writes_what_render_prints files built.2 "options.json" "out" built.1 rfl succeeded
  have located : files.locate "options.json"
      = .ok ⟨.file text.toUTF8, [("options.json", files.top)]⟩ := rfl
  have read : files.readText "options.json" = .ok text :=
    FileSystem.readText_of_locate located rfl
  cases read.symm.trans read'
  let members : Bindings String Json := ⟨[⟨"n", .string "1"⟩]⟩
  have holds : Json.parse text
      = .ok (.array [.array [.string "x:a", .object members], .array [.string "b"]]) := by cbv
  let first : ModuleRequest := { moduleId := some "x:a", sources := [.ofJson (.object members)] }
  have parsed : Options.parse text = .ok [first, { moduleId := some "b" }] := by
    rw [Options.parse_of_array holds]
    rfl
  cases parsed.symm.trans parsed'
  have fares : FirstWithId [first, { moduleId := some "b" }] 0 "x:a" :=
    ⟨⟨rfl, by decide⟩, fun earlier before => absurd before (Nat.not_lt_zero earlier)⟩
  have member := (listed.mem_iff _).mpr ⟨0, .admitted rfl fares⟩
  obtain ⟨_, as_written⟩ := printed_as _ member
  have path : pathIn "out" (fileName "x:a") = "out/a.css" := by decide +kernel
  have visible : rendered.1.stdout "0.1" ≠ "" := by decide +kernel
  cases as_written with
  | skipped listed prints => exact absurd (prints.stdout "0.1") visible
  | @written content listed stored prints =>
    rw [path] at stored
    exact ⟨succeeded, content, stored, prints.stdout "0.1"⟩

end CommandLine

end CustomProperties
