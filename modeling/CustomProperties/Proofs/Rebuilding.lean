import CustomProperties.Proofs.BuildAndRender

/-!
# Building again

A build that succeeded leaves a file system in which nothing is left to do.  The directory is
there, so making it again changes nothing (`makeDirectories_of_directoryAt`).  Every file holds
its text, so writing it again puts in its place what is there (`OutputFile.write_of_present`).
And as long as none of the written files is the options file, the path to the options leads to
the same text as before, since directories stay and no other file was touched
(`readText_of_sameFileAt`).

So the same build on the file system that it has left succeeds, prints the same and leaves
everything exactly as it is: `build_idempotent`.
-/

namespace CustomProperties

set_option autoImplicit false

namespace FileSystem

variable {files later : FileSystem} {path : String} {base : Location}

/-! ## What is there already -/

theorem put_of_get? {location : Location} {item : Item} (there : files.get? location = some item) :
    files.put location item = files := by
  rw [put, Item.put_of_get? there]
  rfl

/-- A name that has been followed is not too long. -/
theorem short_of_walk {place last : Place} {name : String} (walked : walk place [name] = .ok last) :
    name.utf8ByteSize ≤ nameLimit := by
  by_contra long
  rw [Nat.not_le] at long
  simp only [walk] at walked
  split at walked
  · cases walked
  · split at walked
    · next here =>
      rw [isHere, Bool.or_eq_true, decide_eq_true_eq, decide_eq_true_eq] at here
      rcases here with rfl | rfl
      · exact absurd long (by decide)
      · exact absurd long (by decide)
    · split at walked
      · next up =>
        subst up
        exact absurd long (by decide)
      · cases walked

/-- A directory that is there cannot be made. -/
theorem makeDirectory_of_directoryAt {directory : List String}
    (found : DirectoryAt files directory.reverse base) :
    files.makeDirectory directory = .error .alreadyExists := by
  cases directory with
  | nil => rfl
  | cons name before =>
    obtain ⟨place, walked, _, _⟩ := found
    rw [List.reverse_cons, walk_append] at walked
    cases above : walk files.start before.reverse with
    | error error =>
      rw [above] at walked
      cases walked
    | ok last =>
      rw [above] at walked
      have inside := isDirectory_of_walk_cons walked
      have short := short_of_walk walked
      simp only [makeDirectory, holder, above, inside, Bool.not_true, Bool.false_eq_true, if_false,
        if_neg (Nat.not_lt.mpr short)]
      split
      · rfl
      · next leads =>
        have down := down?_of_walk (by simpa [LeadsDown] using leads) walked
        obtain ⟨child, entry, _⟩ := Option.map_eq_some_iff.mp down
        rw [entry, Option.isSome_some, if_pos rfl]

theorem leadsToDirectory_of_directoryAt {directory : List String}
    (found : DirectoryAt files directory.reverse base) :
    files.leadsToDirectory directory = true := by
  obtain ⟨place, walked, inside, _⟩ := found
  rw [leadsToDirectory, walked]
  exact inside

/-- **Making a directory that is there changes nothing.** -/
theorem makeDirectories_of_directoryAt (fits : pathFault? path = none)
    (found : DirectoryAt files (names path) base) :
    files.makeDirectories path = (files, .ok ()) := by
  obtain ⟨blank, split, here⟩ := names_eq_append_blank path
  rw [split] at found
  have chain := found.of_append_here here
  rw [makeDirectories, fits]
  dsimp only
  rw [directoryChain]
  cases kept : (names path).reverse.dropWhile (· = "") with
  | nil => rfl
  | cons last before =>
    rw [kept] at chain
    dsimp only
    rw [makeChain, makeDirectory_of_directoryAt chain]
    exact if_pos ⟨rfl, leadsToDirectory_of_directoryAt chain⟩

theorem pathFault?_of_makeDirectories (made : (files.makeDirectories path).2 = .ok ()) :
    pathFault? path = none := by
  rw [makeDirectories] at made
  cases fault : pathFault? path with
  | none => rfl
  | some error =>
    rw [fault] at made
    cases made

/-! ## What is read again -/

/-- A text that was read is that of a file. -/
theorem exists_file_of_readText {text : String} (read : files.readText path = .ok text) :
    ∃ place content, files.locate path = .ok place ∧ place.item = .file content ∧
      String.fromUTF8? content = some text := by
  rw [readText] at read
  cases located : files.locate path with
  | error error =>
    rw [located] at read
    cases read
  | ok place =>
    rw [located] at read
    dsimp only at read
    cases item : place.item with
    | directory entries =>
      rw [item] at read
      cases read
    | file content =>
      rw [item] at read
      dsimp only at read
      cases decoded : String.fromUTF8? content with
      | none =>
        rw [decoded] at read
        cases read
      | some same =>
        rw [decoded] at read
        cases read
        exact ⟨place, content, rfl, item, decoded⟩

/-- **A text can be read again** where directories and its file stay. -/
theorem readText_of_sameFileAt {text : String} (stay : DirectoriesStay files later)
    (read : files.readText path = .ok text)
    (same : ∀ location, files.LeadsTo path location → SameFileAt files later location) :
    later.pathExists path = true ∧ later.readText path = .ok text := by
  obtain ⟨⟨item, way⟩, content, located, rfl, decoded⟩ := exists_file_of_readText read
  obtain ⟨_, _, walked⟩ := (locate_eq_ok_iff _).mp located
  have reached := reachedFrom_of_walk (Place.reachedFrom_start files.top) walked
  have there : files.get? (Place.location ⟨.file content, way⟩) = some (.file content) :=
    Place.get?_location reached
  have there' := (same _ ⟨_, located, rfl⟩ content).mpr there
  obtain ⟨⟨item', way'⟩, located', kind, _⟩ :=
    stay.locate located ((get?_eq_file_iff later _ content).mp there')
  cases item' with
  | directory entries => cases kind
  | file content' =>
    cases kind
    constructor
    · rw [pathExists, located']
      rfl
    · simp only [readText, located', decoded]

end FileSystem

/-! ## What is written again -/

section Writing

variable {files final : FileSystem} {directory : String} {base : Location}
  {stylesheets : List Stylesheet}

/-- **Writing a file that holds its text changes nothing.** -/
theorem OutputFile.write_of_present {file : OutputFile} (step : IsStep file.name)
    (found : files.DirectoryAt (directoryNames directory) base)
    (fits : FileSystem.pathFault? (pathIn directory file.name) = none)
    (short : file.name.utf8ByteSize ≤ FileSystem.nameLimit)
    (present : files.kindAt? (base ++ [file.name]) = some (.file file.text.toUTF8)) :
    file.write files directory = .ok files := by
  have faultless : file.fault? files directory base = none := by
    simp only [fault?, FileSystem.writeFault?, fits, if_neg (Nat.not_lt.mpr short), present]
  rw [write_eq step found, faultless]
  exact congrArg Except.ok
    (FileSystem.put_of_get? ((FileSystem.get?_eq_file_iff _ _ _).mpr present))

/-- Files that each change nothing change nothing one after another. -/
theorem writeFiles_run_of_unchanged {targets : List OutputFile}
    (unchanged : ∀ file ∈ targets, file.write files directory = .ok files) :
    (writeFiles directory targets : StateM FileSystem _).run files
      = ((targets.map (OutputFile.written directory), none), files) := by
  induction targets with
  | nil => rfl
  | cons file rest ih =>
    obtain ⟨first, others⟩ := List.forall_mem_cons.mp unchanged
    rw [writeFiles_cons_run, first]
    dsimp only
    rw [ih others, List.map_cons]

namespace Completed

variable (completed : Completed files final directory base stylesheets)
include completed

/-- No directory is lost while the directory is made and the files are stored. -/
theorem directoriesStay : FileSystem.DirectoriesStay files final :=
  (FileSystem.addsDirectories_makeDirectories files directory).directoriesStay.trans
    (completed.stored.directoriesStay completed.faultless)

theorem directoryAt : final.DirectoryAt (FileSystem.names directory) base :=
  completed.led.keeps (completed.stored.directoriesStay completed.faultless)

/-- **What has been completed can be done again**, and that changes nothing. -/
theorem writeStylesheets_run_again :
    (writeStylesheets stylesheets directory : StateM FileSystem WriteReport).run final
      = (⟨(scan stylesheets).skipped,
          (outputFiles stylesheets).map (OutputFile.written directory), none⟩, final) := by
  have fits := FileSystem.pathFault?_of_makeDirectories completed.made
  have again := FileSystem.makeDirectories_of_directoryAt fits completed.directoryAt
  have made : (final.makeDirectories directory).2 = .ok () := by rw [again]
  have unchanged : ∀ file ∈ outputFiles stylesheets, file.write final directory = .ok final := by
    intro file member
    obtain ⟨fits, short, _⟩ := OutputFile.of_fault?_eq_none (completed.faultless file member)
    exact OutputFile.write_of_present (isStep_of_mem_outputFiles member)
      (directoryAt_directoryNames completed.directoryAt) fits short
      (completed.stored.present file member)
  rw [writeStylesheets_run completed.distinct made, again, writeFiles_run_of_unchanged unchanged]

end Completed

end Writing

/-! ## Building again -/

namespace CommandLine

variable {files final : FileSystem} {options directory : String}

/-- A path to which a build writes: that of the file of a module with content. -/
def IsTarget (files : FileSystem) (options directory path : String) : Prop :=
  ∃ text requests stylesheet content,
    files.readText options = .ok text ∧ Options.parse text = .ok requests ∧
    stylesheet ∈ (compile requests).stylesheets ∧ stylesheet.text = some content ∧
    path = pathIn directory (fileName stylesheet.moduleId)

/-- **Building is idempotent.**

If a build succeeds and none of the files that it has written is the options file, then the same
build succeeds on the file system that it has left.  It prints the same, but for the time that it
has taken, and leaves that file system exactly as it is. -/
theorem build_idempotent {outcome : Outcome}
    (ran : (Command.build options directory).runOn files = (outcome, final))
    (succeeded : outcome.status = 0)
    (apart : ∀ path location, IsTarget files options directory path →
      final.LeadsTo path location → ¬ files.LeadsTo options location) :
    ∃ again, (Command.build options directory).runOn final = (again, final) ∧
      again.status = 0 ∧ again.output = outcome.output := by
  obtain ⟨text, requests, report, read, parsed, loaded, registered, writing, good, reported⟩ :=
    stages_of_succeeded ran ((outcome.status_eq_zero_iff).mp succeeded)
  obtain ⟨_, wrote⟩ := wrote_of_failure_eq_none writing good
  obtain ⟨rfl, base, completed⟩ := completed_of_failure_eq_none writing good
  -- the options are read again, since their file is none of the written ones
  have untouched : ∀ location, files.LeadsTo options location → SameFileAt files final location := by
    intro location leadsTo
    refine wrote.others location ?_
    intro file member written
    obtain ⟨stylesheet, inside, made⟩ := List.mem_filterMap.mp member
    obtain ⟨content, holds, rfl⟩ := Option.map_eq_some_iff.mp made
    exact apart _ location ⟨text, requests, stylesheet, content, read, parsed, inside, holds, rfl⟩
      written leadsTo
  obtain ⟨present, read'⟩ :=
    FileSystem.readText_of_sameFileAt completed.directoriesStay read untouched
  have loaded' : modulesIn final options = .ok (.ofCompilation (compile requests)) :=
    (modulesIn_eq_ok_iff _).mpr ⟨present, text, requests, read', parsed, rfl⟩
  have writing' := completed.writeStylesheets_run_again
  rw [← VirtualModules.stylesheets_ofCompilation] at writing'
  obtain ⟨log, again⟩ := build_runOn loaded' registered writing'
  refine ⟨_, again, rfl, ?_⟩
  rw [reported, VirtualModules.stylesheets_ofCompilation]

set_option maxRecDepth 20000 in
/-- The options file stands beside the directory and is reached through it, and there is an earlier
version of the file of the first module: a second build prints the same and changes nothing. -/
theorem build_idempotent_beside_options :
    let text := "[[\"x:a\",\x7b\"n\":\"1\"\x7d],[\"b\"]]"
    let files := (FileSystem.empty.place "options.json" (.file text.toUTF8)).place "out/a.css"
      (.file "old".toUTF8)
    let command := Command.build "out/../options.json" "./out/"
    let built := command.runOn files
    built.1.status = 0 ∧ built.2.readText "out/a.css" ≠ files.readText "out/a.css" ∧
      ∃ again, command.runOn built.2 = (again, built.2) ∧ again.status = 0 ∧
        again.output = built.1.output := by
  intro text files command built
  have succeeded : built.1.status = 0 := by decide +kernel
  have changed : built.2.readText "out/a.css" ≠ files.readText "out/a.css" := by decide +kernel
  have located : files.locate "out/../options.json"
      = .ok ⟨.file text.toUTF8, [("options.json", files.top)]⟩ := rfl
  have read : files.readText "out/../options.json" = .ok text :=
    FileSystem.readText_of_locate located rfl
  let members : Bindings String Json := ⟨[⟨"n", .string "1"⟩]⟩
  have holds : Json.parse text
      = .ok (.array [.array [.string "x:a", .object members], .array [.string "b"]]) := by cbv
  let requests : List ModuleRequest :=
    [{ moduleId := some "x:a", sources := [.ofJson (.object members)] }, { moduleId := some "b" }]
  have parsed : Options.parse text = .ok requests := by
    rw [Options.parse_of_array holds]
    rfl
  have compiled : (compile requests).stylesheets
      = [⟨"x:a", some ":root \x7b\n  --n: 1;\n\x7d"⟩, ⟨"b", none⟩] := by decide +kernel
  have target : (built.2.locate "./out/a.css").toOption.map Place.location
      = some ["out", "a.css"] := by decide +kernel
  have path : pathIn "./out/" (fileName "x:a") = "./out/a.css" := by decide +kernel
  have apart : ∀ path location, IsTarget files "out/../options.json" "./out/" path →
      built.2.LeadsTo path location → ¬ files.LeadsTo "out/../options.json" location := by
    rintro _ _ ⟨_, _, stylesheet, content, read', parsed', member, holds', rfl⟩ ⟨place, there, rfl⟩
      ⟨_, located', same⟩
    cases read.symm.trans read'
    cases parsed.symm.trans parsed'
    rw [compiled] at member
    rcases List.mem_pair.mp member with rfl | rfl
    · -- the only file leads to another place than the options
      rw [path] at there
      rw [there] at target
      cases located.symm.trans located'
      have elsewhere : ["options.json"] = ["out", "a.css"] := same.trans (Option.some.inj target)
      exact absurd elsewhere (by decide)
    · cases holds'
  exact ⟨succeeded, changed, build_idempotent (Prod.eta built).symm succeeded apart⟩

end CommandLine

end CustomProperties
