import CustomProperties.Proofs.OutputFiles

/-!
# What writing stylesheets leaves behind

Stylesheets with different file names are written one after another, up to the first one
that cannot be written.  Whether a file can be written is decided before the first of them
is: a file that was written is under a name of its own, so it neither helps nor hinders
those behind it.  Hence a run comes to the files in front of the first fault, and to that
fault (`writeFiles_run`), and what it leaves behind is described by these files alone
(`Stored`).

The main statement, `writeStylesheets_effect`, says what the caller gets and what has
become of the files, whether all could be written or not.
-/

namespace CustomProperties

set_option autoImplicit false

open FileSystem (DirectoryAt)

/-! ## Single files -/

variable {files later final : FileSystem} {directory : String} {base : Location}

/-- Write a file to a directory. -/
def OutputFile.write (file : OutputFile) (files : FileSystem) (directory : String) :
    Except FileError FileSystem :=
  files.writeText (pathIn directory file.name) file.text

/-- Why a file cannot be written to a directory at a location, if something stands against
it. -/
def OutputFile.fault? (file : OutputFile) (files : FileSystem) (directory : String)
    (base : Location) : Option FileError :=
  files.writeFault? (pathIn directory file.name) base file.name

/-- The file as one that has been written. -/
def OutputFile.written (directory : String) (file : OutputFile) : WrittenFile :=
  ⟨file.moduleId, pathIn directory file.name⟩

/-- **Writing one file** meets its fault, or puts the text under its name. -/
theorem OutputFile.write_eq {file : OutputFile} (step : IsStep file.name)
    (found : DirectoryAt files (directoryNames directory) base) :
    file.write files directory
      = match file.fault? files directory base with
        | some error => .error error
        | none => .ok (files.put (base ++ [file.name]) (.file file.text.toUTF8)) :=
  FileSystem.writeText_eq (names_pathIn directory step) found step.leadsDown file.text

theorem OutputFile.write_eq_error_iff {file : OutputFile} (step : IsStep file.name)
    (found : DirectoryAt files (directoryNames directory) base) (error : FileError) :
    file.write files directory = .error error ↔ file.fault? files directory base = some error := by
  rw [write_eq step found]
  cases file.fault? files directory base with
  | some other => simp only [Except.error.injEq, Option.some.injEq]
  | none => simp only [reduceCtorEq]

theorem OutputFile.isOk_write_iff {file : OutputFile} (step : IsStep file.name)
    (found : DirectoryAt files (directoryNames directory) base) :
    (file.write files directory).isOk ↔ file.fault? files directory base = none := by
  rw [write_eq step found]
  cases file.fault? files directory base with
  | some other => exact iff_of_false Bool.false_ne_true nofun
  | none => exact iff_of_true rfl rfl

/-- What stands against a file besides its path is seen at its location. -/
theorem OutputFile.fault?_congr {file : OutputFile}
    (same : later.kindAt? (base ++ [file.name]) = files.kindAt? (base ++ [file.name])) :
    file.fault? later directory base = file.fault? files directory base := by
  rw [fault?, fault?, FileSystem.writeFault?, FileSystem.writeFault?, same]

/-- A file without fault has a path that can be followed, a name that is short enough, and
no directory in its place. -/
theorem OutputFile.of_fault?_eq_none {file : OutputFile}
    (good : file.fault? files directory base = none) :
    FileSystem.pathFault? (pathIn directory file.name) = none ∧
      file.name.utf8ByteSize ≤ FileSystem.nameLimit ∧
      files.kindAt? (base ++ [file.name]) ≠ some .directory := by
  rw [fault?, FileSystem.writeFault?] at good
  split at good
  · cases good
  · next fits =>
    split at good
    · cases good
    · next short =>
      split at good
      · cases good
      · next free => exact ⟨fits, Nat.not_lt.mp short, free⟩

/-! ## Stored files -/

/-- A file system that has some files in a directory at a location, and is otherwise like
another one. -/
structure Stored (files later : FileSystem) (base : Location) (stored : List OutputFile) :
    Prop where
  present : ∀ file ∈ stored,
    later.kindAt? (base ++ [file.name]) = some (.file file.text.toUTF8)
  otherwise : ∀ location, (∀ file ∈ stored, location ≠ base ++ [file.name]) →
    later.kindAt? location = files.kindAt? location

namespace Stored

variable {stored : List OutputFile}

theorem nil (files : FileSystem) (base : Location) : Stored files files base [] :=
  ⟨nofun, fun _ _ => rfl⟩

theorem put {file : OutputFile} (found : DirectoryAt files (directoryNames directory) base)
    (good : file.fault? files directory base = none) :
    Stored files (files.put (base ++ [file.name]) (.file file.text.toUTF8)) base [file] := by
  obtain ⟨_, _, free⟩ := OutputFile.of_fault?_eq_none good
  have seen := FileSystem.kindAt?_put (Item.isBare_file file.text.toUTF8) found.kindAt? free
  constructor
  · intro other member
    rw [List.mem_singleton.mp member, seen, if_pos rfl]
    rfl
  · intro location away
    rw [seen, if_neg (away file (List.mem_singleton.mpr rfl))]

/-- Files that are stored after another one under other names leave that one alone. -/
theorem cons {file : OutputFile} {rest : List OutputFile} (first : Stored files later base [file])
    (others : Stored later final base rest) (other : file.name ∉ rest.map OutputFile.name) :
    Stored files final base (file :: rest) := by
  constructor
  · refine List.forall_mem_cons.mpr ⟨?_, others.present⟩
    rw [others.otherwise]
    · exact first.present file (List.mem_singleton.mpr rfl)
    · intro late member same
      have equal : file.name = late.name := by simpa using same
      exact other (equal ▸ List.mem_map_of_mem member)
  · intro location away
    obtain ⟨here, there⟩ := List.forall_mem_cons.mp away
    rw [others.otherwise location there]
    exact first.otherwise location fun late member => List.mem_singleton.mp member ▸ here

/-- Storing files where no directory is keeps the directories. -/
theorem directoriesStay (after : Stored files later base stored)
    (good : ∀ file ∈ stored, file.fault? files directory base = none) :
    FileSystem.DirectoriesStay files later := by
  intro location seen
  rw [after.otherwise location]
  · exact seen
  · rintro file member rfl
    exact (OutputFile.of_fault?_eq_none (good file member)).2.2 seen

end Stored

/-! ## Runs -/

section Runs

variable (directory) (fault : OutputFile → Option FileError)
  {targets before : List OutputFile}

/-- The files in front of the first one with a fault. -/
def goodPart (targets : List OutputFile) : List OutputFile :=
  targets.takeWhile fun file => (fault file).isNone

/-- The error for the first file with a fault. -/
def firstError? (targets : List OutputFile) : Option WriteError :=
  targets.findSome? fun file => (fault file).map (WriteError.file (pathIn directory file.name))

theorem firstError?_eq_none_iff :
    firstError? directory fault targets = none ↔ ∀ file ∈ targets, fault file = none := by
  simp only [firstError?, List.findSome?_eq_none_iff, Option.map_eq_none_iff]

theorem goodPart_eq_self (good : ∀ file ∈ targets, fault file = none) :
    goodPart fault targets = targets :=
  List.takeWhile_eq_self_iff.mpr fun file member => Option.isNone_iff_eq_none.mpr (good file member)

/-- A file with a fault behind files without one: the run ends with it. -/
theorem goodPart_append {file : OutputFile} {error : FileError} (after : List OutputFile)
    (good : ∀ earlier ∈ before, fault earlier = none) (bad : fault file = some error) :
    goodPart fault (before ++ file :: after) = before ∧
      firstError? directory fault (before ++ file :: after)
        = some (.file (pathIn directory file.name) error) := by
  constructor
  · rw [goodPart, List.takeWhile_append_of_pos, List.takeWhile_cons_of_neg, List.append_nil]
    · simp only [bad, Option.isNone_some, Bool.false_eq_true, not_false_eq_true]
    · exact fun earlier member => Option.isNone_iff_eq_none.mpr (good earlier member)
  · have quiet := (firstError?_eq_none_iff directory fault).mpr good
    rw [firstError?] at quiet ⊢
    rw [List.findSome?_append, quiet, Option.none_or, List.findSome?_cons, bad, Option.map_some]

/-- The paths that are returned if there is no fault are those of all files. -/
theorem paths_of_faults (skipped : List String) (targets : List OutputFile) :
    (WriteReport.mk skipped ((goodPart fault targets).map (OutputFile.written directory))
        (firstError? directory fault targets)).paths
      = match firstError? directory fault targets with
        | some error => .error error
        | none => .ok (targets.map fun file => pathIn directory file.name) := by
  rw [WriteReport.paths]
  cases failed : firstError? directory fault targets with
  | some error => rfl
  | none =>
    rw [goodPart_eq_self fault ((firstError?_eq_none_iff directory fault).mp failed), List.map_map]
    rfl

/-- A run goes on with the next files after one that was written, and ends otherwise. -/
theorem writeFiles_cons_run (file : OutputFile) (rest : List OutputFile) :
    (writeFiles directory (file :: rest) : StateM FileSystem _).run files
      = match file.write files directory with
        | .error error => (([], some (.file (pathIn directory file.name) error)), files)
        | .ok made =>
          let ((written, failure), last) :=
            (writeFiles directory rest : StateM FileSystem _).run made
          ((file.written directory :: written, failure), last) := by
  rw [writeFiles, FileSystem.run_bind, FileSystem.run_writeText, OutputFile.write]
  cases files.writeText (pathIn directory file.name) file.text with
  | error error => rfl
  | ok made => rfl

/-- **A run comes to the files in front of the first fault, and to that fault.** -/
theorem writeFiles_run (steps : ∀ file ∈ targets, IsStep file.name)
    (distinct : (targets.map OutputFile.name).Nodup)
    (found : DirectoryAt files (directoryNames directory) base)
    (faults : ∀ file ∈ targets, file.fault? files directory base = fault file) :
    ∃ final,
      (writeFiles directory targets : StateM FileSystem _).run files
        = (((goodPart fault targets).map (OutputFile.written directory),
            firstError? directory fault targets), final) ∧
      Stored files final base (goodPart fault targets) := by
  induction targets generalizing files with
  | nil => exact ⟨files, rfl, .nil files base⟩
  | cons file rest ih =>
    obtain ⟨step, steps⟩ := List.forall_mem_cons.mp steps
    obtain ⟨other, distinct⟩ := List.nodup_cons.mp distinct
    obtain ⟨known, faults⟩ := List.forall_mem_cons.mp faults
    rw [writeFiles_cons_run, OutputFile.write_eq step found, known]
    cases verdict : fault file with
    | some error =>
      obtain ⟨part, first⟩ := goodPart_append directory fault rest (List.forall_mem_nil _) verdict
      rw [List.nil_append] at part first
      rw [part, first]
      exact ⟨files, rfl, .nil files base⟩
    | none =>
      have good := known.trans verdict
      have stored := Stored.put found good
      have stay := stored.directoriesStay (by simpa using good)
      -- the file is under a name of its own, so the others have the faults they had
      obtain ⟨final, ran, later⟩ := ih steps distinct (found.keeps stay) fun late member => by
        rw [← faults late member]
        refine OutputFile.fault?_congr (stored.otherwise _ fun early member' same => ?_)
        rw [List.mem_singleton.mp member'] at same
        have equal : late.name = file.name := by simpa using same
        exact other (equal ▸ List.mem_map_of_mem member)
      have part : goodPart fault (file :: rest) = file :: goodPart fault rest := by
        simp only [goodPart, List.takeWhile_cons, verdict, Option.isNone_none, if_true]
      have error : firstError? directory fault (file :: rest)
          = firstError? directory fault rest := by
        simp only [firstError?, List.findSome?_cons, verdict, Option.map_none]
      refine ⟨final, ?_, ?_⟩
      · simp only [ran, part, error, List.map_cons]
      · rw [part]
        refine stored.cons later fun member => other ?_
        obtain ⟨late, member, same⟩ := List.mem_map.mp member
        exact same ▸ List.mem_map_of_mem (List.takeWhile_subset _ member)

end Runs

/-! ## Writing stylesheets -/

section Stylesheets

variable {stylesheets : List Stylesheet}

/-- Nothing is touched if there is a conflict. -/
theorem writeStylesheets_run_of_conflict {conflict : Conflict}
    (found : (scan stylesheets).conflict = some conflict) :
    (writeStylesheets stylesheets directory : StateM FileSystem WriteReport).run files
      = (⟨(scan stylesheets).skipped, [], some (.conflict conflict)⟩, files) := by
  simp only [writeStylesheets, found]
  rfl

/-- If there is none and the directory could not be made, no file is written. -/
theorem writeStylesheets_run_of_unmade {error : FileError} (distinct : (fileNames stylesheets).Nodup)
    (unmade : (files.makeDirectories directory).2 = .error error) :
    (writeStylesheets stylesheets directory : StateM FileSystem WriteReport).run files
      = (⟨(scan stylesheets).skipped, [], some (.directory error)⟩,
        (files.makeDirectories directory).1) := by
  have free := (scan_conflict_eq_none_iff stylesheets).mpr distinct
  simp only [writeStylesheets, free, FileSystem.run_bind, FileSystem.run_makeDirectories, unmade]
  rfl

/-- If there is none and the directory could be made, the files are written. -/
theorem writeStylesheets_run (distinct : (fileNames stylesheets).Nodup)
    (made : (files.makeDirectories directory).2 = .ok ()) :
    (writeStylesheets stylesheets directory : StateM FileSystem WriteReport).run files
      = let ((written, failure), final) :=
          (writeFiles directory (outputFiles stylesheets) : StateM FileSystem _).run
            (files.makeDirectories directory).1
        (⟨(scan stylesheets).skipped, written, failure⟩, final) := by
  have free := (scan_conflict_eq_none_iff stylesheets).mpr distinct
  simp only [writeStylesheets, free, FileSystem.run_bind, FileSystem.run_makeDirectories, made,
    ← scanFrom_files free]
  rfl

end Stylesheets

/-! ## Effects -/

/-- The same file as before, or still none, is at a location. -/
def SameFileAt (files final : FileSystem) (location : Location) : Prop :=
  ∀ content,
    final.get? location = some (.file content) ↔ files.get? location = some (.file content)

/-- What is seen as it was when directories had been made is the same file as before that. -/
theorem sameFileAt_of_kindAt? {ready : FileSystem} {location : Location}
    (adds : files.AddsDirectories ready) (same : final.kindAt? location = ready.kindAt? location) :
    SameFileAt files final location := by
  intro content
  rw [FileSystem.get?_eq_file_iff, FileSystem.get?_eq_file_iff, same]
  exact adds.file_iff location content

/-- Some files were written to a directory, and no others were touched. -/
structure Wrote (files final : FileSystem) (directory : String) (written : List OutputFile) :
    Prop where
  /-- Each of the files holds its text. -/
  texts : ∀ file ∈ written, final.readText (pathIn directory file.name) = .ok file.text
  /-- Where none of the paths leads, there is the same file as before, or still none. -/
  others : ∀ location,
    (∀ file ∈ written, ¬ final.LeadsTo (pathIn directory file.name) location) →
    SameFileAt files final location

/-- A file that was stored is at the end of its path. -/
theorem Stored.locate {stored : List OutputFile} (after : Stored files later base stored)
    (steps : ∀ file ∈ stored, IsStep file.name)
    (good : ∀ file ∈ stored, file.fault? files directory base = none)
    (found : DirectoryAt files (directoryNames directory) base) :
    ∀ file ∈ stored, ∃ place, later.locate (pathIn directory file.name) = .ok place ∧
      place.item.kind = .file file.text.toUTF8 ∧ place.location = base ++ [file.name] := by
  intro file member
  have step := steps file member
  obtain ⟨fits, short, _⟩ := OutputFile.of_fault?_eq_none (good file member)
  have found' := found.keeps (after.directoriesStay good)
  exact FileSystem.locate_of_kindAt? (names_pathIn directory step) found' step.leadsDown fits short
    (after.present file member)

/-- **Storing files writes them and touches no others**, also if directories were made
before. -/
theorem Stored.wrote {ready : FileSystem} {stored : List OutputFile}
    (adds : files.AddsDirectories ready) (after : Stored ready final base stored)
    (steps : ∀ file ∈ stored, IsStep file.name)
    (good : ∀ file ∈ stored, file.fault? ready directory base = none)
    (found : DirectoryAt ready (directoryNames directory) base) :
    Wrote files final directory stored := by
  have located := after.locate steps good found
  constructor
  · intro file member
    obtain ⟨place, there, content, _⟩ := located file member
    exact FileSystem.readText_of_locate there content
  · intro location away
    refine sameFileAt_of_kindAt? adds (after.otherwise location ?_)
    rintro file member rfl
    obtain ⟨place, there, _, same⟩ := located file member
    exact away file member ⟨place, there, same⟩

/-- Where the path of a file leads that was not stored, there is the same file as before. -/
theorem Stored.sameFileAt {ready : FileSystem} {stored : List OutputFile} {file : OutputFile}
    (adds : files.AddsDirectories ready) (after : Stored ready final base stored)
    (good : ∀ earlier ∈ stored, earlier.fault? ready directory base = none)
    (found : DirectoryAt ready (directoryNames directory) base) (step : IsStep file.name)
    (other : ∀ earlier ∈ stored, file.name ≠ earlier.name) {location : Location}
    (leadsTo : final.LeadsTo (pathIn directory file.name) location) :
    SameFileAt files final location := by
  have found' := found.keeps (after.directoriesStay good)
  have there := leadsTo.eq (names_pathIn directory step) found' step.leadsDown
  subst there
  refine sameFileAt_of_kindAt? adds (after.otherwise _ ?_)
  intro earlier member same
  exact other earlier member (by simpa using same)

theorem nodup_map_pathIn {targets : List OutputFile} (directory : String)
    (steps : ∀ file ∈ targets, IsStep file.name)
    (distinct : (targets.map OutputFile.name).Nodup) :
    (targets.map fun file => pathIn directory file.name).Nodup := by
  refine List.pairwise_map.mpr ((List.pairwise_map.mp distinct).imp_of_mem ?_)
  intro first second member member' different same
  exact different (pathIn_inj (steps first member) (steps second member') same)

/-- **What writing stylesheets without conflict does**, once the directory could be made.

It succeeds exactly if each of the files can be written in the directory as it was made.  Then
the paths of all files are returned, in order and all different, and each file holds its text.
Otherwise the files in front of the first one that cannot be written hold their texts, and the
path of that one is in the error; neither it nor any of those behind it is touched.  In both
cases all other files are as they were. -/
theorem writeStylesheets_effect {stylesheets : List Stylesheet} {report : WriteReport}
    (distinct : (fileNames stylesheets).Nodup)
    (made : (files.makeDirectories directory).2 = .ok ())
    (ran : (writeStylesheets stylesheets directory : StateM FileSystem WriteReport).run files
      = (report, final)) :
    let ready := (files.makeDirectories directory).1
    ((∃ paths, report.paths = .ok paths) ↔
      ∀ file ∈ outputFiles stylesheets, (file.write ready directory).isOk) ∧
    (∀ paths, report.paths = .ok paths →
      paths = (outputFiles stylesheets).map (fun file => pathIn directory file.name) ∧
      paths.Nodup ∧
      Wrote files final directory (outputFiles stylesheets)) ∧
    ∀ before file after error,
      outputFiles stylesheets = before ++ file :: after →
      (∀ earlier ∈ before, (earlier.write ready directory).isOk) →
      file.write ready directory = .error error →
        report.paths = .error (.file (pathIn directory file.name) error) ∧
        Wrote files final directory before ∧
        ∀ untouched ∈ file :: after, ∀ location,
          final.LeadsTo (pathIn directory untouched.name) location →
          SameFileAt files final location := by
  intro ready
  obtain ⟨base, led⟩ := FileSystem.directoryAt_makeDirectories made
  have found : DirectoryAt ready (directoryNames directory) base := directoryAt_directoryNames led
  have adds : files.AddsDirectories ready :=
    FileSystem.addsDirectories_makeDirectories files directory
  have steps : ∀ file ∈ outputFiles stylesheets, IsStep file.name :=
    fun _ => isStep_of_mem_outputFiles
  -- the run is described by the faults that are there once the directory is made
  let fault (file : OutputFile) : Option FileError := file.fault? ready directory base
  obtain ⟨last, wrote, stored⟩ := writeFiles_run directory fault steps distinct found fun _ _ => rfl
  rw [writeStylesheets_run distinct made, wrote] at ran
  obtain ⟨rfl, rfl⟩ := Prod.mk.inj ran
  have writable : (∀ file ∈ outputFiles stylesheets, (file.write ready directory).isOk) ↔
      ∀ file ∈ outputFiles stylesheets, fault file = none :=
    forall₂_congr fun file member => OutputFile.isOk_write_iff (steps file member) found
  rw [paths_of_faults]
  refine ⟨?_, ?_, ?_⟩
  · rw [writable, ← firstError?_eq_none_iff directory]
    cases firstError? directory fault (outputFiles stylesheets) with
    | none => exact iff_of_true ⟨_, rfl⟩ rfl
    | some error => exact iff_of_false (fun ⟨_, given⟩ => nomatch given) nofun
  · intro paths given
    cases failed : firstError? directory fault (outputFiles stylesheets) with
    | some error =>
      rw [failed] at given
      cases given
    | none =>
      rw [failed] at given
      cases given
      have good := (firstError?_eq_none_iff directory fault).mp failed
      rw [goodPart_eq_self fault good] at stored
      exact ⟨rfl, nodup_map_pathIn directory steps distinct, stored.wrote adds steps good found⟩
  · intro before file after error cut early bad
    rw [fileNames, cut] at distinct
    rw [cut] at steps stored ⊢
    obtain ⟨steps, steps'⟩ := List.forall_mem_append.mp steps
    have good : ∀ earlier ∈ before, fault earlier = none := fun earlier member =>
      (OutputFile.isOk_write_iff (steps earlier member) found).mp (early earlier member)
    have step := steps' file List.mem_cons_self
    have fails := (OutputFile.write_eq_error_iff step found error).mp bad
    obtain ⟨part, first⟩ := goodPart_append directory fault after good fails
    rw [part] at stored
    refine ⟨?_, stored.wrote adds steps good found, ?_⟩
    · rw [first]
    · intro untouched member location leadsTo
      refine stored.sameFileAt adds good found (steps' untouched member) ?_ leadsTo
      intro earlier member' same
      rw [List.map_append] at distinct
      exact (List.nodup_append.mp distinct).2.2 _ (List.mem_map_of_mem member') _
        (List.mem_map_of_mem member) same.symm

/-- A directory is in the way of the second of three files: the first one is written, and
the third one is not. -/
theorem writeStylesheets_effect_blocked :
    let files := FileSystem.empty.place "out/b.css" .emptyDirectory
    let stylesheets : List Stylesheet :=
      [⟨"virtual:a", some "A"⟩, ⟨"virtual:none", none⟩, ⟨"virtual:b", some "B"⟩,
        ⟨"virtual:c", some "C"⟩]
    ∃ report final,
      (writeStylesheets stylesheets "out" : StateM FileSystem WriteReport).run files
        = (report, final) ∧
      report.paths = .error (.file "out/b.css" .isDirectory) ∧
      final.readText "out/a.css" = .ok "A" ∧
      ∀ location, final.LeadsTo "out/c.css" location → SameFileAt files final location := by
  intro files stylesheets
  have distinct : (fileNames stylesheets).Nodup := by decide +kernel
  have made : (files.makeDirectories "out").2 = .ok () := rfl
  have all : outputFiles stylesheets = [⟨"a.css", "virtual:a", "A"⟩]
      ++ ⟨"b.css", "virtual:b", "B"⟩ :: [⟨"c.css", "virtual:c", "C"⟩] := rfl
  have early : ∀ earlier ∈ [(⟨"a.css", "virtual:a", "A"⟩ : OutputFile)],
      (earlier.write (files.makeDirectories "out").1 "out").isOk :=
    List.forall_mem_singleton.mpr rfl
  have bad : (⟨"b.css", "virtual:b", "B"⟩ : OutputFile).write (files.makeDirectories "out").1 "out"
      = .error .isDirectory := rfl
  have firstPath : pathIn "out" "a.css" = "out/a.css" := by decide +kernel
  have secondPath : pathIn "out" "b.css" = "out/b.css" := by decide +kernel
  have thirdPath : pathIn "out" "c.css" = "out/c.css" := by decide +kernel
  obtain ⟨⟨report, final⟩, ran⟩ : ∃ outcome,
      (writeStylesheets stylesheets "out" : StateM FileSystem WriteReport).run files = outcome :=
    ⟨_, rfl⟩
  obtain ⟨_, _, failure⟩ := writeStylesheets_effect distinct made ran
  obtain ⟨error, ⟨texts, _⟩, untouched⟩ := failure _ _ _ _ all early bad
  have text := texts _ (List.mem_singleton.mpr rfl)
  have last := untouched _ (List.mem_cons_of_mem _ (List.mem_singleton.mpr rfl))
  rw [secondPath] at error
  rw [firstPath] at text
  rw [thirdPath] at last
  exact ⟨report, final, ran, error, text, last⟩

end CustomProperties
