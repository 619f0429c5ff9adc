import CustomProperties.Proofs.WrittenFiles

/-!
# Names that stay in the directory

An id is any text, and the name of its file is made so that it cannot lead elsewhere.  The
part of the id after its last colon (`IsLastPart`) is read as a stem, with its slashes replaced
and a word in place of nothing, and takes the ending of stylesheets unless it has it.  The names
that come about in this way are those without separators that have the ending
(`IsStylesheetName`): each of them is the name of its own file (`fileName_of_isStylesheetName`).

Whatever writing aims at is therefore the path to an entry of the directory (`IsEntryPath`): it
leads to that entry if it leads anywhere, and a file that is written to it is put there and
changes nothing else.  The main statement is `fileName_confined`.
-/

namespace CustomProperties

set_option autoImplicit false

open FileSystem (DirectoryAt)

/-! ## The part of an id that counts -/

/-- The part of a text behind its last colon, or the whole text if it has none. -/
structure IsLastPart (text part : List Char) : Prop where
  colon_not_mem : ':' ∉ part
  ends : text = part ∨ ∃ front, text = front ++ ':' :: part

/-- A part with its slashes replaced; for an empty one stands a word. -/
def stemOf (part : List Char) : List Char :=
  if part = [] then ['v', 'a', 'r', 'i', 'a', 'b', 'l', 'e', 's'] else part.map flattenSlash

/-- Without colons, the whole text is found from its end, and then what stands in front. -/
theorem takeWhile_reverse_append {part : List Char} (without : ':' ∉ part) (before : List Char) :
    (part.reverse ++ before).takeWhile (· ≠ ':') = part.reverse ++ before.takeWhile (· ≠ ':') := by
  apply List.takeWhile_append_of_pos
  intro char member
  apply decide_eq_true
  rintro rfl
  exact without (List.mem_reverse.mp member)

/-- **The last part of a text is the one behind its last colon.** -/
theorem IsLastPart.eq {text part : List Char} (last : IsLastPart text part) :
    afterLastColon text = part := by
  rw [afterLastColon, List.reverse_eq_iff]
  rcases last.ends with rfl | ⟨front, rfl⟩
  · have found := takeWhile_reverse_append last.colon_not_mem []
    rwa [List.append_nil, List.takeWhile_nil, List.append_nil] at found
  · rw [List.reverse_append, List.reverse_cons, List.append_assoc, List.singleton_append,
      takeWhile_reverse_append last.colon_not_mem, List.takeWhile_cons_of_neg (by simp),
      List.append_nil]

/-- Every text has a last part. -/
theorem exists_isLastPart (text : List Char) : ∃ part, IsLastPart text part := by
  by_cases colon : ':' ∈ text
  · -- the last colon is the first one from the end
    obtain ⟨behind, front, cut, without⟩ :=
      List.eq_append_cons_of_mem (List.mem_reverse.mpr colon)
    refine ⟨behind.reverse, fun member => without (List.mem_reverse.mp member), .inr ?_⟩
    refine ⟨front.reverse, ?_⟩
    rw [List.reverse_eq_iff] at cut
    rw [cut, List.reverse_append, List.reverse_cons, List.append_assoc, List.singleton_append]
  · exact ⟨text, colon, .inl rfl⟩

/-- A text has one last part. -/
theorem existsUnique_isLastPart (text : List Char) : ∃! part, IsLastPart text part := by
  obtain ⟨part, last⟩ := exists_isLastPart text
  exact ⟨part, last, fun other last' => last'.eq.symm.trans last.eq⟩

/-- The stem of an id is made of its last part. -/
theorem IsLastPart.fileStem_eq {text part : List Char} (last : IsLastPart text part) :
    fileStem text = stemOf part := by
  rw [fileStem, last.eq, stemOf]
  cases part with
  | nil => rfl
  | cons char rest => rfl

/-- **Two ids have the same file exactly if their last parts come to the same name.** -/
theorem fileName_eq_iff {moduleId moduleId' : String} {part part' : List Char}
    (last : IsLastPart moduleId.toList part) (last' : IsLastPart moduleId'.toList part') :
    fileName moduleId = fileName moduleId'
      ↔ withEnding (stemOf part) = withEnding (stemOf part') := by
  rw [fileName, fileName, String.ofList_inj, last.fileStem_eq, last'.fileStem_eq]

/-! ## The names that come about -/

/-- A name without separators that ends as those of stylesheets do. -/
structure IsStylesheetName (name : String) : Prop where
  separator_not_mem : ∀ separator ∈ separators, separator ∉ name.toList
  ending : stylesheetEnding <:+ name.toList

/-- The name of a file is such a name. -/
theorem isStylesheetName_fileName (moduleId : String) : IsStylesheetName (fileName moduleId) :=
  ⟨fun _ kind => separator_not_mem_fileName kind moduleId, ending_suffix_fileName moduleId⟩

/-- Where no slash is, none is replaced. -/
theorem map_flattenSlash_of_not_mem {text : List Char} (slash : '/' ∉ text)
    (backslash : '\\' ∉ text) : text.map flattenSlash = text := by
  calc text.map flattenSlash
      = text.map id := List.map_congr_left fun char member => if_neg ?_
    _ = text := List.map_id text
  rintro (rfl | rfl)
  · exact slash member
  · exact backslash member

/-- **Such a name is the name of its own file.** -/
theorem fileName_of_isStylesheetName {name : String} (fit : IsStylesheetName name) :
    fileName name = name := by
  have colon : ':' ∉ name.toList := fit.separator_not_mem ':' (by decide)
  have slash : '/' ∉ name.toList := fit.separator_not_mem '/' (by decide)
  have backslash : '\\' ∉ name.toList := fit.separator_not_mem '\\' (by decide)
  have whole : IsLastPart name.toList name.toList := ⟨colon, .inl rfl⟩
  have nonempty : name.toList ≠ [] := by
    intro empty
    have ending := fit.ending
    rw [empty] at ending
    exact absurd ending (by decide)
  have stem : stemOf name.toList = name.toList := by
    rw [stemOf, if_neg nonempty, map_flattenSlash_of_not_mem slash backslash]
  rw [fileName, whole.fileStem_eq, stem, withEnding,
    if_pos (List.isSuffixOf_iff_suffix.mpr fit.ending), String.ofList_toList]

/-- The names of files are the names without separators that have the ending. -/
theorem exists_fileName_eq_iff (name : String) :
    (∃ moduleId, fileName moduleId = name) ↔ IsStylesheetName name := by
  constructor
  · rintro ⟨moduleId, rfl⟩
    exact isStylesheetName_fileName moduleId
  · intro fit
    exact ⟨name, fileName_of_isStylesheetName fit⟩

/-! ## What writing aims at -/

/-- A path to an entry of a directory, seen from any file system in which the directory is. -/
structure IsEntryPath (directory name path : String) : Prop where
  /-- One more name follows those that lead to the directory. -/
  names : FileSystem.names path = directoryNames directory ++ [name]
  /-- The path leads to the entry, if anywhere. -/
  leads : ∀ (files : FileSystem) (base location : Location),
    DirectoryAt files (FileSystem.names directory) base → files.LeadsTo path location →
      location = base ++ [name]
  /-- What is written to it is put at the entry. -/
  stores : ∀ (files made : FileSystem) (base : Location) (text : String),
    DirectoryAt files (FileSystem.names directory) base → files.writeText path text = .ok made →
      made = files.put (base ++ [name]) (.file text.toUTF8)

/-- **The path to a name in a directory is the path to an entry of it.** -/
theorem isEntryPath_pathIn (directory : String) {name : String} (step : IsStep name) :
    IsEntryPath directory name (pathIn directory name) := by
  have split := names_pathIn directory step
  refine ⟨split, ?_, ?_⟩
  · intro files base location found leadsTo
    exact leadsTo.eq split (directoryAt_directoryNames found) step.leadsDown
  · intro files made base text found written
    rw [FileSystem.writeText_eq split (directoryAt_directoryNames found) step.leadsDown] at written
    cases fault : files.writeFault? (pathIn directory name) base name with
    | some error =>
      rw [fault] at written
      cases written
    | none =>
      rw [fault] at written
      exact (Except.ok.inj written).symm

/-- Writing aimed at the path: it wrote a file there, or failed to. -/
def WriteReport.AimedAt (report : WriteReport) (path : String) : Prop :=
  (∃ written ∈ report.written, written.path = path) ∨
    ∃ error, report.failure = some (.file path error)

/-- Nothing is aimed at where nothing was written, unless writing a file failed. -/
theorem WriteReport.not_aimedAt (skipped : List String) {failure : Option WriteError} (path : String)
    (other : ∀ error, failure ≠ some (.file path error)) :
    ¬ (WriteReport.mk skipped [] failure).AimedAt path := by
  rintro (⟨written, member, _⟩ | ⟨error, failed⟩)
  · cases member
  · exact other error failed

/-- Files that are written one after another are aimed at where they belong. -/
theorem writeFiles_aimedAt (directory : String) (skipped : List String)
    (targets : List OutputFile) (files : FileSystem) {path : String}
    (aimed : (WriteReport.mk skipped
      ((writeFiles directory targets : StateM FileSystem _).run files).1.1
      ((writeFiles directory targets : StateM FileSystem _).run files).1.2).AimedAt path) :
    ∃ file ∈ targets, path = pathIn directory file.name := by
  induction targets generalizing files with
  | nil => exact absurd aimed (WriteReport.not_aimedAt skipped path nofun)
  | cons file rest ih =>
    rw [writeFiles_cons_run] at aimed
    cases wrote : file.write files directory with
    | error error =>
      rw [wrote] at aimed
      rcases aimed with ⟨written, member, _⟩ | ⟨error, failed⟩
      · cases member
      · cases failed
        exact ⟨file, List.mem_cons_self, rfl⟩
    | ok made =>
      rw [wrote] at aimed
      rcases aimed with ⟨written, member, rfl⟩ | failed
      · rcases List.mem_cons.mp member with rfl | later
        · exact ⟨file, List.mem_cons_self, rfl⟩
        · obtain ⟨target, among, same⟩ := ih made (.inl ⟨written, later, rfl⟩)
          exact ⟨target, List.mem_cons_of_mem _ among, same⟩
      · obtain ⟨target, among, same⟩ := ih made (.inr failed)
        exact ⟨target, List.mem_cons_of_mem _ among, same⟩

/-- **Writing stylesheets aims at their files only**, and not at those of stylesheets without
a text. -/
theorem writeStylesheets_aimedAt {stylesheets : List Stylesheet} {directory path : String}
    {files : FileSystem}
    (aimed : ((writeStylesheets stylesheets directory :
      StateM FileSystem WriteReport).run files).1.AimedAt path) :
    ∃ stylesheet ∈ stylesheets, stylesheet.text.isSome ∧
      path = pathIn directory (fileName stylesheet.moduleId) := by
  cases free : (scan stylesheets).conflict with
  | some conflict =>
    rw [writeStylesheets_run_of_conflict free] at aimed
    exact absurd aimed (WriteReport.not_aimedAt _ path nofun)
  | none =>
    have distinct := (scan_conflict_eq_none_iff stylesheets).mp free
    cases made : (files.makeDirectories directory).2 with
    | error error =>
      rw [writeStylesheets_run_of_unmade distinct made] at aimed
      exact absurd aimed (WriteReport.not_aimedAt _ path nofun)
    | ok _ =>
      rw [writeStylesheets_run distinct made] at aimed
      obtain ⟨file, member, same⟩ := writeFiles_aimedAt directory _ _ _ aimed
      obtain ⟨stylesheet, among, output⟩ := List.mem_filterMap.mp member
      obtain ⟨text, holds, rfl⟩ := Option.map_eq_some_iff.mp output
      exact ⟨stylesheet, among, Option.isSome_of_eq_some holds, same⟩

/-- **No id leads out of the directory.**

The name of a file is not empty, holds neither slash nor colon, ends as those of stylesheets do,
and so does not stand for a directory.  Whatever writing aims at is therefore the path to an
entry of the directory.  The names of files are all names without separators that have the
ending, and each of them is the name of its own file, so that naming twice changes nothing.  Two
ids have the same file exactly if their last parts come to the same name. -/
theorem fileName_confined :
    (∀ moduleId, IsStylesheetName (fileName moduleId) ∧ fileName moduleId ≠ "" ∧
      fileName moduleId ≠ "." ∧ fileName moduleId ≠ "..") ∧
    (∀ (stylesheets : List Stylesheet) (directory path : String) (files : FileSystem),
      ((writeStylesheets stylesheets directory :
          StateM FileSystem WriteReport).run files).1.AimedAt path →
        ∃ stylesheet ∈ stylesheets, stylesheet.text.isSome ∧
          IsEntryPath directory (fileName stylesheet.moduleId) path) ∧
    (∀ name, (∃ moduleId, fileName moduleId = name) ↔ IsStylesheetName name) ∧
    (∀ name, IsStylesheetName name → fileName name = name) ∧
    (∀ moduleId, fileName (fileName moduleId) = fileName moduleId) ∧
    (∀ moduleId : String, ∃! part, IsLastPart moduleId.toList part) ∧
    ∀ (moduleId moduleId' : String) (part part' : List Char),
      IsLastPart moduleId.toList part → IsLastPart moduleId'.toList part' →
        (fileName moduleId = fileName moduleId'
          ↔ withEnding (stemOf part) = withEnding (stemOf part')) := by
  refine ⟨?_, ?_, exists_fileName_eq_iff, fun _ => fileName_of_isStylesheetName, ?_, ?_, ?_⟩
  · intro moduleId
    exact ⟨isStylesheetName_fileName moduleId, fileName_ne (by decide) moduleId,
      fileName_ne (by decide) moduleId, fileName_ne (by decide) moduleId⟩
  · intro stylesheets directory path files aimed
    obtain ⟨stylesheet, member, content, rfl⟩ := writeStylesheets_aimedAt aimed
    exact ⟨stylesheet, member, content,
      isEntryPath_pathIn directory (isStep_fileName stylesheet.moduleId)⟩
  · intro moduleId
    exact fileName_of_isStylesheetName (isStylesheetName_fileName moduleId)
  · intro moduleId
    exact existsUnique_isLastPart moduleId.toList
  · intro moduleId moduleId' part part' last last'
    exact fileName_eq_iff last last'

/-- An id that climbs in both kinds of slashes is written beside the others, to a file that it
shares with a plainer id. -/
theorem fileName_confined_climbing :
    let climbing := "virtual:../..\\etc/"
    let report : WriteReport :=
      ((writeStylesheets [⟨climbing, some "A"⟩] "out" :
        StateM FileSystem WriteReport).run FileSystem.empty).1
    (report.AimedAt "out/.._.._etc_.css" ∧ IsLastPart climbing.toList "../..\\etc/".toList ∧
      IsLastPart ".._.._etc_.css".toList ".._.._etc_.css".toList) ∧
    IsEntryPath "out" ".._.._etc_.css" "out/.._.._etc_.css" ∧
    fileName climbing = fileName ".._.._etc_.css" ∧
    fileName ".._.._etc_.css" = ".._.._etc_.css" := by
  intro climbing report
  obtain ⟨fit, entries, _, own, _, _, same⟩ := fileName_confined
  have name : fileName climbing = ".._.._etc_.css" := by decide +kernel
  have aimed : report.AimedAt "out/.._.._etc_.css" :=
    .inl ⟨⟨climbing, "out/.._.._etc_.css"⟩, by decide +kernel, rfl⟩
  have last : IsLastPart climbing.toList "../..\\etc/".toList :=
    ⟨by decide +kernel, .inr ⟨"virtual".toList, by decide +kernel⟩⟩
  have last' : IsLastPart ".._.._etc_.css".toList ".._.._etc_.css".toList :=
    ⟨by decide +kernel, .inl rfl⟩
  obtain ⟨stylesheet, member, _, entry⟩ := entries _ _ _ _ aimed
  rw [List.mem_singleton.mp member, name] at entry
  refine ⟨⟨aimed, last, last'⟩, entry, ?_, ?_⟩
  · exact (same _ _ _ _ last last').mpr (by decide +kernel)
  · exact own _ (name ▸ (fit climbing).1)

end CustomProperties
