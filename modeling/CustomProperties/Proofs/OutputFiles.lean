import CustomProperties.Proofs.FileTrees
import CustomProperties.StylesheetFile
import Mathlib.Data.List.Nodup

/-!
# The files of stylesheets

Each stylesheet with a text has a file (`outputFiles`).  Going through the stylesheets finds
a conflict unless these files have different names, and otherwise finds all of them
(`scanFrom_conflict_eq_none_iff`, `scanFrom_files`).

The name of a file holds no slash, and a path that ends with it leads down at the end
(`isStep_fileName`).  So the path to it in a directory ends with that name, and what
stands before leads where the directory leads (`names_pathIn`, `directoryAt_directoryNames`).
-/

namespace CustomProperties

set_option autoImplicit false

/-! ## Which files there are -/

/-- The files of stylesheets, in order: one for each stylesheet with a text. -/
def outputFiles (stylesheets : List Stylesheet) : List OutputFile :=
  stylesheets.filterMap fun stylesheet =>
    stylesheet.text.map fun text => ⟨fileName stylesheet.moduleId, stylesheet.moduleId, text⟩

/-- The names of these files. -/
def fileNames (stylesheets : List Stylesheet) : List String :=
  (outputFiles stylesheets).map OutputFile.name

theorem outputFiles_cons_none {stylesheet : Stylesheet} (blank : stylesheet.text = none)
    (rest : List Stylesheet) : outputFiles (stylesheet :: rest) = outputFiles rest := by
  rw [outputFiles, List.filterMap_cons, blank]
  rfl

theorem outputFiles_cons_some {stylesheet : Stylesheet} {text : String}
    (holds : stylesheet.text = some text) (rest : List Stylesheet) :
    outputFiles (stylesheet :: rest)
      = ⟨fileName stylesheet.moduleId, stylesheet.moduleId, text⟩ :: outputFiles rest := by
  rw [outputFiles, List.filterMap_cons, holds]
  rfl

/-- **There is no conflict exactly if the names are different** and none of them is taken
before. -/
theorem scanFrom_conflict_eq_none_iff (owners : Bindings String String)
    (stylesheets : List Stylesheet) :
    (scanFrom owners stylesheets).conflict = none ↔
      (fileNames stylesheets).Nodup ∧ ∀ name ∈ fileNames stylesheets, owners.get? name = none := by
  induction stylesheets generalizing owners with
  | nil => exact iff_of_true rfl ⟨List.nodup_nil, nofun⟩
  | cons stylesheet rest ih =>
    rw [scanFrom]
    cases holds : stylesheet.text with
    | none =>
      rw [fileNames, outputFiles_cons_none holds]
      exact ih owners
    | some text =>
      rw [fileNames, outputFiles_cons_some holds, List.map_cons, List.nodup_cons,
        List.forall_mem_cons]
      cases taken : owners.get? (fileName stylesheet.moduleId) with
      | some first => simp only [taken, reduceCtorEq, false_and, and_false]
      | none =>
        simp only [taken, ih, Bindings.get?_insert, true_and]
        constructor
        · rintro ⟨distinct, free⟩
          refine ⟨⟨fun member => ?_, distinct⟩, fun name member => ?_⟩
          · have impossible := free _ member
            rw [if_pos rfl] at impossible
            cases impossible
          · have unbound := free name member
            split at unbound
            · cases unbound
            · exact unbound
        · rintro ⟨⟨absent, distinct⟩, free⟩
          refine ⟨distinct, fun name member => ?_⟩
          have other : name ≠ fileName stylesheet.moduleId := fun same => absent (same ▸ member)
          rw [if_neg other]
          exact free name member

/-- Without a conflict all the files are found. -/
theorem scanFrom_files {owners : Bindings String String} {stylesheets : List Stylesheet}
    (free : (scanFrom owners stylesheets).conflict = none) :
    (scanFrom owners stylesheets).files = outputFiles stylesheets := by
  induction stylesheets generalizing owners with
  | nil => rfl
  | cons stylesheet rest ih =>
    rw [scanFrom] at free ⊢
    cases holds : stylesheet.text with
    | none =>
      rw [holds] at free
      rw [outputFiles_cons_none holds]
      exact ih free
    | some text =>
      rw [holds] at free
      rw [outputFiles_cons_some holds]
      cases taken : owners.get? (fileName stylesheet.moduleId) with
      | some first => simp only [taken, reduceCtorEq] at free
      | none =>
        simp only [taken] at free ⊢
        rw [ih free]

/-- **Stylesheets have a conflict unless their files have different names.** -/
theorem scan_conflict_eq_none_iff (stylesheets : List Stylesheet) :
    (scan stylesheets).conflict = none ↔ (fileNames stylesheets).Nodup := by
  rw [scan, scanFrom_conflict_eq_none_iff]
  exact and_iff_left fun _ _ => rfl

theorem mem_outputFiles {stylesheets : List Stylesheet} {stylesheet : Stylesheet} {text : String}
    (member : stylesheet ∈ stylesheets) (holds : stylesheet.text = some text) :
    ⟨fileName stylesheet.moduleId, stylesheet.moduleId, text⟩ ∈ outputFiles stylesheets :=
  List.mem_filterMap.mpr ⟨stylesheet, member, by rw [holds]; rfl⟩

/-- Two stylesheets with a text that have the same file are in conflict. -/
theorem exists_conflict {stylesheets : List Stylesheet} {first second : Stylesheet}
    (member : first ∈ stylesheets) (member' : second ∈ stylesheets) (different : first ≠ second)
    (content : first.text.isSome) (content' : second.text.isSome)
    (same : fileName first.moduleId = fileName second.moduleId) :
    ∃ conflict, (scan stylesheets).conflict = some conflict := by
  obtain ⟨text, holds⟩ := Option.isSome_iff_exists.mp content
  obtain ⟨text', holds'⟩ := Option.isSome_iff_exists.mp content'
  rw [← Option.isSome_iff_exists, ← Option.not_isNone, Bool.not_eq_true', Bool.eq_false_iff, ne_eq,
    Option.isNone_iff_eq_none, scan_conflict_eq_none_iff]
  intro distinct
  have equal := List.inj_on_of_nodup_map distinct (mem_outputFiles member holds)
    (mem_outputFiles member' holds') same
  -- so the two have the same id and the same text, and are one stylesheet
  obtain ⟨_, sameId, sameText⟩ := OutputFile.mk.inj equal
  obtain ⟨moduleId, _⟩ := first
  obtain ⟨moduleId', _⟩ := second
  subst sameId sameText holds holds'
  exact different rfl

/-! ## Names of files -/

/-- The characters that separate parts of an id or of a path. -/
def separators : List Char := ['/', '\\', ':']

theorem colon_not_mem_afterLastColon (text : List Char) : ':' ∉ afterLastColon text := by
  rw [afterLastColon, List.mem_reverse]
  intro member
  have other := List.mem_takeWhile_imp member
  exact of_decide_eq_true other rfl

theorem separator_not_mem_fileStem {separator : Char} (kind : separator ∈ separators)
    (moduleId : List Char) : separator ∉ fileStem moduleId := by
  have without : separator ∉ (afterLastColon moduleId).map flattenSlash := by
    intro member
    obtain ⟨char, present, flat⟩ := List.mem_map.mp member
    rw [flattenSlash] at flat
    split at flat
    · subst flat
      exact absurd kind (by decide)
    · next noSlash =>
      subst flat
      rcases List.mem_cons.mp kind with slash | kind
      · exact noSlash (.inl slash)
      rcases List.mem_cons.mp kind with backslash | kind
      · exact noSlash (.inr backslash)
      · exact colon_not_mem_afterLastColon moduleId (List.mem_singleton.mp kind ▸ present)
  rw [fileStem]
  split
  · intro member
    have apart : ∀ other ∈ separators, other ∉ ['v', 'a', 'r', 'i', 'a', 'b', 'l', 'e', 's'] := by
      simp [separators]
    exact apart separator kind member
  · exact without

/-- **The name of a file holds no separator.** -/
theorem separator_not_mem_fileName {separator : Char} (kind : separator ∈ separators)
    (moduleId : String) : separator ∉ (fileName moduleId).toList := by
  have ending : ∀ other ∈ separators, other ∉ stylesheetEnding := by
    simp [separators, stylesheetEnding]
  rw [fileName, String.toList_ofList, withEnding]
  split
  · exact separator_not_mem_fileStem kind _
  · rw [List.mem_append, not_or]
    exact ⟨separator_not_mem_fileStem kind _, ending separator kind⟩

theorem slash_not_mem_fileName (moduleId : String) : '/' ∉ (fileName moduleId).toList :=
  separator_not_mem_fileName List.mem_cons_self moduleId

/-- The name of a file ends as those of stylesheets do. -/
theorem ending_suffix_fileName (moduleId : String) :
    stylesheetEnding <:+ (fileName moduleId).toList := by
  rw [fileName, String.toList_ofList, withEnding]
  split
  · next ends => exact List.isSuffixOf_iff_suffix.mp ends
  · exact List.suffix_append _ _

/-- A name shorter than the ending is not that of a file. -/
theorem fileName_ne {name : String} (short : name.toList.length < stylesheetEnding.length)
    (moduleId : String) : fileName moduleId ≠ name := by
  rintro rfl
  exact absurd (ending_suffix_fileName moduleId).length_le (Nat.not_le.mpr short)

/-- A name of which a path can make one step down. -/
structure IsStep (name : String) : Prop where
  slash_not_mem : '/' ∉ name.toList
  leadsDown : FileSystem.LeadsDown name

theorem IsStep.ne_empty {name : String} (step : IsStep name) : name ≠ "" := by
  rintro rfl
  cases step.leadsDown.1

/-- **The name of a file is a step down**, wherever it stands. -/
theorem isStep_fileName (moduleId : String) : IsStep (fileName moduleId) := by
  refine ⟨slash_not_mem_fileName moduleId, ?_, fileName_ne (by decide) moduleId⟩
  rw [FileSystem.isHere, Bool.or_eq_false_iff]
  exact ⟨decide_eq_false (fileName_ne (by decide) moduleId),
    decide_eq_false (fileName_ne (by decide) moduleId)⟩

theorem isStep_of_mem_outputFiles {stylesheets : List Stylesheet} {file : OutputFile}
    (member : file ∈ outputFiles stylesheets) : IsStep file.name := by
  obtain ⟨stylesheet, _, made⟩ := List.mem_filterMap.mp member
  obtain ⟨text, _, rfl⟩ := Option.map_eq_some_iff.mp made
  exact isStep_fileName stylesheet.moduleId

/-! ## Paths in a directory -/

/-- The names in the path to a directory, without the empty one after a slash at the end. -/
def directoryNames (directory : String) : List String :=
  if directory.toList.getLast? = some '/' then (FileSystem.names directory).dropLast
  else FileSystem.names directory

theorem names_of_ne_empty {path : String} (nonempty : path ≠ "") :
    FileSystem.names path = (Text.parts '/' path.toList).map String.ofList := by
  rw [FileSystem.names, if_neg (mt String.isEmpty_iff.mp nonempty)]

/-- A path with a name behind a slash. -/
theorem names_append_slash {path name : String} {front : List Char} (without : '/' ∉ name.toList)
    (ends : path.toList = front ++ '/' :: name.toList) :
    FileSystem.names path = (Text.parts '/' front).map String.ofList ++ [name] := by
  have nonempty : path ≠ "" := by
    rintro rfl
    simp at ends
  rw [names_of_ne_empty nonempty, ends, Text.parts_append_separator, Text.parts_of_not_mem without,
    List.map_append, List.map_singleton, String.ofList_toList]

/-- **The path to a name in a directory** is made of the names that lead to the directory,
and that name. -/
theorem names_pathIn (directory : String) {name : String} (step : IsStep name) :
    FileSystem.names (pathIn directory name) = directoryNames directory ++ [name] := by
  have without := step.slash_not_mem
  -- the three cases in which the path is put together
  rw [pathIn, directoryNames]
  by_cases blank : directory = ""
  · subst blank
    rw [if_pos (String.isEmpty_iff.mpr rfl), names_of_ne_empty step.ne_empty,
      Text.parts_of_not_mem without, List.map_singleton, String.ofList_toList]
    rfl
  rw [if_neg (mt String.isEmpty_iff.mp blank)]
  by_cases slash : directory.toList.getLast? = some '/'
  · obtain ⟨front, ends⟩ := List.getLast?_eq_some_iff.mp slash
    have whole : (directory ++ name).toList = front ++ '/' :: name.toList := by
      rw [String.toList_append, ends, List.append_assoc, List.singleton_append]
    have above : FileSystem.names directory = (Text.parts '/' front).map String.ofList ++ [""] :=
      names_append_slash List.not_mem_nil ends
    rw [if_pos slash, if_pos slash, names_append_slash without whole, above, List.dropLast_concat]
  · have whole : (directory ++ "/" ++ name).toList = directory.toList ++ '/' :: name.toList := by
      rw [String.toList_append, String.toList_append, List.append_assoc]
      rfl
    rw [if_neg slash, if_neg slash, names_append_slash without whole, names_of_ne_empty blank]

theorem pathIn_inj {directory first second : String} (step : IsStep first) (step' : IsStep second)
    (same : pathIn directory first = pathIn directory second) : first = second := by
  have equal := congrArg FileSystem.names same
  rw [names_pathIn directory step, names_pathIn directory step'] at equal
  exact List.singleton_inj.mp (List.append_cancel_left equal)

/-- The names without the empty one at the end lead to the same directory. -/
theorem directoryAt_directoryNames {files : FileSystem} {directory : String} {base : Location}
    (found : files.DirectoryAt (FileSystem.names directory) base) :
    files.DirectoryAt (directoryNames directory) base := by
  rw [directoryNames]
  split
  · next slash =>
    obtain ⟨front, ends⟩ := List.getLast?_eq_some_iff.mp slash
    have above : FileSystem.names directory = (Text.parts '/' front).map String.ofList ++ [""] :=
      names_append_slash List.not_mem_nil ends
    rw [above] at found
    rw [above, List.dropLast_concat]
    exact found.of_append_here (by simp [FileSystem.isHere])
  · exact found

end CustomProperties
