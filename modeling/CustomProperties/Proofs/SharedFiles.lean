import CustomProperties.Proofs.WrittenFiles
import Mathlib.Data.Nat.Find

/-!
# Stylesheets that share a file

Going through stylesheets finds a conflict when some of them have the same file.  Here the
conflict is described by places in the list alone (`FirstConflict`): it is found at the first
stylesheet that has the file of an earlier one, and that earlier one is the only one with this
file up to there (`FirstConflict.eq_first`).  Stylesheets without a text have no file, and so
they are in no conflict and in nobody's way.

The list is cut at the place of the conflict.  In front of it all files have names of their own,
so that the names are bound to the stylesheets that came with them (`scan_conflict_of_cut`), and
what is behind it is not looked at.  The main statement is `writeStylesheets_conflict`.
-/

namespace CustomProperties

set_option autoImplicit false

/-! ## Files at places -/

/-- The name of the file of a stylesheet, if it has one. -/
def Stylesheet.fileName? (stylesheet : Stylesheet) : Option String :=
  stylesheet.text.map fun _ => fileName stylesheet.moduleId

/-- The stylesheet at an index has a text, and a file with this name. -/
def HasFileAt (stylesheets : List Stylesheet) (index : Nat) (name : String) : Prop :=
  stylesheets[index]?.bind Stylesheet.fileName? = some name

instance (stylesheets : List Stylesheet) (index : Nat) (name : String) :
    Decidable (HasFileAt stylesheets index name) :=
  inferInstanceAs (Decidable (_ = _))

/-- The stylesheet at an index has the file of an earlier one. -/
def SharesFileAt (stylesheets : List Stylesheet) (index : Nat) : Prop :=
  ∃ name, HasFileAt stylesheets index name ∧ ∃ earlier < index, HasFileAt stylesheets earlier name

/-- A conflict is between the first stylesheet that has the file of an earlier one, and that
earlier one. -/
structure FirstConflict (stylesheets : List Stylesheet) (first second : Nat)
    (conflict : Conflict) : Prop where
  before : first < second
  /-- The file belongs to the first of the two. -/
  owns : HasFileAt stylesheets first conflict.name
  /-- It is also that of the second. -/
  shares : HasFileAt stylesheets second conflict.name
  /-- Earlier stylesheets have files of their own. -/
  least : ∀ index < second, ¬ SharesFileAt stylesheets index
  firstId : stylesheets[first]?.map Stylesheet.moduleId = some conflict.first
  secondId : stylesheets[second]?.map Stylesheet.moduleId = some conflict.second

theorem Stylesheet.fileName?_eq_some_iff (stylesheet : Stylesheet) (name : String) :
    stylesheet.fileName? = some name
      ↔ stylesheet.text.isSome ∧ fileName stylesheet.moduleId = name := by
  rw [fileName?]
  cases stylesheet.text <;> simp

theorem hasFileAt_iff (stylesheets : List Stylesheet) (index : Nat) (name : String) :
    HasFileAt stylesheets index name
      ↔ ∃ stylesheet, stylesheets[index]? = some stylesheet ∧ stylesheet.text.isSome ∧
          fileName stylesheet.moduleId = name := by
  simp only [HasFileAt, Option.bind_eq_some_iff, Stylesheet.fileName?_eq_some_iff]

/-- An index has one file at most. -/
theorem HasFileAt.unique {stylesheets : List Stylesheet} {index : Nat} {name other : String}
    (has : HasFileAt stylesheets index name) (has' : HasFileAt stylesheets index other) :
    name = other :=
  Option.some.inj (has.symm.trans has')

/-- The files in front of an index are those of the list up to there. -/
theorem hasFileAt_take_iff (stylesheets : List Stylesheet) (limit index : Nat) (name : String) :
    HasFileAt (stylesheets.take limit) index name
      ↔ index < limit ∧ HasFileAt stylesheets index name := by
  rw [HasFileAt, HasFileAt, List.getElem?_take]
  by_cases before : index < limit
  · rw [if_pos before, and_iff_right before]
  · rw [if_neg before]
    exact iff_of_false nofun fun both => before both.1

/-- **The earlier stylesheet of a conflict is the only one.** -/
theorem FirstConflict.eq_first {stylesheets : List Stylesheet} {first second other : Nat}
    {conflict : Conflict} (found : FirstConflict stylesheets first second conflict)
    (before : other < second) (has : HasFileAt stylesheets other conflict.name) :
    other = first := by
  rcases Nat.lt_trichotomy other first with earlier | same | later
  · exact absurd ⟨_, found.owns, other, earlier, has⟩ (found.least first found.before)
  · exact same
  · exact absurd ⟨_, has, first, later, found.owns⟩ (found.least other before)

/-- Two conflicts of one list are the same. -/
theorem FirstConflict.unique {stylesheets : List Stylesheet} {first second first' second' : Nat}
    {conflict conflict' : Conflict} (found : FirstConflict stylesheets first second conflict)
    (found' : FirstConflict stylesheets first' second' conflict') : conflict = conflict' := by
  have shares : SharesFileAt stylesheets second := ⟨_, found.shares, _, found.before, found.owns⟩
  have shares' : SharesFileAt stylesheets second' :=
    ⟨_, found'.shares, _, found'.before, found'.owns⟩
  obtain rfl : second = second' := by
    rcases Nat.lt_trichotomy second second' with earlier | same | later
    · exact absurd shares (found'.least _ earlier)
    · exact same
    · exact absurd shares' (found.least _ later)
  have sameName := found.shares.unique found'.shares
  obtain rfl : first = first' := found'.eq_first found.before (sameName ▸ found.owns)
  obtain ⟨name, firstId, secondId⟩ := conflict
  obtain ⟨name', firstId', secondId'⟩ := conflict'
  obtain rfl : firstId = firstId' := Option.some.inj (found.firstId.symm.trans found'.firstId)
  obtain rfl : secondId = secondId' := Option.some.inj (found.secondId.symm.trans found'.secondId)
  obtain rfl : name = name' := sameName
  rfl

/-! ## Names of their own -/

theorem fileNames_eq_filterMap (stylesheets : List Stylesheet) :
    fileNames stylesheets = stylesheets.filterMap Stylesheet.fileName? := by
  rw [fileNames, outputFiles, List.map_filterMap]
  apply List.filterMap_congr
  intro stylesheet _
  rw [Stylesheet.fileName?]
  cases stylesheet.text <;> rfl

/-- **Files have names of their own exactly if no stylesheet has the file of an earlier one.** -/
theorem nodup_fileNames_iff (stylesheets : List Stylesheet) :
    (fileNames stylesheets).Nodup ↔ ∀ index, ¬ SharesFileAt stylesheets index := by
  rw [fileNames_eq_filterMap, List.Nodup, List.pairwise_filterMap, List.pairwise_iff_getElem]
  constructor
  · rintro distinct later ⟨name, has, earlier, before, has'⟩
    obtain ⟨stylesheet, present, named⟩ := Option.bind_eq_some_iff.mp has
    obtain ⟨stylesheet', present', named'⟩ := Option.bind_eq_some_iff.mp has'
    obtain ⟨within, rfl⟩ := List.getElem?_eq_some_iff.mp present
    obtain ⟨within', rfl⟩ := List.getElem?_eq_some_iff.mp present'
    exact distinct earlier later within' within before name named' name named rfl
  · intro apart earlier later within within' before name named name' named' same
    subst same
    refine apart later ⟨name, ?_, earlier, before, ?_⟩
    · rw [HasFileAt, List.getElem?_eq_getElem within', Option.bind_some, named']
    · rw [HasFileAt, List.getElem?_eq_getElem within, Option.bind_some, named]

/-- Up to an index, files have names of their own exactly if no earlier place shares one. -/
theorem nodup_fileNames_take_iff (stylesheets : List Stylesheet) (limit : Nat) :
    (fileNames (stylesheets.take limit)).Nodup
      ↔ ∀ index < limit, ¬ SharesFileAt stylesheets index := by
  rw [nodup_fileNames_iff]
  constructor
  · rintro apart index within ⟨name, has, earlier, before, has'⟩
    have has := (hasFileAt_take_iff stylesheets limit index name).mpr ⟨within, has⟩
    have has' := (hasFileAt_take_iff stylesheets limit earlier name).mpr
      ⟨Nat.lt_trans before within, has'⟩
    exact apart index ⟨name, has, earlier, before, has'⟩
  · rintro apart index ⟨name, has, earlier, before, has'⟩
    obtain ⟨within, has⟩ := (hasFileAt_take_iff stylesheets limit index name).mp has
    obtain ⟨_, has'⟩ := (hasFileAt_take_iff stylesheets limit earlier name).mp has'
    exact apart index within ⟨name, has, earlier, before, has'⟩

/-- Two places with the same file are a place that has the file of an earlier one. -/
theorem exists_sharesFileAt_iff (stylesheets : List Stylesheet) :
    (∃ index, SharesFileAt stylesheets index)
      ↔ ∃ first second name, first ≠ second ∧ HasFileAt stylesheets first name ∧
          HasFileAt stylesheets second name := by
  constructor
  · rintro ⟨later, name, has, earlier, before, has'⟩
    exact ⟨earlier, later, name, Nat.ne_of_lt before, has', has⟩
  · rintro ⟨first, second, name, differ, has, has'⟩
    rcases Nat.lt_or_gt_of_ne differ with before | after
    · exact ⟨second, name, has', first, before, has⟩
    · exact ⟨first, name, has, second, after, has'⟩

/-! ## Cutting at the conflict -/

/-- The names of files, bound to the stylesheets that they belong to. -/
def ownership (stylesheets : List Stylesheet) : List (Binding String String) :=
  (outputFiles stylesheets).map fun file => ⟨file.name, file.moduleId⟩

theorem names_ownership (stylesheets : List Stylesheet) :
    (ownership stylesheets).map Binding.name = fileNames stylesheets := by
  rw [ownership, List.map_map]
  rfl

/-- Behind stylesheets without conflict, their files belong to them. -/
theorem scanFrom_append_conflict {owners : Bindings String String} {before : List Stylesheet}
    (free : (scanFrom owners before).conflict = none) (rest : List Stylesheet) :
    (scanFrom owners (before ++ rest)).conflict
      = (scanFrom (owners.extend (ownership before)) rest).conflict := by
  induction before generalizing owners with
  | nil => rfl
  | cons stylesheet before ih =>
    rw [List.cons_append]
    rw [scanFrom] at free ⊢
    cases holds : stylesheet.text with
    | none =>
      rw [holds] at free
      rw [ownership, outputFiles_cons_none holds]
      exact ih free
    | some text =>
      rw [holds] at free
      rw [ownership, outputFiles_cons_some holds, List.map_cons, Bindings.extend_cons]
      cases taken : owners.get? (fileName stylesheet.moduleId) with
      | some first => simp only [taken, reduceCtorEq] at free
      | none =>
        simp only [taken] at free ⊢
        exact ih free

/-- **A conflict is found at the first stylesheet that has the file of an earlier one**, and is
with that one. -/
theorem scan_conflict_of_cut {before : List Stylesheet} {first second : Stylesheet}
    (distinct : (fileNames before).Nodup) (member : first ∈ before)
    (content : first.text.isSome) (content' : second.text.isSome)
    (same : fileName first.moduleId = fileName second.moduleId) (after : List Stylesheet) :
    (scan (before ++ second :: after)).conflict
      = some ⟨fileName second.moduleId, first.moduleId, second.moduleId⟩ := by
  obtain ⟨text, holds⟩ := Option.isSome_iff_exists.mp content
  obtain ⟨text', holds'⟩ := Option.isSome_iff_exists.mp content'
  have free : (scan before).conflict = none := (scan_conflict_eq_none_iff before).mpr distinct
  -- the names in front are bound to the ids that came with them
  have bound : (Bindings.ofList (ownership before)).get? (fileName second.moduleId)
      = some first.moduleId := by
    rw [← names_ownership] at distinct
    have kept := Bindings.toList_ofList_of_nodup distinct
    rw [← kept] at distinct
    have owner : (⟨fileName first.moduleId, first.moduleId⟩ : Binding String String)
        ∈ (Bindings.ofList (ownership before)).toList := by
      rw [kept, ownership, List.mem_map]
      exact ⟨_, mem_outputFiles member holds, rfl⟩
    rw [← same]
    have found := Bindings.get?_of_mem distinct owner
    exact found
  rw [scan, scanFrom_append_conflict free, ← Bindings.ofList, scanFrom, holds']
  simp only [bound]

/-- A list is cut at an index. -/
theorem eq_take_append_cons_drop {α : Type} {list : List α} {index : Nat} {item : α}
    (present : list[index]? = some item) :
    list = list.take index ++ item :: list.drop (index + 1) := by
  obtain ⟨within, rfl⟩ := List.getElem?_eq_some_iff.mp present
  rw [← List.drop_eq_getElem_cons within, List.take_append_drop]

/-- **The first stylesheet that has the file of an earlier one is in the conflict that is
found.** -/
theorem exists_firstConflict {stylesheets : List Stylesheet} {second : Nat}
    (shares : SharesFileAt stylesheets second)
    (least : ∀ index < second, ¬ SharesFileAt stylesheets index) :
    ∃ first conflict, FirstConflict stylesheets first second conflict ∧
      (scan stylesheets).conflict = some conflict := by
  obtain ⟨name, has', first, before, has⟩ := shares
  obtain ⟨earlier, present, content, named⟩ := (hasFileAt_iff _ _ _).mp has
  obtain ⟨later, present', content', named'⟩ := (hasFileAt_iff _ _ _).mp has'
  refine ⟨first, ⟨name, earlier.moduleId, later.moduleId⟩, ?_, ?_⟩
  · exact ⟨before, has, has', least, by rw [present]; rfl, by rw [present']; rfl⟩
  · have distinct := (nodup_fileNames_take_iff stylesheets second).mpr least
    have member : earlier ∈ stylesheets.take second := by
      apply List.mem_of_getElem?
      rw [List.getElem?_take, if_pos before, present]
    have cut := eq_take_append_cons_drop present'
    have found := scan_conflict_of_cut distinct member content content' (named.trans named'.symm)
      (stylesheets.drop (second + 1))
    calc (scan stylesheets).conflict
        = (scan (stylesheets.take second ++ later :: stylesheets.drop (second + 1))).conflict :=
          congrArg (fun list => (scan list).conflict) cut
      _ = some ⟨fileName later.moduleId, earlier.moduleId, later.moduleId⟩ := found
      _ = some ⟨name, earlier.moduleId, later.moduleId⟩ := by rw [named']

/-- **The conflict of stylesheets**, told by places. -/
theorem scan_conflict_eq_some_iff (stylesheets : List Stylesheet) (conflict : Conflict) :
    (scan stylesheets).conflict = some conflict
      ↔ ∃ first second, FirstConflict stylesheets first second conflict := by
  classical
  constructor
  · intro found
    have clash : ∃ index, SharesFileAt stylesheets index := by
      by_contra apart
      have free := (scan_conflict_eq_none_iff stylesheets).mpr
        ((nodup_fileNames_iff stylesheets).mpr (not_exists.mp apart))
      rw [free] at found
      cases found
    obtain ⟨first, conflict', first_conflict, found'⟩ :=
      exists_firstConflict (Nat.find_spec clash) fun index before => Nat.find_min clash before
    obtain rfl : conflict' = conflict := Option.some.inj (found'.symm.trans found)
    exact ⟨first, Nat.find clash, first_conflict⟩
  · rintro ⟨first, second, described⟩
    obtain ⟨_, conflict', described', found⟩ := exists_firstConflict
      ⟨_, described.shares, first, described.before, described.owns⟩ described.least
    rw [found, described'.unique described]

/-- There is a conflict exactly if two places have the same file. -/
theorem exists_scan_conflict_iff (stylesheets : List Stylesheet) :
    (∃ conflict, (scan stylesheets).conflict = some conflict)
      ↔ ∃ index, SharesFileAt stylesheets index := by
  rw [← not_iff_not, not_exists, not_exists, ← nodup_fileNames_iff, ← scan_conflict_eq_none_iff,
    Option.eq_none_iff_forall_not_mem]
  rfl

/-- Stylesheets without a text are passed over. -/
theorem scanFrom_filter_conflict (owners : Bindings String String)
    (stylesheets : List Stylesheet) :
    (scanFrom owners (stylesheets.filter fun stylesheet => stylesheet.text.isSome)).conflict
      = (scanFrom owners stylesheets).conflict := by
  induction stylesheets generalizing owners with
  | nil => rfl
  | cons stylesheet rest ih =>
    cases holds : stylesheet.text with
    | none =>
      rw [List.filter_cons_of_neg (by simp [holds]), ih owners]
      simp only [scanFrom, holds]
    | some text =>
      rw [List.filter_cons_of_pos (by simp [holds])]
      simp only [scanFrom, holds]
      cases owners.get? (fileName stylesheet.moduleId) with
      | some first => rfl
      | none => exact ih _

/-! ## Writing -/

section Runs

variable (stylesheets : List Stylesheet) (directory : String) (files : FileSystem)

/-- Files that are written one after another meet no conflict. -/
theorem writeFiles_failure_ne_conflict (targets : List OutputFile) (conflict : Conflict) :
    ((writeFiles directory targets : StateM FileSystem _).run files).1.2
      ≠ some (.conflict conflict) := by
  induction targets generalizing files with
  | nil => exact nofun
  | cons file rest ih =>
    rw [writeFiles_cons_run]
    cases file.write files directory with
    | error error => exact nofun
    | ok made => exact ih made

/-- Only a report of a failure to write has an error. -/
theorem WriteReport.paths_eq_error_iff (report : WriteReport) (error : WriteError) :
    report.paths = .error error ↔ report.failure = some error := by
  rw [WriteReport.paths]
  cases report.failure <;> simp

/-- **Writing ends with the conflict that going through the stylesheets finds**, and with no
other. -/
theorem paths_eq_conflict_iff (conflict : Conflict) :
    ((writeStylesheets stylesheets directory : StateM FileSystem WriteReport).run files).1.paths
        = .error (.conflict conflict)
      ↔ (scan stylesheets).conflict = some conflict := by
  rw [WriteReport.paths_eq_error_iff]
  cases found : (scan stylesheets).conflict with
  | some other =>
    rw [writeStylesheets_run_of_conflict found]
    simp only [Option.some.injEq, WriteError.conflict.injEq]
  | none =>
    have distinct := (scan_conflict_eq_none_iff stylesheets).mp found
    refine iff_of_false ?_ nofun
    cases made : (files.makeDirectories directory).2 with
    | error error =>
      rw [writeStylesheets_run_of_unmade distinct made]
      exact nofun
    | ok _ =>
      rw [writeStylesheets_run distinct made]
      exact writeFiles_failure_ne_conflict directory _ _ conflict

end Runs

/-- **What is reported when stylesheets share a file.**

Writing ends with a conflict exactly if two stylesheets at different places have a text and the
same file.  The conflict is then the one at the first stylesheet that has the file of an earlier
one, with that earlier one, of which there is only one, and with the name of the file.  Nothing
has been touched, whatever there is in the way of the directory.  Stylesheets without a text can
be left out: the same conflict is reported, or none. -/
theorem writeStylesheets_conflict {stylesheets : List Stylesheet} {directory : String}
    {files final : FileSystem} {report : WriteReport}
    (ran : (writeStylesheets stylesheets directory : StateM FileSystem WriteReport).run files
      = (report, final)) :
    ((∃ conflict, report.paths = .error (.conflict conflict)) ↔
      ∃ first second name, first ≠ second ∧ HasFileAt stylesheets first name ∧
        HasFileAt stylesheets second name) ∧
    (∀ conflict, report.paths = .error (.conflict conflict) ↔
      ∃ first second, FirstConflict stylesheets first second conflict) ∧
    (∀ first second conflict, FirstConflict stylesheets first second conflict →
      (∀ other < second, HasFileAt stylesheets other conflict.name → other = first) ∧
      final = files) ∧
    ∀ conflict, report.paths = .error (.conflict conflict) ↔
      ((writeStylesheets (stylesheets.filter fun stylesheet => stylesheet.text.isSome) directory :
        StateM FileSystem WriteReport).run files).1.paths = .error (.conflict conflict) := by
  have reported (conflict : Conflict) :
      report.paths = .error (.conflict conflict) ↔ (scan stylesheets).conflict = some conflict := by
    rw [← paths_eq_conflict_iff stylesheets directory files, ran]
  refine ⟨?_, ?_, ?_, ?_⟩
  · rw [← exists_sharesFileAt_iff, ← exists_scan_conflict_iff]
    exact exists_congr reported
  · intro conflict
    rw [reported, scan_conflict_eq_some_iff]
  · intro first second conflict described
    have found := (scan_conflict_eq_some_iff stylesheets conflict).mpr ⟨first, second, described⟩
    rw [writeStylesheets_run_of_conflict found] at ran
    exact ⟨fun other before has => described.eq_first before has, (Prod.mk.inj ran).2.symm⟩
  · intro conflict
    rw [reported, paths_eq_conflict_iff, scan, scan, scanFrom_filter_conflict]

/-- Two pairs share a file and one of the first names has no text; the directory cannot be made.
The pair whose later member comes first is reported. -/
theorem writeStylesheets_conflict_two_pairs :
    let files := FileSystem.empty.place "out" (.file "".toUTF8)
    let stylesheets : List Stylesheet :=
      [⟨"virtual:b", none⟩, ⟨"a", some "A"⟩, ⟨"b", some "B"⟩, ⟨"c", some "C"⟩,
        ⟨"virtual:b.css", some "D"⟩, ⟨"virtual:a", some "E"⟩]
    (files.makeDirectories "out").2 ≠ .ok () ∧
    ∃ report,
      (writeStylesheets stylesheets "out" : StateM FileSystem WriteReport).run files
        = (report, files) ∧
      report.paths = .error (.conflict ⟨"b.css", "b", "virtual:b.css"⟩) := by
  intro files stylesheets
  obtain ⟨⟨report, final⟩, ran⟩ : ∃ outcome,
      (writeStylesheets stylesheets "out" : StateM FileSystem WriteReport).run files = outcome :=
    ⟨_, rfl⟩
  have described : FirstConflict stylesheets 2 4 ⟨"b.css", "b", "virtual:b.css"⟩ :=
    { before := by decide
      owns := by decide +kernel
      shares := by decide +kernel
      least := (nodup_fileNames_take_iff stylesheets 4).mp (by decide +kernel)
      firstId := rfl
      secondId := rfl }
  obtain ⟨_, reported, untouched, _⟩ := writeStylesheets_conflict ran
  obtain ⟨_, rfl⟩ := untouched 2 4 _ described
  exact ⟨by decide +kernel, report, ran, (reported _).mpr ⟨2, 4, described⟩⟩

end CustomProperties
