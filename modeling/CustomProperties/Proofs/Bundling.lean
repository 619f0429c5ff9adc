import CustomProperties.Proofs.CommandOutcomes
import Mathlib

/-!
# Bundles are rows of modules

Printing several modules at once comes to printing each of them.  The two commands ask different
questions, one whether an id is unknown and what its content is, the other for the first unknown
id and for the contents that there are.  That they agree is `bundle_concatenates_renders`.

A content is printed as a line, so between two contents of a bundle, which are a blank line apart,
stands one line break more than between two modules that are printed one after another
(`intercalate_map_append_newline`).
-/

namespace CustomProperties

set_option autoImplicit false

/-! ## Rows of contents -/

/-- A row of lines with an empty line between them. -/
theorem intercalate_map_append_newline (first : String) (rest : List String) :
    "\n".intercalate ((first :: rest).map (· ++ "\n"))
      = "\n\n".intercalate (first :: rest) ++ "\n" := by
  induction rest generalizing first with
  | nil => simp
  | cons second rest ih =>
    have joined : "\n\n" = "\n" ++ "\n" := by decide
    have later := ih second
    simp only [List.map_cons] at later ⊢
    rw [String.intercalate_cons_cons, later, String.intercalate_cons_cons, joined]
    simp only [String.append_assoc]

namespace CommandLine

theorem filter_map_lineOf (content? : String → Option String) (names : List String) :
    (names.map fun name => lineOf (content? name)).filter (· ≠ "")
      = (names.filterMap content?).map (· ++ "\n") := by
  induction names with
  | nil => rfl
  | cons name rest ih =>
    rw [List.map_cons, List.filterMap_cons]
    cases content? name with
    | none =>
      rw [List.filter_cons_of_neg (by simp)]
      exact ih
    | some text =>
      rw [List.filter_cons_of_pos (by simp), ih]
      rfl

/-- **A bundle is the row of what is printed of its modules.** -/
theorem lineOf_bundle? (modules : VirtualModules) (moduleIds : List String) :
    lineOf (modules.bundle? moduleIds)
      = "\n".intercalate
          ((moduleIds.map fun moduleId => lineOf (modules.content? moduleId)).filter (· ≠ "")) := by
  rw [filter_map_lineOf, VirtualModules.bundle?]
  cases moduleIds.filterMap modules.content? with
  | nil => rfl
  | cons first rest => exact (intercalate_map_append_newline first rest).symm

/-! ## First failures -/

/-- The first module that is unknown is the first one that cannot be printed. -/
theorem findSome?_unknown? (modules : VirtualModules) (moduleIds : List String) :
    moduleIds.findSome? (unknown? modules)
      = (moduleIds.find? (!modules.has ·)).map Failure.unknownModule := by
  induction moduleIds with
  | nil => rfl
  | cons moduleId rest ih =>
    rw [List.findSome?_cons, List.find?_cons, unknown?]
    cases modules.has moduleId with
    | true => exact ih
    | false => rfl

/-- **A bundle fails like the first module that cannot be printed**, and otherwise prints them. -/
theorem exists_prints (files : FileSystem) (path first : String) (others : List String) :
    ∃ (fails : String → Option Failure) (text : String → String),
      (∀ moduleId, (Command.render path moduleId).Prints files (fails moduleId) (text moduleId)) ∧
      (∀ moduleId, (fails moduleId).isSome → text moduleId = "") ∧
      (Command.bundle path (first :: others)).Prints files ((first :: others).findSome? fails)
        (if ((first :: others).findSome? fails).isSome then ""
          else "\n".intercalate (((first :: others).map text).filter (· ≠ ""))) := by
  cases usable : loadFailure? files path with
  | some failure =>
    exact ⟨fun _ => some failure, fun _ => "", render_prints_of_loadFailure usable, fun _ _ => rfl,
      bundle_prints_of_loadFailure usable _⟩
  | none =>
    obtain ⟨modules, loaded, registered⟩ := loadFailure?_eq_none_iff.mp usable
    refine ⟨unknown? modules, fun moduleId => lineOf (modules.content? moduleId),
      render_prints loaded registered, ?_, ?_⟩
    · intro moduleId failed
      cases known : modules.has moduleId with
      | true => simp [unknown?, known] at failed
      | false =>
        exact congrArg lineOf (VirtualModules.content?_of_not_has known)
    · rw [findSome?_unknown?]
      cases found : (first :: others).find? (!modules.has ·) with
      | some unknown => exact bundle_prints_of_find? loaded registered found
      | none =>
        have prints := bundle_prints_of_find?_eq_none loaded registered found
        rw [lineOf_bundle?] at prints
        exact prints

/-! ## Bundles -/

/-- **A bundle is the concatenation of its modules**, printed one at a time.

It succeeds exactly if each of the modules can be printed, and then it prints what they print, as
far as they print something, with a line break in between.  Otherwise it prints nothing and fails
like the first of them that cannot be printed, which prints nothing either.  No file is touched in
any case. -/
theorem bundle_concatenates_renders (files : FileSystem) (path first : String)
    (others : List String) (elapsed : Command → String) :
    let moduleIds := first :: others
    let bundle := Command.bundle path moduleIds
    let render := Command.render path
    let status (command : Command) := (command.runOn files).1.status
    let failure (command : Command) := (command.runOn files).1.failure
    let stdout (command : Command) := (command.runOn files).1.stdout (elapsed command)
    (status bundle = 0 ↔ ∀ moduleId ∈ moduleIds, status (render moduleId) = 0) ∧
    (status bundle = 0 →
      stdout bundle
        = "\n".intercalate
            ((moduleIds.map fun moduleId => stdout (render moduleId)).filter (· ≠ ""))) ∧
    (status bundle ≠ 0 →
      status bundle = 1 ∧ stdout bundle = "" ∧
      ∃ before failing after, moduleIds = before ++ failing :: after ∧
        (∀ earlier ∈ before, status (render earlier) = 0) ∧ status (render failing) = 1 ∧
        failure bundle = failure (render failing)) ∧
    (∀ moduleId, status (render moduleId) ≠ 0 →
      status (render moduleId) = 1 ∧ stdout (render moduleId) = "") ∧
    (bundle.runOn files).2 = files ∧ ∀ moduleId, ((render moduleId).runOn files).2 = files := by
  intro moduleIds bundle render status failure stdout
  obtain ⟨fails, text, rendered, silent, bundled⟩ := exists_prints files path first others
  have good (moduleId : String) : status (render moduleId) = 0 ↔ fails moduleId = none :=
    (rendered moduleId).status_eq_zero_iff
  have printed_text (moduleId : String) : stdout (render moduleId) = text moduleId :=
    (rendered moduleId).stdout _
  refine ⟨?_, ?_, ?_, ?_, bundled.untouched, fun moduleId => (rendered moduleId).untouched⟩
  · rw [bundled.status_eq_zero_iff, List.findSome?_eq_none_iff]
    simp only [good]
    exact Iff.rfl
  · intro succeeded
    rw [bundled.status_eq_zero_iff] at succeeded
    simp only [printed_text]
    have prints := bundled.stdout (elapsed bundle)
    rw [succeeded] at prints
    exact prints
  · intro not_succeeded
    rw [ne_eq, bundled.status_eq_zero_iff, ← ne_eq, Option.ne_none_iff_exists'] at not_succeeded
    obtain ⟨reason, found⟩ := not_succeeded
    obtain ⟨before, failing, after, cut, failed, earlier⟩ := List.findSome?_eq_some_iff.mp found
    rw [found] at bundled
    refine ⟨?_, bundled.stdout _, before, failing, after, cut, fun moduleId member => ?_, ?_, ?_⟩
    · exact (Outcome.status_eq_one_iff _).mpr ⟨reason, bundled.failure⟩
    · exact (good moduleId).mpr (earlier moduleId member)
    · exact (Outcome.status_eq_one_iff _).mpr ⟨reason, (rendered failing).failure.trans failed⟩
    · exact bundled.failure.trans ((rendered failing).failure.trans failed).symm
  · intro moduleId not_succeeded
    rw [ne_eq, good, ← ne_eq, Option.ne_none_iff_exists'] at not_succeeded
    obtain ⟨reason, failed⟩ := not_succeeded
    constructor
    · exact (Outcome.status_eq_one_iff _).mpr ⟨reason, (rendered moduleId).failure.trans failed⟩
    · rw [printed_text]
      exact silent moduleId (by rw [failed]; rfl)

set_option maxRecDepth 20000 in
/-- Three modules, of which the second one has no content. -/
theorem bundle_concatenates_renders_blank :
    let text := "[[\"a\",\x7b\"x\":\"1\"\x7d],[\"b\"],[\"c\",\x7b\"y\":\"2\"\x7d]]"
    let files := FileSystem.empty.place "options.json" (.file text.toUTF8)
    let stdout (command : Command) := (command.runOn files).1.stdout "0.1"
    stdout (.bundle "options.json" ["c", "b", "a"])
      = stdout (.render "options.json" "c") ++ "\n" ++ stdout (.render "options.json" "a") := by
  intro text files stdout
  obtain ⟨_, texts, _⟩ :=
    bundle_concatenates_renders files "options.json" "c" ["b", "a"] fun _ => "0.1"
  have blank : (["c", "b", "a"].map fun moduleId => stdout (.render "options.json" moduleId)).filter
      (· ≠ "") = [stdout (.render "options.json" "c"), stdout (.render "options.json" "a")] := by
    decide +kernel
  have joined := texts (by decide +kernel)
  rw [blank] at joined
  refine joined.trans ?_
  rw [String.intercalate_cons_cons, String.intercalate_singleton]

end CommandLine

end CustomProperties
