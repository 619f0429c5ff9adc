import CustomProperties.VirtualModules

/-!
# The laws of bundling

A bundle is asked for by a list of ids, which may be cut anywhere: what the two parts come to is put
one after the other (`bundle?_append`).  Where a part has content a blank line stands between them,
and a part without content leaves none behind, neither at an end nor doubled in the middle.  So a
bundle is determined by the contents of single modules, and ids that have no content may be left out
of the list, each where it stands (`LeavesOut.bundle?_eq`).  The main statement is `bundle_laws`.
-/

namespace CustomProperties

set_option autoImplicit false

namespace VirtualModules

/-- Two texts with a blank line between them. -/
def spaced (first second : String) : String := first ++ "\n\n" ++ second

variable (modules : VirtualModules)

/-! ## Lists that are cut -/

/-- There is something to bundle if one of the modules has content. -/
theorem bundle?_eq_none_iff (moduleIds : List String) :
    modules.bundle? moduleIds = none ↔ ∀ moduleId ∈ moduleIds, modules.content? moduleId = none := by
  rw [← List.filterMap_eq_nil_iff, bundle?]
  cases moduleIds.filterMap modules.content? with
  | nil => exact iff_of_true rfl rfl
  | cons first rest => exact iff_of_false (Option.some_ne_none _) (List.cons_ne_nil first rest)

/-- The bundle of one module is its content. -/
theorem bundle?_singleton (moduleId : String) :
    modules.bundle? [moduleId] = modules.content? moduleId := by
  cases content : modules.content? moduleId with
  | none => simp only [bundle?, List.filterMap_cons, content, List.filterMap_nil, joined?]
  | some text =>
    simp only [bundle?, List.filterMap_cons, content, List.filterMap_nil, joined?,
      String.intercalate_singleton]

/-- **A bundle is put together from its parts**, with a blank line between two that have content. -/
theorem bundle?_append (first second : List String) :
    modules.bundle? (first ++ second)
      = Option.merge spaced (modules.bundle? first) (modules.bundle? second) := by
  simp only [bundle?, List.filterMap_append]
  cases front : first.filterMap modules.content? with
  | nil => rw [List.nil_append, joined?, Option.merge_none_left]
  | cons text texts =>
    cases back : second.filterMap modules.content? with
    | nil => rw [List.append_nil, joined?, Option.merge_none_right]
    | cons text' texts' =>
      have joined := String.intercalate_append_of_ne_nil (s := "\n\n")
        (List.cons_ne_nil text texts) (List.cons_ne_nil text' texts')
      exact congrArg some joined

/-! ## Ids that are left out -/

/-- The second list is the first one without some ids that have no content. -/
inductive LeavesOut : List String → List String → Prop where
  | nil : LeavesOut [] []
  | keep (moduleId : String) {moduleIds kept : List String} (rest : LeavesOut moduleIds kept) :
      LeavesOut (moduleId :: moduleIds) (moduleId :: kept)
  | drop {moduleId : String} {moduleIds kept : List String}
      (absent : modules.content? moduleId = none) (rest : LeavesOut moduleIds kept) :
      LeavesOut (moduleId :: moduleIds) kept

/-- **Ids without content may be left out.** -/
theorem LeavesOut.bundle?_eq {moduleIds kept : List String}
    (leavesOut : modules.LeavesOut moduleIds kept) :
    modules.bundle? kept = modules.bundle? moduleIds := by
  induction leavesOut with
  | nil => rfl
  | @keep moduleId moduleIds kept rest ih =>
    rw [← List.singleton_append, bundle?_append, ih, ← bundle?_append, List.singleton_append]
  | @drop moduleId moduleIds kept absent rest ih =>
    rw [← List.singleton_append, bundle?_append, bundle?_singleton, absent,
      Option.merge_none_left, ih]

/-- **The laws of bundling.**

The bundle of two lists of ids joined is that of the first and that of the second, with a blank line
between them if both have content, and otherwise the one that has content, if any.  A bundle is
missing exactly if each of the modules has no content, the bundle of one module is its content, and
ids that have no content may be left out of a list at any place. -/
theorem bundle_laws :
    (∀ first second : List String,
      modules.bundle? (first ++ second)
        = Option.merge spaced (modules.bundle? first) (modules.bundle? second)) ∧
    (∀ moduleIds : List String,
      modules.bundle? moduleIds = none
        ↔ ∀ moduleId ∈ moduleIds, modules.content? moduleId = none) ∧
    (∀ moduleId : String, modules.bundle? [moduleId] = modules.content? moduleId) ∧
    (∀ moduleIds kept : List String, modules.LeavesOut moduleIds kept →
      modules.bundle? kept = modules.bundle? moduleIds) :=
  ⟨modules.bundle?_append, modules.bundle?_eq_none_iff, modules.bundle?_singleton,
    fun _ _ leavesOut => leavesOut.bundle?_eq⟩

/-- One module twice, with an unknown id, an empty one and a module without content around it. -/
theorem bundle_laws_gaps :
    let gap : Tree := .branch ⟨[⟨"gap", .leaf (.plain "1")⟩]⟩
    let modules := (build [{ moduleId := some "a", sources := [gap] }, { moduleId := some "b" }]
      ({} : CollectingSink)).1
    modules.LeavesOut ["b", "a", "", "b", "c", "a", "c"] ["a", "a"] ∧
    modules.bundle? ["a"] = some ":root \x7b\n  --gap: 1;\n\x7d" ∧
    modules.bundle? ["b", "a", "", "b", "c", "a", "c"]
      = some ":root \x7b\n  --gap: 1;\n\x7d\n\n:root \x7b\n  --gap: 1;\n\x7d" := by
  intro gap modules
  have alone : modules.bundle? ["a"] = some ":root \x7b\n  --gap: 1;\n\x7d" := by decide +kernel
  have leavesOut : modules.LeavesOut ["b", "a", "", "b", "c", "a", "c"] ["a", "a"] := by
    refine .drop (by decide) (.keep "a" (.drop (by decide) (.drop (by decide) ?_)))
    exact .drop (by decide) (.keep "a" (.drop (by decide) .nil))
  obtain ⟨joins, _, _, leaves⟩ := modules.bundle_laws
  have twice := joins ["a"] ["a"]
  rw [alone] at twice
  exact ⟨leavesOut, alone, (leaves _ _ leavesOut).symm.trans twice⟩

end VirtualModules

end CustomProperties
