import CustomProperties.Proofs.Candidates

/-!
# What selector and formatting are for

The selector and the formatting of a request say how its block looks, and nothing else depends
on them.  A block that declares anything is put together from the declarations of its variables,
which are the same under every selector and every formatting (`presents_declarations`); only what
stands between them differs, and that is no matter of the indent where nothing is indented, nor
of its size where it is a tab.  A block without declarations is no block at all, and so it is not
put together in this way (`not_presents_nil`).

Requests that are equal but for selector and formatting (`ModuleRequest.bare`) declare the same
variables and have the same problems.  So lists of such requests compile to stylesheets with the
same ids, of which the same have no text, and to the same diagnostics.  The main statement is
`presentation_only`.
-/

namespace CustomProperties

set_option autoImplicit false

/-! ## Blocks -/

/-- The blocks of some variables are put together from these declarations: in one line, or each
declaration on a line of its own behind the indent. -/
structure Presents (properties : List Variable) (declarations : List String) : Prop where
  minified : ∀ (selector : String) (formatting : Formatting), formatting.pretty = false →
    ruleBlock selector formatting properties
      = selector ++ " \x7b" ++ String.join declarations ++ "\x7d"
  pretty : ∀ (selector : String) (formatting : Formatting), formatting.pretty = true →
    ruleBlock selector formatting properties
      = selector ++ " \x7b"
        ++ String.join (declarations.map fun declaration =>
            "\n" ++ String.ofList formatting.indent ++ declaration)
        ++ "\n\x7d"

/-- The characters of a block that declares something. -/
theorem toList_ruleBlock (selector : String) (formatting : Formatting)
    {properties : List Variable} (nonempty : properties ≠ []) :
    (ruleBlock selector formatting properties).toList
      = blockCharacters selector formatting properties := by
  have filled : properties.isEmpty = false := List.isEmpty_eq_false_iff.mpr nonempty
  rw [ruleBlock, filled, if_neg Bool.false_ne_true, String.toList_ofList]

/-- **A block is put together from the declarations of its variables.** -/
theorem presents_declarations {properties : List Variable} (nonempty : properties ≠ []) :
    Presents properties (properties.map fun property => String.ofList (declaration property)) := by
  constructor
  · intro selector formatting minified
    apply String.toList_inj.mp
    rw [toList_ruleBlock selector formatting nonempty, blockCharacters, blockBody, minified]
    simp only [String.toList_append, String.toList_join, List.flatMap_map, String.toList_ofList]
    simp
  · intro selector formatting pretty
    apply String.toList_inj.mp
    rw [toList_ruleBlock selector formatting nonempty, blockCharacters, blockBody, pretty]
    simp only [String.toList_append, String.toList_join, List.flatMap_map, String.toList_ofList]
    simp

/-- A block of no variables is empty. -/
theorem ruleBlock_nil (selector : String) (formatting : Formatting) :
    ruleBlock selector formatting [] = "" := rfl

/-- **A block of no variables is not put together from declarations**, for it has no braces. -/
theorem not_presents_nil : ¬ ∃ declarations, Presents [] declarations := by
  rintro ⟨declarations, presented⟩
  have braces := presented.minified defaultSelector .minified rfl
  rw [ruleBlock_nil] at braces
  have characters := congrArg String.toList braces
  simp at characters

/-- On one line, indents do not matter. -/
theorem ruleBlock_congr_of_minified {formatting other : Formatting}
    (minified : formatting.pretty = false) (minified' : other.pretty = false) (selector : String)
    (properties : List Variable) :
    ruleBlock selector formatting properties = ruleBlock selector other properties := by
  by_cases empty : properties = []
  · rw [empty, ruleBlock_nil, ruleBlock_nil]
  · have presented := presents_declarations empty
    rw [presented.minified selector formatting minified, presented.minified selector other minified']

/-- Where lines are indented by a tab, its size does not matter. -/
theorem ruleBlock_congr_of_useTabs {formatting other : Formatting}
    (pretty : formatting.pretty = true) (pretty' : other.pretty = true)
    (tabs : formatting.useTabs = true) (tabs' : other.useTabs = true) (selector : String)
    (properties : List Variable) :
    ruleBlock selector formatting properties = ruleBlock selector other properties := by
  by_cases empty : properties = []
  · rw [empty, ruleBlock_nil, ruleBlock_nil]
  · have presented := presents_declarations empty
    have indent_eq : formatting.indent = other.indent := by
      rw [Formatting.indent, Formatting.indent, if_pos tabs, if_pos tabs']
    rw [presented.pretty selector formatting pretty, presented.pretty selector other pretty',
      indent_eq]

/-! ## Requests -/

/-- A request with the selector and the formatting that it would have if it said nothing about
them. -/
def ModuleRequest.bare (request : ModuleRequest) : ModuleRequest :=
  { request with selector := defaultSelector, formatting := .standard }

/-- Requests are equal but for selector and formatting. -/
def DifferInLooks (requests others : List ModuleRequest) : Prop :=
  requests.map ModuleRequest.bare = others.map ModuleRequest.bare

namespace ModuleRequest

variable {request other : ModuleRequest}

/-- A stylesheet has no text exactly if nothing is declared. -/
theorem isEmpty_stylesheet (request : ModuleRequest) (maxDepth : Nat) (moduleId : String) :
    (request.stylesheet maxDepth moduleId).isEmpty = (request.declared maxDepth).isEmpty := by
  rw [stylesheet, Stylesheet.isEmpty, css]
  cases (request.declared maxDepth).isEmpty <;> rfl

variable (same : request.bare = other.bare)
include same

theorem id_eq_of_bare_eq : request.id = other.id := by
  calc request.id = request.bare.id := rfl
    _ = other.bare.id := by rw [same]
    _ = other.id := rfl

theorem problems_eq_of_bare_eq (maxDepth : Nat) :
    request.problems maxDepth = other.problems maxDepth := by
  calc request.problems maxDepth = request.bare.problems maxDepth := rfl
    _ = other.bare.problems maxDepth := by rw [same]
    _ = other.problems maxDepth := rfl

theorem declared_eq_of_bare_eq (maxDepth : Nat) :
    request.declared maxDepth = other.declared maxDepth := by
  calc request.declared maxDepth = request.bare.declared maxDepth := rfl
    _ = other.bare.declared maxDepth := by rw [same]
    _ = other.declared maxDepth := rfl

/-- What is made of a stylesheet without a text depends on its id alone, and whether there is one
is the same for both requests. -/
theorem filter_isEmpty_stylesheet (maxDepth : Nat) (moduleId : String) :
    Option.filter Stylesheet.isEmpty (some (request.stylesheet maxDepth moduleId))
      = Option.filter Stylesheet.isEmpty (some (other.stylesheet maxDepth moduleId)) := by
  have declared_eq := declared_eq_of_bare_eq same maxDepth
  rw [Option.filter_some, Option.filter_some, isEmpty_stylesheet, isEmpty_stylesheet, declared_eq]
  cases blank : (other.declared maxDepth).isEmpty with
  | false => rw [if_neg Bool.false_ne_true, if_neg Bool.false_ne_true]
  | true => simp only [stylesheet, css, declared_eq, blank, if_true]

end ModuleRequest

/-! ## Lists of requests -/

section Compilations

variable {requests others : List ModuleRequest} (same : DifferInLooks requests others)
  (maxDepth : Nat)
include same

/-- What candidates come to by ids, problems and variables is the same. -/
theorem DifferInLooks.filterMap_candidates {α : Type} {make : Candidate → Option α}
    (make_congr : ∀ index admission request other,
      ModuleRequest.bare request = ModuleRequest.bare other →
        make ⟨index, request, admission⟩ = make ⟨index, other, admission⟩) :
    (candidates requests).filterMap make = (candidates others).filterMap make :=
  filterMap_candidatesFrom_congr (fun _ _ => ModuleRequest.id_eq_of_bare_eq) make_congr [] 0 same

/-- The ids are the same. -/
theorem DifferInLooks.map_moduleId :
    (compile requests maxDepth).stylesheets.map Stylesheet.moduleId
      = (compile others maxDepth).stylesheets.map Stylesheet.moduleId := by
  simp only [compile, List.map_filterMap]
  apply same.filterMap_candidates
  intro index admission request other _
  cases admission with
  | unnamed => rfl
  | repeated moduleId => rfl
  | admitted moduleId =>
    simp only [Candidate.stylesheet?, Option.map_some, ModuleRequest.stylesheet]

/-- The stylesheets without a text are the same. -/
theorem DifferInLooks.filter_isEmpty :
    (compile requests maxDepth).stylesheets.filter Stylesheet.isEmpty
      = (compile others maxDepth).stylesheets.filter Stylesheet.isEmpty := by
  simp only [compile, List.filter_filterMap]
  apply same.filterMap_candidates
  intro index admission request other bare_eq
  cases admission with
  | unnamed => rfl
  | repeated moduleId => rfl
  | admitted moduleId => exact ModuleRequest.filter_isEmpty_stylesheet bare_eq maxDepth moduleId

/-- The diagnostics are the same. -/
theorem DifferInLooks.diagnostics_eq :
    (compile requests maxDepth).diagnostics = (compile others maxDepth).diagnostics := by
  apply same.filterMap_candidates
  intro index admission request other bare_eq
  cases admission with
  | unnamed => rfl
  | repeated moduleId => rfl
  | admitted moduleId =>
    simp only [Candidate.diagnostic?, ModuleRequest.malformed?,
      ModuleRequest.problems_eq_of_bare_eq bare_eq]

end Compilations

/-- **Selector and formatting are for the looks only.**

Whatever a list of variables holds, if it holds any, its blocks are put together from one list of
declarations, with the selector and the white space around them; without variables there is no
block, under every selector and every formatting.  On one line the indent does not matter, and
behind tabs its size does not.  Lists of requests that differ in looks compile to stylesheets
with the same ids in the same order, of which the same have no text, and to the same
diagnostics. -/
theorem presentation_only :
    (∀ properties : List Variable, properties ≠ [] →
      Presents properties
        (properties.map fun property => String.ofList (declaration property))) ∧
    (∀ (selector : String) (formatting : Formatting), ruleBlock selector formatting [] = "") ∧
    (∀ (selector : String) (properties : List Variable) (formatting other : Formatting),
      formatting.pretty = false → other.pretty = false →
        ruleBlock selector formatting properties = ruleBlock selector other properties) ∧
    (∀ (selector : String) (properties : List Variable) (formatting other : Formatting),
      formatting.pretty = true → other.pretty = true →
      formatting.useTabs = true → other.useTabs = true →
        ruleBlock selector formatting properties = ruleBlock selector other properties) ∧
    ∀ (requests others : List ModuleRequest) (maxDepth : Nat), DifferInLooks requests others →
      (compile requests maxDepth).stylesheets.map Stylesheet.moduleId
          = (compile others maxDepth).stylesheets.map Stylesheet.moduleId ∧
        (compile requests maxDepth).stylesheets.filter Stylesheet.isEmpty
          = (compile others maxDepth).stylesheets.filter Stylesheet.isEmpty ∧
        (compile requests maxDepth).diagnostics = (compile others maxDepth).diagnostics := by
  refine ⟨fun _ => presents_declarations, ruleBlock_nil, ?_, ?_, ?_⟩
  · intro selector properties formatting other minified minified'
    exact ruleBlock_congr_of_minified minified minified' selector properties
  · intro selector properties formatting other pretty pretty' tabs tabs'
    exact ruleBlock_congr_of_useTabs pretty pretty' tabs tabs' selector properties
  · intro requests others maxDepth same
    exact ⟨same.map_moduleId maxDepth, same.filter_isEmpty maxDepth, same.diagnostics_eq maxDepth⟩

/-- Under tabs a size that no text could hold makes no difference, and neither do selectors and
formattings to what is said of a module without variables and of one that is malformed. -/
theorem presentation_only_unused_size :
    let properties : List Variable := [⟨"gap", ⟨"1rem", false⟩⟩, ⟨"ink", ⟨"", false⟩⟩]
    let tabs (size : Nat) (positive : 0 < size) : Formatting := ⟨true, true, size, positive⟩
    let request (selector : String) (formatting : Formatting) (source : Tree) : ModuleRequest :=
      { moduleId := some "a", sources := [source], selector, formatting }
    let others := [request "body" (tabs 4 (by decide)) (.unsupported .null)]
    properties ≠ [] ∧
    ruleBlock "body" (tabs 18446744073709551615 (by decide)) properties
      = ruleBlock "body" (tabs 4 (by decide)) properties ∧
    ruleBlock "body" (tabs 4 (by decide)) properties
      = "body \x7b\n\t--gap: 1rem;\n\t--ink: \"\";\n\x7d" ∧
    (compile [request ":root" .minified (.unsupported .null)]).stylesheets.filter
        Stylesheet.isEmpty = [⟨"a", none⟩] ∧
    (compile [request ":root" .minified (.unsupported .null)]).diagnostics
      = (compile others).diagnostics := by
  intro properties tabs request others
  obtain ⟨blocks, _, _, behindTabs, compiled⟩ := presentation_only
  have nonempty : properties ≠ [] := List.cons_ne_nil _ _
  have same : DifferInLooks [request ":root" .minified (.unsupported .null)] others := rfl
  obtain ⟨_, blank, diagnostics⟩ := compiled _ others defaultMaxDepth same
  refine ⟨nonempty, behindTabs _ _ _ _ rfl rfl rfl rfl, ?_, ?_, diagnostics⟩
  · rw [(blocks properties nonempty).pretty "body" _ rfl]
    decide +kernel
  · rw [blank]
    decide +kernel

end CustomProperties
