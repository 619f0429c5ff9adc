import CustomProperties.IndexedModules
import CustomProperties.Proofs.IndexAgreement
import CustomProperties.Proofs.ModuleIndex

/-!
# The places of the modules

The modules of a build can be looked up in one list of bindings, or in an array at the place that
an index gives.  These are two views of one thing as long as no id is repeated, and a compilation
repeats none.  So the array holds the bindings of the list and the index gives their places
(`stores_ofCompilation`), no look-up fails, and everything that is asked of the modules has the same
answer in either view (`Keeps`).  The main statement is `build_keeps`.
-/

namespace CustomProperties.IndexedModules

set_option autoImplicit false

/-- Modules with an index keep modules that are searched: they hold the same and answer alike. -/
structure Keeps (indexed : IndexedModules) (modules : VirtualModules) : Prop where
  /-- The array holds the contents, and the index gives their places. -/
  stores : indexed.table.Stores modules.contents
  diagnostics : indexed.diagnostics = modules.diagnostics
  ids : indexed.ids = modules.ids
  stylesheets : indexed.stylesheets = modules.stylesheets
  has : ∀ moduleId, indexed.has moduleId = modules.has moduleId
  /-- Asking for a content does not fail. -/
  content? : ∀ moduleId, indexed.content? moduleId = .ok (modules.content? moduleId)
  bundle? : ∀ moduleIds, indexed.bundle? moduleIds = .ok (modules.bundle? moduleIds)

/-- The index of a compilation gives the places of its ids. -/
theorem stores_ofCompilation (requests : List ModuleRequest) (maxDepth : Nat) :
    (ofCompilation (compile requests maxDepth)).table.Stores
      (VirtualModules.ofCompilation (compile requests maxDepth)).contents := by
  have distinct := nodup_moduleId_compile requests maxDepth
  have listed := VirtualModules.toList_contents_ofCompilation requests maxDepth
  have agrees : (ofCompilation (compile requests maxDepth)).table.Agrees := by
    refine IndexedBindings.agrees_index ?_
    rw [List.map_map]
    exact distinct
  have same : (ofCompilation (compile requests maxDepth)).table.bindings
      = (VirtualModules.ofCompilation (compile requests maxDepth)).contents :=
    congrArg Bindings.mk listed.symm
  exact same ▸ agrees.stores

section Stored

variable {indexed : IndexedModules} {modules : VirtualModules}
  (stores : indexed.table.Stores modules.contents)
include stores

theorem has_of_stores (moduleId : String) : indexed.has moduleId = modules.has moduleId := by
  rw [has, Std.HashMap.contains_eq_isSome_getElem?, stores.places, Bindings.position?,
    List.findIdx?_isSome]
  rfl

theorem content?_of_stores (moduleId : String) :
    indexed.content? moduleId = .ok (modules.content? moduleId) := by
  rw [content?, stores.get]
  rfl

/-- No look-up of a bundle fails if none of a module does. -/
theorem bundle?_of_stores (moduleIds : List String) :
    indexed.bundle? moduleIds = .ok (modules.bundle? moduleIds) := by
  have found : moduleIds.mapM indexed.content? = .ok (moduleIds.map modules.content?) := by
    rw [funext (content?_of_stores stores)]
    exact List.mapM_pure
  rw [bundle?, found, VirtualModules.bundle?, ← Function.id_comp modules.content?,
    ← List.filterMap_map]
  rfl

/-- **What stores the contents of modules answers as they do.** -/
theorem keeps_of_stores (diagnostics : indexed.diagnostics = modules.diagnostics) :
    indexed.Keeps modules where
  stores := stores
  diagnostics := diagnostics
  ids := congrArg (List.map Binding.name) stores.entries
  stylesheets := by rw [IndexedModules.stylesheets, stores.entries, VirtualModules.stylesheets]
  has := has_of_stores stores
  content? := content?_of_stores stores
  bundle? := bundle?_of_stores stores

end Stored

/-- **The modules of a build can be kept with an index.**  However they are asked, the modules in an
array with an index of their places answer like those that are searched, and what is delivered to
the sink is the same. -/
theorem build_keeps {σ : Type} [DiagnosticSink σ] (requests : List ModuleRequest) (sink : σ)
    (maxDepth : Nat) :
    (build requests sink maxDepth).1.Keeps (VirtualModules.build requests sink maxDepth).1 ∧
      (build requests sink maxDepth).2 = (VirtualModules.build requests sink maxDepth).2 :=
  ⟨keeps_of_stores (stores_ofCompilation requests maxDepth) rfl, rfl⟩

end CustomProperties.IndexedModules
