import CustomProperties.IndexedBindings
import CustomProperties.VirtualModules

/-!
# Modules with an index

The modules of a build can be stored as they come out of the compilation, in an array, with an
index that tells the place of every id.  The ids are then read off the array, and whether an id is
known is read off the index.  The content of a module takes both: its place is looked up in the
index, and what stands there in the array.

The index is made once, and nothing in the type makes it agree with the array.  So asking for a
content may fail, at a place beyond the array.
-/

namespace CustomProperties

set_option autoImplicit false

/-- The modules of a build in an array, with an index of the places of their ids. -/
structure IndexedModules where
  /-- The content of every module; one that declares nothing has none. -/
  table : IndexedBindings String (Option String)
  diagnostics : List Diagnostic

namespace IndexedModules

/-- Index a compilation. -/
def ofCompilation (compilation : Compilation) : IndexedModules :=
  { table := .index (compilation.stylesheets.map fun stylesheet =>
      ⟨stylesheet.moduleId, stylesheet.text⟩)
    diagnostics := compilation.diagnostics }

/-- Compile requests and deliver the diagnostics. -/
def build {σ : Type} [DiagnosticSink σ] (requests : List ModuleRequest) (sink : σ)
    (maxDepth : Nat := defaultMaxDepth) : IndexedModules × σ :=
  let compilation := compile requests maxDepth
  (ofCompilation compilation, Diagnostics.emit compilation.diagnostics sink)

/-- Whether an id is that of a module. -/
def has (modules : IndexedModules) (moduleId : String) : Bool :=
  modules.table.places.contains moduleId

/-- The content of a module; unknown modules and modules that declare nothing have
none. -/
def content? (modules : IndexedModules) (moduleId : String) : Except Misplaced (Option String) :=
  (modules.table.get? moduleId).map Option.join

/-- The contents of several modules, in the order asked for, with a blank line
between them; modules without content are passed over. -/
def bundle? (modules : IndexedModules) (moduleIds : List String) :
    Except Misplaced (Option String) :=
  (moduleIds.mapM modules.content?).map fun contents =>
    VirtualModules.joined? (contents.filterMap id)

/-- The ids of the modules, in order. -/
def ids (modules : IndexedModules) : List String := modules.table.names

/-- The modules as stylesheets, in order. -/
def stylesheets (modules : IndexedModules) : List Stylesheet :=
  modules.table.entries.toList.map fun binding => ⟨binding.name, binding.value⟩

end IndexedModules

end CustomProperties
