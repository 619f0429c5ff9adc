import CustomProperties.Compilation

/-!
# Virtual modules

What a build pipeline asks of the compiled modules: whether an id is one of them,
and what the content of a module is.  Modules are looked up in an index that binds
every id to its content, in the order of the requests; `IndexedModules` keeps them
with the places of their ids instead.  The diagnostics of the build are delivered
once, to a sink, when the modules are built.
-/

namespace CustomProperties

set_option autoImplicit false

/-- The modules of a build, by id. -/
structure VirtualModules where
  /-- The content of every module; one that declares nothing has none. -/
  contents : Bindings String (Option String)
  diagnostics : List Diagnostic

namespace VirtualModules

/-- Texts with a blank line between them, if there are any. -/
def joined? : List String → Option String
  | [] => none
  | first :: rest => some ("\n\n".intercalate (first :: rest))

/-- Index a compilation. -/
def ofCompilation (compilation : Compilation) : VirtualModules :=
  { contents := .ofList (compilation.stylesheets.map fun stylesheet =>
      ⟨stylesheet.moduleId, stylesheet.text⟩)
    diagnostics := compilation.diagnostics }

/-- Compile requests and deliver the diagnostics. -/
def build {σ : Type} [DiagnosticSink σ] (requests : List ModuleRequest) (sink : σ)
    (maxDepth : Nat := defaultMaxDepth) : VirtualModules × σ :=
  let compilation := compile requests maxDepth
  (ofCompilation compilation, Diagnostics.emit compilation.diagnostics sink)

/-- Whether an id is that of a module. -/
def has (modules : VirtualModules) (moduleId : String) : Bool :=
  modules.contents.contains moduleId

/-- The content of a module; unknown modules and modules that declare nothing have
none. -/
def content? (modules : VirtualModules) (moduleId : String) : Option String :=
  (modules.contents.get? moduleId).join

/-- The contents of several modules, in the order asked for, with a blank line
between them; modules without content are passed over. -/
def bundle? (modules : VirtualModules) (moduleIds : List String) : Option String :=
  joined? (moduleIds.filterMap modules.content?)

/-- The ids of the modules, in order. -/
def ids (modules : VirtualModules) : List String := modules.contents.names

/-- The modules as stylesheets, in order. -/
def stylesheets (modules : VirtualModules) : List Stylesheet :=
  modules.contents.toList.map fun binding => ⟨binding.name, binding.value⟩

/-- Whether a module could not be registered. -/
def hasErrors (modules : VirtualModules) : Bool := Diagnostics.hasFatal modules.diagnostics

end VirtualModules

end CustomProperties
