import CustomProperties.Flattening
import CustomProperties.RuleBlock

/-!
# Requests for modules

A request names a virtual module and gives its variables, as trees to be laid over
one another in order, with the way to name them and to write them down.  The
answer to it is a stylesheet, which has no text if there is nothing to declare.
-/

namespace CustomProperties

set_option autoImplicit false

/-- A virtual module to build. -/
structure ModuleRequest where
  /-- The id as given; an empty one counts as missing. -/
  moduleId : Option String := none
  /-- The trees of variables, in order. -/
  sources : List Tree := []
  separator : String := defaultSeparator
  selector : String := defaultSelector
  selfKey : Option String := some defaultSelfKey
  formatting : Formatting := .standard
  deriving Repr

namespace ModuleRequest

/-- The id, if there is one and it is not empty. -/
def id (request : ModuleRequest) : Option String := request.moduleId.filter (· ≠ "")

/-- How the leaves of the sources are named under a depth limit. -/
def naming (request : ModuleRequest) (maxDepth : Nat) : Naming :=
  { separator := request.separator, selfKey := request.selfKey, maxDepth }

/-- The sources, each flattened. -/
def flattened (request : ModuleRequest) (maxDepth : Nat) : List Flattened :=
  request.sources.map (request.naming maxDepth).flatten

/-- The problems of all sources, in order. -/
def problems (request : ModuleRequest) (maxDepth : Nat) : List Problem :=
  (request.flattened maxDepth).flatMap Flattened.problems

/-- The variables of all sources, laid over one another. -/
def declared (request : ModuleRequest) (maxDepth : Nat) : List Variable :=
  mergeVariables ((request.flattened maxDepth).map Flattened.declared)

end ModuleRequest

/-- The stylesheet of a module. -/
structure Stylesheet where
  moduleId : String
  /-- The text, unless no variable is declared. -/
  text : Option String
  deriving DecidableEq, Repr

/-- Whether a stylesheet declares nothing. -/
def Stylesheet.isEmpty (stylesheet : Stylesheet) : Bool := stylesheet.text.isNone

/-- The text that a request comes to. -/
def ModuleRequest.css (request : ModuleRequest) (maxDepth : Nat) : Option String :=
  let declared := request.declared maxDepth
  if declared.isEmpty then none
  else some (ruleBlock request.selector request.formatting declared)

end CustomProperties
