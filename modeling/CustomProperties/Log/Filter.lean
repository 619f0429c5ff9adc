import CustomProperties.Log.Directive
import CustomProperties.Text.Parts

/-!
# Which records are shown

A filter has a level for everything and directives for single targets.  A directive
speaks for every target that its own target is the beginning of, and of several the
narrowest one decides: the one with the longest target, then one that asks for the
message, then the last.

Directives are written with commas between them.  What cannot be read is left out,
and the filter keeps a complaint about it.
-/

namespace CustomProperties.Log

set_option autoImplicit false

/-- Which records are shown. -/
structure Filter where
  /-- How much is shown where no directive speaks. -/
  verbosity : Nat
  directives : List Directive
  /-- What there is to say about directives that cannot be read. -/
  complaints : List String
  deriving DecidableEq, Repr

/-- How narrow a directive is. -/
def Directive.narrowness (directive : Directive) : Nat :=
  2 * directive.target.length + if directive.asksMessage then 1 else 0

namespace Filter

/-- The directive that decides about a target: the last one of the narrowest. -/
def decisive (target : List Char) : List Directive → Option Directive
  | [] => none
  | directive :: rest =>
    match decisive target rest with
    | some later =>
      if directive.target.isPrefixOf target ∧ later.narrowness < directive.narrowness then
        some directive
      else some later
    | none => if directive.target.isPrefixOf target then some directive else none

/-- Whether a record is shown. -/
def shows (filter : Filter) (record : Record) : Bool :=
  let verbosity :=
    match decisive record.origin.target.toList filter.directives with
    | some directive => directive.verbosity
    | none => filter.verbosity
  record.level.verbosity ≤ verbosity

end Filter

/-! ## Written filters -/

/-- The texts of the directives in a list of them. -/
def directiveTexts (text : String) : List (List Char) :=
  (Text.parts ',' text.toList).filter (!·.isEmpty)

/-- The directive of a text, if it can be read and concerns a record. -/
def directive? (text : List Char) : Option Directive :=
  match readDirective text with
  | .ok directive? => directive?
  | .error _ => none

/-- The complaint about a text, if it cannot be read. -/
def complaint? (text : List Char) : Option String :=
  match readDirective text with
  | .ok _ => none
  | .error error => some ("ignoring `" ++ String.ofList text ++ "`: " ++ error.message)

/-- The filter with a level for everything and written directives. -/
def Filter.ofText (level : Level) (text : String) : Filter :=
  { verbosity := level.verbosity
    directives := (directiveTexts text).filterMap directive?
    complaints := (directiveTexts text).filterMap complaint? }

end CustomProperties.Log
