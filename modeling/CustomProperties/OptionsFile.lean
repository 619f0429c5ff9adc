import CustomProperties.FileSystem.Disk
import CustomProperties.Options

/-!
# Options files

Requests are loaded from a file with options.  The file may be unreadable, or its
text may not be options.
-/

namespace CustomProperties

set_option autoImplicit false

/-- Why no requests could be loaded. -/
inductive LoadError where
  | read (path : String) (error : FileError)
  | options (error : Options.OptionsError)

/-- The wording of an error. -/
def LoadError.message : LoadError → String
  | .read path error => "failed to read file " ++ path ++ ": " ++ error.message
  | .options error => "invalid options: " ++ error.message

/-- What loading came to. -/
structure LoadReport where
  /-- The ids that were passed over because they are not strings. -/
  passedOver : List Json
  result : Except LoadError (List ModuleRequest)

/-- What the text of an options file comes to. -/
def LoadReport.ofText (text : String) : LoadReport :=
  match Json.parse text with
  | .error error => ⟨[], .error (.options (.syntaxError error))⟩
  | .ok value => ⟨Options.passedOver (Options.elements value),
      (Options.ofJson value).mapError .options⟩

/-- The result of loading a text is what the text gives. -/
theorem LoadReport.result_ofText (text : String) :
    (LoadReport.ofText text).result = (Options.parse text).mapError .options := by
  unfold ofText Options.parse
  cases Json.parse text <;> rfl

/-- **Load requests from a file.** -/
def loadOptions {m : Type → Type} [Monad m] [Disk m] (path : String) : m LoadReport := do
  match ← Disk.readText path with
  | .error error => return ⟨[], .error (.read path error)⟩
  | .ok text => return .ofText text

end CustomProperties
