/-!
# Command lines

What a list of arguments asks for.  A command line has an optional flag, the name of
a command, and the operands of that command; flags and options may stand anywhere
behind the command, up to an argument of two dashes, after which everything is an
operand.

Arguments are taken from left to right, and the first one that cannot be
understood, or a flag that asks for help, ends the reading.  Before the command the
flag for the version does so too.  A flag or an option may be given once at each of
the two levels.
-/

namespace CustomProperties.CommandLine

set_option autoImplicit false

/-! ## What can be asked for -/

/-- A command with its operands. -/
inductive Command where
  | build (options directory : String)
  | render (options moduleId : String)
  | bundle (options : String) (moduleIds : List String)
  | check (options : String)
  deriving DecidableEq, Repr

/-- A command and how much of its log is shown. -/
structure Invocation where
  command : Command
  verbose : Bool
  deriving DecidableEq, Repr

/-- What a command line asks for. -/
inductive Request where
  | run (invocation : Invocation)
  | version
  | help
  | misuse
  deriving DecidableEq, Repr

/-! ## Single arguments -/

/-- How an argument is to be understood. -/
inductive Shape where
  /-- Two dashes: all that follows are operands. -/
  | separator
  /-- Two dashes and a name, and perhaps a value after an equals sign. -/
  | long (name : List Char) (value : Option (List Char))
  /-- A dash and letters. -/
  | short (letters : List Char)
  | operand
  deriving DecidableEq, Repr

/-- Cut a text at its first equals sign. -/
def cutAtEquals : List Char → List Char × Option (List Char)
  | [] => ([], none)
  | char :: rest =>
    if char = '=' then ([], some rest)
    else
      let (before, after) := cutAtEquals rest
      (char :: before, after)

/-- The shape of an argument. -/
def shape (argument : List Char) : Shape :=
  match argument with
  | ['-', '-'] => .separator
  | '-' :: '-' :: rest => .long (cutAtEquals rest).1 (cutAtEquals rest).2
  | '-' :: letter :: letters => .short (letter :: letters)
  | _ => .operand

/-! ## Before the command -/

/-- What stands before the command. -/
inductive Front where
  /-- The command by its name, and the arguments behind it. -/
  | command (verbose : Bool) (name : String) (arguments : List String)
  | version
  | help
  | misuse
  deriving DecidableEq, Repr

/-- Take letters before the command: the flag, or the end of reading. -/
def frontLetters (verbose : Bool) : List Char → Except Front Bool
  | [] => .ok verbose
  | 'v' :: rest => if verbose then .error .misuse else frontLetters true rest
  | 'V' :: _ => .error .version
  | 'h' :: _ => .error .help
  | _ :: _ => .error .misuse

/-- Read up to the name of the command. -/
def front (verbose : Bool) : List String → Front
  | [] => .misuse
  | argument :: rest =>
    match shape argument.toList with
    | .separator => .misuse
    | .long name value =>
      match String.ofList name, value with
      | "verbose", none => if verbose then .misuse else front true rest
      | "version", none => .version
      | "help", none => .help
      | _, _ => .misuse
    | .short letters =>
      match frontLetters verbose letters with
      | .ok verbose => front verbose rest
      | .error other => other
    | .operand => .command verbose argument rest

/-! ## Behind the command -/

/-- What may stand behind a command. -/
structure Form where
  /-- Whether an output directory may be given. -/
  takesDirectory : Bool
  /-- The greatest number of operands, if there is one. -/
  mostOperands : Option Nat
  deriving DecidableEq, Repr

/-- The form of the command with a name. -/
def Form.ofName? : String → Option Form
  | "build" => some ⟨true, some 1⟩
  | "render" => some ⟨false, some 2⟩
  | "bundle" => some ⟨false, none⟩
  | "check" => some ⟨false, some 1⟩
  | _ => none

/-- What has been read behind the command. -/
structure Back where
  verbose : Bool := false
  directory : Option String := none
  operands : List String := []
  deriving DecidableEq, Repr

/-- Why reading behind the command stops early. -/
inductive Stop where
  | help
  | misuse
  deriving DecidableEq, Repr

namespace Back

/-- The flag behind the command. -/
def setVerbose (back : Back) : Except Stop Back :=
  if back.verbose then .error .misuse else .ok { back with verbose := true }

/-- The output directory, which only some commands have. -/
def setDirectory (back : Back) (form : Form) (directory : List Char) : Except Stop Back :=
  if form.takesDirectory && back.directory.isNone then
    .ok { back with directory := some (String.ofList directory) }
  else .error .misuse

/-- One more operand, if there may be one. -/
def addOperand (back : Back) (form : Form) (operand : String) : Except Stop Back :=
  if form.mostOperands.any (· ≤ back.operands.length) then .error .misuse
  else .ok { back with operands := back.operands ++ [operand] }

end Back

/-- Take letters behind the command.  The letter of the directory takes what
follows it, or else asks for the next argument, which is told by `true`. -/
def backLetters (form : Form) (back : Back) : List Char → Except Stop (Back × Bool)
  | [] => .ok (back, false)
  | 'v' :: rest =>
    match back.setVerbose with
    | .ok back => backLetters form back rest
    | .error stop => .error stop
  | 'h' :: _ => .error .help
  | 'o' :: [] => if form.takesDirectory then .ok (back, true) else .error .misuse
  | 'o' :: '=' :: value => (back.setDirectory form value).map (·, false)
  | 'o' :: value => (back.setDirectory form value).map (·, false)
  | _ :: _ => .error .misuse

/-- Read the arguments behind the command. -/
def readBack (form : Form) (back : Back) : List String → Except Stop Back
  | [] => .ok back
  | argument :: rest =>
    match shape argument.toList with
    | .separator => .ok { back with operands := back.operands ++ rest }
    | .operand => (back.addOperand form argument).bind (readBack form · rest)
    | .long name value =>
      match String.ofList name, value, rest with
      | "help", none, _ => .error .help
      | "verbose", none, rest => back.setVerbose.bind (readBack form · rest)
      | "out-dir", some value, rest => (back.setDirectory form value).bind (readBack form · rest)
      | "out-dir", none, value :: rest =>
        if shape value.toList = .operand then
          (back.setDirectory form value.toList).bind (readBack form · rest)
        else .error .misuse
      | _, _, _ => .error .misuse
    | .short letters =>
      match backLetters form back letters, rest with
      | .error stop, _ => .error stop
      | .ok (back, false), rest => readBack form back rest
      | .ok (back, true), value :: rest =>
        if shape value.toList = .operand then
          (back.setDirectory form value.toList).bind (readBack form · rest)
        else .error .misuse
      | .ok (_, true), [] => .error .misuse

/-! ## Whole command lines -/

/-- The directory that stylesheets are written to if none is given. -/
def defaultDirectory : String := "."

/-- The command with a name, from what stands behind it. -/
def commandOf (name : String) (back : Back) : Option Command :=
  match name, back.operands with
  | "build", [options] => some (.build options (back.directory.getD defaultDirectory))
  | "render", [options, moduleId] => some (.render options moduleId)
  | "bundle", options :: moduleId :: others => some (.bundle options (moduleId :: others))
  | "check", [options] => some (.check options)
  | _, _ => none

/-- Whether what stands behind the command for help is a topic, if anything. -/
def isTopic : List String → Bool
  | [] => true
  | [topic] => topic = "help" || (Form.ofName? topic).isSome
  | _ => false

/-- **What a command line asks for.** -/
def parse (arguments : List String) : Request :=
  match front false arguments with
  | .version => .version
  | .help => .help
  | .misuse => .misuse
  | .command verbose name behind =>
    match Form.ofName? name with
    | none => if name = "help" && isTopic behind then .help else .misuse
    | some form =>
      match readBack form {} behind with
      | .error .help => .help
      | .error .misuse => .misuse
      | .ok back =>
        match commandOf name back with
        | some command => .run ⟨command, verbose || back.verbose⟩
        | none => .misuse

end CustomProperties.CommandLine
