import CustomProperties.CommandLine.Arguments

/-!
# The flag

What the flag for a fuller log changes in a command line.  Reading behind the command takes one
argument after another, so it is a run of a small machine: a `Reading` is what the reader has so
far, `Reading.step` takes one argument, and `readBack_eq_finish` says that the run ends in what
`readBack` gives.

A reading with the flag goes the same way as the one without it, as long as the flag is not met
again (`Reading.step_loud` for one argument, `Reading.run_loud` for all).  So the flag may be put
in front of a command line without it, or anywhere behind the command and before two dashes, except
in the place of a directory, and the command is the same (`parse_insert_flag`).
-/

namespace CustomProperties.CommandLine

set_option autoImplicit false

/-! ## Reading as a machine -/

/-- How far the arguments behind a command have been read. -/
inductive Reading where
  /-- An option, a flag or an operand may follow. -/
  | more (back : Back)
  /-- The output directory has to follow. -/
  | directory (back : Back)
  /-- All that follows are operands. -/
  | operands (back : Back)
  | stopped (stop : Stop)

namespace Reading

/-- Reading goes on after what has been read, unless that ends it. -/
def ofResult : Except Stop Back → Reading
  | .ok back => .more back
  | .error stop => .stopped stop

/-- Take one argument. -/
def step (form : Form) : Reading → String → Reading
  | .more back, argument =>
    match shape argument.toList with
    | .separator => .operands back
    | .operand => ofResult (back.addOperand form argument)
    | .long name value =>
      match String.ofList name, value with
      | "help", none => .stopped .help
      | "verbose", none => ofResult back.setVerbose
      | "out-dir", some value => ofResult (back.setDirectory form value)
      | "out-dir", none => .directory back
      | _, _ => .stopped .misuse
    | .short letters =>
      match backLetters form back letters with
      | .error stop => .stopped stop
      | .ok (back, false) => .more back
      | .ok (back, true) => .directory back
  | .directory back, value =>
    if shape value.toList = .operand then ofResult (back.setDirectory form value.toList)
    else .stopped .misuse
  | .operands back, argument => .operands { back with operands := back.operands ++ [argument] }
  | .stopped stop, _ => .stopped stop

/-- Take arguments in turn. -/
def run (form : Form) (reading : Reading) (arguments : List String) : Reading :=
  arguments.foldl (step form) reading

/-- What has been read when no argument is left. -/
def finish : Reading → Except Stop Back
  | .more back => .ok back
  | .directory _ => .error .misuse
  | .operands back => .ok back
  | .stopped stop => .error stop

variable (form : Form)

@[simp]
theorem run_nil (reading : Reading) : reading.run form [] = reading := rfl

@[simp]
theorem run_cons (reading : Reading) (argument : String) (rest : List String) :
    reading.run form (argument :: rest) = (reading.step form argument).run form rest := rfl

theorem run_append (reading : Reading) (first second : List String) :
    reading.run form (first ++ second) = (reading.run form first).run form second :=
  List.foldl_append

@[simp]
theorem run_stopped (stop : Stop) (arguments : List String) :
    (stopped stop).run form arguments = .stopped stop := by
  induction arguments with
  | nil => rfl
  | cons argument rest ih => exact ih

@[simp]
theorem run_operands (back : Back) (arguments : List String) :
    (operands back).run form arguments
      = .operands { back with operands := back.operands ++ arguments } := by
  induction arguments generalizing back with
  | nil => rw [run_nil, List.append_nil]
  | cons argument rest ih =>
    rw [run_cons, step, ih, List.append_assoc, List.singleton_append]

theorem finish_run_ofResult (result : Except Stop Back) (arguments : List String) :
    ((ofResult result).run form arguments).finish
      = result.bind fun back => ((more back).run form arguments).finish := by
  cases result with
  | ok back => rfl
  | error stop => rw [ofResult, run_stopped]; rfl

end Reading

open Reading

/-- **Reading behind a command is a run of the machine.** -/
theorem readBack_eq_finish (form : Form) (back : Back) (arguments : List String) :
    readBack form back arguments = ((more back).run form arguments).finish := by
  fun_induction readBack form back arguments with
  | case1 back => rfl
  | case2 back argument rest shaped =>
    rw [run_cons, step, shaped, run_operands, finish]
  | case3 back argument rest shaped ih =>
    rw [run_cons, step, shaped, finish_run_ofResult]
    exact congrArg _ (funext ih)
  | case4 back argument rest name helps shaped =>
    simp only [run_cons, step, shaped, helps, run_stopped, finish]
  | case5 back argument name rest flag shaped ih =>
    simp only [run_cons, step, shaped, flag, finish_run_ofResult, ih]
  | case6 back argument name value rest option shaped ih =>
    simp only [run_cons, step, shaped, option, finish_run_ofResult, ih]
  | case7 back argument name value rest option operand shaped ih =>
    simp only [run_cons, step, shaped, option, if_pos operand, finish_run_ofResult, ih]
  | case8 back argument name value rest option operand shaped =>
    simp only [run_cons, step, shaped, option, if_neg operand, run_stopped, finish]
  | case9 back argument rest name value shaped help flag option separate =>
    rw [run_cons, step, shaped]
    dsimp only
    split
    next helps => exact absurd rfl (help helps)
    next flags => exact absurd rfl (flag flags)
    next value option' => exact absurd rfl (option value option')
    next asks =>
      -- the option asks for an argument, and there is none
      cases rest with
      | nil => rfl
      | cons value rest => exact (separate value rest asks rfl rfl).elim
    next => rw [run_stopped, finish]
  | case10 back argument rest letters shaped stop read =>
    simp only [run_cons, step, shaped, read, run_stopped, finish]
  | case11 back argument letters shaped next rest read ih =>
    simp only [run_cons, step, shaped, read, ih]
  | case12 back argument letters shaped next value rest read operand ih =>
    simp only [run_cons, step, shaped, read, if_pos operand, finish_run_ofResult, ih]
  | case13 back argument letters shaped next value rest read operand =>
    simp only [run_cons, step, shaped, read, if_neg operand, run_stopped, finish]
  | case14 back argument letters shaped next read =>
    simp only [run_cons, step, shaped, read, run_nil, finish]

/-! ## Reading with the flag -/

namespace Back

variable {back next : Back} {form : Form}

/-- What has been read, and the flag. -/
def loud (back : Back) : Back := { back with verbose := true }

/-- The directory and an operand are taken in the same way with the flag, and leave it alone. -/
theorem setDirectory_eq_ok {directory : List Char}
    (taken : back.setDirectory form directory = .ok next) :
    next.verbose = back.verbose ∧ back.loud.setDirectory form directory = .ok next.loud := by
  rw [setDirectory] at taken
  split at taken
  next free =>
    cases taken
    exact ⟨rfl, if_pos free⟩
  next => cases taken

theorem addOperand_eq_ok {operand : String} (taken : back.addOperand form operand = .ok next) :
    next.verbose = back.verbose ∧ back.loud.addOperand form operand = .ok next.loud := by
  rw [addOperand] at taken
  split at taken
  next => cases taken
  next room =>
    cases taken
    exact ⟨rfl, if_neg room⟩

theorem verbose_of_setVerbose (taken : back.setVerbose = .ok next) : next.verbose = true := by
  rw [setVerbose] at taken
  split at taken
  next => cases taken
  next =>
    cases taken
    rfl

end Back

/-- Letters that leave the flag unset have not met it, and are read in the same way with it. -/
theorem backLetters_loud {form : Form} {back next : Back} {letters : List Char} {asks : Bool}
    (read : backLetters form back letters = .ok (next, asks)) (quiet : next.verbose = false) :
    back.verbose = false ∧ backLetters form back.loud letters = .ok (next.loud, asks) := by
  have directory {back : Back} {value : List Char}
      (taken : (back.setDirectory form value).map (·, false) = .ok (next, asks)) :
      back.verbose = false ∧
        (back.loud.setDirectory form value).map (·, false) = .ok (next.loud, asks) := by
    cases set : back.setDirectory form value with
    | error stop =>
      rw [set] at taken
      cases taken
    | ok _ =>
      rw [set] at taken
      cases taken
      obtain ⟨same, loud⟩ := Back.setDirectory_eq_ok set
      exact ⟨same ▸ quiet, by rw [loud]; rfl⟩
  fun_induction backLetters form back letters with
  | case1 back =>
    cases read
    exact ⟨quiet, rfl⟩
  | case2 back rest flagged set ih =>
    have met := Back.verbose_of_setVerbose set
    rw [(ih read).1] at met
    cases met
  | case5 back takes =>
    cases read
    exact ⟨quiet, if_pos takes⟩
  | case7 back value => exact directory read
  | case8 back value some_value no_sign =>
    rw [backLetters]
    · exact directory read
    · exact some_value
    · exact no_sign
  | case3 | case4 | case6 | case9 => cases read

namespace Reading

/-- Whether reading goes on and has not met the flag. -/
def isQuiet : Reading → Bool
  | .more back => !back.verbose
  | .directory back => !back.verbose
  | .operands back => !back.verbose
  | .stopped _ => false

/-- The same reading with the flag. -/
def loud : Reading → Reading
  | .more back => .more back.loud
  | .directory back => .directory back.loud
  | .operands back => .operands back.loud
  | .stopped stop => .stopped stop

/-- What an operation that leaves the flag alone, and does the same with it, makes of a reading. -/
theorem ofResult_loud {back : Back} {result result' : Except Stop Back}
    (same : ∀ next, result = .ok next → next.verbose = back.verbose ∧ result' = .ok next.loud)
    (quiet : (ofResult result).isQuiet) :
    (more back).isQuiet ∧ ofResult result' = (ofResult result).loud := by
  cases result with
  | error stop => cases quiet
  | ok next =>
    obtain ⟨unchanged, rfl⟩ := same next rfl
    refine ⟨?_, rfl⟩
    rw [isQuiet, ← unchanged]
    exact quiet

theorem isQuiet_setVerbose (back : Back) : (ofResult back.setVerbose).isQuiet = false := by
  cases set : back.setVerbose with
  | error stop => rfl
  | ok met => rw [ofResult, isQuiet, Back.verbose_of_setVerbose set]; rfl

variable (form : Form)

/-- **With the flag, an argument is taken in the same way**, unless it is the flag. -/
theorem step_loud (reading : Reading) (argument : String)
    (quiet : (reading.step form argument).isQuiet) :
    reading.isQuiet ∧ reading.loud.step form argument = (reading.step form argument).loud := by
  cases reading with
  | more back =>
    simp only [step, loud] at quiet ⊢
    cases shaped : shape argument.toList with
    | separator =>
      rw [shaped] at quiet
      exact ⟨quiet, rfl⟩
    | operand =>
      rw [shaped] at quiet
      exact ofResult_loud (fun _ taken => Back.addOperand_eq_ok taken) quiet
    | long name value =>
      rw [shaped] at quiet
      dsimp only at quiet ⊢
      split at quiet
      next => cases quiet
      next =>
        rw [isQuiet_setVerbose] at quiet
        cases quiet
      next => exact ofResult_loud (fun _ taken => Back.setDirectory_eq_ok taken) quiet
      next => exact ⟨quiet, rfl⟩
      next => cases quiet
    | short letters =>
      rw [shaped] at quiet
      dsimp only at quiet ⊢
      split at quiet
      next => cases quiet
      next next read =>
        obtain ⟨unmet, read'⟩ := backLetters_loud read (by simpa [isQuiet] using quiet)
        rw [read']
        exact ⟨by simpa [isQuiet] using unmet, rfl⟩
      next next read =>
        obtain ⟨unmet, read'⟩ := backLetters_loud read (by simpa [isQuiet] using quiet)
        rw [read']
        exact ⟨by simpa [isQuiet] using unmet, rfl⟩
  | directory back =>
    simp only [step, loud] at quiet ⊢
    split at quiet
    next operand =>
      rw [if_pos operand, if_pos operand]
      exact ofResult_loud (fun _ taken => Back.setDirectory_eq_ok taken) quiet
    next => cases quiet
  | operands back => exact ⟨quiet, rfl⟩
  | stopped stop => cases quiet

/-- **With the flag, arguments are taken in the same way**, as long as the flag is not met. -/
theorem run_loud (reading : Reading) (arguments : List String)
    (quiet : (reading.run form arguments).isQuiet) :
    reading.isQuiet ∧ reading.loud.run form arguments = (reading.run form arguments).loud := by
  induction arguments generalizing reading with
  | nil => exact ⟨quiet, rfl⟩
  | cons argument rest ih =>
    obtain ⟨quiet_next, rest_loud⟩ := ih _ quiet
    obtain ⟨quiet_here, next_loud⟩ := reading.step_loud form argument quiet_next
    refine ⟨quiet_here, ?_⟩
    rw [run_cons, run_cons, next_loud, rest_loud]

theorem finish_loud {reading : Reading} {back : Back} (read : reading.finish = .ok back)
    (unmet : back.verbose = false) :
    reading.isQuiet ∧ reading.loud.finish = .ok back.loud := by
  cases reading with
  | more back =>
    cases read
    exact ⟨by rw [isQuiet, unmet]; rfl, rfl⟩
  | directory back => cases read
  | operands back =>
    cases read
    exact ⟨by rw [isQuiet, unmet]; rfl, rfl⟩
  | stopped stop => cases read

/-! ## Two dashes -/

theorem eq_of_shape_eq_separator {argument : List Char} (shaped : shape argument = .separator) :
    argument = ['-', '-'] := by
  unfold shape at shaped
  split at shaped
  next => rfl
  next => cases shaped
  next => cases shaped
  next => cases shaped

/-- Only two dashes make all that follows operands. -/
theorem step_eq_operands {reading : Reading} {argument : String} {back : Back}
    (taken : reading.step form argument = .operands back) :
    argument = "--" ∨ ∃ earlier, reading = .operands earlier := by
  have not_result (result : Except Stop Back) : ofResult result ≠ .operands back := by
    cases result <;> exact Reading.noConfusion
  cases reading with
  | more earlier =>
    simp only [step] at taken
    split at taken
    next dashes => exact .inl (String.toList_inj.mp (eq_of_shape_eq_separator dashes))
    next => exact absurd taken (not_result _)
    next =>
      split at taken
      next => cases taken
      next => exact absurd taken (not_result _)
      next => exact absurd taken (not_result _)
      next => cases taken
      next => cases taken
    next =>
      split at taken <;> cases taken
  | directory earlier =>
    simp only [step] at taken
    split at taken
    next => exact absurd taken (not_result _)
    next => cases taken
  | operands earlier => exact .inr ⟨earlier, rfl⟩
  | stopped stop => cases taken

theorem run_eq_operands {reading : Reading} {arguments : List String} {back : Back}
    (taken : reading.run form arguments = .operands back) :
    "--" ∈ arguments ∨ ∃ earlier, reading = .operands earlier := by
  induction arguments generalizing reading with
  | nil => exact .inr ⟨back, taken⟩
  | cons argument rest ih =>
    rcases ih taken with later | ⟨next, here⟩
    · exact .inl (List.mem_cons_of_mem _ later)
    · refine (step_eq_operands form here).imp_left ?_
      rintro rfl
      exact List.mem_cons_self

end Reading

/-! ## Putting the flag -/

/-- The two ways to write the flag. -/
def flags : List String := ["-v", "--verbose"]

section Flag

variable {flag : String} (known : flag ∈ flags)
include known

theorem flag_cases : flag = "-v" ∨ flag = "--verbose" := by
  simpa [flags] using known

/-- The flag is taken where an option may stand. -/
theorem step_more_flag (form : Form) {back : Back} (quiet : (more back).isQuiet) :
    (more back).step form flag = .more back.loud := by
  have unmet : back.verbose = false := by simpa [isQuiet] using quiet
  have set : back.setVerbose = .ok back.loud := if_neg (by rw [unmet]; exact Bool.false_ne_true)
  rcases flag_cases known with rfl | rfl
  · have shaped : shape "-v".toList = .short ['v'] := rfl
    simp only [step, shaped, backLetters, set]
  · have shaped : shape "--verbose".toList = .long "verbose".toList none := rfl
    simp only [step, shaped, String.ofList_toList, set, ofResult]

/-- It is no directory. -/
theorem step_directory_flag (form : Form) (back : Back) :
    (directory back).step form flag = .stopped .misuse := by
  rcases flag_cases known with rfl | rfl <;> rfl

/-- **The flag behind a command** that is read without it: it is taken in addition, or stands where
a directory should. -/
theorem readBack_insert_flag {form : Form} {first second : List String} {back : Back}
    (read : readBack form {} (first ++ second) = .ok back) (unmet : back.verbose = false)
    (before : "--" ∉ first) :
    readBack form {} (first ++ flag :: second) = .ok back.loud ∨
      readBack form {} (first ++ flag :: second) = .error .misuse ∧ second ≠ [] := by
  rw [readBack_eq_finish, run_append] at read ⊢
  rw [run_cons]
  cases reached : (more {}).run form first with
  | more earlier =>
    rw [reached] at read
    obtain ⟨quiet, loud⟩ := finish_loud read unmet
    obtain ⟨quiet_here, same⟩ := run_loud form (more earlier) second quiet
    refine .inl ?_
    rw [step_more_flag known form quiet_here, ← loud, ← same]
    rfl
  | directory earlier =>
    refine .inr ⟨?_, ?_⟩
    · rw [step_directory_flag known, run_stopped, finish]
    · rintro rfl
      rw [reached] at read
      cases read
  | operands earlier =>
    rcases run_eq_operands form reached with member | ⟨_, contra⟩
    · exact absurd member before
    · cases contra
  | stopped stop =>
    rw [reached, run_stopped] at read
    cases read

end Flag

/-! ## Before the command -/

/-- Letters before the command can only be the flag. -/
theorem frontLetters_eq_ok {letters : List Char} {verbose verbose' : Bool}
    (read : frontLetters verbose letters = .ok verbose') :
    verbose' = true ∨ letters = [] ∧ verbose' = verbose := by
  fun_induction frontLetters verbose letters with
  | case1 verbose =>
    cases read
    exact .inr ⟨rfl, rfl⟩
  | case3 _ _ _ ih =>
    rcases ih read with met | ⟨_, met⟩
    · exact .inl met
    · exact .inl met
  | case2 | case4 | case5 | case6 => cases read

/-- Letters do not name a command. -/
theorem ne_command_of_frontLetters {letters : List Char} {verbose verbose' : Bool} {other : Front}
    {name : String} {behind : List String} (read : frontLetters verbose letters = .error other) :
    other ≠ .command verbose' name behind := by
  fun_induction frontLetters verbose letters with
  | case1 => cases read
  | case3 _ _ _ ih => exact ih read
  | case2 | case4 | case5 | case6 =>
    cases read
    exact Front.noConfusion

theorem ne_nil_of_shape_eq_short {argument letters : List Char}
    (shaped : shape argument = .short letters) : letters ≠ [] := by
  unfold shape at shaped
  split at shaped
  next => cases shaped
  next => cases shaped
  next =>
    cases shaped
    exact List.cons_ne_nil _ _
  next => cases shaped

/-- **Nothing but flags stands before a command**, so the flag has been met unless the command comes
first. -/
theorem front_eq_command {arguments behind : List String} {name : String} {verbose verbose' : Bool}
    (read : front verbose arguments = .command verbose' name behind) :
    verbose' = true ∨
      verbose' = verbose ∧ arguments = name :: behind ∧ shape name.toList = .operand := by
  induction arguments generalizing verbose with
  | nil => cases read
  | cons argument rest ih =>
    -- once the flag is met, it stays
    have later (read : front true rest = .command verbose' name behind) : verbose' = true := by
      rcases ih read with met | ⟨met, _⟩
      · exact met
      · exact met
    rw [front] at read
    split at read
    next => cases read
    next =>
      split at read
      next =>
        split at read
        next => cases read
        next => exact .inl (later read)
      next => cases read
      next => cases read
      next => cases read
    next shaped =>
      split at read
      next letters =>
        rcases frontLetters_eq_ok letters with rfl | ⟨none_left, _⟩
        · exact .inl (later read)
        · exact absurd none_left (ne_nil_of_shape_eq_short shaped)
      next stopped => exact absurd read (ne_command_of_frontLetters stopped)
    next shaped =>
      cases read
      exact .inr ⟨rfl, rfl, shaped⟩

/-! ## Whole command lines -/

/-- What it takes for a command line without the flag to be understood. -/
theorem parse_eq_run_false {arguments : List String} {command : Command}
    (quiet : parse arguments = .run ⟨command, false⟩) :
    ∃ name behind form back, arguments = name :: behind ∧ shape name.toList = .operand ∧
      Form.ofName? name = some form ∧ readBack form {} behind = .ok back ∧ back.verbose = false ∧
      commandOf name back = some command := by
  rw [parse] at quiet
  split at quiet
  next => cases quiet
  next => cases quiet
  next => cases quiet
  next verbose name behind read =>
    split at quiet
    next => split at quiet <;> cases quiet
    next form named =>
      split at quiet
      next => cases quiet
      next => cases quiet
      next back readBehind =>
        split at quiet
        next command' made =>
          simp only [Request.run.injEq, Invocation.mk.injEq, Bool.or_eq_false_iff] at quiet
          obtain ⟨rfl, rfl, unmet⟩ := quiet
          obtain ⟨_, rfl, operand⟩ := (front_eq_command read).resolve_left Bool.false_ne_true
          exact ⟨name, behind, form, back, rfl, operand, named, readBehind, unmet, made⟩
        next => cases quiet

theorem front_operand {name : String} (operand : shape name.toList = .operand) (verbose : Bool)
    (behind : List String) : front verbose (name :: behind) = .command verbose name behind := by
  rw [front, operand]

theorem front_flag {flag : String} (known : flag ∈ flags) (arguments : List String) :
    front false (flag :: arguments) = front true arguments := by
  rcases flag_cases known with rfl | rfl <;> rfl

/-- **The flag changes no command.**

Let a command line without the flag ask for a command.  With the flag in front it asks for the same
command, and more of its log.  With the flag anywhere before two dashes it does so too, unless the
flag stands where a directory should, which is a misuse and not the case at the end. -/
theorem parse_insert_flag {first second : List String} {command : Command} {flag : String}
    (known : flag ∈ flags) (quiet : parse (first ++ second) = .run ⟨command, false⟩) :
    parse (flag :: (first ++ second)) = .run ⟨command, true⟩ ∧
    ("--" ∉ first → parse (first ++ flag :: second) = .run ⟨command, true⟩ ∨
      parse (first ++ flag :: second) = .misuse ∧ second ≠ []) := by
  obtain ⟨name, behind, form, back, line, operand, named, read, unmet, made⟩ :=
    parse_eq_run_false quiet
  have in_front : parse (flag :: (first ++ second)) = .run ⟨command, true⟩ := by
    rw [parse, front_flag known, line, front_operand operand]
    simp only [named, read, made, Bool.true_or]
  refine ⟨in_front, fun before => ?_⟩
  cases first with
  | nil => exact .inl in_front
  | cons argument rest =>
    rw [List.cons_append, List.cons.injEq] at line
    obtain ⟨rfl, rfl⟩ := line
    rw [List.cons_append, parse, front_operand operand]
    have before' : "--" ∉ rest := fun member => before (List.mem_cons_of_mem _ member)
    rcases readBack_insert_flag known read unmet before' with taken | ⟨misused, some_left⟩
    · have made' : commandOf argument back.loud = some command := made
      refine .inl ?_
      simp only [named, taken, made', Bool.false_or]
      rfl
    · refine .inr ⟨?_, some_left⟩
      simp only [named, misused]

/-- In the place of a directory the flag is a misuse. -/
example : parse ["build", "options.json", "-o", "-v", "out"] = .misuse := by decide

end CustomProperties.CommandLine
