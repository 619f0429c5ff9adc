import CustomProperties.VirtualModules
import Mathlib

/-!
# The delivery of diagnostics

A build delivers its diagnostics to a sink, one at a time.  A sink that keeps the lines it is given
keeps those of the fatal diagnostics as errors and the others as warnings, both in the order in
which they were found (`deliver_eq_receive`, `emit_eq_receive`).  Several builds may deliver to one
sink, one after another (`buildAll`), and then it has received what all of them have found
(`buildAll_collects`).

The main statement, `buildAll_delivers`, spells out what this means for the two lists of lines,
for their lengths and for the question whether an error has been delivered.  It adds that the
errors and the warnings of one build together are its lines in order (`Interleaved`).
-/

namespace CustomProperties

set_option autoImplicit false

/-! ## Interleaved lists -/

/-- The members of two lists are those of a third one, and stand in the order in which they stand
there. -/
inductive Interleaved {α : Type} : List α → List α → List α → Prop where
  | nil : Interleaved [] [] []
  | left {first second all : List α} (value : α) (rest : Interleaved first second all) :
      Interleaved (value :: first) second (value :: all)
  | right {first second all : List α} (value : α) (rest : Interleaved first second all) :
      Interleaved first (value :: second) (value :: all)

namespace Interleaved

variable {α β : Type}

/-- A list is interleaved from what has a property and what does not. -/
theorem filter (property : α → Bool) (all : List α) :
    Interleaved (all.filter property) (all.filter (!property ·)) all := by
  induction all with
  | nil => exact .nil
  | cons value rest ih =>
    cases holds : property value with
    | true =>
      rw [List.filter_cons_of_pos holds, List.filter_cons_of_neg (by simp [holds])]
      exact .left value ih
    | false =>
      rw [List.filter_cons_of_neg (by simp [holds]), List.filter_cons_of_pos (by simp [holds])]
      exact .right value ih

theorem map {first second all : List α} (interleaved : Interleaved first second all)
    (change : α → β) : Interleaved (first.map change) (second.map change) (all.map change) := by
  induction interleaved with
  | nil => exact .nil
  | left value _ ih => exact .left (change value) ih
  | right value _ ih => exact .right (change value) ih

end Interleaved

/-! ## What a sink receives -/

namespace Diagnostics

/-- The lines of the diagnostics that are fatal. -/
def errorLines (diagnostics : List Diagnostic) : List String :=
  lines (diagnostics.filter Diagnostic.isFatal)

/-- The lines of the other ones. -/
def warningLines (diagnostics : List Diagnostic) : List String :=
  lines (diagnostics.filter (!·.isFatal))

/-- **Errors and warnings together are all lines in order.** -/
theorem interleaved_lines (diagnostics : List Diagnostic) :
    Interleaved (errorLines diagnostics) (warningLines diagnostics) (lines diagnostics) :=
  (Interleaved.filter Diagnostic.isFatal diagnostics).map Diagnostic.line

theorem errorLines_append (first second : List Diagnostic) :
    errorLines (first ++ second) = errorLines first ++ errorLines second := by
  simp [errorLines, lines]

theorem warningLines_append (first second : List Diagnostic) :
    warningLines (first ++ second) = warningLines first ++ warningLines second := by
  simp [warningLines, lines]

/-- There are as many errors and warnings as diagnostics. -/
theorem length_errorLines_add_length_warningLines (diagnostics : List Diagnostic) :
    (errorLines diagnostics).length + (warningLines diagnostics).length = diagnostics.length := by
  rw [errorLines, warningLines, lines, lines, List.length_map, List.length_map,
    ← List.length_eq_length_filter_add]

/-- There is an error if a diagnostic is fatal. -/
theorem errorLines_ne_nil_iff (diagnostics : List Diagnostic) :
    errorLines diagnostics ≠ [] ↔ hasFatal diagnostics := by
  simp [errorLines, lines, hasFatal]

end Diagnostics

namespace CollectingSink

/-- The sink with the lines of further diagnostics. -/
def receive (sink : CollectingSink) (diagnostics : List Diagnostic) : CollectingSink :=
  { warnings := sink.warnings ++ Diagnostics.warningLines diagnostics
    errors := sink.errors ++ Diagnostics.errorLines diagnostics }

theorem receive_nil (sink : CollectingSink) : sink.receive [] = sink := by
  simp [receive, Diagnostics.warningLines, Diagnostics.errorLines, Diagnostics.lines]

theorem receive_append (sink : CollectingSink) (first second : List Diagnostic) :
    sink.receive (first ++ second) = (sink.receive first).receive second := by
  simp [receive, Diagnostics.warningLines_append, Diagnostics.errorLines_append]

/-- **A diagnostic is received as an error if it is fatal, and otherwise as a warning.** -/
theorem deliver_eq_receive (sink : CollectingSink) (diagnostic : Diagnostic) :
    Diagnostics.deliver sink diagnostic = sink.receive [diagnostic] := by
  cases grave : diagnostic.severity with
  | error =>
    have fatal : diagnostic.isFatal = true := by simp [Diagnostic.isFatal, grave]
    simp [Diagnostics.deliver, grave, DiagnosticSink.error, receive, Diagnostics.errorLines,
      Diagnostics.warningLines, Diagnostics.lines, fatal]
  | warning =>
    have harmless : diagnostic.isFatal = false := by simp [Diagnostic.isFatal, grave]
    simp [Diagnostics.deliver, grave, DiagnosticSink.warn, receive, Diagnostics.errorLines,
      Diagnostics.warningLines, Diagnostics.lines, harmless]

/-- **Diagnostics that are delivered one after another are received together.** -/
theorem emit_eq_receive (diagnostics : List Diagnostic) (sink : CollectingSink) :
    Diagnostics.emit diagnostics sink = sink.receive diagnostics := by
  induction diagnostics generalizing sink with
  | nil => exact sink.receive_nil.symm
  | cons diagnostic rest ih =>
    rw [← List.singleton_append, receive_append, ← deliver_eq_receive]
    exact ih (Diagnostics.deliver sink diagnostic)

end CollectingSink

/-! ## Builds that share a sink -/

/-- A build that is asked for. -/
structure BuildCall where
  requests : List ModuleRequest
  maxDepth : Nat := defaultMaxDepth

namespace VirtualModules

/-- What builds come to that are run one after another and deliver to one sink. -/
def buildAll {σ : Type} [DiagnosticSink σ] : List BuildCall → σ → List VirtualModules × σ
  | [], sink => ([], sink)
  | call :: rest, sink =>
    let (modules, delivered) := build call.requests sink call.maxDepth
    let (others, final) := buildAll rest delivered
    (modules :: others, final)

/-- A build delivers the diagnostics of its modules. -/
theorem build_collects (call : BuildCall) (sink : CollectingSink) :
    (build call.requests sink call.maxDepth).2
      = sink.receive (build call.requests sink call.maxDepth).1.diagnostics :=
  CollectingSink.emit_eq_receive (compile call.requests call.maxDepth).diagnostics sink

/-- **A sink receives what each of the builds has found**, build by build. -/
theorem buildAll_collects (calls : List BuildCall) (sink : CollectingSink) :
    (buildAll calls sink).2
      = sink.receive ((buildAll calls sink).1.flatMap VirtualModules.diagnostics) := by
  induction calls generalizing sink with
  | nil => exact sink.receive_nil.symm
  | cons call rest ih =>
    have delivered := build_collects call sink
    rw [buildAll, List.flatMap_cons, CollectingSink.receive_append, ← delivered]
    exact ih _

/-- The builds find what the compilations of their requests find, whatever the sink. -/
theorem map_diagnostics_buildAll {σ : Type} [DiagnosticSink σ] (calls : List BuildCall) (sink : σ) :
    (buildAll calls sink).1.map VirtualModules.diagnostics
      = calls.map fun call => (compile call.requests call.maxDepth).diagnostics := by
  induction calls generalizing sink with
  | nil => rfl
  | cons call rest ih => exact congrArg (_ :: ·) (ih _)

/-! ## Delivery -/

/-- A sink holds what builds have found, and nothing else. -/
structure Delivered (built : List VirtualModules) (sink : CollectingSink) : Prop where
  /-- The errors are the lines of the fatal diagnostics, build by build. -/
  errors : sink.errors = built.flatMap fun modules =>
    Diagnostics.lines (modules.diagnostics.filter Diagnostic.isFatal)
  /-- The warnings are the lines of the other ones. -/
  warnings : sink.warnings = built.flatMap fun modules =>
    Diagnostics.lines (modules.diagnostics.filter (!·.isFatal))
  /-- No line is lost, and none is delivered twice. -/
  count : sink.errors.length + sink.warnings.length
    = (built.map fun modules => modules.diagnostics.length).sum
  /-- An error has been delivered if one of the builds has errors. -/
  hasErrored_iff : sink.hasErrored ↔ ∃ modules ∈ built, modules.hasErrors

/-- A sink that was empty and has received all that was found holds just that. -/
theorem delivered_receive (built : List VirtualModules) :
    Delivered built
      (({} : CollectingSink).receive (built.flatMap VirtualModules.diagnostics)) := by
  constructor
  · simp [CollectingSink.receive, Diagnostics.errorLines, Diagnostics.lines, List.filter_flatMap,
      List.map_flatMap]
  · simp [CollectingSink.receive, Diagnostics.warningLines, Diagnostics.lines,
      List.filter_flatMap, List.map_flatMap]
  · have count := Diagnostics.length_errorLines_add_length_warningLines
      (built.flatMap VirtualModules.diagnostics)
    rw [List.length_flatMap] at count
    simpa [CollectingSink.receive] using count
  · have fatal := Diagnostics.errorLines_ne_nil_iff (built.flatMap VirtualModules.diagnostics)
    simpa [CollectingSink.receive, CollectingSink.hasErrored, hasErrors, Diagnostics.hasFatal]
      using fatal

/-- **No diagnostic is lost, delivered twice or misrouted.**

After builds that share a sink, which was empty, the sink holds the lines of what the compilations
have found, the fatal ones as errors and the others as warnings, build by build and in order.
Whatever a sink holds before a build, the build adds errors and warnings that together are its own
lines in order. -/
theorem buildAll_delivers :
    (∀ calls : List BuildCall,
      let run := buildAll calls ({} : CollectingSink)
      run.1.map VirtualModules.diagnostics
        = calls.map (fun call => (compile call.requests call.maxDepth).diagnostics) ∧
      Delivered run.1 run.2) ∧
    (∀ (call : BuildCall) (sink : CollectingSink),
      let run := build call.requests sink call.maxDepth
      ∃ errors warnings,
        run.2 = ⟨sink.warnings ++ warnings, sink.errors ++ errors⟩ ∧
        Interleaved errors warnings (Diagnostics.lines run.1.diagnostics)) := by
  constructor
  · intro calls run
    refine ⟨map_diagnostics_buildAll calls _, ?_⟩
    have collected : run.2 = ({} : CollectingSink).receive (run.1.flatMap diagnostics) :=
      buildAll_collects calls _
    rw [collected]
    exact delivered_receive run.1
  · intro call sink run
    exact ⟨_, _, build_collects call sink, Diagnostics.interleaved_lines run.1.diagnostics⟩

end VirtualModules

end CustomProperties
