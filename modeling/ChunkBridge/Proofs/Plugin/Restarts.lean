import ChunkBridge.Proofs.Build.Numbering
import ChunkBridge.Proofs.Plugin.Frame

/-!
# One build after another

A plugin keeps nothing of a build when the next one starts. All that it knows then are its options
and the input that it was given last, so two plugins that agree on these cannot be told apart from
there on, whatever they have been through (`builds_start_clean`). A build that nobody starts is
started by the first module or chunk.
-/

namespace ChunkBridge

namespace HookCall

/-- The input that the call hands over. -/
def input? : HookCall → Option InputOptions
  | .configure input => some input
  | .buildStart | .transform .. | .renderChunk .. => none

/-- The call is about a module or a chunk. -/
def isWork : HookCall → Bool
  | .transform .. | .renderChunk .. => true
  | .configure _ | .buildStart => false

/-- The compiler that the plugin runs for the call, if it does, goes by what is in files and not by
where they are. -/
def IgnoresPaths (p : CompilerPlugin) : HookCall → Prop
  | .renderChunk handed _ _ _ => (p.compilerOr handed).IgnoresPaths
  | .configure _ | .buildStart | .transform .. => True

theorem IgnoresPaths.of_program_eq {p q : CompilerPlugin} {call : HookCall}
    (program : q.program = p.program) (ignores : call.IgnoresPaths p) : call.IgnoresPaths q := by
  cases call with
  | renderChunk handed format chunk code =>
    rw [IgnoresPaths, CompilerPlugin.compilerOr, program]
    exact ignores
  | configure input => trivial
  | buildStart => trivial
  | transform id code => trivial

end HookCall

/-- The input that was handed over last. -/
def lastInput (calls : List HookCall) : InputOptions :=
  (calls.filterMap HookCall.input?).getLast?.getD {}

theorem lastInput_concat (calls : List HookCall) (call : HookCall) :
    lastInput (calls ++ [call]) = call.input?.getD (lastInput calls) := by
  unfold lastInput
  cases known : call.input? <;> simp [List.filterMap_append, known]

/-! ## What is seen of a run -/

/-- The event without the path of a file. -/
def Event.masked : Event → Event
  | .skipped subject failure => .skipped subject failure.masked
  | event => event

/-- The log with the contents of files in the place of their paths. -/
def Log.masked (log : Log) : Log := ⟨log.events.map Event.masked, log.calls.map Invocation.masked⟩

theorem Outcome.output?_masked (outcome : Outcome) : outcome.masked.output? = outcome.output? := by
  cases outcome <;> rfl

theorem CompilerPlugin.masked_outcomeEvents (subject : String) (outcome : Outcome) :
    (outcomeEvents subject outcome).map Event.masked = outcomeEvents subject outcome.masked := by
  cases outcome <;> rfl

theorem CompilerPlugin.masked_outcomes (subject : String) (outcome? : Option Outcome) :
    ((outcome?.map (outcomeEvents subject)).getD []).map Event.masked =
      ((outcome?.map Outcome.masked).map (outcomeEvents subject)).getD [] := by
  cases outcome? with
  | none => rfl
  | some outcome => exact masked_outcomeEvents subject outcome

namespace CompilerPlugin
variable {p q : CompilerPlugin}

/-- What is seen of a run: the log and the answer of each call. -/
def replies (p : CompilerPlugin) : List HookCall → List (Log × Except HookFault (Option Output))
  | [] => []
  | call :: calls =>
    let reply := call.reply p
    (reply.log, reply.result) :: replies reply.plugin calls

/-- The plugin with another number for the next scratch file. -/
def numberedFrom (p : CompilerPlugin) (scratchFiles : Nat) : CompilerPlugin :=
  { p with session := p.session.map fun session => { session with scratchFiles } }

/-- What is seen of a run but for the paths of scratch files. Each call comes with the number of the
next file. -/
def repliesAside (p : CompilerPlugin) :
    List (Nat × HookCall) → List (Log × Except HookFault (Option Output))
  | [] => []
  | (number, call) :: calls =>
    let reply := call.reply (p.numberedFrom number)
    (reply.log.masked, reply.result) :: repliesAside reply.plugin calls

/-! ## What outlives a build -/

/-- A hook changes neither the options nor the program, and the input when it is handed one. -/
theorem settings_reply (p : CompilerPlugin) (call : HookCall) :
    (call.reply p).plugin.options = p.options ∧ (call.reply p).plugin.program = p.program ∧
      (call.reply p).plugin.input = call.input?.getD p.input := by
  cases call with
  | configure input => exact ⟨rfl, rfl, rfl⟩
  | buildStart => exact ⟨rfl, rfl, rfl⟩
  | transform id code =>
    rw [HookCall.reply, transform]
    cases p.running.filter.verdict id <;> exact ⟨rfl, rfl, rfl⟩
  | renderChunk handed format chunk code =>
    rw [HookCall.reply, renderChunk]
    cases p.running.filter.verdict chunk.fileName <;> exact ⟨rfl, rfl, rfl⟩

theorem settings_after (options : Options) (program : Option Program) (calls : List HookCall) :
    let p := after { options, program } calls
    p.options = options ∧ p.program = program ∧ p.input = lastInput calls := by
  induction calls using List.reverseRecOn with
  | nil => exact ⟨rfl, rfl, rfl⟩
  | append_singleton calls call ih =>
    obtain ⟨sameOptions, sameProgram, input⟩ := settings_reply (after { options, program } calls) call
    obtain ⟨ihOptions, ihProgram, ihInput⟩ := ih
    rw [after_concat, lastInput_concat, ← ihInput]
    exact ⟨sameOptions.trans ihOptions, sameProgram.trans ihProgram, input⟩

/-- A build starts from the settings alone. -/
theorem buildStart_of_settings (options : p.options = q.options) (program : p.program = q.program)
    (input : p.input = q.input) : p.buildStart = q.buildStart := by
  simp only [buildStart, keep, options, program, input]

/-! ## Builds that nobody starts -/

/-- While there is no build, nothing but inputs can be handed over. -/
theorem session_after_settings (idle : p.session = none) {settings : List HookCall}
    (only : ∀ call ∈ settings, call.input?.isSome) : (p.after settings).session = none := by
  induction settings using List.reverseRecOn with
  | nil => exact idle
  | append_singleton settings call ih =>
    have before := ih fun call member => only call (List.mem_append_left _ member)
    have last := only call (by simp)
    rw [after_concat]
    cases call with
    | configure input => exact before
    | buildStart => cases last
    | transform id code => cases last
    | renderChunk handed format chunk code => cases last

/-- Work on a module or chunk goes on from the build that runs; to start that one first makes no
difference. -/
theorem reply_buildStart (idle : p.session = none) {call : HookCall} (work : call.isWork = true) :
    call.reply p = call.reply p.buildStart.plugin := by
  have started : p.buildStart.plugin = p.keep p.running := by
    rw [running_of_no_session idle]
    rfl
  rw [started]
  cases call with
  | configure input => cases work
  | buildStart => cases work
  | transform id code => rfl
  | renderChunk handed format chunk code => rfl

/-! ## Numbers of files -/

/-- The plugins differ in the numbers of scratch files, and in nothing else. -/
structure Renumbered (p q : CompilerPlugin) : Prop where
  options_eq : p.options = q.options
  program_eq : p.program = q.program
  input_eq : p.input = q.input
  session : Option.Rel Session.Renumbered p.session q.session

namespace Renumbered

theorem running (same : p.Renumbered q) : p.running.Renumbered q.running := by
  obtain ⟨options, program, input, session⟩ := same
  unfold CompilerPlugin.running
  rw [options, input]
  generalize p.session = left at session ⊢
  generalize q.session = right at session ⊢
  cases session with
  | some session => exact session
  | none => exact .of_scratchFiles (.start q.options q.input) 0 0

theorem compilerOr_eq (same : p.Renumbered q) (handed : Compiler) :
    p.compilerOr handed = q.compilerOr handed := by
  rw [compilerOr, compilerOr, same.program_eq]

theorem keep (same : p.Renumbered q) {s t : Session} (session : s.Renumbered t) :
    (p.keep s).Renumbered (q.keep t) :=
  ⟨same.options_eq, same.program_eq, same.input_eq, .some session⟩

/-- The next files may be numbered differently. -/
theorem numberedFrom (same : p.Renumbered q) (m n : Nat) :
    (p.numberedFrom m).Renumbered (q.numberedFrom n) := by
  obtain ⟨options, program, input, session⟩ := same
  refine ⟨options, program, input, ?_⟩
  unfold CompilerPlugin.numberedFrom
  generalize p.session = left at session ⊢
  generalize q.session = right at session ⊢
  cases session with
  | some session => exact .some (session.with_scratchFiles m n)
  | none => exact .none

end Renumbered
end CompilerPlugin

/-- The replies differ in the paths of scratch files, and in nothing else. -/
structure Reply.Renumbered (a b : Reply CompilerPlugin) : Prop where
  plugin : a.plugin.Renumbered b.plugin
  log_eq : a.log.masked = b.log.masked
  result_eq : a.result = b.result

namespace CompilerPlugin
variable {p q : CompilerPlugin}

theorem buildStart_of_renumbered (same : p.Renumbered q) :
    p.buildStart.Renumbered q.buildStart := by
  rw [buildStart_of_settings same.options_eq same.program_eq same.input_eq]
  exact ⟨⟨rfl, rfl, rfl, .some (.of_scratchFiles (.start q.options q.input) 0 0)⟩, rfl, rfl⟩

theorem transform_of_renumbered (same : p.Renumbered q) (id code : String) :
    (p.transform id code).Renumbered (q.transform id code) := by
  unfold transform
  dsimp only
  rw [same.running.filter_eq]
  cases q.running.filter.verdict id with
  | no => exact ⟨same.keep same.running, rfl, rfl⟩
  | tooDeep => exact ⟨same.keep same.running, rfl, rfl⟩
  | yes =>
    obtain ⟨outcome, after⟩ :=
      Session.prepareModule_of_renumbered same.running id code ModulePass.registered
    simp only [outcome]
    exact ⟨same.keep after, rfl, rfl⟩

theorem renderChunk_of_renumbered (same : p.Renumbered q) {handed : Compiler}
    (ignores : (p.compilerOr handed).IgnoresPaths) (format : OutputFormat) (chunk : Chunk)
    (code : String) :
    (p.renderChunk handed format chunk code).Renumbered
      (q.renderChunk handed format chunk code) := by
  have rendered := Session.renderChunk_of_renumbered same.running ignores format chunk code
  have compiler : (p.program.map Program.compiler).getD handed =
      (q.program.map Program.compiler).getD handed := same.compilerOr_eq handed
  rw [same.compilerOr_eq] at rendered
  unfold renderChunk
  dsimp only
  rw [same.running.filter_eq, compiler, same.program_eq]
  cases q.running.filter.verdict chunk.fileName with
  | no => exact ⟨same.keep same.running, rfl, rfl⟩
  | tooDeep => exact ⟨same.keep same.running, rfl, rfl⟩
  | yes =>
    unfold compilerOr at rendered
    generalize p.running.renderChunk format chunk _ code = left at rendered ⊢
    generalize q.running.renderChunk format chunk _ code = right at rendered ⊢
    obtain ⟨session, refusal, call, outcome⟩ := rendered
    refine ⟨same.keep session, ?_, ?_⟩
    · simp only [Log.masked, Log.mk.injEq, List.map_append, masked_outcomes, outcome, refusal, true_and]
      split
      · rw [← Option.toList_map, call, Option.toList_map]
      · rfl
    · generalize left.outcome? = first at outcome ⊢
      generalize right.outcome? = second at outcome ⊢
      cases first <;> cases second
      · rfl
      · cases outcome
      · cases outcome
      · have became := congrArg Outcome.output? (Option.some.inj outcome)
        rw [Outcome.output?_masked, Outcome.output?_masked] at became
        exact congrArg Except.ok became

/-- Plugins that differ in the numbers of files reply alike to every call. -/
theorem reply_of_renumbered (same : p.Renumbered q) {call : HookCall}
    (ignores : call.IgnoresPaths p) : (call.reply p).Renumbered (call.reply q) := by
  cases call with
  | configure input =>
    exact ⟨⟨same.options_eq, same.program_eq, rfl, same.session⟩, rfl, rfl⟩
  | buildStart => exact buildStart_of_renumbered same
  | transform id code => exact transform_of_renumbered same id code
  | renderChunk handed format chunk code =>
    exact renderChunk_of_renumbered same ignores format chunk code

/-- However the files of two runs are numbered, the same is seen of them but for paths. -/
theorem repliesAside_of_renumbered (same : p.Renumbered q) {calls others : List (Nat × HookCall)}
    (equal : calls.map Prod.snd = others.map Prod.snd)
    (ignores : ∀ call ∈ calls.map Prod.snd, call.IgnoresPaths p) :
    p.repliesAside calls = q.repliesAside others := by
  induction calls generalizing p q others with
  | nil =>
    rw [List.map_eq_nil_iff.mp equal.symm]
    rfl
  | cons first calls ih =>
    obtain ⟨⟨n, call⟩, others, rfl, rfl, rest⟩ := List.map_eq_cons_iff.mp equal.symm
    obtain ⟨m, call⟩ := first
    have reply : (call.reply (p.numberedFrom m)).Renumbered (call.reply (q.numberedFrom n)) :=
      reply_of_renumbered (same.numberedFrom m n) (ignores call List.mem_cons_self)
    have later : ∀ later ∈ calls.map Prod.snd,
        later.IgnoresPaths (call.reply (p.numberedFrom m)).plugin := fun later member =>
      (ignores later (List.mem_cons_of_mem _ member)).of_program_eq
        (settings_reply (p.numberedFrom m) call).2.1
    simp only [repliesAside, reply.log_eq, reply.result_eq, ih reply.plugin rest.symm later]

/-! ## Plugins that served other builds -/

/-- Two plugins with the same options and compiler that were handed the same input last: from the
start of a build on they reply alike to everything, and if the compiler ignores paths, nothing but
paths tells how scratch files are numbered. A build that the first module or chunk starts is one
that was started after the last input. -/
theorem builds_start_clean (options : Options) (program : Option Program)
    {first second : List HookCall} (same : lastInput first = lastInput second) :
    let fresh : CompilerPlugin := { options, program }
    (∀ calls, (fresh.after first).replies (.buildStart :: calls) =
      (fresh.after second).replies (.buildStart :: calls)) ∧
    (∀ calls others, calls.map Prod.snd = others.map Prod.snd →
      (∀ call ∈ calls.map Prod.snd, call.IgnoresPaths fresh) →
      (fresh.after first).buildStart.plugin.repliesAside calls =
        (fresh.after second).buildStart.plugin.repliesAside others) ∧
    ∀ settings call rest, (∀ setting ∈ settings, setting.input?.isSome) → call.isWork = true →
      (fresh.after settings).replies (call :: rest) =
        (fresh.after (settings ++ [.buildStart])).replies (call :: rest) := by
  intro fresh
  have starts : (fresh.after first).buildStart = (fresh.after second).buildStart := by
    obtain ⟨optionsFirst, programFirst, inputFirst⟩ := settings_after options program first
    obtain ⟨optionsSecond, programSecond, inputSecond⟩ := settings_after options program second
    exact buildStart_of_settings (optionsFirst.trans optionsSecond.symm)
      (programFirst.trans programSecond.symm) (inputFirst.trans (same.trans inputSecond.symm))
  refine ⟨fun calls => ?_, fun calls others equal ignores => ?_, ?_⟩
  · simp only [replies, HookCall.reply, starts]
  · rw [starts]
    let q := (fresh.after second).buildStart.plugin
    have itself : q.Renumbered q :=
      ⟨rfl, rfl, rfl, .some (.of_scratchFiles (.start q.options q.input) 0 0)⟩
    have kept : q.program = fresh.program := (settings_after options program second).2.1
    exact repliesAside_of_renumbered itself equal fun call member =>
      (ignores call member).of_program_eq kept
  · intro settings call rest only work
    have idle : (fresh.after settings).session = none := session_after_settings rfl only
    have alike := reply_buildStart idle work
    rw [after_concat]
    simp only [replies, alike]
    rfl

/-- The hashbang line of an earlier build would be put on the chunk, but for the restart. -/
theorem next_build_starts_clean :
    let input : InputOptions := { cwd := "/project" }
    let first : List HookCall :=
      [.configure input, .transform "/project/src/cli.js" "#!/usr/bin/env node
run();
"]
    let second : List HookCall := [.buildStart, .configure input]
    let render : HookCall := .renderChunk ({} : CompilerScript).compiler .esm
      { fileName := "cli.js", facade := some "/project/src/cli.js" } "run();
"
    let fresh : CompilerPlugin := {}
    lastInput first = lastInput second ∧
    ((fresh.after first).replies [render]).map Prod.snd ≠
      ((fresh.after second).replies [render]).map Prod.snd ∧
    (fresh.after first).replies [.buildStart, render] =
      (fresh.after second).replies [.buildStart, render] ∧
    (fresh.after first).buildStart.plugin.repliesAside [(0, render)] =
      (fresh.after second).buildStart.plugin.repliesAside [(7, render)] ∧
    (fresh.after [.configure input]).replies [render] =
      (fresh.after [.configure input, .buildStart]).replies [render] := by
  intro input first second render fresh
  have same : lastInput first = lastInput second := by decide +kernel
  obtain ⟨restarted, aside, lazily⟩ := builds_start_clean {} none same
  refine ⟨same, by decide +kernel, restarted [render], aside _ _ rfl ?_,
    lazily [.configure input] render [] (by simp [HookCall.input?]) rfl⟩
  intro call member
  rw [List.mem_singleton.mp member]
  exact CompilerScript.ignoresPaths {}

end CompilerPlugin
end ChunkBridge
