import ChunkBridge.Compile.Scripted
import ChunkBridge.Proofs.Plugin.Runs

/-!
# Hashbang lines on the way through a build

One hook takes the hashbang line of a module, and another one puts it on the chunk of that module.
No line comes from anywhere else (`prepended_line_was_taken`). A chunk gets its line only with the
work of the compiler: one that the plugin leaves alone stays without it
(`result_renderChunk_after_taken`).
-/

namespace ChunkBridge
open Glob (Verdict)

namespace Hashbang
variable {store : Store} {chunk : Chunk} {id line : String}

/-- The line of the entry module comes first, unless the text brings its own. -/
theorem restore_of_hashbang? (facade : chunk.facade = some id)
    (known : store.hashbang? id = some line) (text : String) :
    restore store chunk text = if isPresent text then text else line ++ "\n" ++ text := by
  have told : line? store chunk = some line := by
    rw [line?, facade]
    exact known
  rw [restore, told]

/-- A chunk is changed by nothing but the line of its entry module. -/
theorem of_restore_ne {text : String} (changed : restore store chunk text ≠ text) :
    ∃ id line, chunk.facade = some id ∧ store.hashbang? id = some line ∧
      restore store chunk text = line ++ "\n" ++ text := by
  cases told : line? store chunk with
  | none =>
    rw [restore, told] at changed
    exact absurd rfl changed
  | some line =>
    obtain ⟨id, facade, known⟩ := Option.bind_eq_some_iff.mp told
    have result := restore_of_hashbang? facade known text
    by_cases present : isPresent text = true
    · rw [result, if_pos present] at changed
      exact absurd rfl changed
    · exact ⟨id, line, facade, known, result.trans (if_neg present)⟩

end Hashbang

namespace CompilerPlugin

/-- The compiler that a plugin runs; `handed` is the one that the bundler hands in. -/
def compilerOr (p : CompilerPlugin) (handed : Compiler) : Compiler :=
  (p.program.map Program.compiler).getD handed

/-- The line that is put on a chunk is known before the chunk is rendered. -/
theorem of_restore_renderChunk_ne {p : CompilerPlugin} {handed : Compiler} {format : OutputFormat}
    {chunk : Chunk} {code text : String} {store : Store}
    (left : store = (p.renderChunk handed format chunk code).plugin.running.store)
    (changed : Hashbang.restore store chunk text ≠ text) :
    ∃ id line, chunk.facade = some id ∧ p.line? id = some line ∧
      Hashbang.restore store chunk text = line ++ "\n" ++ text := by
  obtain ⟨id, line, facade, known, result⟩ := Hashbang.of_restore_ne changed
  refine ⟨id, line, facade, ?_, result⟩
  rw [← line?_renderChunk p handed format chunk code id, line?, ← left]
  exact known

/-- The answer about a chunk follows from the verdict of the filter and from what became of the
chunk. -/
theorem result_renderChunk (p : CompilerPlugin) (handed : Compiler) (format : OutputFormat)
    (chunk : Chunk) (code : String) :
    let rendered := p.running.renderChunk format chunk (p.compilerOr handed) code
    (p.renderChunk handed format chunk code).result =
      match p.running.filter.verdict chunk.fileName, rendered.outcome? with
      | .yes, some outcome => .ok outcome.output?
      | .no, _ => .ok none
      | .yes, none | .tooDeep, _ => .error .crashed := by
  intro rendered
  unfold renderChunk
  dsimp only
  cases p.running.filter.verdict chunk.fileName with
  | no => rfl
  | tooDeep => rfl
  | yes =>
    have same : (p.running.renderChunk format chunk ((p.program.map Program.compiler).getD handed)
        code).outcome? = rendered.outcome? := rfl
    simp only [same]
    cases rendered.outcome? <;> rfl

/-- An output of the hook came out of the compiler, and the plugin goes on with the build behind
it. -/
theorem rendered_of_output {p : CompilerPlugin} {handed : Compiler} {format : OutputFormat}
    {chunk : Chunk} {code : String} {output : Output}
    (given : (p.renderChunk handed format chunk code).result = .ok (some output)) :
    let rendered := p.running.renderChunk format chunk (p.compilerOr handed) code
    rendered.outcome? = some (.transformed output) ∧
      (p.renderChunk handed format chunk code).plugin.running = rendered.session := by
  intro rendered
  rw [result_renderChunk] at given
  split at given
  next outcome passes became =>
    have same : outcome = .transformed output := by
      cases outcome with
      | transformed made => exact congrArg _ (Option.some.inj (Except.ok.inj given))
      | unchanged => cases given
      | failed failure => cases given
    refine ⟨became.trans (congrArg some same), ?_⟩
    unfold renderChunk
    simp only [passes]
    rfl
  all_goals cases given

/-- Whatever hooks were called before: a line that is put on a chunk was taken from the entry module
of the chunk, in the same build, by a call that gave back the text behind it. If no module was
handed over twice in that build, there was no other call for that module. -/
theorem prepended_line_was_taken (options : Options) (program : Option Program)
    (input : InputOptions) (calls : List HookCall) (handed : Compiler) (format : OutputFormat)
    (chunk : Chunk) (code : String) :
    let p : CompilerPlugin := { options, program, input }
    let build := currentBuild (p.events calls)
    let reply := (p.after calls).renderChunk handed format chunk code
    let store := reply.plugin.running.store
    (∀ output, reply.result = .ok (some output) →
      ∃ text, output.code = Hashbang.restore store chunk text) ∧
    ∀ text, Hashbang.restore store chunk text ≠ text →
      ∃ id line source output,
        chunk.facade = some id ∧
        Hashbang.restore store chunk text = line ++ "\n" ++ text ∧
        ⟨.transform id source, .ok (some output)⟩ ∈ build ∧ source = line ++ output.code ∧
        ((modulesOf build).Nodup → ∀ event ∈ build, event.call.module? = some id →
          event = ⟨.transform id source, .ok (some output)⟩) := by
  intro p build reply store
  refine ⟨fun output given => ?_, fun text changed => ?_⟩
  · obtain ⟨became, left⟩ := rendered_of_output given
    obtain ⟨front, text, restores⟩ := Session.output_renderChunk became
    refine ⟨text, ?_⟩
    rw [restores.restored_eq, ← left]
  · obtain ⟨id, line, facade, known, result⟩ := of_restore_renderChunk_ne rfl changed
    obtain ⟨past, _, future, split, ⟨source, output, rfl, taken⟩, -⟩ :=
      (line?_after_iff rfl calls id line).mp known
    have member : ⟨.transform id source, .ok (some output)⟩ ∈ build := by
      simp [build, split]
    refine ⟨id, line, source, output, facade, result, member, taken, ?_⟩
    intro once event among same
    exact eq_of_nodup_modulesOf once among member same rfl

/-- The line of an entry module comes back from the call that prepared it. -/
theorem prepended_line_of_entry :
    let calls : List HookCall :=
      [.buildStart, .transform "/project/src/cli.js" "#!/usr/bin/env node\nrun();"]
    let chunk : Chunk := { fileName := "cli.js", facade := some "/project/src/cli.js" }
    let p : CompilerPlugin := {}
    let reply := (p.after calls).renderChunk ({} : CompilerScript).compiler .esm chunk "\nrun();"
    Hashbang.restore reply.plugin.running.store chunk "run();" = "#!/usr/bin/env node\nrun();" ∧
    (modulesOf (currentBuild (p.events calls))).Nodup ∧
    ∃ source output,
      ⟨.transform "/project/src/cli.js" source, .ok (some output)⟩ ∈ currentBuild (p.events calls) ∧
      source = "#!/usr/bin/env node" ++ output.code := by
  intro calls chunk p reply
  have result : Hashbang.restore reply.plugin.running.store chunk "run();" =
      "#!/usr/bin/env node\nrun();" := by decide +kernel
  have once : (modulesOf (currentBuild (p.events calls))).Nodup := by decide +kernel
  have changed : Hashbang.restore reply.plugin.running.store chunk "run();" ≠ "run();" := by
    rw [result]
    decide
  obtain ⟨id, line, source, output, facade, same, member, split, -⟩ :=
    (prepended_line_was_taken {} none {} calls ({} : CompilerScript).compiler .esm chunk
      "\nrun();").2 "run();" changed
  have entry : "/project/src/cli.js" = id := Option.some.inj facade
  have known : line = "#!/usr/bin/env node" := by
    have told := same.symm.trans result
    have shape : "#!/usr/bin/env node\nrun();" = "#!/usr/bin/env node" ++ "\n" ++ "run();" := rfl
    rwa [shape, String.append_left_inj, String.append_left_inj] at told
  subst entry known
  exact ⟨result, once, source, output, member, split⟩

end CompilerPlugin

/-! ## A bundler with no other plugin -/

namespace Bundler

/-- The bundler after a call of a hook. -/
def step (b : Bundler) : HookCall → Bundler
  | .configure input => b.configure input
  | .buildStart => b.buildStart.bundler
  | .transform id code => (b.transform id code).bundler
  | .renderChunk handed format chunk code => (b.renderChunk handed format chunk code).bundler

/-- The bundler after some calls. -/
def after (b : Bundler) (calls : List HookCall) : Bundler := calls.foldl step b

variable {b : Bundler} {p : CompilerPlugin}

/-- What the only plugin replies to a hook is the answer of the bundler. -/
theorem call_of_only (only : b.plugins = [.compiler p]) (code : String)
    {hook : String → Plugin → Reply Plugin} {reply : Reply CompilerPlugin}
    (replies : hook code (.compiler p) = reply.map .compiler) :
    (b.call hook code).bundler.plugins = [.compiler reply.plugin] ∧
      (b.call hook code).result = reply.result.map (Passage.advance ⟨code, []⟩) := by
  unfold call keep
  rw [only]
  simp only [chain, replies, Reply.map]
  cases reply.result with
  | error fault => exact ⟨rfl, rfl⟩
  | ok output => exact ⟨rfl, rfl⟩

/-- The only plugin is called whenever the bundler is. -/
theorem plugins_after (only : b.plugins = [.compiler p]) (calls : List HookCall) :
    (b.after calls).plugins = [.compiler (p.after calls)] := by
  induction calls generalizing b p with
  | nil => exact only
  | cons call calls ih =>
    refine ih ?_
    cases call with
    | configure input => simp [step, configure, only, Plugin.configure, HookCall.reply]
    | buildStart => exact (call_of_only only "" rfl).1
    | transform id code => exact (call_of_only only code rfl).1
    | renderChunk handed format chunk code => exact (call_of_only only code rfl).1

/-- A chunk whose entry module has lost its hashbang line. If the plugin is to touch the chunk and
nothing fails, it begins with the line, unless the compiled chunk brings its own. In any other case
the chunk is handed on as it is, or the build ends. -/
theorem result_renderChunk_after_taken (only : b.plugins = [.compiler p]) (idle : p.session = none)
    {calls : List HookCall} {id line : String}
    (taken : TakenLast (currentBuild (p.events calls)) id line) {chunk : Chunk}
    (facade : chunk.facade = some id) (handed : Compiler) (format : OutputFormat) (code : String) :
    let plugin := p.after calls
    let compiler := plugin.compilerOr handed
    let rendered := plugin.running.renderChunk format chunk compiler code
    let result := ((b.after calls).renderChunk handed format chunk code).result
    match plugin.running.filter.verdict chunk.fileName, rendered.outcome? with
    | .yes, some (.transformed output) =>
      result = .ok ⟨output.code, output.map.toList⟩ ∧
      ∃ front text, Session.Restores rendered compiler format chunk front text output.code ∧
        output.code = if Hashbang.isPresent text then text else line ++ "\n" ++ text
    | .yes, some (.failed _) | .yes, some .unchanged | .no, _ => result = .ok ⟨code, []⟩
    | .yes, none | .tooDeep, _ => result = .error .crashed := by
  intro plugin compiler rendered result
  have answers : result =
      (plugin.renderChunk handed format chunk code).result.map (Passage.advance ⟨code, []⟩) :=
    (call_of_only (plugins_after only calls) code rfl).2
  rw [CompilerPlugin.result_renderChunk] at answers
  have known := (CompilerPlugin.line?_after_iff idle calls id line).mpr taken
  split
  next output passes became =>
    rw [passes, became] at answers
    refine ⟨answers, ?_⟩
    obtain ⟨front, text, restores⟩ := Session.output_renderChunk became
    refine ⟨front, text, restores, ?_⟩
    rw [restores.restored_eq]
    refine Hashbang.restore_of_hashbang? facade ?_ text
    rw [(Session.renders_renderChunk _ _ _ _ _).hashbang?_eq]
    exact known
  next failure passes became => rwa [passes, became] at answers
  next passes became => rwa [passes, became] at answers
  next passes => rwa [passes] at answers
  next passes became => rwa [passes, became] at answers
  next passes => rwa [passes] at answers

/-- A chunk that is compiled begins with the line of its entry module. -/
theorem result_renderChunk_of_entry :
    let calls : List HookCall :=
      [.buildStart, .transform "/project/src/cli.js" "#!/usr/bin/env node\nrun();"]
    let chunk : Chunk := { fileName := "cli.js", facade := some "/project/src/cli.js" }
    let b : Bundler := { plugins := [.compiler {}] }
    ∃ passage, ((b.after calls).renderChunk ({} : CompilerScript).compiler .esm chunk
        "\nrun();").result = .ok passage ∧
      passage.code = "#!/usr/bin/env node\n\nrun();" := by
  intro calls chunk b
  have taken : TakenLast (currentBuild (CompilerPlugin.events {} calls)) "/project/src/cli.js"
      "#!/usr/bin/env node" :=
    (CompilerPlugin.line?_after_iff rfl calls _ _).mp (by decide +kernel)
  have facade : chunk.facade = some "/project/src/cli.js" := rfl
  have told := result_renderChunk_after_taken (b := b) (p := {}) rfl rfl taken facade
    ({} : CompilerScript).compiler .esm "\nrun();"
  have passes : (CompilerPlugin.after {} calls).running.filter.verdict chunk.fileName = .yes := by
    decide +kernel
  have became : (((CompilerPlugin.after {} calls).running.renderChunk .esm chunk
      ((CompilerPlugin.after {} calls).compilerOr ({} : CompilerScript).compiler)
        "\nrun();").outcome?.bind Outcome.output?).map Output.code =
          some "#!/usr/bin/env node\n\nrun();" := by decide +kernel
  dsimp only at told
  rw [passes] at told
  generalize ((CompilerPlugin.after {} calls).running.renderChunk .esm chunk
    ((CompilerPlugin.after {} calls).compilerOr ({} : CompilerScript).compiler)
      "\nrun();").outcome? = outcome at told became
  rcases outcome with _ | ⟨_ | output | failure⟩
  · cases became
  · cases became
  · exact ⟨_, told.1, Option.some.inj became⟩
  · cases became

/-- A chunk that the plugin is not to touch stays without the line of its entry module, and so do one
that the compiler refuses and one that comes with another line. -/
theorem line_missing_from_untouched_chunk :
    let calls : List HookCall :=
      [.buildStart, .transform "/project/src/cli.js" "#!/usr/bin/env node\nrun();"]
    let line := "#!/usr/bin/env node"
    let chunk : Chunk := { fileName := "cli.min.js", facade := some "/project/src/cli.js" }
    let gated : CompilerPlugin := { options := { exclude? := some (.one "**/*.min.js") } }
    let failing : Compiler := ({ failure := some "out of memory" } : CompilerScript).compiler
    let render (p : CompilerPlugin) (compiler : Compiler) (code : String) :
        Except HookFault Passage :=
      (({ plugins := [.compiler p] : Bundler }.after calls).renderChunk compiler .esm chunk
        code).result
    (TakenLast (currentBuild (gated.events calls)) "/project/src/cli.js" line ∧
      render gated ({} : CompilerScript).compiler "\nrun();" = .ok ⟨"\nrun();", []⟩) ∧
    (TakenLast (currentBuild (CompilerPlugin.events {} calls)) "/project/src/cli.js" line ∧
      render {} failing "\nrun();" = .ok ⟨"\nrun();", []⟩ ∧
      (render {} ({} : CompilerScript).compiler "#!/bin/sh\nrun();").map Passage.code =
        .ok "#!/bin/sh\nrun();") ∧
    ¬ line.toList <+: "\nrun();".toList ∧ ¬ line.toList <+: "#!/bin/sh\nrun();".toList := by
  intro calls line chunk gated failing render
  refine ⟨⟨?_, eq_ok_of_toOption (by decide +kernel)⟩, ⟨?_, eq_ok_of_toOption (by decide +kernel),
    eq_ok_of_toOption (by decide +kernel)⟩, by decide, by decide⟩
  · exact (CompilerPlugin.line?_after_iff rfl calls _ _).mp (by decide +kernel)
  · exact (CompilerPlugin.line?_after_iff rfl calls _ _).mp (by decide +kernel)

end Bundler
end ChunkBridge
