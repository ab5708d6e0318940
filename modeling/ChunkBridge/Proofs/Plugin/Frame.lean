import ChunkBridge.Proofs.Build.Records
import ChunkBridge.Proofs.Plugin.HashbangLines

/-!
# What a render may do to a build

In any state that the hooks of a plugin can reach, a render leaves the records of modules, the
names that were issued and the settings of the build as they were, however it ends
(`renderChunk_frame`). A chunk that the plugin makes nothing of goes on to the next plugin as it
came. There are two ways for the plugin to break down: a pattern that nests too deep to be matched,
and an edit that is out of place.
-/

namespace ChunkBridge
open Glob (Verdict)

/-! ## The build that runs -/

namespace CompilerPlugin

theorem running_of_no_session {p : CompilerPlugin} (idle : p.session = none) :
    p.running = .start p.options p.input := by
  rw [running, idle, Option.getD_none]

theorem running_transform (p : CompilerPlugin) (id code : String) :
    (p.transform id code).plugin.running =
      if p.running.filter.verdict id = .yes then
        (p.running.prepareModule id code ModulePass.registered).2
      else p.running := by
  unfold transform
  dsimp only
  cases p.running.filter.verdict id <;> rfl

theorem running_renderChunk (p : CompilerPlugin) (handed : Compiler) (format : OutputFormat)
    (chunk : Chunk) (code : String) :
    (p.renderChunk handed format chunk code).plugin.running =
      if p.running.filter.verdict chunk.fileName = .yes then
        (p.running.renderChunk format chunk (p.compilerOr handed) code).session
      else p.running := by
  unfold renderChunk
  dsimp only
  cases p.running.filter.verdict chunk.fileName <;> rfl

/-- What holds when a build starts and is kept by modules and chunks holds in any state that hooks
can reach. -/
theorem invariant_after {P : Session → Prop} (start : ∀ options input, P (.start options input))
    (module : ∀ session id code, P session →
      P (session.prepareModule id code ModulePass.registered).2)
    (chunk : ∀ session format chunk compiler code, P session →
      P (session.renderChunk format chunk compiler code).session)
    {p : CompilerPlugin} (idle : p.session = none) (calls : List HookCall) :
    P (p.after calls).running := by
  have step (p : CompilerPlugin) (call : HookCall) (kept : P p.running) :
      P (call.reply p).plugin.running := by
    cases call with
    | configure input =>
      -- Before its first build a plugin starts one over the input that it has then.
      cases known : p.session with
      | none => exact running_of_no_session (p := p.configure input) known ▸ start _ _
      | some session =>
        have same : (p.configure input).running = p.running := by simp [running, configure, known]
        exact same ▸ kept
    | buildStart => exact start p.options p.input
    | transform id code =>
      rw [HookCall.reply, running_transform]
      split
      · exact module _ id code kept
      · exact kept
    | renderChunk handed format part code =>
      rw [HookCall.reply, running_renderChunk]
      split
      · exact chunk _ format part _ code kept
      · exact kept
  induction calls using List.reverseRecOn with
  | nil => exact running_of_no_session idle ▸ start _ _
  | append_singleton calls call ih =>
    rw [after_concat]
    exact step _ call ih

/-- In any state that hooks can reach there is nothing but files under the keys of externs. -/
theorem holdsFiles_after {p : CompilerPlugin} (idle : p.session = none) (calls : List HookCall) :
    (p.after calls).running.store.HoldsFiles := by
  refine invariant_after (P := fun session => session.store.HoldsFiles) (fun _ _ _ _ => ?_)
    (fun session id code files => session.holdsFiles_prepareModule files id code)
    (fun session format chunk compiler code files => ?_) idle calls
  · simp [Session.start, Store.record?]
  · exact (session.gains_renderChunk files format chunk compiler code).holdsFiles files

end CompilerPlugin

/-! ## Plugins one after the other -/

/-- Plugins behind others get what these have made of a module or chunk, unless one of them ended the
build. -/
theorem chain_append (hook : String → Plugin → Reply Plugin) (front back : List Plugin)
    (passage : Passage) :
    (chain hook (front ++ back) passage).result =
      (chain hook front passage).result.bind fun middle => (chain hook back middle).result := by
  induction front generalizing passage with
  | nil => rfl
  | cons p front ih =>
    simp only [List.cons_append, chain]
    cases (hook passage.code p).result with
    | error fault => rfl
    | ok output => exact ih (passage.advance output)

namespace CompilerPlugin

/-- In any state that hooks can reach: a render has an answer, unless the pattern that the chunk is
matched with nests too deep or an edit of the chunk is out of place. A chunk that is left as it is
goes on to the plugins behind as it came from those in front, without a source map of this one. And
however the render ends, the settings of the build stay as they are, there is at most one new record,
which is that of a file with externs, no record is changed, and the ledger is worked on in the scope
of exports, where no name and no reservation is taken back. -/
theorem renderChunk_frame (options : Options) (program : Option Program) (input : InputOptions)
    (calls : List HookCall) (handed : Compiler) (format : OutputFormat) (chunk : Chunk)
    (code : String) :
    let p := after { options, program, input } calls
    let reply := p.renderChunk handed format chunk code
    let before := p.running
    let left := reply.plugin.running
    ((∃ output, reply.result = .ok output) ∨ reply.result = .error .crashed) ∧
    (reply.result = .error .crashed ↔
      before.filter.verdict chunk.fileName = .tooDeep ∨
      before.filter.verdict chunk.fileName = .yes ∧ ∃ pass,
        (ChunkPass.prepareChunk before.ledger format chunk code).result =
          .error (.failed ⟨pass, .misplacedEdit⟩)) ∧
    (reply.result = .ok none → ∀ (b : Bundler) front back original maps,
      b.plugins = front ++ .compiler p :: back →
      (chain (Plugin.renderChunk handed format chunk) front ⟨original, []⟩).result =
        .ok ⟨code, maps⟩ →
      (b.renderChunk handed format chunk original).result =
        (chain (Plugin.renderChunk handed format chunk) back ⟨code, maps⟩).result) ∧
    before.Renders left ∧
    before.store.Gains left.store ∧
    (∀ id source,
      left.store.record? (hashbangKey id) = before.store.record? (hashbangKey id) ∧
      left.store.record? (exportsKey id) = before.store.record? (exportsKey id) ∧
      left.store.record? (scanKey source) = before.store.record? (scanKey source)) ∧
    (∀ key record, before.store.record? key = some record →
      left.store.record? key = some record) ∧
    before.ledger.Extends exportsScope left.ledger := by
  intro p reply before left
  have frame : before.Renders left ∧ before.store.Gains left.store ∧
      before.ledger.Extends exportsScope left.ledger := by
    have files : before.store.HoldsFiles := holdsFiles_after rfl calls
    simp only [left, reply, running_renderChunk]
    split
    · exact ⟨Session.renders_renderChunk .., Session.gains_renderChunk files ..,
        Session.extends_renderChunk ..⟩
    · exact ⟨.of_store_eq before before.ledger before.scratchFiles, .nothing, .refl _ _⟩
  obtain ⟨renders, gains, ledger⟩ := frame
  refine ⟨?_, ?_, ?_, renders, gains, fun id source => ⟨?_, ?_, ?_⟩,
    fun key record => gains.kept, ledger⟩
  · simp only [reply, result_renderChunk]
    split
    · exact .inl ⟨_, rfl⟩
    · exact .inl ⟨_, rfl⟩
    · exact .inr rfl
    · exact .inr rfl
  · have none_iff := before.outcome?_renderChunk_eq_none_iff format chunk (p.compilerOr handed) code
    simp only [reply, result_renderChunk]
    rw [← none_iff]
    cases before.filter.verdict chunk.fileName with
    | no => simp
    | tooDeep => simp
    | yes => cases (before.renderChunk format chunk (p.compilerOr handed) code).outcome? <;> simp
  · intro nothing b front back original maps plugins handedOn
    have alone : (chain (Plugin.renderChunk handed format chunk) (.compiler p :: back)
        ⟨code, maps⟩).result =
          (chain (Plugin.renderChunk handed format chunk) back ⟨code, maps⟩).result := by
      have own : (Plugin.renderChunk handed format chunk code (.compiler p)).result = .ok none :=
        nothing
      simp only [chain, own, Passage.advance]
    unfold Bundler.renderChunk Bundler.call
    dsimp only
    rw [plugins, chain_append, handedOn]
    exact alone
  · exact gains.record?_eq fun text => Store.externsKey_ne_hashbangKey text id
  · exact gains.record?_eq fun text => Store.externsKey_ne_exportsKey text id
  · exact gains.record?_eq fun text => Store.externsKey_ne_scanKey text source

/-- A chunk with a decorated class cannot be cut where it would have to be, and the plugin breaks
down, although the chunk is a module that parses. -/
theorem renderChunk_breaks_down :
    let p : CompilerPlugin := after {} [.buildStart]
    let code := "@dec export class A \x7b\x7d\n"
    (∃ outline, Script.Outline.ofSource (Strict.chunkDialect .esm) code = .ok outline) ∧
    (p.renderChunk ({} : CompilerScript).compiler .esm { fileName := "main.js" } code).result =
      .error .crashed := by
  intro p code
  refine ⟨exists_ok_of_isSome (by decide +kernel), ?_⟩
  have misplaced : ∃ pass, (ChunkPass.prepareChunk p.running.ledger .esm { fileName := "main.js" }
      code).result = .error (.failed ⟨pass, .misplacedEdit⟩) := ⟨"ExportTransform", by decide +kernel⟩
  have none := (p.running.outcome?_renderChunk_eq_none_iff .esm { fileName := "main.js" }
    (p.compilerOr ({} : CompilerScript).compiler) code).mpr misplaced
  have passes : p.running.filter.verdict "main.js" = .yes := by decide +kernel
  simp only [result_renderChunk, passes, none]

end CompilerPlugin
end ChunkBridge
