import ChunkBridge.Compile.Scripted
import ChunkBridge.Proofs.Build.ExternsFiles

/-!
# Chunks that are compiled as they are

A chunk that cannot be prepared is compiled as it is, whichever pass failed and whatever the passes
had taken out or issued by then. The compiler gets the chunk as it came and no externs but those of
the user, and of its answer only strict mode and the hashbang line are seen to, as if there were no
passes over imports and exports at all (`renderChunk_of_refused`).
-/

namespace ChunkBridge

namespace ChunkPass

/-- The passes that neither take anything out of a chunk nor put anything back. -/
def plain : List ChunkPass := [.strict, .hashbang]

/-- A compiled chunk, without directives of strict mode and under its hashbang line. -/
theorem restoreChunk_plain (session : Session) (format : OutputFormat) (chunk : Chunk)
    (code : String) :
    restoreChunk session format chunk plain code =
      ((Strict.restore format code).map (Hashbang.restore session.store chunk)).mapError
        (⟨"StrictTransform", ·⟩) := by
  simp only [restoreChunk, plain, List.foldlM_cons, List.foldlM_nil, restore]
  cases Strict.restore format code <;> rfl

/-- Passes that remember nothing put nothing back. -/
theorem restoreChunk_ofFormat (session : Session) (format : OutputFormat) (chunk : Chunk)
    (code : String) :
    restoreChunk session format chunk (ofFormat format) code =
      restoreChunk session format chunk plain code := by
  cases format with
  | esm =>
    have fresh : ofFormat .esm = [.strict, .imports {}, .exports {}, .hashbang] := rfl
    rw [restoreChunk_plain, fresh, restoreChunk_esm]
    cases Strict.restore .esm code <;> rfl
  | cjs => rfl
  | iife => rfl

end ChunkPass

namespace Session

/-- What a call names if its passes have no externs: the chunk, and files of the user. -/
theorem assemble_of_no_externs (session : Session) (format : OutputFormat) (passes : List ChunkPass)
    (code : String) (none : ChunkPass.externsText passes = "") :
    session.assemble format passes code =
      match Flags.conflict? session.flags with
      | some conflict => (.error conflict, session)
      | .none =>
        (.ok ⟨Assembled.invocationOf session.flags format
            ((Flags.externs session.flags).map FileName.named) ⟨session.scratchFiles, code⟩
            (session.scratchFiles + 1), session.scratchFiles + 1⟩,
          { session with scratchFiles := session.scratchFiles + 2 }) := by
  have generated : Assembled.generatedExterns passes session = ([], session) := by
    simp [Assembled.generatedExterns, none]
  unfold assemble
  cases Flags.conflict? session.flags with
  | some conflict => rfl
  | none =>
    simp only [generated, List.append_nil]
    rfl

/-- Passes that remember nothing might as well not be there. -/
theorem compilePrepared_ofFormat (session : Session) (format : OutputFormat) (chunk : Chunk)
    (compiler : Compiler) (code : String) (refusal : Option Trace) :
    session.compilePrepared format chunk compiler (ChunkPass.ofFormat format) code refusal =
      session.compilePrepared format chunk compiler ChunkPass.plain code refusal := by
  have calls := session.assemble_of_no_externs format (ChunkPass.ofFormat format) code
    (ChunkPass.externsText_ofFormat format)
  have plain := session.assemble_of_no_externs format ChunkPass.plain code rfl
  unfold compilePrepared compile
  simp only [calls, plain, ChunkPass.restoreChunk_ofFormat]

/-- What becomes of the answer of a compiler to a chunk as it is; `map` is the number of the source
map. -/
def answeredPlain (session : Session) (format : OutputFormat) (chunk : Chunk) (map : Nat)
    (answer : Answer) : Outcome :=
  match answer.code with
  | .error trace => .failed ⟨.compilation, trace⟩
  | .ok compiled =>
    match (Strict.restore format compiled).map (Hashbang.restore session.store chunk) with
    | .error fault =>
      .failed ⟨.postCompilation, ⟨"StrictTransform failed after compilation", [fault.message]⟩⟩
    | .ok restored =>
      match answer.map.read (ScratchFile.mapPath map) with
      | .error trace => .failed ⟨.sourceMap, trace⟩
      | .ok map => .transformed ⟨restored, some map⟩

theorem compile_plain (session : Session) (format : OutputFormat) (chunk : Chunk)
    (compiler : Compiler) (assembled : Assembled) :
    (match session.compile format chunk ChunkPass.plain compiler assembled with
      | .ok output => Outcome.transformed output
      | .error failure => .failed failure) =
    session.answeredPlain format chunk assembled.map (compiler assembled.invocation) := by
  unfold compile answeredPlain
  simp only [ChunkPass.restoreChunk_plain]
  cases (compiler assembled.invocation).code with
  | error trace => rfl
  | ok compiled =>
    dsimp only [Except.mapError, bind, Except.bind]
    cases (Strict.restore format compiled).map (Hashbang.restore session.store chunk) with
    | error fault => rfl
    | ok restored =>
      dsimp only
      cases (compiler assembled.invocation).map.read (ScratchFile.mapPath assembled.map) <;> rfl

/-- What a render of a chunk as it is comes to: the compiler gets one script, the chunk, and no
externs but those of the user. -/
theorem compilePrepared_plain (session : Session) (format : OutputFormat) (chunk : Chunk)
    (compiler : Compiler) (code : String) (refusal : Option Trace) :
    let rendered := session.compilePrepared format chunk compiler ChunkPass.plain code refusal
    let script : ScratchFile := ⟨session.scratchFiles, code⟩
    rendered.refusal = refusal ∧ rendered.session.store = session.store ∧
    match Flags.conflict? session.flags with
    | some conflict => rendered.call = none ∧
        rendered.outcome? = some (.failed ⟨.options, ⟨conflict.message, []⟩⟩)
    | none => ∃ call, rendered.call = some call ∧
        call.get? Invocation.script = some (.script script) ∧
        (∀ file ∈ call.scratchFiles, file = script) ∧
        Flags.externs call.flags = Flags.externs session.flags ∧
        rendered.outcome? = some
          (session.answeredPlain format chunk (session.scratchFiles + 1) (compiler call)) := by
  intro rendered script
  have assembled := session.assemble_of_no_externs format ChunkPass.plain code rfl
  cases conflict : Flags.conflict? session.flags with
  | some conflict =>
    simp only [conflict] at assembled
    simp [rendered, compilePrepared, assembled]
  | none =>
    simp only [conflict] at assembled
    simp only [rendered, compilePrepared, assembled, true_and]
    refine ⟨_, rfl, ?_, fun file named => ?_, ?_, congrArg some (compile_plain ..)⟩
    · rw [Assembled.get?_invocationOf, if_neg (by decide), if_pos rfl]
    -- Files of the user are named by their paths and are no scratch files.
    · rcases Assembled.mem_scratchFiles_invocationOf _ _ _ _ _ named with same | externs
      · exact same
      · simp at externs
    · rw [Assembled.externs_invocationOf _ _ _ _ _ [] (List.append_nil _).symm]
      simp

section Refused
variable {session : Session} {format : OutputFormat} {chunk : Chunk} {code : String}
  {refusal : ChunkPass.Refusal} {trace : Trace}

/-- A refused chunk is compiled as it is: what the passes remember of it is lost. -/
theorem renderChunk_eq_compilePrepared_plain (compiler : Compiler)
    (refused : (ChunkPass.prepareChunk session.ledger format chunk code).result = .error refusal)
    (told : refusal.trace? = some trace) :
    session.renderChunk format chunk compiler code =
      Session.compilePrepared
        { session with ledger := (ChunkPass.prepareChunk session.ledger format chunk code).ledger }
        format chunk compiler ChunkPass.plain code (some trace) := by
  rw [renderChunk_of_error compiler refused, told, ← compilePrepared_ofFormat]

/-- A chunk that cannot be prepared is compiled as it is, whichever pass failed and whatever the
ledger had issued. The compiler gets one script, the chunk as it came, and the externs of the user
alone; any text that it answers loses its directives of strict mode and gets its hashbang line, and
nothing else is done to it. The whole render is the one without passes over imports and exports. -/
theorem renderChunk_of_refused (compiler : Compiler)
    (refused : (ChunkPass.prepareChunk session.ledger format chunk code).result = .error refusal)
    (told : refusal.trace? = some trace) :
    let rendered := session.renderChunk format chunk compiler code
    let script : ScratchFile := ⟨session.scratchFiles, code⟩
    rendered.refusal = some trace ∧
    (match Flags.conflict? session.flags with
      | some conflict => rendered.call = none ∧
          rendered.outcome? = some (.failed ⟨.options, ⟨conflict.message, []⟩⟩)
      | none => ∃ call, rendered.call = some call ∧
          call.get? Invocation.script = some (.script script) ∧
          (∀ file ∈ call.scratchFiles, file = script) ∧
          Flags.externs call.flags = Flags.externs session.flags ∧
          rendered.outcome? = some
            (session.answeredPlain format chunk (session.scratchFiles + 1) (compiler call))) ∧
    (∀ compiled, ChunkPass.restoreChunk rendered.session format chunk (ChunkPass.ofFormat format)
        compiled =
      ((Strict.restore format compiled).map (Hashbang.restore session.store chunk)).mapError
        (⟨"StrictTransform", ·⟩)) ∧
    rendered =
      Session.compilePrepared
        { session with ledger := (ChunkPass.prepareChunk session.ledger format chunk code).ledger }
        format chunk compiler ChunkPass.plain code (some trace) := by
  intro rendered script
  have asIs := renderChunk_eq_compilePrepared_plain compiler refused told
  obtain ⟨refusal, store, called⟩ := compilePrepared_plain
    { session with ledger := (ChunkPass.prepareChunk session.ledger format chunk code).ledger }
    format chunk compiler code (some trace)
  rw [← asIs] at refusal store called
  refine ⟨refusal, called, fun compiled => ?_, asIs⟩
  rw [ChunkPass.restoreChunk_ofFormat, ChunkPass.restoreChunk_plain, store]

end Refused

/-- A chunk has its import taken out and a bridge issued before an export finds its bridge taken by
the chunk itself. None of that shows in what the compiler gets or in what becomes of its answer. -/
theorem renderChunk_of_taken_bridge :
    let session := ((Session.start {} {}).prepareModule "/project/main.js"
      "#!/usr/bin/env node\nexport let foo;" ModulePass.registered).2
    let code := "import x from './x.js';\nwindow.a = x;\nexport let bar, foo;\n"
    let chunk : Chunk := { fileName := "main.js", facade := some "/project/main.js" }
    let compiler := ({ front := "'use strict';" } : CompilerScript).compiler
    ((ChunkPass.prepareChunk session.ledger .esm chunk code).passes =
        [.strict, .imports ⟨["x"], ["import x from './x.js';"]⟩, .exports ⟨["b"], ["a"]⟩, .hashbang] ∧
      (ChunkPass.prepareChunk session.ledger .esm chunk code).result =
        .error (.failed ⟨"ExportTransform", .takenBridge "a" "foo"⟩) ∧
      (session.renderChunk .esm chunk compiler code).call.map Invocation.scratchFiles =
        some [⟨0, code⟩] ∧
      ((session.renderChunk .esm chunk compiler code).outcome?.bind Outcome.output?).map Output.code =
        some ("#!/usr/bin/env node\n" ++ code)) ∧
    session.renderChunk .esm chunk compiler code =
      Session.compilePrepared
        { session with ledger := (ChunkPass.prepareChunk session.ledger .esm chunk code).ledger }
        .esm chunk compiler ChunkPass.plain code (some ⟨"ExportTransform failed before compilation",
          [(PassFault.takenBridge "a" "foo").message]⟩) := by
  intro session code chunk compiler
  have refused : (ChunkPass.prepareChunk session.ledger .esm chunk code).result =
      .error (.failed ⟨"ExportTransform", .takenBridge "a" "foo"⟩) := by
    decide +kernel
  have told : (ChunkPass.Refusal.failed ⟨"ExportTransform", .takenBridge "a" "foo"⟩).trace? =
      some ⟨"ExportTransform failed before compilation",
        [(PassFault.takenBridge "a" "foo").message]⟩ := by
    decide +kernel
  exact ⟨by decide +kernel, (renderChunk_of_refused compiler refused told).2.2.2⟩

end Session
end ChunkBridge
