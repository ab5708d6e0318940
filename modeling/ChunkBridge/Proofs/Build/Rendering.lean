import ChunkBridge.Build.Render
import ChunkBridge.Proofs.Chunk.Stages
import ChunkBridge.Proofs.Module.Preparation

/-!
# What rendering a chunk leaves

To render a chunk, names are asked for and files are written. The settings of the build and the
hashbang lines of its modules stay as they are (`Session.Renders`), so the line that is put on a
chunk is the one that its session knew from the start. It is put on last (`output_renderChunk`).
-/

namespace ChunkBridge

/-- A session, before and after some work on a chunk. -/
structure Session.Renders (before after : Session) : Prop where
  filter_eq : after.filter = before.filter
  flags_eq : after.flags = before.flags
  input_eq : after.input = before.input
  hashbang?_eq : ∀ id, after.store.hashbang? id = before.store.hashbang? id

namespace Session.Renders
variable {first second third : Session}

/-- What is left alone in two steps is left alone. -/
theorem trans (left : first.Renders second) (right : second.Renders third) :
    first.Renders third where
  filter_eq := right.filter_eq.trans left.filter_eq
  flags_eq := right.flags_eq.trans left.flags_eq
  input_eq := right.input_eq.trans left.input_eq
  hashbang?_eq id := (right.hashbang?_eq id).trans (left.hashbang?_eq id)

/-- Names may be asked for and files be numbered. -/
theorem of_store_eq (before : Session) (ledger : Ledger) (scratchFiles : Nat) :
    before.Renders { before with ledger, scratchFiles } :=
  ⟨rfl, rfl, rfl, fun _ => rfl⟩

end Session.Renders

namespace Assembled

theorem head?_externsKey (text : String) : (externsKey text).toList.head? = some 'e' := by
  simp [externsKey, String.toList_append]

theorem renders_externsFile (text : String) (session : Session) :
    session.Renders (externsFile text session).2 := by
  unfold externsFile
  cases session.store.get? ScratchFile (externsKey text) with
  | some file => exact .of_store_eq session _ _
  | none =>
    refine ⟨rfl, rfl, rfl, fun id => ?_⟩
    exact Store.hashbang?_set _ (head?_externsKey text) _ _ id

theorem renders_generatedExterns (passes : List ChunkPass) (session : Session) :
    session.Renders (generatedExterns passes session).2 := by
  unfold generatedExterns
  by_cases none : (ChunkPass.externsText passes).isEmpty = true
  · rw [if_pos none]
    exact .of_store_eq session _ _
  · rw [if_neg none]
    exact renders_externsFile _ session

theorem ledger_generatedExterns (passes : List ChunkPass) (session : Session) :
    (generatedExterns passes session).2.ledger = session.ledger := by
  unfold generatedExterns externsFile
  by_cases none : (ChunkPass.externsText passes).isEmpty = true
  · rw [if_pos none]
  · rw [if_neg none]
    cases session.store.get? ScratchFile (externsKey (ChunkPass.externsText passes)) <;> rfl

end Assembled

namespace Session

/-- To assemble a call no name is asked for. -/
theorem ledger_assemble (session : Session) (format : OutputFormat) (passes : List ChunkPass)
    (code : String) : (session.assemble format passes code).2.ledger = session.ledger := by
  unfold assemble
  cases Flags.conflict? session.flags with
  | some conflict => rfl
  | none => exact Assembled.ledger_generatedExterns passes session

theorem renders_assemble (session : Session) (format : OutputFormat) (passes : List ChunkPass)
    (code : String) : session.Renders (session.assemble format passes code).2 := by
  unfold assemble
  cases Flags.conflict? session.flags with
  | some conflict => exact .of_store_eq session _ _
  | none => exact (Assembled.renders_generatedExterns passes session).trans (.of_store_eq _ _ _)

theorem session_compilePrepared (session : Session) (format : OutputFormat) (chunk : Chunk)
    (compiler : Compiler) (passes : List ChunkPass) (code : String) (refusal : Option Trace) :
    (session.compilePrepared format chunk compiler passes code refusal).session =
      (session.assemble format passes code).2 := by
  unfold compilePrepared
  rcases session.assemble format passes code with ⟨_ | _, _⟩ <;> rfl

/-- A refused chunk is compiled as it is, with fresh passes, or it ends the build. -/
theorem renderChunk_of_error {session : Session} {format : OutputFormat} {chunk : Chunk}
    {code : String} {refusal : ChunkPass.Refusal} (compiler : Compiler)
    (refused : (ChunkPass.prepareChunk session.ledger format chunk code).result = .error refusal) :
    let asked : Session :=
      { session with ledger := (ChunkPass.prepareChunk session.ledger format chunk code).ledger }
    session.renderChunk format chunk compiler code =
      match refusal.trace? with
      | none => { session := asked, outcome? := none }
      | some trace =>
        asked.compilePrepared format chunk compiler (ChunkPass.ofFormat format) code (some trace) := by
  unfold renderChunk
  dsimp only
  split
  next accepted => cases refused.symm.trans accepted
  next again =>
    cases refused.symm.trans again
    rfl

/-- Rendering a chunk ends behind its preparation, or behind the assembly of a call: for what was
prepared, or for fresh passes. -/
theorem session_renderChunk (session : Session) (format : OutputFormat) (chunk : Chunk)
    (compiler : Compiler) (code : String) :
    let prepared := ChunkPass.prepareChunk session.ledger format chunk code
    let asked : Session := { session with ledger := prepared.ledger }
    (session.renderChunk format chunk compiler code).session = asked ∨
      ∃ passes text, (prepared.result = .ok text ∧ passes = prepared.passes ∨
          passes = ChunkPass.ofFormat format) ∧
        (session.renderChunk format chunk compiler code).session =
          (asked.assemble format passes text).2 := by
  intro prepared asked
  unfold renderChunk
  dsimp only
  split
  next text accepted =>
    rw [session_compilePrepared]
    exact .inr ⟨_, text, .inl ⟨accepted, rfl⟩, rfl⟩
  next =>
    split
    next => exact .inl rfl
    next =>
      rw [session_compilePrepared]
      exact .inr ⟨_, code, .inr rfl, rfl⟩

/-- However rendering a chunk ends, it leaves settings and hashbang lines alone. -/
theorem renders_renderChunk (session : Session) (format : OutputFormat) (chunk : Chunk)
    (compiler : Compiler) (code : String) :
    session.Renders (session.renderChunk format chunk compiler code).session := by
  have asked := Renders.of_store_eq session
    (ChunkPass.prepareChunk session.ledger format chunk code).ledger session.scratchFiles
  rcases session.session_renderChunk format chunk compiler code with same | ⟨passes, text, -, same⟩
  · rw [same]
    exact asked
  · rw [same]
    exact asked.trans (renders_assemble _ _ _ _)

end Session

/-! ## The last pass -/

namespace ChunkPass

theorem passes_prepareAll (unit : ChunkUnit) (front : List ChunkPass) (ledger : Ledger)
    (buffer : Buffer) :
    ∃ done, (prepareAll unit (front ++ [.hashbang]) ledger buffer).1 = done ++ [.hashbang] := by
  induction front generalizing ledger buffer with
  | nil => exact ⟨[], rfl⟩
  | cons pass front ih =>
    rw [List.cons_append, prepareAll]
    rcases pass.prepare unit ledger with ⟨done, after, fault | revision⟩
    · exact ⟨done :: front, rfl⟩
    · obtain ⟨passes, same⟩ := ih after (buffer.revise revision)
      exact ⟨done :: passes, by simp only [same, List.cons_append]⟩

theorem ofFormat_eq (format : OutputFormat) :
    ∃ front, ofFormat format = front ++ [.hashbang] := by
  unfold ofFormat
  by_cases isEsm : format.isEsm = true
  · exact ⟨[.strict, .imports {}, .exports {}], if_pos isEsm⟩
  · exact ⟨[.strict], if_neg isEsm⟩

/-- Whatever the other passes are, the hashbang line comes last. -/
theorem passes_prepareChunk (ledger : Ledger) (format : OutputFormat) (chunk : Chunk)
    (code : String) :
    ∃ front, (prepareChunk ledger format chunk code).passes = front ++ [.hashbang] := by
  obtain ⟨front, same⟩ := ofFormat_eq format
  unfold prepareChunk
  dsimp only
  split
  next => exact ⟨front, same⟩
  next outline _ =>
    rw [same]
    exact passes_prepareAll ⟨chunk, code, outline⟩ front ledger (.ofText code)

/-- The line is put on what the passes before made of the compiled chunk. -/
theorem restoreChunk_hashbang {session : Session} {format : OutputFormat} {chunk : Chunk}
    {front : List ChunkPass} {compiled restored : String}
    (h : restoreChunk session format chunk (front ++ [.hashbang]) compiled = .ok restored) :
    ∃ text, restoreChunk session format chunk front compiled = .ok text ∧
      restored = Hashbang.restore session.store chunk text := by
  rw [restoreChunk, List.foldlM_append] at h
  obtain ⟨text, repaired, last⟩ := exists_ok_of_bind h
  cases last
  exact ⟨text, repaired, rfl⟩

end ChunkPass

namespace Session

/-- A rendered chunk and how it came about: the compiler was called and answered, the passes in
`front` repaired the answer, and the hashbang line was put on the text that they left. -/
structure Restores (rendered : Rendered) (compiler : Compiler) (format : OutputFormat)
    (chunk : Chunk) (front : List ChunkPass) (text restored : String) : Prop where
  repaired : ∃ invocation compiled, rendered.call = some invocation ∧
    (compiler invocation).code = .ok compiled ∧
    ChunkPass.restoreChunk rendered.session format chunk front compiled = .ok text
  restored_eq : restored = Hashbang.restore rendered.session.store chunk text

/-- Behind a compiled chunk lies an answer of the compiler that was repaired. -/
theorem compile_ok {session : Session} {format : OutputFormat} {chunk : Chunk}
    {passes : List ChunkPass} {compiler : Compiler} {assembled : Assembled} {output : Output}
    (h : session.compile format chunk passes compiler assembled = .ok output) :
    ∃ compiled, (compiler assembled.invocation).code = .ok compiled ∧
      ChunkPass.restoreChunk session format chunk passes compiled = .ok output.code := by
  obtain ⟨compiled, answered, h⟩ := exists_ok_of_bind h
  obtain ⟨text, restored, h⟩ := exists_ok_of_bind h
  obtain ⟨map, -, h⟩ := exists_ok_of_bind h
  cases h
  exact ⟨compiled, ok_of_mapError answered, ok_of_mapError restored⟩

theorem restores_compilePrepared {session : Session} {format : OutputFormat} {chunk : Chunk}
    {compiler : Compiler} {front : List ChunkPass} {code : String} {refusal : Option Trace}
    {output : Output}
    (h : (session.compilePrepared format chunk compiler (front ++ [.hashbang]) code
      refusal).outcome? = some (.transformed output)) :
    ∃ text, Restores (session.compilePrepared format chunk compiler (front ++ [.hashbang]) code
      refusal) compiler format chunk front text output.code := by
  unfold compilePrepared at h ⊢
  rcases assembles : session.assemble format (front ++ [.hashbang]) code with
    ⟨conflict | assembled, after⟩
  · rw [assembles] at h
    cases h
  · simp only [assembles] at h ⊢
    cases result : after.compile format chunk (front ++ [.hashbang]) compiler assembled with
    | error failure =>
      rw [result] at h
      cases h
    | ok compiled =>
      rw [result] at h
      cases h
      obtain ⟨answer, answered, restored⟩ := compile_ok result
      obtain ⟨text, repaired, same⟩ := ChunkPass.restoreChunk_hashbang restored
      exact ⟨text, ⟨⟨_, answer, rfl, answered, repaired⟩, same⟩⟩

/-- A chunk that comes out of the compiler has been through the other passes before the hashbang
line of its entry module was put on it. -/
theorem output_renderChunk {session : Session} {format : OutputFormat} {chunk : Chunk}
    {compiler : Compiler} {code : String} {output : Output}
    (h : (session.renderChunk format chunk compiler code).outcome? = some (.transformed output)) :
    ∃ front text, Restores (session.renderChunk format chunk compiler code) compiler format chunk
      front text output.code := by
  unfold renderChunk at h ⊢
  dsimp only at h ⊢
  split at h
  next =>
    obtain ⟨front, same⟩ := ChunkPass.passes_prepareChunk session.ledger format chunk code
    rw [same] at h ⊢
    exact ⟨front, restores_compilePrepared h⟩
  next =>
    split at h
    next => cases h
    next =>
      obtain ⟨front, same⟩ := ChunkPass.ofFormat_eq format
      rw [same] at h ⊢
      exact ⟨front, restores_compilePrepared h⟩

end Session

end ChunkBridge
