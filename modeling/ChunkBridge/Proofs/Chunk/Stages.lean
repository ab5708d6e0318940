import ChunkBridge.Chunk.Pass

/-!
# A module chunk between its passes

What has happened to a module chunk that was prepared, and to one that was repaired, pass by pass.
-/

namespace ChunkBridge
open ChunkBridge.Text ChunkBridge.Script

/-- A revision that does nothing. -/
@[simp] theorem Buffer.revise_empty (b : Buffer) : b.revise {} = b := by
  simp [revise, append]

/-- Edits that are made before those of a revision might have been a part of it. -/
theorem Buffer.revise_revise (b : Buffer) (edits : List Edit) (r : Revision) :
    (b.revise { edits }).revise r = b.revise ⟨edits ++ r.edits, r.trailer⟩ := by
  simp [revise, append]

/-- A result that is known as an option. -/
theorem eq_ok_of_toOption {ε α : Type} {result : Except ε α} {a : α}
    (h : result.toOption = some a) : result = .ok a := by
  cases result with
  | error e => cases h
  | ok b => exact congrArg Except.ok (Option.some.inj h)

/-- A result that is known to be there. -/
theorem exists_ok_of_isSome {ε α : Type} {result : Except ε α}
    (h : result.toOption.isSome = true) : ∃ a, result = .ok a := by
  cases result with
  | error e => cases h
  | ok a => exact ⟨a, rfl⟩

/-- What is told of a result is told of what it is known to be. -/
theorem eq_of_toOption_map {ε α β : Type} {result : Except ε α} {a : α} {f : α → β} {b : β}
    (known : result = .ok a) (told : result.toOption.map f = some b) : f a = b := by
  rw [known] at told
  exact Option.some.inj told

/-- What has a result has one at every step. -/
theorem exists_ok_of_bind {ε α β : Type} {first : Except ε α} {next : α → Except ε β} {b : β}
    (h : (first >>= next) = .ok b) : ∃ a, first = .ok a ∧ next a = .ok b := by
  cases first with
  | error e => cases h
  | ok a => exact ⟨a, rfl, h⟩

/-- A result does not depend on how faults are told. -/
theorem ok_of_mapError {ε δ α : Type} {result : Except ε α} {tell : ε → δ} {a : α}
    (h : result.mapError tell = .ok a) : result = .ok a := by
  cases result with
  | error e => cases h
  | ok b => exact congrArg Except.ok (Except.ok.inj h)

namespace ChunkPass

/-- The first halves over a module chunk: what is taken out has to fit, and the pass over its exports
has the last word. -/
theorem prepareAll_esm (unit : ChunkUnit) (ledger : Ledger) :
    prepareAll unit (ofFormat .esm) ledger (.ofText unit.code) =
      if (Imports.edits unit.outline).all (Edit.fits unit.code.toList) then
        match Exports.prepare unit ledger with
        | (memo, after, .error fault) =>
          ([.strict, .imports (Imports.ofUnit unit), .exports memo, .hashbang], after,
            .error ⟨"ExportTransform", fault⟩)
        | (memo, after, .ok revision) =>
          ([.strict, .imports (Imports.ofUnit unit), .exports memo, .hashbang], after,
            .ok ((Buffer.ofText unit.code).revise
              ⟨Imports.edits unit.outline ++ revision.edits, revision.trailer⟩))
      else
        ([.strict, .imports (Imports.ofUnit unit), .exports {}, .hashbang], ledger,
          .error ⟨"ImportTransform", .misplacedEdit⟩) := by
  have passes : ofFormat .esm = [.strict, .imports {}, .exports {}, .hashbang] := rfl
  simp only [passes, prepareAll, prepare, Imports.prepare, Buffer.revise_empty]
  by_cases fits : (Imports.edits unit.outline).all (Edit.fits unit.code.toList) = true
  · simp only [if_pos fits]
    rcases Exports.prepare unit ledger with ⟨memo, after, fault | revision⟩
    · rfl
    · simp only [Buffer.revise_revise]
  · simp only [if_neg fits]
    rfl

/-- The passes over a module chunk tell what was taken out and what is known of its exports. -/
theorem passes_inj {imports imports' : Imports} {memo memo' : Exports}
    (same : [strict, .imports imports, .exports memo, .hashbang] =
      [strict, .imports imports', .exports memo', .hashbang]) :
    imports = imports' ∧ memo = memo' := by
  obtain ⟨taken, rest⟩ := List.cons.inj (List.cons.inj same).2
  exact ⟨ChunkPass.imports.inj taken, ChunkPass.exports.inj (List.cons.inj rest).1⟩

/-- Behind a module chunk that is accepted lie an outline of it and the work of its two passes that
take something out. -/
theorem prepareChunk_esm {ledger : Ledger} {chunk : Chunk} {code text : String}
    (h : (prepareChunk ledger .esm chunk code).result = .ok text) :
    ∃ outline memo after revision,
      Outline.ofSource (Strict.chunkDialect .esm) code = .ok outline ∧
      Exports.prepare ⟨chunk, code, outline⟩ ledger = (memo, after, .ok revision) ∧
      prepareChunk ledger .esm chunk code =
        ⟨[.strict, .imports (Imports.ofUnit ⟨chunk, code, outline⟩), .exports memo, .hashbang],
          after,
          .ok (Revision.apply ⟨Imports.edits outline ++ revision.edits, revision.trailer⟩ code)⟩ := by
  unfold prepareChunk at h ⊢
  cases outlined : Outline.ofSource (Strict.chunkDialect .esm) code with
  | error e =>
    rw [outlined] at h
    cases h
  | ok outline =>
    rw [outlined] at h
    simp only [prepareAll_esm ⟨chunk, code, outline⟩] at h ⊢
    by_cases fits : (Imports.edits outline).all (Edit.fits code.toList) = true
    · simp only [if_pos fits] at h ⊢
      rcases prepared : Exports.prepare ⟨chunk, code, outline⟩ ledger with ⟨memo, after, fault | r⟩
      · rw [prepared] at h
        cases h
      · exact ⟨outline, memo, after, r, rfl, prepared, rfl⟩
    · simp only [if_neg fits] at h
      cases h

/-- A compiled module chunk is repaired by one pass after the other. -/
theorem restoreChunk_esm (session : Session) (chunk : Chunk) (imports : Imports)
    (exports : Exports) (code : String) :
    restoreChunk session .esm chunk [.strict, .imports imports, .exports exports, .hashbang] code =
      ((Strict.restore .esm code).mapError (⟨"StrictTransform", ·⟩) >>= fun code =>
        ((exports.restore session.ledger chunk.fileName (imports.restore code)).mapError
          (⟨"ExportTransform", ·⟩) >>= fun code =>
            .ok (Hashbang.restore session.store chunk code))) := by
  rfl

/-- Behind a compiled module chunk that is repaired lies the work of each pass. -/
theorem restoreChunk_esm_ok {session : Session} {chunk : Chunk} {imports : Imports}
    {exports : Exports} {code restored : String}
    (h : restoreChunk session .esm chunk
      [.strict, .imports imports, .exports exports, .hashbang] code = .ok restored) :
    ∃ stripped repaired, Strict.restore .esm code = .ok stripped ∧
      exports.restore session.ledger chunk.fileName (imports.restore stripped) = .ok repaired ∧
      restored = Hashbang.restore session.store chunk repaired := by
  rw [restoreChunk_esm] at h
  obtain ⟨stripped, strict, h⟩ := exists_ok_of_bind h
  obtain ⟨repaired, repair, h⟩ := exists_ok_of_bind h
  cases h
  exact ⟨stripped, repaired, ok_of_mapError strict, ok_of_mapError repair, rfl⟩

/-- Behind a compiled module chunk that is not repaired lies a pass that may fail. -/
theorem restoreChunk_esm_error {session : Session} {chunk : Chunk} {imports : Imports}
    {exports : Exports} {code : String} {failed : Failed}
    (h : restoreChunk session .esm chunk
      [.strict, .imports imports, .exports exports, .hashbang] code = .error failed) :
    Strict.restore .esm code = .error failed.fault ∨
      ∃ stripped, Strict.restore .esm code = .ok stripped ∧
        exports.restore session.ledger chunk.fileName (imports.restore stripped) =
          .error failed.fault := by
  rw [restoreChunk_esm] at h
  cases strict : Strict.restore .esm code with
  | error fault =>
    rw [strict] at h
    cases h
    exact .inl rfl
  | ok stripped =>
    rw [strict] at h
    dsimp only [Except.mapError, bind, Except.bind] at h
    cases repair : exports.restore session.ledger chunk.fileName (imports.restore stripped) with
    | error fault =>
      rw [repair] at h
      cases h
      exact .inr ⟨stripped, rfl, repair⟩
    | ok repaired =>
      rw [repair] at h
      cases h

end ChunkPass
end ChunkBridge
