import ChunkBridge.Proofs.Chunk.Directives
import ChunkBridge.Proofs.Edit.Untouched
import ChunkBridge.Proofs.Exports.Restoration
import ChunkBridge.Proofs.Script.Positions

/-!
# Hashbang lines of compiled chunks

The compiler may begin a chunk with a hashbang line, and that has to stay the very first line. Most
passes keep it there: they edit statements, and those stand below it. Imports are put on top of it.
-/

namespace ChunkBridge
open ChunkBridge.Text ChunkBridge.Script

/-- A revision of what stands below a hashbang line keeps the line. -/
theorem Revision.hashbangLine_apply {r : Revision} {source : String} {line : List Char}
    (h : Scan.hashbangLine source.toList = some line)
    (below : ∀ e ∈ r.edits, byteLength (hashbangHead source.toList) ≤ e.span.start)
    (trailer : ∀ c ∈ r.trailer.head?, Scan.isLineBreak c = true) :
    Scan.hashbangLine (r.apply source).toList = some line := by
  obtain ⟨shape, tail, split, ends⟩ := Scan.hashbangLine_eq_some_iff.mp h
  refine Scan.hashbangLine_eq_some_iff.mpr ⟨shape, ?_⟩
  rw [split, hashbangHead_append (split ▸ h)] at below
  cases tail with
  | nil =>
    have whole : source.toList = line := by simpa using split
    refine ⟨r.trailer, ?_, trailer⟩
    rw [Revision.apply_of_beyond (by simpa [whole] using below), whole]
  | cons c tail =>
    have starts : line ++ [c] <+: source.toList := by simp [split]
    obtain ⟨rest, same⟩ := Revision.isPrefix_apply starts below
    exact ⟨c :: rest, by simp [← same], fun d first => ends d first⟩

namespace Strict

/-- Directives stand below a hashbang line. -/
theorem hashbangLine_restore {format : OutputFormat} {code stripped : String} {line : List Char}
    (h : restore format code = .ok stripped) (starts : Scan.hashbangLine code.toList = some line) :
    Scan.hashbangLine stripped.toList = some line := by
  unfold restore at h
  split at h
  · cases h
    exact starts
  · split at h
    next => cases h
    next outline outlined =>
      cases h
      refine Revision.hashbangLine_apply starts (fun e member => ?_) (by simp)
      obtain ⟨d, among, rfl⟩ := List.mem_map.mp member
      exact (standsFrom_ofSource outlined).directives d (List.mem_of_mem_filter among)

/-- A module that does not ask for strict mode is left as it is. -/
theorem restore_of_no_directive {code stripped : String} (h : restore .esm code = .ok stripped)
    (none : ∀ outline, Outline.ofSource (chunkDialect .esm) code = .ok outline →
      ∀ d ∈ outline.directives, d.value ≠ directive) : stripped = code := by
  unfold restore at h
  split at h
  · cases h
    rfl
  · split at h
    next => cases h
    next outline outlined =>
      cases h
      have nothing : edits outline = [] := by
        rw [edits, List.map_eq_nil_iff, List.filter_eq_nil_iff]
        intro d member
        simpa using none outline outlined d member
      rw [nothing]
      show ((Buffer.ofText code).revise {}).text = code
      rw [Buffer.revise_empty, Buffer.text_ofText]

end Strict

namespace Exports

/-- The clause begins on a line of its own. -/
theorem head?_clause (specifiers : List Specifier) :
    (clause specifiers).toList.head? = some '\n' := by
  simp [clause, String.toList_append]

/-- Assignments to bridges stand below a hashbang line. -/
theorem hashbangLine_restore {memo : Exports} {ledger : Ledger} {file code text : String}
    {line : List Char} (h : restore memo ledger file code = .ok text)
    (starts : Scan.hashbangLine code.toList = some line) :
    Scan.hashbangLine text.toList = some line := by
  by_cases none : memo.bridges = []
  · rw [restore, if_pos (List.isEmpty_iff.mpr none)] at h
    cases h
    exact starts
  · obtain ⟨outline, found, outlined, search, rfl⟩ := restore_ok h none
    refine Revision.hashbangLine_apply starts (fun e member => ?_) fun c first => ?_
    · obtain ⟨item, among, ⟨bs, kind⟩, same⟩ := edits_find search e member
      rw [same]
      refine (((standsFrom_ofSource outlined).items item among).resolve_left ?_).1
      rw [kind]
      exact ItemKind.noConfusion
    · rw [head?_clause] at first
      cases first
      decide

end Exports

/-- A chunk that begins with a hashbang line gets no other one. -/
theorem Hashbang.restore_of_hashbangLine {store : Store} {chunk : Chunk} {code : String}
    {line : List Char} (starts : Scan.hashbangLine code.toList = some line) :
    Hashbang.restore store chunk code = code := by
  obtain ⟨⟨rest, rfl, -⟩, tail, split, -⟩ := Scan.hashbangLine_eq_some_iff.mp starts
  have present : Hashbang.isPresent code = true := by
    simp [Hashbang.isPresent, split]
  unfold Hashbang.restore
  split
  · rfl
  · rw [if_pos present]

namespace ChunkPass

/-- A chunk is left as it is by imports exactly when none were taken out of it. -/
theorem statements_eq_nil_iff (unit : ChunkUnit) :
    (Imports.ofUnit unit).statements = [] ↔
      ∀ item ∈ unit.outline.items, Imports.isTaken item = false := by
  rw [Imports.ofUnit, List.map_eq_nil_iff, List.filter_eq_nil_iff]
  simp only [Bool.not_eq_true]

/-- A hashbang line of the compiled chunk stays on top if no statement was taken out of the chunk.
If the chunk exports nothing of its own either, a compiled chunk loses the directives that ask for
strict mode and keeps every other character, and one that does not ask for it is left as it is: under
its own hashbang line, or where no line is put on top of it, it then parses as before and has the same
directives. But statements that were taken out come in front of the compiled chunk, whatever it
begins with. -/
theorem hashbangLine_restoreChunk {ledger : Ledger} {chunk : Chunk} {code text : String}
    (accepted : (prepareChunk ledger .esm chunk code).result = .ok text) :
    ∃ outline, Outline.ofSource (Strict.chunkDialect .esm) code = .ok outline ∧
      ∀ (session : Session) (compiled restored : String),
        restoreChunk session .esm chunk (prepareChunk ledger .esm chunk code).passes compiled =
          .ok restored →
        ((∀ item ∈ outline.items, Imports.isTaken item = false) →
          ∀ line, Scan.hashbangLine compiled.toList = some line →
            Scan.hashbangLine restored.toList = some line) ∧
        ((∀ item ∈ outline.items, Imports.isTaken item = false) → outline.localExports = [] →
          (∀ read, Outline.ofSource (Strict.chunkDialect .esm) compiled = .ok read →
            ∀ d ∈ read.directives, d.value ≠ Strict.directive) →
          restored = Hashbang.restore session.store chunk compiled) ∧
        ((∀ item ∈ outline.items, Imports.isTaken item = false) → outline.localExports = [] →
          ∀ read, Outline.ofSource (Strict.chunkDialect .esm) compiled = .ok read →
            restored = Hashbang.restore session.store chunk
              (String.ofList (without (Strict.spans read) 0 compiled.toList)) ∧
            ((∀ d ∈ read.directives, d.value ≠ Strict.directive) →
              Hashbang.line? session.store chunk = none ∨
                (∃ line, Scan.hashbangLine compiled.toList = some line) →
              ∃ again, Outline.ofSource (Strict.chunkDialect .esm) restored = .ok again ∧
                again.directives =
                  read.directives.filter fun d => d.value != Strict.directive)) ∧
        ((∃ item ∈ outline.items, Imports.isTaken item = true) → outline.localExports = [] →
          ∃ stripped, Strict.restore .esm compiled = .ok stripped ∧
            restored = Hashbang.restore session.store chunk
              ("\n".intercalate (Imports.ofUnit ⟨chunk, code, outline⟩).statements ++ "\n" ++
                stripped)) := by
  obtain ⟨outline, memo, after, revision, outlined, prepared, same⟩ := prepareChunk_esm accepted
  rw [same]
  refine ⟨outline, outlined, fun session compiled restored h => ?_⟩
  obtain ⟨stripped, repaired, strict, repair, rfl⟩ := restoreChunk_esm_ok h
  have untouched (none : ∀ item ∈ outline.items, Imports.isTaken item = false) :
      (Imports.ofUnit ⟨chunk, code, outline⟩).restore stripped = stripped := by
    rw [Imports.restore, (statements_eq_nil_iff _).mpr none]
    rfl
  have bridgeless (exports : outline.localExports = []) :
      repaired = (Imports.ofUnit ⟨chunk, code, outline⟩).restore stripped := by
    have empty := (Exports.bridges_eq_nil_iff prepared).mpr exports
    rw [Exports.restore, if_pos (List.isEmpty_iff.mpr empty)] at repair
    exact (Except.ok.inj repair).symm
  refine ⟨fun none line starts => ?_, fun none exports lax => ?_,
    fun none exports read readable => ⟨?_, fun lax keeps => ?_⟩, fun some exports => ?_⟩
  · rw [untouched none] at repair
    have below := Exports.hashbangLine_restore repair (Strict.hashbangLine_restore strict starts)
    rw [Hashbang.restore_of_hashbangLine below]
    exact below
  · rw [bridgeless exports, untouched none, Strict.restore_of_no_directive strict lax]
  · rw [Strict.restore_of_ofSource readable] at strict
    rw [bridgeless exports, untouched none, Except.ok.inj strict]
  · have whole : stripped = compiled := Strict.restore_of_no_directive strict fun other same => by
      rw [readable] at same
      exact Except.ok.inj same ▸ lax
    have kept : Hashbang.restore session.store chunk compiled = compiled := by
      rcases keeps with bare | ⟨line, starts⟩
      · rw [Hashbang.restore, bare]
      · exact Hashbang.restore_of_hashbangLine starts
    rw [bridgeless exports, untouched none, whole, kept]
    refine ⟨read, readable, (List.filter_eq_self.mpr fun d member => ?_).symm⟩
    simpa using lax d member
  · have taken : (Imports.ofUnit ⟨chunk, code, outline⟩).statements ≠ [] := by
      rw [Ne, statements_eq_nil_iff]
      intro none
      obtain ⟨item, member, isTaken⟩ := some
      rw [none item member] at isTaken
      cases isTaken
    refine ⟨stripped, strict, ?_⟩
    rw [bridgeless exports, Imports.restore, if_neg (by simpa using taken)]

/-- The line stays above what is restored of an export. -/
theorem hashbangLine_above_export :
    let prepared := prepareChunk {} .esm {} "export const a = 1;"
    prepared.result = .ok "const a = 1;\nwindow[\"a\"] = a;" ∧
    ∃ restored,
      restoreChunk { ledger := prepared.ledger } .esm {} prepared.passes
        "#!/usr/bin/env node\n'use strict';window.a=1;" = .ok restored ∧
      restored = "#!/usr/bin/env node\nvar __closure_export_a = 1;\nexport \x7b __closure_export_a as a \x7d;" ∧
      Scan.hashbangLine restored.toList = some "#!/usr/bin/env node".toList := by
  intro prepared
  have accepted : prepared.result = .ok "const a = 1;\nwindow[\"a\"] = a;" :=
    eq_ok_of_toOption (by decide +kernel)
  obtain ⟨outline, outlined, kept⟩ := hashbangLine_restoreChunk accepted
  have result : restoreChunk { ledger := prepared.ledger } .esm {} prepared.passes
      "#!/usr/bin/env node\n'use strict';window.a=1;" = .ok
        "#!/usr/bin/env node\nvar __closure_export_a = 1;\nexport \x7b __closure_export_a as a \x7d;" :=
    eq_ok_of_toOption (by decide +kernel)
  have none : ∀ item ∈ outline.items, Imports.isTaken item = false := by
    have told : (Outline.ofSource (Strict.chunkDialect .esm) "export const a = 1;").toOption.map
        (fun outline => outline.items.all fun item => !Imports.isTaken item) = some true := by
      decide +kernel
    rw [outlined] at told
    simpa using Option.some.inj told
  exact ⟨accepted, _, result, rfl, (kept _ _ _ result).1 none _ (by decide +kernel)⟩

/-- An import comes in front of the hashbang line of the compiled chunk, where it is none. -/
theorem hashbangLine_below_import :
    let prepared := prepareChunk {} .esm {} "import './x.js';\n"
    let compiled := "#!/usr/bin/env node\nrun();"
    (∃ text, prepared.result = .ok text) ∧
    (∃ outline, Outline.ofSource (Strict.chunkDialect .esm) compiled = .ok outline) ∧
    Scan.hashbangLine compiled.toList = some "#!/usr/bin/env node".toList ∧
    ∃ restored, restoreChunk {} .esm {} prepared.passes compiled = .ok restored ∧
      Scan.hashbangLine restored.toList = none ∧
      ¬ ∃ outline, Outline.ofSource (Strict.chunkDialect .esm) restored = .ok outline := by
  have result : restoreChunk {} .esm {} (prepareChunk {} .esm {} "import './x.js';\n").passes
      "#!/usr/bin/env node\nrun();" = .ok "import './x.js';\n#!/usr/bin/env node\nrun();" :=
    eq_ok_of_toOption (by decide +kernel)
  refine ⟨⟨"\n", eq_ok_of_toOption (by decide +kernel)⟩, ?_, by decide +kernel, _, result,
    by decide +kernel, ?_⟩
  · exact exists_ok_of_isSome (by decide +kernel)
  · rintro ⟨outline, outlined⟩
    have unread : (Outline.ofSource (Strict.chunkDialect .esm)
        "import './x.js';\n#!/usr/bin/env node\nrun();").toOption = none := by decide +kernel
    rw [outlined] at unread
    cases unread

end ChunkPass
end ChunkBridge
