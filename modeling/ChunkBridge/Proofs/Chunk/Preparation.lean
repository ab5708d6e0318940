import ChunkBridge.Proofs.Chunk.Ranges

/-!
# What the compiler is given

The text that is made of a chunk, told from the chunk and the ledger alone: by its edits, and as the
chunk read from left to right. A statement that is taken out leaves nothing behind, not even the end
of the statement before it, so nothing is said of how the text parses.
-/

namespace ChunkBridge
open ChunkBridge.Text ChunkBridge.Script

namespace ChunkPass

/-- Statements that are no module syntax are not edited. -/
theorem edits_of_isPlain {outline : Outline} (plain : ∀ item ∈ outline.items, item.kind.isPlain)
    (bridgeOf : String → String) :
    Imports.edits outline = [] ∧ outline.items.flatMap (Exports.itemEdits bridgeOf) = [] ∧
      Exports.trailer bridgeOf outline = [] := by
  have nothing : ∀ item ∈ outline.items, Imports.isTaken item = false ∧
      Exports.itemEdits bridgeOf item = [] ∧ Exports.itemLines bridgeOf item = [] := by
    intro item member
    have := plain item member
    obtain ⟨span, kind⟩ := item
    cases kind <;> first | exact ⟨rfl, rfl, rfl⟩ | cases this
  refine ⟨?_, ?_, ?_⟩
  · rw [Imports.edits, List.map_eq_nil_iff, List.filter_eq_nil_iff]
    intro item member
    rw [(nothing item member).1]
    exact Bool.false_ne_true
  · rw [List.flatMap_eq_nil_iff]
    exact fun item member => (nothing item member).2.1
  · rw [Exports.trailer, List.flatMap_eq_nil_iff.mpr fun item member => (nothing item member).2.2]
    rfl

/-- The text that the compiler is given: imports and exports of other modules' names are taken out
first, then each export statement gives way to what its kind asks for, and the assignments of what
was declared follow behind the last statement, a line each. The statements come one after the other,
so these edits are the chunk read once from left to right. The bridges are those that the ledger has
from then on. A chunk without module syntax is left as it is. -/
theorem prepared_text {ledger : Ledger} {chunk : Chunk} {code text : String}
    (accepted : (prepareChunk ledger .esm chunk code).result = .ok text) :
    let bridgeOf := Exports.bridgeOf (prepareChunk ledger .esm chunk code).ledger
    ∃ outline, Outline.ofSource (Strict.chunkDialect .esm) code = .ok outline ∧
      (∀ name ∈ outline.localExports,
        (prepareChunk ledger .esm chunk code).ledger.issued? name exportsScope =
          some (bridgeOf name)) ∧
      text = Revision.apply
        ⟨Imports.edits outline ++ outline.items.flatMap (Exports.itemEdits bridgeOf),
          Exports.trailer bridgeOf outline⟩ code ∧
      outline.IsPlaced ∧ text = String.ofList (rewriting bridgeOf ⟨chunk, code, outline⟩) ∧
      ((∀ item ∈ outline.items, item.kind.isPlain) → text = code) := by
  intro bridgeOf
  obtain ⟨outline, memo, after, revision, outlined, prepared, same⟩ := prepareChunk_esm accepted
  have ledger_eq : (prepareChunk ledger .esm chunk code).ledger = after := by rw [same]
  have agrees : Exports.Agrees bridgeOf after := ledger_eq ▸ Exports.agrees_bridgeOf _
  have placed := Outline.isPlaced_ofSource outlined (declaresInside_of_ok outlined accepted)
  have rewrites := rewrites_of_ok outlined accepted
  have told : text = Revision.apply
      ⟨Imports.edits outline ++ outline.items.flatMap (Exports.itemEdits bridgeOf),
        Exports.trailer bridgeOf outline⟩ code := by
    rw [same] at accepted
    cases accepted
    rw [Exports.revision_prepare prepared agrees]
  refine ⟨outline, outlined, rewrites.issued, told, placed, rewrites.text_eq, fun plain => ?_⟩
  obtain ⟨noImports, noExports, noTrailer⟩ := edits_of_isPlain plain bridgeOf
  rw [told, noImports, noExports, noTrailer]
  show ((Buffer.ofText code).revise {}).text = code
  rw [Buffer.revise_empty, Buffer.text_ofText]

/-- The import goes, and the default export becomes an assignment where it stands. -/
theorem prepared_text_of_default :
    let code := "import './x.js';\nexport default f();"
    let prepared := prepareChunk {} .esm {} code
    let bridgeOf := Exports.bridgeOf prepared.ledger
    prepared.result = .ok "\nwindow[\"a\"] = f();" ∧ bridgeOf "default" = "a" ∧
    ∃ outline, Outline.ofSource (Strict.chunkDialect .esm) code = .ok outline ∧
      "\nwindow[\"a\"] = f();" = Revision.apply
        ⟨Imports.edits outline ++ outline.items.flatMap (Exports.itemEdits bridgeOf),
          Exports.trailer bridgeOf outline⟩ code ∧
      "\nwindow[\"a\"] = f();".toList = rewriting bridgeOf ⟨{}, code, outline⟩ := by
  intro code prepared bridgeOf
  have accepted : prepared.result = .ok "\nwindow[\"a\"] = f();" :=
    eq_ok_of_toOption (by decide +kernel)
  obtain ⟨outline, outlined, -, told, -, read, -⟩ := prepared_text accepted
  refine ⟨accepted, by decide +kernel, outline, outlined, told, ?_⟩
  rw [read, String.toList_ofList]

/-- The end of a statement may be told by an import behind it alone. When the import is taken out,
the text is no script any more, or it is one with fewer statements: a name and a value in
parentheses become a call. -/
theorem import_ended_statement :
    (let code := "let a = 1;\na\nimport './x.js'\n(b) => b"
      let text := "let a = 1;\na\n\n(b) => b"
      (∃ outline, Outline.ofSource (Strict.chunkDialect .esm) code = .ok outline) ∧
      (prepareChunk {} .esm {} code).result = .ok text ∧
      ¬ ∃ outline, Outline.ofSource (Strict.chunkDialect .esm) text = .ok outline) ∧
    (let code := "let b = 1;\nf\nimport './x.js'\n(b)"
      let text := "let b = 1;\nf\n\n(b)"
      ∃ outline fused, Outline.ofSource (Strict.chunkDialect .esm) code = .ok outline ∧
        (prepareChunk {} .esm {} code).result = .ok text ∧
        Outline.ofSource (Strict.chunkDialect .esm) text = .ok fused ∧
        outline.items.length = 4 ∧ fused.items.length = 2) := by
  refine ⟨⟨exists_ok_of_isSome (by decide +kernel), eq_ok_of_toOption (by decide +kernel), ?_⟩, ?_⟩
  · rintro ⟨outline, outlined⟩
    have unread : (Outline.ofSource (Strict.chunkDialect .esm)
        "let a = 1;\na\n\n(b) => b").toOption = none := by decide +kernel
    rw [outlined] at unread
    cases unread
  · have length (source : String) (n : Nat)
        (told : (Outline.ofSource (Strict.chunkDialect .esm) source).toOption.map
          (fun outline => outline.items.length) = some n) :
        ∃ outline, Outline.ofSource (Strict.chunkDialect .esm) source = .ok outline ∧
          outline.items.length = n := by
      obtain ⟨outline, outlined, count⟩ := Option.map_eq_some_iff.mp told
      exact ⟨outline, eq_ok_of_toOption outlined, count⟩
    obtain ⟨outline, outlined, four⟩ :=
      length "let b = 1;\nf\nimport './x.js'\n(b)" 4 (by decide +kernel)
    obtain ⟨fused, read, two⟩ := length "let b = 1;\nf\n\n(b)" 2 (by decide +kernel)
    exact ⟨outline, fused, outlined, eq_ok_of_toOption (by decide +kernel), read, four, two⟩

end ChunkPass
end ChunkBridge
