import ChunkBridge.Proofs.Chunk.Stages
import ChunkBridge.Proofs.Edit.Disjoint
import ChunkBridge.Proofs.Exports.Ranges
import Mathlib.Data.List.Perm.Basic

/-!
# Chunks read from left to right

Two passes edit a chunk, one after the other and each by position. What they make of it together is
told by reading the chunk once, statement by statement (`rewriting`), as long as its statements come
one after the other.
-/

namespace ChunkBridge
open ChunkBridge.Text ChunkBridge.Script

namespace Script

/-- The statement means nothing to other modules, as far as exports and imports go. -/
def ItemKind.isPlain : ItemKind → Bool
  | .bridges _ | .other => true
  | .imports _ | .reExport _ | .exportDeclaration .. | .exportNames _
  | .exportDefaultDeclaration .. | .exportDefaultExpression _ => false

/-- The declaration or expression that a statement exports. -/
def ItemKind.part? : ItemKind → Option Span
  | .exportDeclaration declaration _ | .exportDefaultDeclaration declaration _ => some declaration
  | .exportDefaultExpression expression => some expression
  | .imports _ | .reExport _ | .exportNames _ | .bridges _ | .other => none

/-- What is exported lies inside its statement, behind the first character there. A default export
without a name has a text that can end in a brace. -/
structure Item.IsPlaced (item : Item) : Prop where
  part : ∀ part, item.kind.part? = some part →
    item.span.start < part.start ∧ part.start ≤ part.stop ∧ part.stop ≤ item.span.stop
  brace : ∀ declaration, item.kind = .exportDefaultDeclaration declaration none →
    declaration.start < declaration.stop

/-- The statements that mean something to other modules come one after the other, and what they
export lies inside them. -/
structure Outline.IsPlaced (outline : Outline) : Prop where
  inOrder : (outline.items.filter fun item => !item.kind.isPlain).Pairwise fun a b =>
    a.span.stop ≤ b.span.start
  items : ∀ item ∈ outline.items, item.IsPlaced

end Script

namespace ChunkPass
open Exports (defaultLocal defaultName target itemEdits)

/-- A source from a position on, read from left to right with some statements that begin behind it.
Imports, exports of other modules' names and export clauses are left out, and of an exported
declaration what stands in front of it. A default export becomes a constant if it has no name, and
an assignment if it is a value. Everything else is kept. -/
def rewriteFrom (bridgeOf : String → String) (source : List Char) : Nat → List Item → List Char
  | pos, [] => dropBytes pos source
  | pos, item :: items =>
    match item.kind with
    | .imports _ | .reExport _ | .exportNames _ =>
      sliceChars source ⟨pos, item.span.start⟩ ++ rewriteFrom bridgeOf source item.span.stop items
    | .exportDeclaration declaration _ | .exportDefaultDeclaration declaration (some _) =>
      sliceChars source ⟨pos, item.span.start⟩ ++ rewriteFrom bridgeOf source declaration.start items
    | .exportDefaultDeclaration declaration none =>
      sliceChars source ⟨pos, item.span.start⟩ ++ ("const " ++ defaultLocal ++ " = ").toList ++
        sliceChars source ⟨declaration.start, declaration.stop - 1⟩ ++ "\x7d;".toList ++
        rewriteFrom bridgeOf source declaration.stop items
    | .exportDefaultExpression expression =>
      sliceChars source ⟨pos, item.span.start⟩ ++ (target (bridgeOf defaultName)).toList ++
        rewriteFrom bridgeOf source expression.start items
    | .bridges _ | .other => rewriteFrom bridgeOf source pos items

/-- A chunk read from left to right, and behind it a line for each export that is not assigned where
it stands. -/
def rewriting (bridgeOf : String → String) (unit : ChunkUnit) : List Char :=
  rewriteFrom bridgeOf unit.code.toList 0 unit.outline.items ++ Exports.trailer bridgeOf unit.outline

/-! ## The edits of both passes -/

/-- The edits of a statement, whichever pass makes them. -/
def editsOf (bridgeOf : String → String) (item : Item) : List Edit :=
  (if Imports.isTaken item then [{ span := item.span }] else []) ++ itemEdits bridgeOf item

/-- A statement is edited by one pass or the other. -/
theorem perm_editsOf (bridgeOf : String → String) (outline : Outline) :
    (Imports.edits outline ++ outline.items.flatMap (itemEdits bridgeOf)).Perm
      (outline.items.flatMap (editsOf bridgeOf)) := by
  have taken : Imports.edits outline = outline.items.flatMap fun item =>
      if Imports.isTaken item then [{ span := item.span }] else [] := by
    unfold Imports.edits
    induction outline.items with
    | nil => rfl
    | cons item items ih =>
      rw [List.filter_cons, List.flatMap_cons, ← ih]
      split <;> rfl
  rw [taken]
  exact List.flatMap_append_perm ..

/-- To read a chunk from left to right is to read it with its edits. -/
theorem rewriteFrom_eq_splice (bridgeOf : String → String) (source : List Char) (pos : Nat)
    (items : List Item) :
    rewriteFrom bridgeOf source pos items = splice source pos (items.flatMap (editsOf bridgeOf)) := by
  induction items generalizing pos with
  | nil => rfl
  | cons item items ih =>
    obtain ⟨span, kind⟩ := item
    cases kind with
    | exportDefaultDeclaration declaration name =>
      cases name <;>
        simp [rewriteFrom, editsOf, Imports.isTaken, Imports.locals?, itemEdits, splice, ih]
    | imports | reExport | exportDeclaration | exportNames | exportDefaultExpression | bridges
    | other => simp [rewriteFrom, editsOf, Imports.isTaken, Imports.locals?, itemEdits, splice, ih]

/-- The edits of a statement are in order and lie inside it. -/
theorem editsOf_of_isPlaced (bridgeOf : String → String) {item : Item} (placed : item.IsPlaced) :
    (editsOf bridgeOf item).Pairwise Edit.Before ∧
      ∀ e ∈ editsOf bridgeOf item, item.span.start ≤ e.span.start ∧ e.span.stop ≤ item.span.stop := by
  obtain ⟨span, kind⟩ := item
  obtain ⟨part, brace⟩ := placed
  dsimp only at part brace
  cases kind with
  | imports | reExport | exportNames | bridges | other =>
    simp [editsOf, Imports.isTaken, Imports.locals?, itemEdits]
  | exportDeclaration declaration names =>
    obtain ⟨behind, forward, inside⟩ := part declaration rfl
    simpa [editsOf, Imports.isTaken, Imports.locals?, itemEdits] using Nat.le_trans forward inside
  | exportDefaultExpression expression =>
    obtain ⟨behind, forward, inside⟩ := part expression rfl
    simpa [editsOf, Imports.isTaken, Imports.locals?, itemEdits] using Nat.le_trans forward inside
  | exportDefaultDeclaration declaration name =>
    obtain ⟨behind, forward, inside⟩ := part declaration rfl
    cases name with
    | some name =>
      simpa [editsOf, Imports.isTaken, Imports.locals?, itemEdits] using Nat.le_trans forward inside
    | none =>
      have nonempty := brace declaration rfl
      have front : declaration.start ≤ declaration.stop - 1 := by omega
      have back : span.start ≤ declaration.stop - 1 := by omega
      simpa [editsOf, Imports.isTaken, Imports.locals?, itemEdits, Edit.Before] using
        ⟨front, Nat.le_trans forward inside, back, inside⟩

theorem editsOf_of_isPlain (bridgeOf : String → String) {item : Item}
    (plain : item.kind.isPlain = true) : editsOf bridgeOf item = [] := by
  obtain ⟨span, kind⟩ := item
  cases kind <;> first | rfl | cases plain

/-- The edits of a chunk are in the order of its statements. -/
theorem pairwise_editsOf (bridgeOf : String → String) {outline : Outline}
    (placed : outline.IsPlaced) :
    (outline.items.flatMap (editsOf bridgeOf)).Pairwise Edit.Before := by
  rw [List.pairwise_flatMap]
  refine ⟨fun item member => (editsOf_of_isPlaced bridgeOf (placed.items item member)).1, ?_⟩
  have inOrder := List.pairwise_filter.mp placed.inOrder
  refine inOrder.imp_of_mem fun {a b} left right apart e ofA f ofB => ?_
  have meant {item : Item} {e : Edit} (edits : e ∈ editsOf bridgeOf item) :
      (!item.kind.isPlain) = true := by
    rw [Bool.not_eq_true', Bool.eq_false_iff]
    intro plain
    rw [editsOf_of_isPlain bridgeOf plain] at edits
    cases edits
  have behind := apart (meant ofA) (meant ofB)
  have first := ((editsOf_of_isPlaced bridgeOf (placed.items a left)).2 e ofA).2
  have second := ((editsOf_of_isPlaced bridgeOf (placed.items b right)).2 f ofB).1
  unfold Edit.Before
  omega

/-! ## What is made of a chunk -/

/-- A text that the passes over a chunk have left: it is the chunk read from left to right, with the
bridges that the ledger has for its exports, and the imports and exports of other modules' names are
remembered as they were written. -/
structure Rewrites (unit : ChunkUnit) (passes : List ChunkPass) (ledger : Ledger)
    (text : String) : Prop where
  issued : ∀ name ∈ unit.outline.localExports,
    ledger.issued? name exportsScope = some (Exports.bridgeOf ledger name)
  text_eq : text = String.ofList (rewriting (Exports.bridgeOf ledger) unit)
  remembered : ∃ imports exports,
    passes = [.strict, .imports imports, .exports exports, .hashbang] ∧
      imports.statements =
        (unit.outline.items.filter Imports.isTaken).map fun item => slice unit.code item.span

/-- The edits of an accepted chunk fit. -/
theorem fits_of_prepare {unit : ChunkUnit} {ledger after : Ledger} {memo : Exports}
    {revision : Revision}
    (taken : (Imports.edits unit.outline).all (Edit.fits unit.code.toList) = true)
    (prepared : Exports.prepare unit ledger = (memo, after, .ok revision))
    {bridgeOf : String → String} (agrees : Exports.Agrees bridgeOf after) :
    ∀ e ∈ Imports.edits unit.outline ++ unit.outline.items.flatMap (itemEdits bridgeOf),
      e.fits unit.code.toList = true := by
  have planned := Exports.edits_prepare prepared
  rw [Exports.revision_prepare prepared agrees] at planned
  intro e member
  rcases List.mem_append.mp member with first | second
  · exact List.all_eq_true.mp taken e first
  · exact Exports.fits_plannedEdits unit ledger e (planned ▸ second)

theorem rewrites_prepareAll {unit : ChunkUnit} {ledger after : Ledger} {passes : List ChunkPass}
    {buffer : Buffer} (placed : unit.outline.IsPlaced)
    (accepted : prepareAll unit (ofFormat .esm) ledger (.ofText unit.code) =
      (passes, after, .ok buffer)) : Rewrites unit passes after buffer.text := by
  rw [prepareAll_esm] at accepted
  split at accepted
  next taken =>
    rcases prepared : Exports.prepare unit ledger with ⟨memo, later, fault | revision⟩
    · rw [prepared] at accepted
      cases accepted
    · rw [prepared] at accepted
      cases accepted
      have agrees := Exports.agrees_bridgeOf after
      have applied := Revision.apply_of_disjoint
        (r := ⟨Imports.edits unit.outline ++
          unit.outline.items.flatMap (itemEdits (Exports.bridgeOf after)),
            Exports.trailer (Exports.bridgeOf after) unit.outline⟩)
        (perm_editsOf _ unit.outline) (pairwise_editsOf _ placed)
        (fits_of_prepare taken prepared agrees)
      refine ⟨fun name member => ?_, ?_, _, _, rfl, rfl⟩
      · obtain ⟨b, known⟩ := Exports.issued_prepare prepared member
        rw [known, agrees name b known]
      · rw [rewriting, rewriteFrom_eq_splice, ← applied, String.ofList_toList,
          Exports.revision_prepare prepared agrees]
        rfl
  next => cases accepted

/-- A chunk is prepared with the statements that it is found to have. -/
theorem prepareChunk_of_ofSource {outline : Outline} {code : String}
    (outlined : Outline.ofSource (Strict.chunkDialect .esm) code = .ok outline) (ledger : Ledger)
    (chunk : Chunk) :
    prepareChunk ledger .esm chunk code =
      let (passes, after, result) :=
        prepareAll ⟨chunk, code, outline⟩ (ofFormat .esm) ledger (.ofText code)
      ⟨passes, after, (result.map Buffer.text).mapError .failed⟩ := by
  unfold prepareChunk
  rw [outlined]

/-- The text of an accepted chunk, if the statements that it is found to have are placed. -/
theorem rewrites_prepareChunk {outline : Outline} {code text : String} {ledger : Ledger}
    {chunk : Chunk} (placed : outline.IsPlaced)
    (outlined : Outline.ofSource (Strict.chunkDialect .esm) code = .ok outline)
    (accepted : (prepareChunk ledger .esm chunk code).result = .ok text) :
    Rewrites ⟨chunk, code, outline⟩ (prepareChunk ledger .esm chunk code).passes
      (prepareChunk ledger .esm chunk code).ledger text := by
  rw [prepareChunk_of_ofSource outlined] at accepted ⊢
  rcases all : prepareAll ⟨chunk, code, outline⟩ (ofFormat .esm) ledger (.ofText code) with
    ⟨passes, after, failed | buffer⟩
  · rw [all] at accepted
    cases accepted
  · rw [all] at accepted
    cases accepted
    exact rewrites_prepareAll placed all

/-- Whatever statements a chunk is taken to have: if they are placed one after the other and its
passes accept it, the text that they leave is the chunk read from left to right. So it is for the
statements that the chunk is found to have when it is parsed. -/
theorem text_eq_rewriting {outline : Outline} (placed : outline.IsPlaced) (ledger : Ledger)
    (chunk : Chunk) (code : String) :
    (∀ passes after buffer,
      prepareAll ⟨chunk, code, outline⟩ (ofFormat .esm) ledger (.ofText code) =
        (passes, after, .ok buffer) →
      Rewrites ⟨chunk, code, outline⟩ passes after buffer.text) ∧
    ∀ text, Outline.ofSource (Strict.chunkDialect .esm) code = .ok outline →
      (prepareChunk ledger .esm chunk code).result = .ok text →
      Rewrites ⟨chunk, code, outline⟩ (prepareChunk ledger .esm chunk code).passes
        (prepareChunk ledger .esm chunk code).ledger text :=
  ⟨fun _ _ _ => rewrites_prepareAll placed,
    fun _ outlined accepted => rewrites_prepareChunk placed outlined accepted⟩

/-- An import goes, a declaration stays, and a class without a name becomes a constant. -/
theorem rewriting_of_three_statements :
    let code := "import './x';\nexport let a;\nexport default class \x7b\x7d"
    let text := "\nlet a;\nconst __closure_default_export__ = class \x7b\x7d;" ++
      "\nwindow[\"a\"] = a;\nwindow[\"b\"] = __closure_default_export__;"
    let outline : Outline := { items := [
      ⟨⟨0, 13⟩, .imports []⟩, ⟨⟨14, 27⟩, .exportDeclaration ⟨21, 27⟩ ["a"]⟩,
      ⟨⟨28, 51⟩, .exportDefaultDeclaration ⟨43, 51⟩ none⟩] }
    let prepared := prepareChunk {} .esm {} code
    outline.IsPlaced ∧ Outline.ofSource (Strict.chunkDialect .esm) code = .ok outline ∧
    prepared.result = .ok text ∧
    Rewrites ⟨{}, code, outline⟩ prepared.passes prepared.ledger text := by
  intro code text outline prepared
  have placed : outline.IsPlaced := by
    refine ⟨by decide, fun item member => ?_⟩
    simp only [outline, List.mem_cons, List.not_mem_nil, or_false] at member
    rcases member with rfl | rfl | rfl <;> exact ⟨by simp [ItemKind.part?], by simp⟩
  have outlined : Outline.ofSource (Strict.chunkDialect .esm) code = .ok outline :=
    eq_ok_of_toOption (by decide +kernel)
  have accepted : prepared.result = .ok text := by
    have run := prepareChunk_of_ofSource outlined {} {}
    exact (congrArg Prepared.result run).trans (eq_ok_of_toOption (by decide +kernel))
  exact ⟨placed, outlined, accepted,
    (text_eq_rewriting placed {} {} code).2 text outlined accepted⟩

end ChunkPass
end ChunkBridge
