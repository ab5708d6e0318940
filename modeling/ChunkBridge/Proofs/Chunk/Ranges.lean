import ChunkBridge.Proofs.Chunk.Rewriting
import ChunkBridge.Proofs.Script.Positions
import Mathlib.Data.List.Flatten

/-!
# No edit is out of place

The passes over a module chunk edit ranges that are made of pairs of positions: a statement and its
declaration, a statement and its expression, the closing brace of a declaration. All of them can be
edited and no two of them overlap, if each exported declaration begins inside its statement. A class
may fail to do so, because the decorators in front of the word `export` belong to it.
-/

namespace ChunkBridge
open ChunkBridge.Text ChunkBridge.Script

theorem Buffer.isCut_iff {cs : List Char} {n : Nat} : isCut cs n = true ↔ IsCut cs n := by
  rw [isCut, beq_iff_eq]
  constructor
  · exact fun length => ⟨takeBytes n cs, dropBytes n cs, (takeBytes_append_dropBytes n cs).symm, length⟩
  · rintro ⟨before, after, rfl, rfl⟩
    rw [takeBytes_byteLength_append]

/-- A range can be edited if it is not empty and lies between two cuts. -/
theorem Buffer.isRange_iff {cs : List Char} {span : Span} :
    isRange cs span = true ↔ span.start < span.stop ∧ IsCut cs span.start ∧ IsCut cs span.stop := by
  simp only [isRange, Bool.and_eq_true, decide_eq_true_eq, isCut_iff, and_assoc]

/-- In front of a closing brace there is a cut. -/
theorem Text.isCut_before_brace {cs : List Char} {n : Nat} (cut : IsCut cs n)
    (closes : (takeBytes n cs).getLast? = some '\x7d') : IsCut cs (n - 1) ∧ 0 < n := by
  obtain ⟨before, after, rfl, rfl⟩ := cut
  rw [takeBytes_byteLength_append] at closes
  obtain ⟨front, rfl⟩ := List.getLast?_eq_some_iff.mp closes
  have length : byteLength (front ++ ['\x7d']) = byteLength front + 1 := by
    rw [byteLength_append]
    rfl
  rw [length, Nat.add_sub_cancel]
  exact ⟨⟨front, '\x7d' :: after, by simp, rfl⟩, Nat.succ_pos _⟩

namespace Script

/-- The declaration that a statement exports. -/
def ItemKind.declaration? : ItemKind → Option Span
  | .exportDeclaration declaration _ | .exportDefaultDeclaration declaration _ => some declaration
  | .exportDefaultExpression _ | .imports _ | .reExport _ | .exportNames _ | .bridges _ | .other =>
    none

/-- Exported declarations begin behind the first character of their statements. -/
def Outline.DeclaresInside (outline : Outline) : Prop :=
  ∀ item ∈ outline.items, ∀ d, item.kind.declaration? = some d → item.span.start < d.start

/-- What form a statement has that means this to other modules. -/
def ItemKind.IsOfForm (form : Form) : ItemKind → Prop
  | .imports locals => form = .imports locals
  | .reExport exported => form = .reExport exported
  | .exportDeclaration d _ => ∃ declared, form = .exportDeclaration d declared
  | .exportNames pairs => form = .exportNames pairs
  | .exportDefaultDeclaration d name => form = .exportDefaultDeclaration d name
  | .exportDefaultExpression e => form = .exportDefaultExpression e
  | .bridges _ | .other => form.isModuleSyntax = false

theorem Statement.isOfForm {st : Statement} {kind : ItemKind} (told : st.kind = .ok kind) :
    kind.IsOfForm st.form := by
  unfold Statement.kind at told
  cases form : st.form with
  | exportDeclaration d declared =>
    rw [form] at told
    obtain ⟨names, -, known⟩ := exists_ok_of_bind told
    cases known
    exact ⟨declared, rfl⟩
  | expression e =>
    rw [form] at told
    cases told
    cases e.bridges? <;> rfl
  | imports | reExport | exportNames | exportDefaultDeclaration | exportDefaultExpression | other =>
    rw [form] at told
    cases told
    rfl

variable {source : List Char} {item : Item} {st : Statement}

/-- What a statement exports stands inside it, as far as declarations do. -/
theorem Item.IsOf.isPlaced (of : item.IsOf st) (placed : st.IsPlaced source)
    (inside : ∀ d, item.kind.declaration? = some d → item.span.start < d.start) : item.IsPlaced := by
  obtain ⟨span, kind⟩ := item
  obtain ⟨rfl, told⟩ := of
  have form := Statement.isOfForm told
  have stands := placed.form
  cases kind with
  | exportDeclaration d names =>
    obtain ⟨declared, form⟩ := form
    rw [form] at stands
    refine ⟨fun part same => ?_, nofun⟩
    cases same
    exact ⟨inside d rfl, (stands.part d rfl).2⟩
  | exportDefaultDeclaration d name =>
    rw [form] at stands
    refine ⟨fun part same => ?_, fun declaration same => ?_⟩
    · cases same
      exact ⟨inside d rfl, (stands.part d rfl).2⟩
    · cases same
      exact (stands.declaration d none rfl).1
  | exportDefaultExpression e =>
    rw [form] at stands
    refine ⟨fun part same => ?_, nofun⟩
    cases same
    exact ⟨stands.expression e rfl, (stands.part e rfl).2⟩
  | imports | reExport | exportNames | bridges | other => exact ⟨nofun, nofun⟩

/-- The ranges of a statement can be edited. -/
theorem Item.IsOf.isRange (of : item.IsOf st) (placed : st.IsPlaced source)
    (inside : ∀ d, item.kind.declaration? = some d → item.span.start < d.start) :
    (Imports.isTaken item = true → Buffer.isRange source item.span = true) ∧
      ∀ range ∈ Exports.itemRanges source item, Buffer.isRange source range = true := by
  obtain ⟨span, kind⟩ := item
  obtain ⟨rfl, told⟩ := of
  have form := Statement.isOfForm told
  have stands := placed.form
  -- A statement that is module syntax has a range of its own.
  have whole (module : st.form.isModuleSyntax = true) : Buffer.isRange source st.span = true :=
    Buffer.isRange_iff.mpr ⟨stands.nonempty module, placed.startCut, placed.stopCut⟩
  have front {part : Span} (of : st.form.part? = some part) (behind : st.span.start < part.start) :
      Buffer.isRange source ⟨st.span.start, part.start⟩ = true :=
    Buffer.isRange_iff.mpr ⟨behind, placed.startCut, (stands.part part of).1⟩
  have untaken {P : Prop} (taken : false = true) : P := absurd taken Bool.false_ne_true
  have noRange {P : Span → Prop} : ∀ range ∈ ([] : List Span), P range := fun _ member =>
    absurd member List.not_mem_nil
  cases kind with
  | imports | reExport => exact ⟨fun _ => whole (by rw [form]; rfl), noRange⟩
  | exportNames =>
    refine ⟨untaken, fun range member => ?_⟩
    rw [List.mem_singleton.mp member]
    exact whole (by rw [form]; rfl)
  | exportDeclaration d names =>
    obtain ⟨declared, form⟩ := form
    refine ⟨untaken, fun range member => ?_⟩
    rw [List.mem_singleton.mp member]
    exact front (by rw [form]; rfl) (inside d rfl)
  | exportDefaultExpression e =>
    refine ⟨untaken, fun range member => ?_⟩
    rw [List.mem_singleton.mp member]
    exact front (by rw [form]; rfl) (stands.expression e form)
  | exportDefaultDeclaration d name =>
    refine ⟨untaken, fun range member => ?_⟩
    have begins : Buffer.isRange source ⟨st.span.start, d.start⟩ = true :=
      front (by rw [form]; rfl) (inside d rfl)
    cases name with
    | some name =>
      rw [List.mem_singleton.mp member]
      exact begins
    | none =>
      simp only [Exports.itemRanges] at member
      split at member
      next closes =>
        rcases List.mem_pair.mp member with rfl | rfl
        · exact begins
        · have stop := (stands.declaration d none form).2
          obtain ⟨cut, pos⟩ := Text.isCut_before_brace stop (beq_iff_eq.mp closes)
          exact Buffer.isRange_iff.mpr ⟨Nat.sub_lt pos Nat.one_pos, cut, stop⟩
      next => cases member
  | bridges | other => exact ⟨untaken, noRange⟩

/-- Nothing means nothing. -/
theorem Item.isPlaced_of_other (other : item.kind = .other) : item.IsPlaced := by
  obtain ⟨span, kind⟩ := item
  cases other
  exact ⟨nofun, nofun⟩

variable {dialect : Dialect} {code : String} {outline : Outline}

/-- The statements of a source come one after the other with what they export inside them, as far as
declarations are. -/
theorem Outline.isPlaced_ofSource (outlined : Outline.ofSource dialect code = .ok outline)
    (inside : outline.DeclaresInside) : outline.IsPlaced := by
  have stands := standsFrom_ofSource outlined
  refine ⟨List.pairwise_filter.mpr ?_, fun item member => ?_⟩
  · refine stands.inOrder.imp fun {a b} order meantA meantB => ?_
    have meant {item : Item} (meant : (!item.kind.isPlain) = true) : item.kind ≠ .other := by
      intro other
      rw [other] at meant
      cases meant
    exact (order.resolve_left (meant meantA)).resolve_left (meant meantB)
  · rcases stands.items item member with other | ⟨-, st, of, placed⟩
    · exact Item.isPlaced_of_other other
    · exact of.isPlaced placed (inside item member)

/-- The ranges of a source can be edited. -/
theorem Outline.isRange_ofSource (outlined : Outline.ofSource dialect code = .ok outline)
    (inside : outline.DeclaresInside) :
    (∀ e ∈ Imports.edits outline, e.fits code.toList = true) ∧
      ∀ range ∈ outline.items.flatMap (Exports.itemRanges code.toList),
        Buffer.isRange code.toList range = true := by
  have stands := standsFrom_ofSource outlined
  have each (item : Item) (member : item ∈ outline.items) :
      (Imports.isTaken item = true → Buffer.isRange code.toList item.span = true) ∧
        ∀ range ∈ Exports.itemRanges code.toList item, Buffer.isRange code.toList range = true := by
    rcases stands.items item member with other | ⟨-, st, of, placed⟩
    · obtain ⟨span, kind⟩ := item
      cases other
      exact ⟨nofun, nofun⟩
    · exact of.isRange placed (inside item member)
  refine ⟨fun e member => ?_, fun range member => ?_⟩
  · obtain ⟨item, among, rfl⟩ := List.mem_map.mp member
    obtain ⟨inSource, taken⟩ := List.mem_filter.mp among
    exact (each item inSource).1 taken
  · obtain ⟨item, inSource, own⟩ := List.mem_flatMap.mp member
    exact (each item inSource).2 range own

end Script

namespace ChunkPass
open Exports (itemEdits itemRanges plannedEdits)

theorem sublist_itemRanges (bridgeOf : String → String) (source : List Char) (item : Item) :
    (itemRanges source item).Sublist ((itemEdits bridgeOf item).map Edit.span) := by
  obtain ⟨span, kind⟩ := item
  cases kind with
  | exportDefaultDeclaration declaration name =>
    cases name with
    | some name => exact .refl _
    | none =>
      simp only [itemRanges]
      split
      · exact .refl _
      · exact List.nil_sublist _
  | imports | reExport | exportDeclaration | exportNames | exportDefaultExpression | bridges
  | other => exact .refl _

/-- The edits of both passes have no character in common. -/
theorem apart_plannedEdits {unit : ChunkUnit} (placed : unit.outline.IsPlaced) (ledger : Ledger) :
    (Imports.edits unit.outline ++ plannedEdits unit ledger).Pairwise Edit.Apart := by
  have apart : (Imports.edits unit.outline ++ unit.outline.items.flatMap (itemEdits id)).Pairwise
      Edit.Apart :=
    ((pairwise_editsOf id placed).imp .inl).perm (perm_editsOf id unit.outline).symm Or.symm
  have planned : ((plannedEdits unit ledger).map Edit.span).Sublist
      ((unit.outline.items.flatMap (itemEdits id)).map Edit.span) := by
    rw [List.map_flatMap]
    exact (Exports.isPrefix_plannedEdits unit ledger).sublist.trans
      (.flatMap_right _ fun item _ => sublist_itemRanges id _ item)
  have spans : ((Imports.edits unit.outline ++ plannedEdits unit ledger).map Edit.span).Pairwise
      fun a b => a.stop ≤ b.start ∨ b.stop ≤ a.start := by
    rw [List.map_append]
    refine List.Pairwise.sublist (.append (.refl _) planned) ?_
    rw [← List.map_append]
    exact List.pairwise_map.mpr apart
  rwa [List.pairwise_map] at spans

/-- A chunk whose exported declarations begin inside their statements is prepared, or it is refused
for a reason that can be told. -/
theorem prepared_or_refused {outline : Outline} {code : String}
    (outlined : Outline.ofSource (Strict.chunkDialect .esm) code = .ok outline)
    (inside : outline.DeclaresInside) (ledger : Ledger) (chunk : Chunk) :
    (∃ text, (prepareChunk ledger .esm chunk code).result = .ok text) ∨
      ∃ refusal trace, (prepareChunk ledger .esm chunk code).result = .error refusal ∧
        refusal.trace? = some trace := by
  obtain ⟨taken, ranges⟩ := Outline.isRange_ofSource outlined inside
  rw [prepareChunk_of_ofSource outlined, prepareAll_esm ⟨chunk, code, outline⟩,
    if_pos (List.all_eq_true.mpr taken)]
  rcases prepared : Exports.prepare ⟨chunk, code, outline⟩ ledger with ⟨memo, after, fault | revision⟩
  · refine .inr ⟨.failed ⟨"ExportTransform", fault⟩, ?_⟩
    cases fault with
    | misplacedEdit =>
      obtain ⟨range, member, unfit⟩ := Exports.exists_misplaced (congrArg (·.2.2) prepared)
      rw [ranges range member] at unfit
      cases unfit
    | unreadable | takenBridge | openDefault | repeatedBridge | unissuedBridge | missingBridge =>
      exact ⟨_, rfl, rfl⟩
  · exact .inl ⟨_, rfl⟩

/-- An accepted chunk declares its exports inside their statements. -/
theorem declaresInside_of_ok {outline : Outline} {code text : String} {ledger : Ledger}
    {chunk : Chunk} (outlined : Outline.ofSource (Strict.chunkDialect .esm) code = .ok outline)
    (accepted : (prepareChunk ledger .esm chunk code).result = .ok text) :
    outline.DeclaresInside := by
  obtain ⟨_, memo, after, revision, again, prepared, -⟩ := prepareChunk_esm accepted
  rw [outlined] at again
  cases again
  have planned := Exports.edits_prepare prepared
  rw [Exports.revision_prepare prepared (Exports.agrees_bridgeOf after)] at planned
  intro item member d declares
  have front : ∃ e ∈ itemEdits (Exports.bridgeOf after) item,
      e.span = ⟨item.span.start, d.start⟩ := by
    obtain ⟨span, kind⟩ := item
    cases kind with
    | exportDeclaration declaration names =>
      cases declares
      exact ⟨_, List.mem_cons_self, rfl⟩
    | exportDefaultDeclaration declaration name =>
      cases declares
      cases name <;> exact ⟨_, List.mem_cons_self, rfl⟩
    | imports | reExport | exportNames | exportDefaultExpression | bridges | other => cases declares
  obtain ⟨e, own, same⟩ := front
  have among := List.mem_flatMap.mpr ⟨item, member, own⟩
  have fits := Exports.fits_plannedEdits ⟨chunk, code, outline⟩ ledger e (planned ▸ among)
  have lt := Edit.start_lt_stop fits
  rwa [same] at lt

/-- Whatever chunk is accepted, its text is the chunk read from left to right. -/
theorem rewrites_of_ok {outline : Outline} {code text : String} {ledger : Ledger} {chunk : Chunk}
    (outlined : Outline.ofSource (Strict.chunkDialect .esm) code = .ok outline)
    (accepted : (prepareChunk ledger .esm chunk code).result = .ok text) :
    Rewrites ⟨chunk, code, outline⟩ (prepareChunk ledger .esm chunk code).passes
      (prepareChunk ledger .esm chunk code).ledger text := by
  have inside := declaresInside_of_ok outlined accepted
  exact rewrites_prepareChunk (Outline.isPlaced_ofSource outlined inside) outlined accepted

/-- Whatever the ledger is, the passes over a chunk that parses plan edits of ranges that are not
empty, lie between characters of the chunk and do not overlap, and the chunk is prepared or refused
for a reason that can be told; provided that no exported declaration begins in front of its statement.
A chunk with such a declaration is never prepared. -/
theorem edits_in_place {outline : Outline} {code : String}
    (outlined : Outline.ofSource (Strict.chunkDialect .esm) code = .ok outline) (ledger : Ledger)
    (chunk : Chunk) :
    let edits := Imports.edits outline ++ plannedEdits ⟨chunk, code, outline⟩ ledger
    let result := (prepareChunk ledger .esm chunk code).result
    (outline.DeclaresInside →
      (∀ e ∈ edits, e.span.start < e.span.stop ∧
        IsCut code.toList e.span.start ∧ IsCut code.toList e.span.stop) ∧
      edits.Pairwise Edit.Apart ∧
      ((∃ text, result = .ok text) ∨
        ∃ refusal trace, result = .error refusal ∧ refusal.trace? = some trace)) ∧
    (¬outline.DeclaresInside → ∀ text, result ≠ .ok text) := by
  intro edits result
  refine ⟨fun inside => ⟨fun e member => Buffer.isRange_iff.mp ?_, ?_, ?_⟩, fun outside text ok => ?_⟩
  · rcases List.mem_append.mp member with taken | planned
    · exact (Outline.isRange_ofSource outlined inside).1 e taken
    · exact Exports.fits_plannedEdits ⟨chunk, code, outline⟩ ledger e planned
  · have placed : ChunkUnit.outline ⟨chunk, code, outline⟩ |>.IsPlaced :=
      Outline.isPlaced_ofSource outlined inside
    exact apart_plannedEdits placed ledger
  · exact prepared_or_refused outlined inside ledger chunk
  · exact outside (declaresInside_of_ok outlined ok)

/-- An import and a class without a name are edited in three places. -/
theorem edits_in_place_of_class :
    let code := "import './x';\nexport default class \x7b\x7d"
    let outline : Outline := { items := [
      ⟨⟨0, 13⟩, .imports []⟩, ⟨⟨14, 37⟩, .exportDefaultDeclaration ⟨29, 37⟩ none⟩] }
    let edits := Imports.edits outline ++ plannedEdits ⟨{}, code, outline⟩ {}
    let result := (prepareChunk {} .esm {} code).result
    Outline.ofSource (Strict.chunkDialect .esm) code = .ok outline ∧ outline.DeclaresInside ∧
    edits.map Edit.span = [⟨0, 13⟩, ⟨14, 29⟩, ⟨36, 37⟩] ∧
    (∀ e ∈ edits, e.span.start < e.span.stop ∧
      IsCut code.toList e.span.start ∧ IsCut code.toList e.span.stop) ∧
    edits.Pairwise Edit.Apart ∧
    ((∃ text, result = .ok text) ∨
      ∃ refusal trace, result = .error refusal ∧ refusal.trace? = some trace) := by
  intro code outline edits result
  have outlined : Outline.ofSource (Strict.chunkDialect .esm) code = .ok outline :=
    eq_ok_of_toOption (by decide +kernel)
  have inside : outline.DeclaresInside := by
    intro item member d declares
    simp only [outline, List.mem_cons, List.not_mem_nil, or_false] at member
    rcases member with rfl | rfl <;> cases declares
    decide
  exact ⟨outlined, inside, by decide +kernel, (edits_in_place outlined {} {}).1 inside⟩

/-- Decorators in front of `export` belong to the class, which then begins in front of its statement:
the chunk parses, but to take away what stands between the two is out of place. -/
theorem edit_out_of_place_of_decorator :
    let code := "@dec export class A \x7b\x7d\n"
    let outline : Outline := { items := [⟨⟨5, 22⟩, .exportDeclaration ⟨0, 22⟩ ["A"]⟩] }
    let result := (prepareChunk {} .esm { name := "main", fileName := "main.js" } code).result
    Outline.ofSource (Strict.chunkDialect .esm) code = .ok outline ∧
    Buffer.isRange code.toList ⟨5, 0⟩ = false ∧
    result = .error (.failed ⟨"ExportTransform", .misplacedEdit⟩) ∧
    ¬((∃ text, result = .ok text) ∨
      ∃ refusal trace, result = .error refusal ∧ refusal.trace? = some trace) := by
  intro code outline result
  have outlined : Outline.ofSource (Strict.chunkDialect .esm) code = .ok outline :=
    eq_ok_of_toOption (by decide +kernel)
  have misplaced : result = .error (.failed ⟨"ExportTransform", .misplacedEdit⟩) := by
    decide +kernel
  refine ⟨outlined, by decide +kernel, misplaced, ?_⟩
  rw [misplaced]
  rintro (⟨text, same⟩ | ⟨refusal, trace, same, told⟩)
  · cases same
  · cases same
    cases told

end ChunkPass
end ChunkBridge
