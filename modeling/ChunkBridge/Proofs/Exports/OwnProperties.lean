import ChunkBridge.Proofs.Exports.Assignments
import ChunkBridge.Proofs.Script.Stores

/-!
# Properties that a chunk assigns on its own

A property that a chunk assigns on its own is kept from becoming a bridge if it is assigned by one
of the assignments that a statement is made of. No other assignment is looked for: a property that
is assigned by a statement that does something else as well, or in the value of another assignment,
may be issued as a bridge of the chunk, and then the assignment to the bridge takes its place
(`own_properties`).
-/

namespace ChunkBridge
open ChunkBridge.Text ChunkBridge.Script

namespace Script
variable {source : List Char} {hashbang : Option Span} {statements : List Statement}
variable {outline : Outline} {st : Statement} {e : Expr} {bs : List Bridge}

/-- The properties of the global object that a statement assigns, as far as it is an expression. -/
def Statement.stores (st : Statement) : List String :=
  match st.form with
  | .expression e => e.stores
  | _ => []

/-- Assignments to properties are no directive. -/
theorem Statement.directive?_eq_none (form : st.form = .expression e)
    (assigns : e.bridges? = some bs) : st.directive? source = none := by
  unfold Statement.directive?
  rw [form]
  split
  next span value same =>
    cases same
    cases assigns
  next => rfl

/-- A statement of assignments to properties is an item of the outline. -/
theorem mem_globalsOf (outlined : Outline.ofStatements source hashbang statements = .ok outline)
    (member : st ∈ statements) (form : st.form = .expression e) (assigns : e.bridges? = some bs) :
    ∀ b ∈ bs, b.name ∈ Exports.globalsOf outline := by
  obtain ⟨-, -, items⟩ := Outline.ofStatements_ok outlined
  have stays : st ∈ (splitDirectives source statements).2 :=
    mem_splitDirectives member (Statement.directive?_eq_none form assigns)
  obtain ⟨item, among, known⟩ := exists_mem_of_mapM_ok items st stays
  have told := (Item.isOf_of_ok known).2
  have kind : item.kind = .bridges bs := by
    unfold Statement.kind at told
    rw [form] at told
    dsimp only at told
    rw [assigns] at told
    exact (Except.ok.inj told).symm
  intro b own
  refine List.mem_flatMap.mpr ⟨item, among, ?_⟩
  rw [kind]
  exact List.mem_map_of_mem own

end Script

namespace Exports

/-- The bridges of an accepted chunk are the names that the ledger has issued for its exports, and
none of them is a property that one of its statements assigns, if assignments are all that the
statement is made of. A bridge that the chunk assigns after all is assigned by a statement that does
something else as well, or in the value of another assignment. -/
theorem own_properties {ledger : Ledger} {chunk : Chunk} {code text : String}
    (accepted : (ChunkPass.prepareChunk ledger .esm chunk code).result = .ok text) :
    ∃ statements outline memo,
      let prepared := ChunkPass.prepareChunk ledger .esm chunk code
      sourceStatements? (Strict.chunkDialect .esm) code = some statements ∧
      Outline.ofSource (Strict.chunkDialect .esm) code = .ok outline ∧
      prepared.passes =
        [.strict, .imports (Imports.ofUnit ⟨chunk, code, outline⟩), .exports memo, .hashbang] ∧
      (∀ b, b ∈ memo.bridges ↔ ∃ name ∈ outline.localExports,
        prepared.ledger.issued? name exportsScope = some b) ∧
      ∀ st ∈ statements, ∀ e, st.form = .expression e →
        (∀ bs, e.bridges? = some bs → ∀ b ∈ bs, b.name ∈ e.stores ∧ b.name ∉ memo.bridges) ∧
        ∀ property ∈ e.stores, property ∈ memo.bridges → e.bridges? = none ∨
          ∃ span isPlain target value, .assign span isPlain target value ∈ e.parts ∧
            property ∈ value.stores := by
  obtain ⟨outline, memo, after, revision, outlined, prepared, same⟩ :=
    ChunkPass.prepareChunk_esm accepted
  obtain ⟨statements, hashbang, read, told⟩ := exists_statements outlined
  rw [same]
  refine ⟨statements, outline, memo, read, outlined, rfl, mem_bridges_prepare prepared, ?_⟩
  intro st member e form
  have apart {bs : List Bridge} (assigns : e.bridges? = some bs) {b : Bridge} (among : b ∈ bs) :
      b.name ∉ memo.bridges := fun own =>
    notMem_globalsOf prepared own (mem_globalsOf told member form assigns b among)
  refine ⟨fun bs assigns b among => ⟨?_, apart assigns among⟩, fun property stored own => ?_⟩
  · exact (Expr.mem_stores_iff assigns).mpr (.inl ⟨b, among, rfl⟩)
  · cases assigns : e.bridges? with
    | none => exact .inl rfl
    | some bs =>
      refine .inr (((Expr.mem_stores_iff assigns).mp stored).resolve_left ?_)
      rintro ⟨b, among, rfl⟩
      exact apart assigns among own

/-- What the first statement assigns is not issued. The second one does something else as well, and
what it assigns becomes the bridge. -/
theorem own_property_is_kept :
    let code := "window.a = 1;\nwindow.b = 2, f();\nexport const foo = 3;"
    let text := "window.a = 1;\nwindow.b = 2, f();\nconst foo = 3;\nwindow[\"b\"] = foo;"
    let prepared := ChunkPass.prepareChunk {} .esm {} code
    prepared.result = .ok text ∧
    ∃ statements, sourceStatements? (Strict.chunkDialect .esm) code = some statements ∧
      ∀ st ∈ statements, ∀ e, st.form = .expression e →
        ∀ property ∈ e.stores, property = "b" → e.bridges? = none ∨
          ∃ span isPlain target value, .assign span isPlain target value ∈ e.parts ∧
            property ∈ value.stores := by
  intro code text prepared
  have accepted : prepared.result = .ok text := eq_ok_of_toOption (by decide +kernel)
  obtain ⟨statements, outline, memo, read, outlined, passes, -, each⟩ := own_properties accepted
  have known : prepared.passes = [.strict, .imports {}, .exports ⟨["b"], ["a"]⟩, .hashbang] := by
    decide +kernel
  obtain ⟨-, rfl⟩ := ChunkPass.passes_inj (passes.symm.trans known)
  refine ⟨accepted, statements, read, fun st member e form property stored same => ?_⟩
  exact (each st member e form).2 property stored (by simp [same])

/-- Assignments in a list with something else, in the value of another assignment and in parentheses
are not seen: the chunk is given the properties that it assigns there as the bridges of its exports,
and the assignments to those come last. -/
theorem own_properties_are_issued :
    let code := "window.a = 1, f();\nwindow.q = window.b = 2;\n(window.c = 3);\n" ++
      "export const x = 4, y = 5, z = 6;"
    let prepared := ChunkPass.prepareChunk {} .esm {} code
    (sourceStatements? (Strict.chunkDialect .esm) code).map (List.map Statement.stores) =
      some [["a"], ["q", "b"], ["c"], []] ∧
    prepared.passes = [.strict, .imports {}, .exports ⟨["a", "b", "c"], ["q"]⟩, .hashbang] ∧
    prepared.result = .ok ("window.a = 1, f();\nwindow.q = window.b = 2;\n(window.c = 3);\n" ++
      "const x = 4, y = 5, z = 6;\n" ++
      "window[\"a\"] = x;\nwindow[\"b\"] = y;\nwindow[\"c\"] = z;") :=
  ⟨by decide +kernel, by decide +kernel, eq_ok_of_toOption (by decide +kernel)⟩

end Exports
end ChunkBridge
