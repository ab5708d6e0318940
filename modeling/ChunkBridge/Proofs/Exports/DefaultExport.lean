import ChunkBridge.Proofs.Exports.LocalNames
import ChunkBridge.Proofs.Script.Names

/-!
# The default export

A default export of an expression stays where it stands, as an assignment to its bridge. In a
compiled chunk exactly one assignment to that bridge is found, and it alone decides what the clause
has as `default` (`default_of_clause`). A value is kept by a variable that is declared in the place
of the assignment. A plain name is exported as it stands, so what is assigned to it later on is seen
as well.
-/

namespace ChunkBridge
open ChunkBridge.Text ChunkBridge.Script

/-- The name that a statement gives a new value. -/
def Script.Statement.assignedName? (s : Statement) : Option String :=
  match s.form with
  | .expression (.assign _ _ target _) => target.name?
  | _ => none

namespace Exports

/-- Where no key occurs twice, an element is the only one with its key. -/
theorem filter_key_eq {α : Type} {key : α → String} {as : List α} (nodup : (as.map key).Nodup)
    {a : α} (member : a ∈ as) : (as.filter fun other => key other == key a) = [a] := by
  induction as with
  | nil => cases member
  | cons first rest ih =>
    obtain ⟨new, nodup⟩ := List.nodup_cons.mp nodup
    rcases List.mem_cons.mp member with rfl | later
    · rw [List.filter_cons_of_pos (by simp), List.filter_eq_nil_iff.mpr]
      intro other within same
      exact new (List.mem_map.mpr ⟨other, within, by simpa using same⟩)
    · have apart : key first ≠ key a := fun same =>
        new (same ▸ List.mem_map_of_mem later)
      rw [List.filter_cons_of_neg (by simpa using apart), ih nodup later]

theorem inlinedLocal_injective : Function.Injective inlinedLocal := by
  intro a b same
  have texts : ("__closure_export_" ++ a).toList = ("__closure_export_" ++ b).toList :=
    congrArg String.toList same
  rw [String.toList_append, String.toList_append] at texts
  exact String.toList_inj.mp (List.append_cancel_left texts)

/-- What a clause has for an export, told by the only assignment to its bridge: a plain name, or the
variable that is declared in the place of the assignment and holds the value. That variable stands
for no other export, unless the chunk itself has one of that name. -/
structure Tells (memo : Exports) (source : List Char) (read : Outline)
    (specifiers : List Specifier) (exported : String) (b : Bridge) : Prop where
  only : ((assigned memo read).filter fun other => other.name == b.name) = [b]
  entry : (specifiers.filter fun s => s.exported == exported) = [⟨localOf b, exported⟩]
  plain : ∀ name, b.localName = some name → localOf b = name
  value : b.localName = none → localOf b = inlinedLocal b.name ∧
    (∃ item ∈ read.items, ∃ front back, declaring? memo source item = some ⟨item.span,
      front ++ (("var " ++ inlinedLocal b.name ++ " = ").toList ++ sliceChars source b.value ++
        [';']) ++ back⟩) ∧
    ∀ s ∈ specifiers, s.localName = inlinedLocal b.name → s.exported = exported ∨
      ∃ other ∈ assigned memo read, other.localName = some (inlinedLocal b.name)

section
variable {memo : Exports} {ledger : Ledger} {source : List Char} {read : Outline}
variable {specifiers : List Specifier}
variable (told : specifiers.map some = (assigned memo read).map (specifier? ledger))
include told

/-- Where the exports of a clause are all different, so are the bridges that were assigned. -/
theorem nodup_assigned (nodup : (specifiers.map Specifier.exported).Nodup) :
    ((assigned memo read).map Bridge.name).Nodup := by
  have exports : (assigned memo read).map (fun b => ledger.asked? b.name exportsScope) =
      specifiers.map fun entry => some entry.exported := by
    have same := congrArg (List.map (Option.map Specifier.exported)) told
    simp only [List.map_map, Function.comp_def, specifier?, Option.map_map, Option.map_some,
      Option.map_id'] at same
    exact same.symm
  refine List.Nodup.of_map (fun name => ledger.asked? name exportsScope) ?_
  rw [List.map_map]
  show ((assigned memo read).map fun b => ledger.asked? b.name exportsScope).Nodup
  rw [exports, ← Function.comp_def, ← List.map_map]
  exact nodup.map fun _ _ => Option.some.inj

theorem exists_tells (nodup : (specifiers.map Specifier.exported).Nodup) {exported : String}
    (member : exported ∈ specifiers.map Specifier.exported) :
    ∃ b, ledger.asked? b.name exportsScope = some exported ∧
      Tells memo source read specifiers exported b := by
  obtain ⟨entry, listed, rfl⟩ := List.mem_map.mp member
  obtain ⟨b, within, named, asked⟩ := exists_assigned told listed
  refine ⟨b, asked, filter_key_eq (nodup_assigned told nodup) within, ?_, fun name plain => ?_,
    fun isValue => ?_⟩
  · rw [filter_key_eq nodup listed, ← named]
  · rw [localOf, plain, Option.getD_some]
  · refine ⟨by rw [localOf, isValue, Option.getD_none], ?_, fun s other same => ?_⟩
    · have written := exists_declaring source within
      rwa [declaration, isValue] at written
    · obtain ⟨c, among, standsFor, answer⟩ := exists_assigned told other
      rw [same, localOf] at standsFor
      -- Another value has a variable of its own, named for another bridge.
      cases plain : c.localName with
      | some name =>
        rw [plain, Option.getD_some] at standsFor
        exact .inr ⟨c, among, by rw [plain, standsFor]⟩
      | none =>
        rw [plain, Option.getD_none] at standsFor
        have again : c.name = b.name := (inlinedLocal_injective standsFor).symm
        rw [again, asked] at answer
        exact .inl (Option.some.inj answer).symm

end

/-- A default export of an expression is an assignment to the bridge that the ledger has for it: only
what stands in front of the expression is edited. Whatever else is asked of the ledger and whatever
the compiler makes of the chunk, the identity included: a compiled chunk that is restored has one
assignment to that bridge, and it tells what the clause has as `default`. If no plain name is
assigned there, that is a variable which is declared with the value in the place of the assignment,
and no name that can be read in the compiled chunk, as long as the chunk does not have it and writes
no name with an escape. -/
theorem default_of_clause (start between : List Ledger.Call) (session : Session) (chunk : Chunk)
    (code text : String)
    (accepted : (ChunkPass.prepareChunk (Ledger.after {} start) .esm chunk code).result = .ok text) :
    let prepared := ChunkPass.prepareChunk (Ledger.after {} start) .esm chunk code
    let ledger := prepared.ledger.after between
    ∃ outline memo,
      let imports := Imports.ofUnit ⟨chunk, code, outline⟩
      Outline.ofSource (Strict.chunkDialect .esm) code = .ok outline ∧
      prepared.passes = [.strict, .imports imports, .exports memo, .hashbang] ∧
      (defaultName ∈ outline.localExports → ∃ bridge,
        prepared.ledger.issued? defaultName exportsScope = some bridge ∧
        (∃ edits trailer, text = Revision.apply ⟨edits, trailer⟩ code ∧
          ∀ item ∈ outline.items, ∀ expression, item.kind = .exportDefaultExpression expression →
            ⟨⟨item.span.start, expression.start⟩, (target bridge).toList⟩ ∈ edits) ∧
        ∀ compiled restored,
          ChunkPass.restoreChunk { session with ledger } .esm chunk prepared.passes compiled =
            .ok restored →
          ∃ stripped read specifiers b,
            let source := imports.restore stripped
            Strict.restore .esm compiled = .ok stripped ∧
            Outline.ofSource {} source = .ok read ∧
            restored = Hashbang.restore session.store chunk (Revision.apply
              ⟨read.items.filterMap (declaring? memo source.toList), (clause specifiers).toList⟩
              source) ∧
            b.name = bridge ∧ Tells memo source.toList read specifiers defaultName b ∧
            (b.localName = none →
              let kept := inlinedLocal bridge
              (specifiers.filter fun s => s.exported == defaultName) = [⟨kept, defaultName⟩] ∧
              (∃ item ∈ read.items, ∃ front back, declaring? memo source.toList item =
                some ⟨item.span, front ++ (("var " ++ kept ++ " = ").toList ++
                  sliceChars source.toList b.value ++ [';']) ++ back⟩) ∧
              (Mentions source.toList kept →
                kept.toList <:+: source.toList ∨ escapeMark <:+: source.toList))) := by
  obtain ⟨outline, memo, after, revision, outlined, prepared, same⟩ :=
    ChunkPass.prepareChunk_esm accepted
  rw [same] at accepted
  rw [same]
  refine ⟨outline, memo, outlined, rfl, fun member => ?_⟩
  obtain ⟨bridge, issued⟩ := issued_prepare prepared member
  refine ⟨bridge, issued, ⟨_, _, (Except.ok.inj accepted).symm, ?_⟩, fun compiled restored h => ?_⟩
  · intro item among expression kind
    have agrees := agrees_bridgeOf after
    rw [revision_prepare prepared agrees]
    refine List.mem_append_right _ (List.mem_flatMap.mpr ⟨item, among, ?_⟩)
    rw [itemEdits, kind, agrees _ _ issued]
    exact List.mem_singleton_self _
  · obtain ⟨stripped, repaired, strict, repair, rfl⟩ := ChunkPass.restoreChunk_esm_ok h
    have meets := meets_clause prepared between chunk.fileName
      ((Imports.ofUnit ⟨chunk, code, outline⟩).restore stripped)
    rw [repair] at meets
    obtain ⟨read, found, readable, search, told, nodup, names⟩ :=
      meets.2 (List.ne_nil_of_mem member)
    obtain ⟨specifiers, edits⟩ := grows_find search
    obtain ⟨b, asked, tells⟩ := exists_tells specifiers nodup ((names defaultName).mpr member)
    -- The ledger still has the bridge that it had issued for the default export.
    have own : b.name = bridge := by
      obtain ⟨calls, made⟩ := ledger_between prepared between
      have there := Ledger.issued?_after issued between
      rw [made] at asked there
      rw [(Ledger.issued?_iff_asked? calls _ _ _).mpr asked] at there
      exact Option.some.inj there
    refine ⟨stripped, read, found.specifiers, b, strict, readable, by rw [told, edits], own, tells,
      fun isValue => ?_⟩
    obtain ⟨kept, declared, -⟩ := tells.value isValue
    subst own
    exact ⟨kept ▸ tells.entry, declared, isInfix_of_mentions⟩

/-- Left as it is, a chunk gets back a value that is kept before its variable is assigned again, in a
variable that the chunk does not have. -/
theorem default_of_value :
    let code := "let x = 1;\nexport default x + 1;\nx = 2;"
    let text := "let x = 1;\nwindow[\"a\"] = x + 1;\nx = 2;"
    let prepared := ChunkPass.prepareChunk (Ledger.after {} []) .esm {} code
    let restored := "let x = 1;\nvar __closure_export_a = x + 1;\nx = 2;\n" ++
      "export \x7b __closure_export_a as default \x7d;"
    prepared.result = .ok text ∧
    ChunkPass.restoreChunk { ledger := prepared.ledger.after [] } .esm {} prepared.passes text =
      .ok restored ∧
    ∃ read specifiers b,
      restored = Revision.apply ⟨read.items.filterMap (declaring? ⟨["a"], []⟩ text.toList),
        (clause specifiers).toList⟩ text ∧
      b.name = "a" ∧ Tells ⟨["a"], []⟩ text.toList read specifiers "default" b ∧
      (specifiers.filter fun s => s.exported == "default") =
        [⟨"__closure_export_a", "default"⟩] ∧
      ¬Mentions text.toList "__closure_export_a" := by
  intro code text prepared restored
  have accepted : prepared.result = .ok text := eq_ok_of_toOption (by decide +kernel)
  have result : ChunkPass.restoreChunk { ledger := prepared.ledger.after [] } .esm {}
      prepared.passes text = .ok restored := eq_ok_of_toOption (by decide +kernel)
  obtain ⟨outline, memo, outlined, passes, default⟩ := default_of_clause [] [] {} {} _ _ accepted
  have exports : outline.localExports = ["default"] :=
    eq_of_toOption_map outlined (by decide +kernel)
  -- What was taken out and the bridges of the chunk, to be read off its passes.
  have known : prepared.passes = [.strict, .imports {}, .exports ⟨["a"], []⟩, .hashbang] := by
    decide +kernel
  obtain ⟨nothing, rfl⟩ := ChunkPass.passes_inj (passes.symm.trans known)
  have member : defaultName ∈ outline.localExports := exports ▸ List.mem_singleton_self _
  obtain ⟨bridge, issued, -, restores⟩ := default member
  have isFirst : prepared.ledger.issued? defaultName exportsScope = some "a" := by decide +kernel
  obtain ⟨stripped, read, specifiers, b, strict, readable, told, named, tells, settled⟩ :=
    restores _ _ result
  have untouched : stripped = text :=
    Except.ok.inj (strict.symm.trans (eq_ok_of_toOption (by decide +kernel)))
  rw [nothing, untouched, Imports.restore_empty] at readable told tells settled
  rw [Hashbang.restore_of_no_facade _ rfl] at told
  obtain rfl : bridge = "a" := Option.some.inj (issued.symm.trans isFirst)
  have isValue : b.localName = none := by
    have values : (assigned ⟨["a"], []⟩ read).map Bridge.localName = [none] :=
      eq_of_toOption_map (f := fun read => (assigned ⟨["a"], []⟩ read).map Bridge.localName)
        readable (by decide +kernel)
    have within : b ∈ assigned ⟨["a"], []⟩ read :=
      (List.mem_filter.mp (tells.only ▸ List.mem_singleton_self b)).1
    exact List.mem_singleton.mp (values ▸ List.mem_map_of_mem within)
  obtain ⟨kept, -, fresh⟩ := settled isValue
  refine ⟨accepted, result, read, specifiers, b, told, named, tells, kept, fun mentions => ?_⟩
  exact absurd (fresh mentions) (by decide +kernel)

/-- A plain name is exported as it stands: the variable that the clause has as `default` is assigned
again by a later statement of the chunk. -/
theorem default_is_assigned_later :
    let code := "let x = 1;\nexport default x;\nx = 2;\n"
    let text := "let x = 1;\nwindow[\"a\"] = x;\nx = 2;\n"
    let prepared := ChunkPass.prepareChunk {} .esm {} code
    let restored := "let x = 1;\n\nx = 2;\n\nexport \x7b x as default \x7d;"
    (Outline.ofSource (Strict.chunkDialect .esm) code).toOption.map
      (fun outline => outline.items.map Item.kind) =
        some [.other, .exportDefaultExpression ⟨26, 27⟩, .other] ∧
    prepared.result = .ok text ∧
    ChunkPass.restoreChunk { ledger := prepared.ledger } .esm {} prepared.passes text =
      .ok restored ∧
    (Outline.ofSource (Strict.chunkDialect .esm) restored).toOption.map
      (fun outline => outline.items.map Item.kind) =
        some [.other, .other, .exportNames [("x", "default")]] ∧
    (statements? (Strict.chunkDialect .esm) restored.toList 0).map
      (fun statements => statements.map Statement.assignedName?) = some [none, some "x", none] :=
  ⟨by decide +kernel, eq_ok_of_toOption (by decide +kernel), eq_ok_of_toOption (by decide +kernel),
    by decide +kernel, by decide +kernel⟩

end Exports
end ChunkBridge
