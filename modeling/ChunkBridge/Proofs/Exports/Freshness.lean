import ChunkBridge.Proofs.Exports.DefaultExport
import ChunkBridge.Proofs.Script.Names

/-!
# Names that are introduced

Two kinds of names are brought into a chunk: a constant for a default export without a name, and in
the compiled chunk a variable for each value that was assigned to a bridge. The constant is declared
once at most, and the variables are all different and different from the constant. They are not kept
apart from the names of the chunk: one of them is new to a text that does not have it, and nothing
looks for it there (`introduced_names`).
-/

namespace ChunkBridge.Exports
open ChunkBridge.Text ChunkBridge.Script

/-! ## The constant for a default export -/

/-- What the declaration of a default export without a name begins with. -/
def constant : List Char := ("const " ++ defaultLocal ++ " = ").toList

theorem nil_ne_constant : [] ≠ constant := by decide

theorem count_constant_nil : [[]].count constant = 0 :=
  List.count_eq_zero.mpr fun member => nil_ne_constant (List.mem_singleton.mp member).symm

theorem target_ne_constant (bridge : String) : (target bridge).toList ≠ constant := by
  intro same
  simp only [target, String.toList_append, List.append_assoc] at same
  have stands : bridgeObject.toList <+: constant := ⟨_, same⟩
  exact absurd stands (by decide)

/-- A constant is declared for a default export only. -/
theorem count_constant_itemEdits (bridgeOf : String → String) (item : Item) :
    ((itemEdits bridgeOf item).map Edit.text).count constant ≤
      item.kind.exportedNames.count defaultName := by
  obtain ⟨span, kind⟩ := item
  cases kind with
  | imports | reExport | bridges | other => exact Nat.zero_le _
  | exportDeclaration | exportNames => simp [itemEdits, count_constant_nil]
  | exportDefaultExpression expression => simp [itemEdits, target_ne_constant]
  | exportDefaultDeclaration declaration name =>
    cases name with
    | some name => simp [itemEdits, count_constant_nil]
    | none =>
      have closing : "\x7d;".toList ≠ constant := by decide
      show [constant, "\x7d;".toList].count constant ≤ [defaultName].count defaultName
      rw [List.count_cons_self, List.count_cons_of_ne closing, List.count_cons_self]
      exact Nat.le_refl 1

theorem count_constant_itemEdits_flatMap (bridgeOf : String → String) (items : List Item) :
    ((items.flatMap (itemEdits bridgeOf)).map Edit.text).count constant ≤
      (items.flatMap fun item => item.kind.exportedNames).count defaultName := by
  induction items with
  | nil => exact Nat.le_refl 0
  | cons item items ih =>
    rw [List.flatMap_cons, List.flatMap_cons, List.map_append, List.count_append,
      List.count_append]
    exact Nat.add_le_add (count_constant_itemEdits bridgeOf item) ih

/-- What a chunk is edited to has one such declaration at most. -/
theorem count_constant_le_one {code : String} {outline : Outline}
    (outlined : Outline.ofSource (Strict.chunkDialect .esm) code = .ok outline)
    (bridgeOf : String → String) :
    ((Imports.edits outline ++ outline.items.flatMap (itemEdits bridgeOf)).map Edit.text).count
      constant ≤ 1 := by
  have taken : ((Imports.edits outline).map Edit.text).count constant = 0 := by
    refine List.count_eq_zero.mpr fun member => ?_
    obtain ⟨e, edit, same⟩ := List.mem_map.mp member
    obtain ⟨item, -, rfl⟩ := List.mem_map.mp edit
    exact nil_ne_constant same
  rw [List.map_append, List.count_append, taken, Nat.zero_add]
  exact Nat.le_trans (count_constant_itemEdits_flatMap bridgeOf outline.items)
    (List.nodup_iff_count_le_one.mp (nodup_exportedNames rfl outlined) defaultName)

/-! ## The variables for values -/

/-- The variable that is declared for an assignment and the text of its value, if that is no plain
name. -/
def introduced? (source : List Char) (b : Bridge) : Option (String × List Char) :=
  match b.localName with
  | some _ => none
  | none => some (inlinedLocal b.name, sliceChars source b.value)

/-- The variables that are declared in a compiled chunk and the texts of their values, in order. -/
def introduced (memo : Exports) (source : List Char) (read : Outline) : List (String × List Char) :=
  (assigned memo read).filterMap (introduced? source)

/-- The declaration of a variable. -/
def declarationOf (v : String × List Char) : List Char :=
  ("var " ++ v.1 ++ " = ").toList ++ v.2 ++ [';']

/-- What takes the place of an assignment is the declaration of its variable and nothing else. -/
theorem declaration_eq (source : List Char) (b : Bridge) :
    declaration source b = (introduced? source b).toList.flatMap declarationOf := by
  unfold declaration introduced?
  cases b.localName with
  | some _ => rfl
  | none => simp only [Option.toList_some, List.flatMap_singleton, declarationOf]

theorem name_of_introduced? {source : List Char} {b : Bridge} {v : String × List Char}
    (known : introduced? source b = some v) : v.1 = inlinedLocal b.name := by
  unfold introduced? at known
  cases plain : b.localName with
  | some _ =>
    rw [plain] at known
    cases known
  | none =>
    rw [plain] at known
    cases known
    rfl

section
variable {memo : Exports} {source : List Char} {read : Outline}

/-- Nothing but declarations of variables is brought into a compiled chunk by the statements that
give way. -/
theorem flatMap_text_declaring :
    (read.items.filterMap (declaring? memo source)).flatMap Edit.text =
      (introduced memo source read).flatMap declarationOf := by
  rw [introduced, assigned, List.filterMap_eq_flatMap_toList, List.filterMap_eq_flatMap_toList,
    List.flatMap_assoc, List.flatMap_assoc, List.flatMap_assoc]
  refine List.flatMap_congr fun item _ => ?_
  unfold declaring?
  cases ownBridges? memo item.kind with
  | none => rfl
  | some bs =>
    rw [Option.map_some, Option.toList_some, List.flatMap_singleton, Option.getD_some]
    exact List.flatMap_congr fun b _ => declaration_eq source b

/-- Variables of different bridges are different. -/
theorem nodup_introduced (nodup : ((assigned memo read).map Bridge.name).Nodup) :
    ((introduced memo source read).map Prod.fst).Nodup := by
  refine List.pairwise_map.mpr (List.pairwise_filterMap.mpr ((List.pairwise_map.mp nodup).imp ?_))
  intro a b apart left isLeft right isRight same
  rw [name_of_introduced? isLeft, name_of_introduced? isRight] at same
  exact apart (inlinedLocal_injective same)

theorem inlinedLocal_ne_defaultLocal (bridge : String) : inlinedLocal bridge ≠ defaultLocal := by
  intro same
  have texts : ("__closure_export_" ++ bridge).toList = defaultLocal.toList :=
    congrArg String.toList same
  have stands : "__closure_export_".toList <+: defaultLocal.toList :=
    ⟨bridge.toList, (String.toList_append ..).symm.trans texts⟩
  exact absurd stands (by decide)

theorem defaultLocal_notMem_introduced :
    defaultLocal ∉ (introduced memo source read).map Prod.fst := by
  intro member
  obtain ⟨v, declared, same⟩ := List.mem_map.mp member
  obtain ⟨b, -, known⟩ := List.mem_filterMap.mp declared
  exact inlinedLocal_ne_defaultLocal b.name ((name_of_introduced? known).symm.trans same)

end

/-! ## What is introduced into a chunk -/

/-- Whatever else is asked of the ledger and whatever the compiler makes of the chunk: the edits of
an accepted chunk hold one declaration of the constant for a default export at most, and the
variables that are declared in a compiled chunk which is restored are all different, from each other
and from that constant. None of these names is one that can be read in the text it is declared in,
as long as the text does not have it and writes no name with an escape. -/
theorem introduced_names (start between : List Ledger.Call) (session : Session) (chunk : Chunk)
    (code text : String)
    (accepted : (ChunkPass.prepareChunk (Ledger.after {} start) .esm chunk code).result = .ok text) :
    let prepared := ChunkPass.prepareChunk (Ledger.after {} start) .esm chunk code
    let ledger := prepared.ledger.after between
    ∃ outline memo,
      let imports := Imports.ofUnit ⟨chunk, code, outline⟩
      let bridgeOf := bridgeOf prepared.ledger
      let edits := Imports.edits outline ++ outline.items.flatMap (itemEdits bridgeOf)
      Outline.ofSource (Strict.chunkDialect .esm) code = .ok outline ∧
      prepared.passes = [.strict, .imports imports, .exports memo, .hashbang] ∧
      text = Revision.apply ⟨edits, trailer bridgeOf outline⟩ code ∧
      (edits.map Edit.text).count constant ≤ 1 ∧
      (Mentions code.toList defaultLocal →
        defaultLocal.toList <:+: code.toList ∨ escapeMark <:+: code.toList) ∧
      ∀ compiled restored,
        ChunkPass.restoreChunk { session with ledger } .esm chunk prepared.passes compiled =
          .ok restored →
        outline.localExports ≠ [] →
        ∃ stripped read specifiers,
          let source := imports.restore stripped
          let edits := read.items.filterMap (declaring? memo source.toList)
          let names := (introduced memo source.toList read).map Prod.fst
          Strict.restore .esm compiled = .ok stripped ∧
          Outline.ofSource {} source = .ok read ∧
          restored = Hashbang.restore session.store chunk
            (Revision.apply ⟨edits, (clause specifiers).toList⟩ source) ∧
          edits.flatMap Edit.text = (introduced memo source.toList read).flatMap declarationOf ∧
          names.Nodup ∧ defaultLocal ∉ names ∧
          ∀ name ∈ names, Mentions source.toList name →
            name.toList <:+: source.toList ∨ escapeMark <:+: source.toList := by
  obtain ⟨outline, memo, after, revision, outlined, prepared, same⟩ :=
    ChunkPass.prepareChunk_esm accepted
  rw [same] at accepted
  rw [same]
  refine ⟨outline, memo, outlined, rfl, ?_, count_constant_le_one outlined _,
    isInfix_of_mentions, fun compiled restored h some => ?_⟩
  · rw [← Except.ok.inj accepted, revision_prepare prepared (agrees_bridgeOf after)]
  · obtain ⟨stripped, repaired, strict, repair, rfl⟩ := ChunkPass.restoreChunk_esm_ok h
    have meets := meets_clause prepared between chunk.fileName
      ((Imports.ofUnit ⟨chunk, code, outline⟩).restore stripped)
    rw [repair] at meets
    obtain ⟨read, found, readable, search, told, nodup, -⟩ := meets.2 some
    obtain ⟨specifiers, edits⟩ := grows_find search
    exact ⟨stripped, read, found.specifiers, strict, readable, by rw [told, edits],
      flatMap_text_declaring, nodup_introduced (nodup_assigned specifiers nodup),
      defaultLocal_notMem_introduced, fun name _ => isInfix_of_mentions⟩

/-- A class is given a name, and both of the values that the compiler put where names were are: none
of the three names can be read in the text that it is declared in. -/
theorem introduced_names_of_two_values :
    let code := "export const f = 1;\nexport default class \x7b\x7d"
    let text := "const f = 1;\nconst __closure_default_export__ = class \x7b\x7d;" ++
      "\nwindow[\"a\"] = f;\nwindow[\"b\"] = __closure_default_export__;"
    let compiled := "window.b=class\x7b\x7d;window.a=1;"
    let vars := [("__closure_export_b", "class\x7b\x7d".toList), ("__closure_export_a", ['1'])]
    let prepared := ChunkPass.prepareChunk (Ledger.after {} []) .esm {} code
    prepared.result = .ok text ∧
    ChunkPass.restoreChunk { ledger := prepared.ledger.after [] } .esm {} prepared.passes compiled =
      .ok ("var __closure_export_b = class\x7b\x7d;var __closure_export_a = 1;\n" ++
        "export \x7b __closure_export_b as default, __closure_export_a as f \x7d;") ∧
    ¬Mentions code.toList defaultLocal ∧
    ∃ read, introduced ⟨["a", "b"], []⟩ compiled.toList read = vars ∧
      (vars.map Prod.fst).Nodup ∧ ∀ name ∈ vars.map Prod.fst, ¬Mentions compiled.toList name := by
  intro code text compiled vars prepared
  have accepted : prepared.result = .ok text := eq_ok_of_toOption (by decide +kernel)
  have result : ChunkPass.restoreChunk { ledger := prepared.ledger.after [] } .esm {}
      prepared.passes compiled =
        .ok ("var __closure_export_b = class\x7b\x7d;var __closure_export_a = 1;\n" ++
          "export \x7b __closure_export_b as default, __closure_export_a as f \x7d;") :=
    eq_ok_of_toOption (by decide +kernel)
  obtain ⟨outline, memo, outlined, passes, -, -, absent, restores⟩ :=
    introduced_names [] [] {} {} _ _ accepted
  have exports : outline.localExports = ["f", "default"] :=
    eq_of_toOption_map outlined (by decide +kernel)
  have known : prepared.passes = [.strict, .imports {}, .exports ⟨["a", "b"], []⟩, .hashbang] := by
    decide +kernel
  obtain ⟨taken, rfl⟩ := ChunkPass.passes_inj (passes.symm.trans known)
  obtain ⟨stripped, read, specifiers, strict, readable, -, -, nodup, -, fresh⟩ :=
    restores _ _ result (by simp [exports])
  have untouched : stripped = compiled :=
    Except.ok.inj (strict.symm.trans (eq_ok_of_toOption (by decide +kernel)))
  rw [taken, untouched] at readable nodup fresh
  change Outline.ofSource {} compiled = .ok read at readable
  have known : introduced ⟨["a", "b"], []⟩ compiled.toList read = vars :=
    eq_of_toOption_map readable (by decide +kernel)
  have names : (introduced ⟨["a", "b"], []⟩ compiled.toList read).map Prod.fst = vars.map Prod.fst :=
    congrArg (List.map Prod.fst) known
  refine ⟨accepted, result, fun read => ?_, read, known, names ▸ nodup, fun name member read => ?_⟩
  · exact absurd (absent read) (by decide +kernel)
  · have missing : ∀ name ∈ vars.map Prod.fst,
        ¬(name.toList <:+: compiled.toList ∨ escapeMark <:+: compiled.toList) := by
      decide +kernel
    exact missing name member (fresh name (names ▸ member) read)

/-- A chunk that has the names itself gets each of them once more: what was brought in by an earlier
run is not told from what is brought in now. -/
theorem introduced_names_are_taken :
    let first := "export const __closure_default_export__ = 1;\nexport default class \x7b\x7d"
    let second := "var __closure_export_a = 1;\nexport default __closure_export_a + 1;"
    let text := "var __closure_export_a = 1;\nwindow[\"a\"] = __closure_export_a + 1;"
    let prepared := ChunkPass.prepareChunk {} .esm {} second
    (Outline.ofSource (Strict.chunkDialect .esm) first).toOption.map
      (fun outline => outline.items.map Item.kind) =
        some [.exportDeclaration ⟨7, 44⟩ [defaultLocal], .exportDefaultDeclaration ⟨60, 68⟩ none] ∧
    (ChunkPass.prepareChunk {} .esm {} first).result =
      .ok ("const __closure_default_export__ = 1;\nconst __closure_default_export__ = class " ++
        "\x7b\x7d;\nwindow[\"a\"] = __closure_default_export__;\n" ++
        "window[\"b\"] = __closure_default_export__;") ∧
    prepared.result = .ok text ∧
    ChunkPass.restoreChunk { ledger := prepared.ledger } .esm {} prepared.passes text =
      .ok ("var __closure_export_a = 1;\nvar __closure_export_a = __closure_export_a + 1;\n" ++
        "export \x7b __closure_export_a as default \x7d;") :=
  ⟨by decide +kernel, eq_ok_of_toOption (by decide +kernel), eq_ok_of_toOption (by decide +kernel),
    eq_ok_of_toOption (by decide +kernel)⟩

end ChunkBridge.Exports
