import ChunkBridge.Proofs.Exports.Clause

/-!
# The local names of an export clause

A value that is assigned to a bridge gets a declaration in the place of its assignment. A plain name
gets none: it goes into the clause as it stands, on the trust that the chunk declares it. That is not
so for a plain name that is a value of its own, which a default export may be.
-/

namespace ChunkBridge.Exports
open ChunkBridge.Text ChunkBridge.Script

/-! ## The clause of a chunk -/

section
variable {memo : Exports} {ledger : Ledger} {read : Outline} {specifiers : List Specifier}

theorem exists_declaring (source : List Char) {b : Bridge} (within : b ∈ assigned memo read) :
    ∃ item ∈ read.items, ∃ front back, declaring? memo source item =
      some ⟨item.span, front ++ declaration source b ++ back⟩ := by
  obtain ⟨item, stands, own⟩ := List.mem_flatMap.mp within
  cases known : ownBridges? memo item.kind with
  | none => simp [known] at own
  | some bs =>
    rw [known, Option.getD_some] at own
    obtain ⟨before, after, rfl⟩ := List.append_of_mem own
    refine ⟨item, stands, before.flatMap (declaration source), after.flatMap (declaration source),
      ?_⟩
    rw [declaring?, known, Option.map_some, List.flatMap_append, List.flatMap_cons,
      List.append_assoc]

/-- A name in the clause is a plain name that was assigned, or one of the statements that give way
declares it. -/
theorem local_cases {source : List Char}
    (told : specifiers.map some = (assigned memo read).map (specifier? ledger))
    {entry : Specifier} (member : entry ∈ specifiers) :
    (∃ b ∈ assigned memo read, b.localName = some entry.localName) ∨
      (∃ e ∈ read.items.filterMap (declaring? memo source), ∃ value,
        ("var " ++ entry.localName ++ " = ").toList ++ value ++ [';'] <:+: e.text) := by
  obtain ⟨b, within, named, -⟩ := exists_assigned told member
  rw [named]
  rcases localOf_cases source b with plain | ⟨value, declared⟩
  · exact .inl ⟨b, within, plain⟩
  · obtain ⟨item, stands, front, back, known⟩ := exists_declaring source within
    refine .inr ⟨_, List.mem_filterMap.mpr ⟨item, stands, known⟩, value, ?_⟩
    rw [← declared]
    exact ⟨front, back, rfl⟩

/-- Where the plain names that are assigned for other exports are bound and none is assigned for the
default export, each name in the clause is bound or declared. -/
theorem bound_of_local {source : List Char}
    (told : specifiers.map some = (assigned memo read).map (specifier? ledger))
    {bound : String → Prop}
    (others : ∀ b ∈ assigned memo read, ledger.asked? b.name exportsScope ≠ some defaultName →
      ∀ name, b.localName = some name → bound name)
    (default : ∀ b ∈ assigned memo read, ledger.asked? b.name exportsScope = some defaultName →
      b.localName = none)
    {entry : Specifier} (member : entry ∈ specifiers) :
    bound entry.localName ∨
      ∃ e ∈ read.items.filterMap (declaring? memo source), ∃ value,
        ("var " ++ entry.localName ++ " = ").toList ++ value ++ [';'] <:+: e.text := by
  refine (local_cases told member).imp_left ?_
  rintro ⟨b, within, plain⟩
  refine others b within (fun isDefault => ?_) entry.localName plain
  rw [default b within isDefault] at plain
  cases plain

end

/-- The entries of the clause are those of the assignments to bridges of the chunk, whatever the
compiler makes of it, and the statements with these assignments give way to declarations. So a name
in the clause is declared there, or it is a plain name that the compiled chunk assigns to a bridge:
such a name is not asked whether anything declares it. If what is assigned for the other exports are
bindings and the default export is no plain name, every name in the clause is one or is declared. -/
theorem local_names_of_clause {ledger : Ledger} {chunk : Chunk} {code text : String}
    (accepted : (ChunkPass.prepareChunk ledger .esm chunk code).result = .ok text) :
    ∃ outline memo,
      let passes := (ChunkPass.prepareChunk ledger .esm chunk code).passes
      let imports := Imports.ofUnit ⟨chunk, code, outline⟩
      Outline.ofSource (Strict.chunkDialect .esm) code = .ok outline ∧
      passes = [.strict, .imports imports, .exports memo, .hashbang] ∧
      ∀ (session : Session) (compiled restored : String),
        ChunkPass.restoreChunk session .esm chunk passes compiled = .ok restored →
        outline.localExports ≠ [] →
        ∃ stripped read specifiers,
          let source := imports.restore stripped
          let edits := read.items.filterMap (declaring? memo source.toList)
          Strict.restore .esm compiled = .ok stripped ∧
          Outline.ofSource {} source = .ok read ∧
          restored = Hashbang.restore session.store chunk
            (Revision.apply ⟨edits, (clause specifiers).toList⟩ source) ∧
          specifiers.map some = (assigned memo read).map (specifier? session.ledger) ∧
          (∀ entry ∈ specifiers,
            (∃ b ∈ assigned memo read, b.localName = some entry.localName) ∨
            (∃ e ∈ edits, ∃ value,
              ("var " ++ entry.localName ++ " = ").toList ++ value ++ [';'] <:+: e.text)) ∧
          ∀ bound : String → Prop,
            (∀ b ∈ assigned memo read,
              session.ledger.asked? b.name exportsScope ≠ some defaultName →
                ∀ name, b.localName = some name → bound name) →
            (∀ b ∈ assigned memo read,
              session.ledger.asked? b.name exportsScope = some defaultName →
                b.localName = none) →
            ∀ entry ∈ specifiers, bound entry.localName ∨
              (∃ e ∈ edits, ∃ value,
                ("var " ++ entry.localName ++ " = ").toList ++ value ++ [';'] <:+: e.text) := by
  obtain ⟨outline, memo, after, revision, outlined, prepared, same⟩ :=
    ChunkPass.prepareChunk_esm accepted
  rw [same]
  refine ⟨outline, memo, outlined, rfl, fun session compiled restored h some => ?_⟩
  obtain ⟨stripped, repaired, strict, repair, rfl⟩ := ChunkPass.restoreChunk_esm_ok h
  obtain ⟨read, found, readable, search, rfl⟩ :=
    restore_ok repair (mt (bridges_eq_nil_iff prepared).mp some)
  obtain ⟨specifiers, edits⟩ := grows_find search
  exact ⟨stripped, read, found.specifiers, strict, readable, by rw [edits], specifiers,
    fun entry member => local_cases specifiers member,
    fun bound others default entry member => bound_of_local specifiers others default member⟩

/-- Left as it is, a chunk gets back a name that it declares and a value that is declared for it. -/
theorem local_names_of_two_exports :
    let code := "export const f = 1;\nexport default f + 1;"
    let text := "const f = 1;\nwindow[\"b\"] = f + 1;\nwindow[\"a\"] = f;"
    let prepared := ChunkPass.prepareChunk {} .esm {} code
    prepared.result = .ok text ∧
    ∃ edits specifiers,
      ChunkPass.restoreChunk { ledger := prepared.ledger } .esm {} prepared.passes text =
        .ok (Revision.apply ⟨edits, (clause specifiers).toList⟩ text) ∧
      specifiers = [⟨"__closure_export_b", "default"⟩, ⟨"f", "f"⟩] ∧
      ∀ entry ∈ specifiers, entry.localName = "f" ∨
        ∃ e ∈ edits, ∃ value,
          ("var " ++ entry.localName ++ " = ").toList ++ value ++ [';'] <:+: e.text := by
  intro code text prepared
  have accepted : prepared.result = .ok text := eq_ok_of_toOption (by decide +kernel)
  obtain ⟨outline, memo, outlined, passes, restores⟩ := local_names_of_clause accepted
  have exports : outline.localExports = ["f", "default"] :=
    eq_of_toOption_map outlined (by decide +kernel)
  have result : ChunkPass.restoreChunk { ledger := prepared.ledger } .esm {} prepared.passes text =
      .ok "const f = 1;\nvar __closure_export_b = f + 1;\n\nexport \x7b __closure_export_b as default, f \x7d;" :=
    eq_ok_of_toOption (by decide +kernel)
  -- What was taken out and the bridges of the chunk, to be read off its passes.
  have known : prepared.passes = [.strict, .imports {}, .exports ⟨["a", "b"], []⟩, .hashbang] := by
    decide +kernel
  obtain ⟨nothing, rfl⟩ := ChunkPass.passes_inj (passes.symm.trans known)
  obtain ⟨stripped, read, specifiers, strict, readable, told, entries, -, settled⟩ :=
    restores _ _ _ result (by simp [exports])
  have untouched : stripped = text :=
    Except.ok.inj (strict.symm.trans (eq_ok_of_toOption (by decide +kernel)))
  rw [nothing, untouched, Imports.restore_empty] at readable told settled
  rw [Hashbang.restore_of_no_facade _ rfl] at told
  have found : (Outline.ofSource {} text).toOption.map
      (fun read => (assigned ⟨["a", "b"], []⟩ read).map fun b =>
        (specifier? prepared.ledger b, b.localName)) =
          some [(some ⟨"__closure_export_b", "default"⟩, none), (some ⟨"f", "f"⟩, some "f")] := by
    decide +kernel
  rw [readable] at found
  simp only [Except.toOption, Option.map_some, Option.some.injEq] at found
  have listed : specifiers = [⟨"__closure_export_b", "default"⟩, ⟨"f", "f"⟩] := by
    have pairs := congrArg (List.map Prod.fst) found
    simp only [List.map_map, Function.comp_def, List.map_cons, List.map_nil] at pairs
    dsimp only at entries
    rw [pairs] at entries
    exact List.map_injective_iff.mpr (fun _ _ => Option.some.inj) entries
  have either : ∀ b ∈ assigned ⟨["a", "b"], []⟩ read,
      b.localName = none ∨ b.localName = some "f" ∧
        prepared.ledger.asked? b.name exportsScope = some "f" := by
    intro b member
    have among := List.mem_map_of_mem (f := fun b => (specifier? prepared.ledger b, b.localName)) member
    rw [found] at among
    rcases List.mem_pair.mp among with first | second
    · exact .inl (Prod.ext_iff.mp first).2
    · obtain ⟨entry, plain⟩ := Prod.ext_iff.mp second
      obtain ⟨exported, asked, same⟩ := Option.map_eq_some_iff.mp entry
      exact .inr ⟨plain, asked.trans (congrArg (some ∘ Specifier.exported) same)⟩
  have others : ∀ b ∈ assigned ⟨["a", "b"], []⟩ read,
      prepared.ledger.asked? b.name exportsScope ≠ some defaultName →
        ∀ name, b.localName = some name → name = "f" := by
    intro b member _ name isName
    rcases either b member with value | ⟨plain, -⟩
    · cases value.symm.trans isName
    · exact (Option.some.inj (plain.symm.trans isName)).symm
  have default : ∀ b ∈ assigned ⟨["a", "b"], []⟩ read,
      prepared.ledger.asked? b.name exportsScope = some defaultName → b.localName = none := by
    intro b member isDefault
    refine (either b member).resolve_right fun ⟨_, asked⟩ => ?_
    exact absurd (Option.some.inj (isDefault.symm.trans asked)) (by decide)
  exact ⟨accepted, _, specifiers, result.trans (congrArg Except.ok told), listed,
    settled (· = "f") others default⟩

/-- A plain name that is a value of its own goes into the clause, and nothing declares it: the clause
is all that there is. -/
theorem undeclared_name_in_clause :
    let code := "export default undefined;"
    let text := "window[\"a\"] = undefined;"
    let prepared := ChunkPass.prepareChunk {} .esm {} code
    let restored := "\nexport \x7b undefined as default \x7d;"
    (Outline.ofSource (Strict.chunkDialect .esm) code).toOption.map
      (fun outline => outline.items.map Item.kind) = some [.exportDefaultExpression ⟨15, 24⟩] ∧
    prepared.result = .ok text ∧
    ChunkPass.restoreChunk { ledger := prepared.ledger } .esm {} prepared.passes text =
      .ok restored ∧
    (Outline.ofSource (Strict.chunkDialect .esm) restored).toOption.map
      (fun outline => outline.items.map Item.kind) = some [.exportNames [("undefined", "default")]] :=
  ⟨by decide +kernel, eq_ok_of_toOption (by decide +kernel),
    eq_ok_of_toOption (by decide +kernel), by decide +kernel⟩

end ChunkBridge.Exports
