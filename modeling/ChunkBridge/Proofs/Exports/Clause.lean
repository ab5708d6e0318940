import ChunkBridge.Proofs.Exports.Found
import ChunkBridge.Proofs.Exports.ReadBack
import ChunkBridge.Proofs.Exports.Restoration

/-!
# The export clause of a chunk

From the statements of a chunk to the clause of its compiled text: the names travel through the
ledger, and what the compiler and other chunks do in between does not touch them. The clause stands
at the end of the text, and read on its own it is an export of these names.
-/

namespace ChunkBridge
open ChunkBridge.Text ChunkBridge.Script

/-- In a ledger that was made by calls, what was issued and what it stands for say the same. -/
theorem Ledger.issued?_iff_asked? (calls : List Call) (name b scope : String) :
    (Ledger.after {} calls).issued? name scope = some b ↔
      (Ledger.after {} calls).asked? b scope = some name := by
  have records := records_after calls
  rw [records.issued?_iff, records.asked?_iff]

/-- A revised text ends with what was put behind everything. -/
theorem isSuffix_apply (r : Revision) (source : String) :
    r.trailer <:+ (r.apply source).toList := by
  rw [Revision.apply, Buffer.text, String.toList_ofList, Buffer.revise, Buffer.chars_append]
  exact List.suffix_append _ _

/-- Where nothing was taken out, nothing is put back. -/
theorem Imports.restore_empty (code : String) : ({} : Imports).restore code = code := rfl

/-- A chunk that no module is the entry of gets no line. -/
theorem Hashbang.restore_of_no_facade (store : Store) {chunk : Chunk} (none : chunk.facade = none)
    (code : String) : Hashbang.restore store chunk code = code := by
  rw [Hashbang.restore, line?, none]
  rfl

/-- A line on top of a text leaves its end. -/
theorem Hashbang.isSuffix_restore (store : Store) (chunk : Chunk) {code : String}
    {ending : List Char} (ends : ending <:+ code.toList) :
    ending <:+ (Hashbang.restore store chunk code).toList := by
  unfold Hashbang.restore
  split
  next => exact ends
  next =>
    split
    · exact ends
    · rw [String.toList_append]
      exact ends.trans (List.suffix_append _ _)

namespace Exports

section
variable {start : List Ledger.Call} {unit : ChunkUnit} {memo : Exports} {after : Ledger}
variable {revision : Revision}
variable (h : prepare unit (Ledger.after {} start) = (memo, after, .ok revision))
variable (between : List Ledger.Call)
include h

/-- A ledger stays one that was made by calls. -/
theorem ledger_between : ∃ calls, after.after between = Ledger.after {} calls := by
  refine ⟨start ++ (reservations unit.outline ++ requests unit.outline.localExports) ++ between, ?_⟩
  rw [Ledger.after_append, Ledger.after_append, ← ledger_prepare h]

/-- Later calls leave what stands for an export of the chunk and what it is. -/
theorem asked?_between (b name : String) :
    b ∈ memo.bridges ∧ (after.after between).asked? b exportsScope = some name ↔
      name ∈ unit.outline.localExports ∧
        (after.after between).issued? name exportsScope = some b := by
  obtain ⟨calls, made⟩ := ledger_between h between
  have inverse (n : String) : (after.after between).issued? n exportsScope = some b ↔
      (after.after between).asked? b exportsScope = some n := by
    rw [made]
    exact Ledger.issued?_iff_asked? calls n b exportsScope
  rw [mem_bridges_prepare h, ← inverse]
  constructor
  · rintro ⟨⟨other, member, known⟩, there⟩
    have same := (inverse other).mp (Ledger.issued?_after known between)
    rw [(inverse name).mp there] at same
    cases same
    exact ⟨member, there⟩
  · rintro ⟨member, there⟩
    obtain ⟨c, known⟩ := issued_prepare h member
    have same := Ledger.issued?_after known between
    rw [there] at same
    cases same
    exact ⟨⟨name, member, known⟩, there⟩

/-- The bridges of a chunk stay issued. -/
theorem issued_between : Issued memo (after.after between) := by
  intro b own
  obtain ⟨calls, made⟩ := ledger_between h between
  obtain ⟨name, -, known⟩ := (mem_bridges_prepare h b).mp own
  refine ⟨name, ?_⟩
  have there := Ledger.issued?_after known between
  rw [made] at there ⊢
  exact (Ledger.issued?_iff_asked? calls name b exportsScope).mp there

/-- The bridges that were found stand for the exports of the chunk, if all of them were found. -/
theorem mem_exported_iff {found : Found} (tracks : Tracks memo (after.after between) found)
    (complete : ∀ b ∈ memo.bridges, b ∈ found.bridges) (name : String) :
    name ∈ found.specifiers.map Specifier.exported ↔ name ∈ unit.outline.localExports := by
  rw [tracks.mem_exported_iff]
  constructor
  · rintro ⟨b, member, known⟩
    exact ((asked?_between h between b name).mp ⟨tracks.own b member, known⟩).1
  · intro member
    obtain ⟨b, known⟩ := issued_prepare h member
    have there := Ledger.issued?_after known between
    obtain ⟨own, back⟩ := (asked?_between h between b name).mpr ⟨member, there⟩
    exact ⟨b, complete b own, back⟩

/-- A restored chunk has its exports in a clause, each once, and no clause if it has none. -/
theorem meets_clause (file code : String) :
    Meets IsKnown (fun text =>
        (unit.outline.localExports = [] → text = code) ∧
        (unit.outline.localExports ≠ [] → ∃ outline found,
          Outline.ofSource {} code = .ok outline ∧
          find memo (after.after between) file code outline = .ok found ∧
          text = Revision.apply ⟨found.edits, (clause found.specifiers).toList⟩ code ∧
          (found.specifiers.map Specifier.exported).Nodup ∧
          ∀ name, name ∈ found.specifiers.map Specifier.exported ↔
            name ∈ unit.outline.localExports))
      (restore memo (after.after between) file code) := by
  have issued := issued_between h between
  have meets := meets_restore file issued code
  cases result : restore memo (after.after between) file code with
  | error fault =>
    rw [result] at meets
    exact meets
  | ok text =>
    rw [result] at meets
    obtain ⟨without, within⟩ := meets
    have none_iff := bridges_eq_nil_iff h
    refine ⟨fun none => without (none_iff.mpr none), fun some => ?_⟩
    obtain ⟨outline, found, outlined, search, tracks, complete, told⟩ :=
      within (mt none_iff.mp some)
    obtain ⟨calls, made⟩ := ledger_between h between
    refine ⟨outline, found, outlined, search, told, ?_, mem_exported_iff h between tracks complete⟩
    refine tracks.nodup_exported issued fun name b => ?_
    rw [made]
    exact Ledger.issued?_iff_asked? calls name b exportsScope

end

/-- Taking out directives knows no bridges. -/
theorem strict_ne_unissued (format : OutputFormat) (code b : String) :
    Strict.restore format code ≠ .error (.unissuedBridge b) := by
  intro h
  unfold Strict.restore at h
  split at h
  · cases h
  · split at h <;> cases h

/-- Whatever else is asked of the ledger in between and whatever the compiler makes of the chunk:
a compiled chunk that is restored ends with a clause that names what the chunk exports of its own,
each name once, and it gets no clause if that is nothing. The text of the clause is read as an export
of just these names, under the local names that were found. And no bridge is ever unknown. -/
theorem clause_exports_iff (start between : List Ledger.Call) (session : Session) (chunk : Chunk)
    (code text : String)
    (accepted : (ChunkPass.prepareChunk (Ledger.after {} start) .esm chunk code).result = .ok text) :
    ∃ outline memo,
      let prepared := ChunkPass.prepareChunk (Ledger.after {} start) .esm chunk code
      let imports := Imports.ofUnit ⟨chunk, code, outline⟩
      let ledger := prepared.ledger.after between
      Outline.ofSource (Strict.chunkDialect .esm) code = .ok outline ∧
      prepared.passes = [.strict, .imports imports, .exports memo, .hashbang] ∧
      ∀ compiled,
        let result :=
          ChunkPass.restoreChunk { session with ledger } .esm chunk prepared.passes compiled
        (∀ pass b, result ≠ .error ⟨pass, .unissuedBridge b⟩) ∧
        ∀ restored, result = .ok restored →
          ∃ stripped, Strict.restore .esm compiled = .ok stripped ∧
            (outline.localExports = [] →
              restored = Hashbang.restore session.store chunk (imports.restore stripped)) ∧
            (outline.localExports ≠ [] →
              ∃ compiledOutline found,
                let text := (clause found.specifiers).toList
                let pairs := found.specifiers.map fun s => (s.localName, s.exported)
                Outline.ofSource {} (imports.restore stripped) = .ok compiledOutline ∧
                find memo ledger chunk.fileName (imports.restore stripped) compiledOutline =
                  .ok found ∧
                restored = Hashbang.restore session.store chunk
                  (Revision.apply ⟨found.edits, text⟩ (imports.restore stripped)) ∧
                text <:+ restored.toList ∧
                (∀ dialect : Dialect, dialect.isTyped = false → ∃ span last,
                  (program text).run (.initial text (.top dialect text) 0) =
                    some ([⟨span, .exportNames pairs⟩], last) ∧
                  last.isFaulty = pairs.any Grammar.isFaultyPair ∧
                  (last.isFaulty = false →
                    Outline.ofSource dialect (clause found.specifiers) =
                      .ok { items := [⟨span, .exportNames pairs⟩] })) ∧
                (found.specifiers.map Specifier.exported).Nodup ∧
                ∀ name, name ∈ found.specifiers.map Specifier.exported ↔
                  name ∈ outline.localExports) := by
  obtain ⟨outline, memo, after, revision, outlined, prepared, same⟩ :=
    ChunkPass.prepareChunk_esm accepted
  rw [same]
  refine ⟨outline, memo, outlined, rfl, fun compiled => ⟨?_, ?_⟩⟩
  · intro pass b failed
    rcases ChunkPass.restoreChunk_esm_error failed with strict | ⟨stripped, -, repair⟩
    · exact strict_ne_unissued .esm compiled b strict
    · have meets := meets_clause prepared between chunk.fileName
        ((Imports.ofUnit ⟨chunk, code, outline⟩).restore stripped)
      rw [repair] at meets
      exact meets b rfl
  · intro restored result
    obtain ⟨stripped, repaired, strict, repair, rfl⟩ := ChunkPass.restoreChunk_esm_ok result
    have meets := meets_clause prepared between chunk.fileName
      ((Imports.ofUnit ⟨chunk, code, outline⟩).restore stripped)
    rw [repair] at meets
    obtain ⟨without, within⟩ := meets
    refine ⟨stripped, strict, fun empty => ?_, fun nonempty => ?_⟩
    · rw [without empty]
    · obtain ⟨compiledOutline, found, outlined, search, told, nodup, names⟩ := within nonempty
      obtain ⟨calls, made⟩ := ledger_between prepared between
      have entries := (grows_find search).1
      rw [made] at entries
      have identifiers : ∀ s ∈ found.specifiers, isIdentifierName s.localName.toList = true :=
        fun s member => isIdentifierName_of_entry outlined entries member
      have ends := Hashbang.isSuffix_restore session.store chunk (isSuffix_apply
        ⟨found.edits, (clause found.specifiers).toList⟩
        ((Imports.ofUnit ⟨chunk, code, outline⟩).restore stripped))
      refine ⟨compiledOutline, found, outlined, search, by rw [told], told ▸ ends,
        fun dialect plain => ?_, nodup, names⟩
      obtain ⟨span, last, run, faults, alone⟩ := read_clause plain identifiers
      exact ⟨span, last, run, faults, fun clear => alone clear nodup⟩

/-- The compiler may put values where names were and reorder the assignments. -/
theorem clause_of_two_exports :
    let prepared := ChunkPass.prepareChunk (Ledger.after {} []) .esm {}
      "export const f = 1;\nexport default f + 1;"
    let ledger := prepared.ledger.after [.resolve "g" exportsScope]
    let compiled := "var c=1;window.b=2;window.a=c;"
    let text := "\nexport \x7b __closure_export_b as default, c as f \x7d;"
    let restored := "var c=1;var __closure_export_b = 2;" ++ text
    let pairs := [("__closure_export_b", "default"), ("c", "f")]
    prepared.result = .ok "const f = 1;\nwindow[\"b\"] = f + 1;\nwindow[\"a\"] = f;" ∧
    ChunkPass.restoreChunk { ledger } .esm {} prepared.passes compiled = .ok restored ∧
    (∃ span, Outline.ofSource {} text = .ok { items := [⟨span, .exportNames pairs⟩] }) ∧
    ∃ found : Found,
      clause found.specifiers = text ∧
      restored = Revision.apply ⟨found.edits, text.toList⟩ compiled ∧
      found.specifiers.map (fun s => (s.localName, s.exported)) = pairs ∧
      (found.specifiers.map Specifier.exported).Nodup ∧
      ∀ name, name ∈ found.specifiers.map Specifier.exported ↔ name = "f" ∨ name = "default" := by
  intro prepared ledger compiled text restored pairs
  have accepted : prepared.result =
      .ok "const f = 1;\nwindow[\"b\"] = f + 1;\nwindow[\"a\"] = f;" :=
    eq_ok_of_toOption (by decide +kernel)
  have result : ChunkPass.restoreChunk { ledger } .esm {} prepared.passes compiled =
      .ok restored := eq_ok_of_toOption (by decide +kernel)
  obtain ⟨outline, memo, outlined, passes, restores⟩ :=
    clause_exports_iff [] [.resolve "g" exportsScope] {} {} _ _ accepted
  have exports : outline.localExports = ["f", "default"] :=
    eq_of_toOption_map outlined (by decide +kernel)
  -- What was taken out and the bridges of the chunk, to be read off its passes.
  have known : prepared.passes = [.strict, .imports {}, .exports ⟨["a", "b"], []⟩, .hashbang] := by
    decide +kernel
  obtain ⟨nothing, rfl⟩ := ChunkPass.passes_inj (passes.symm.trans known)
  obtain ⟨stripped, strict, -, within⟩ := (restores _).2 _ result
  have untouched : stripped = compiled :=
    Except.ok.inj (strict.symm.trans (eq_ok_of_toOption (by decide +kernel)))
  obtain ⟨read, found, readable, search, told, -, reads, nodup, names⟩ :=
    within (by simp [exports])
  rw [nothing, untouched] at readable search told
  have entries : ((Outline.ofSource {} compiled).toOption.bind fun read =>
      (find ⟨["a", "b"], []⟩ ledger "" compiled read).toOption.map Found.specifiers) =
        some [⟨"__closure_export_b", "default"⟩, ⟨"c", "f"⟩] := by decide +kernel
  rw [Imports.restore_empty] at readable search told
  rw [Hashbang.restore_of_no_facade _ rfl] at told
  rw [readable] at entries
  have listed : found.specifiers = [⟨"__closure_export_b", "default"⟩, ⟨"c", "f"⟩] := by
    have there := (congrArg (fun r => r.toOption.map Found.specifiers) search).symm.trans entries
    exact Option.some.inj there
  have written : clause found.specifiers = text := by
    rw [listed]
    decide +kernel
  have paired : found.specifiers.map (fun s => (s.localName, s.exported)) = pairs := listed ▸ rfl
  refine ⟨accepted, result, ?_, found, written, written ▸ told, paired, nodup, fun name => ?_⟩
  · obtain ⟨span, last, -, faults, alone⟩ := reads {} rfl
    have clear : last.isFaulty = false := by
      rw [faults, paired]
      decide +kernel
    have whole := alone clear
    rw [paired, written] at whole
    exact ⟨span, whole⟩
  · rw [names, exports]
    simp

end Exports
end ChunkBridge
