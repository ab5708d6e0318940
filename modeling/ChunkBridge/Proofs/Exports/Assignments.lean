import ChunkBridge.Proofs.Chunk.Ranges
import ChunkBridge.Proofs.Exports.DefaultExport

/-!
# Assignments to bridges

No bridge of a chunk is a property that a statement of the chunk assigns on its own: such a name is
refused before it becomes a bridge. So the statements of a compiled chunk that assign nothing but
bridges were made for the exports. They are noted one by one (`Notes`), which fails exactly if a
bridge comes twice, and the search for them fails if one is missing as well. Every one of them has a
text and ends before the next one begins, so what comes out is the compiled chunk read from left to
right, with declarations in their places.
-/

namespace ChunkBridge
open ChunkBridge.Text ChunkBridge.Script

namespace Script
variable {source : List Char} {item : Item} {st : Statement} {bs : List Bridge}

/-- A statement that assigns bridges can be edited: it begins with a name. -/
theorem Item.IsOf.isRange_of_bridges (of : item.IsOf st) (placed : st.IsPlaced source)
    (kind : item.kind = .bridges bs) : Buffer.isRange source item.span = true := by
  obtain ⟨e, form, assigns⟩ := Statement.form_of_bridges (kind ▸ of.2)
  rw [of.1]
  exact Buffer.isRange_iff.mpr ⟨placed.form.named e form (Expr.isNamed_of_bridges? assigns),
    placed.startCut, placed.stopCut⟩

end Script

namespace Exports

/-! ## Bridges and what the chunk assigns on its own -/

/-- No bridge is a property that the chunk assigns on its own. -/
def Work.IsApart (work : Work) : Prop := ∀ b ∈ work.memo.bridges, b ∉ work.memo.globals

/-- Whether the step has a result or not, bridges stay apart from the properties of the chunk. -/
def KeepsApart {α : Type} (step : Step α) : Prop :=
  ∀ work : Work, work.IsApart → (step.run work).2.IsApart

theorem keepsApart_bridge (exported : String) : KeepsApart (bridge exported) := by
  intro work apart
  rw [run_bridge]
  dsimp only
  split
  next => exact apart
  next untaken =>
    intro b own
    rcases (mem_insertNew _ _ _).mp own with old | rfl
    · exact apart b old
    · simpa using untaken

theorem composes_keepsApart : Composes KeepsApart fun _ => True where
  pure _ _ apart := apart
  throw _ _ apart := apart
  bind first next work apart := by
    rw [run_bind]
    have kept := first work apart
    split
    next a middle result =>
      rw [result] at kept
      exact next a middle kept
    next fault middle result =>
      rw [result] at kept
      exact kept
  bridge exported _ := keepsApart_bridge exported
  plan source e work apart := by
    rw [run_plan]
    split
    · exact apart
    · exact apart
  line _ _ apart := apart
  revision _ apart := apart

/-- A bridge of an accepted chunk is no property that a statement of the chunk assigns. -/
theorem notMem_globalsOf {unit : ChunkUnit} {before after : Ledger} {memo : Exports}
    {revision : Revision} (h : prepare unit before = (memo, after, .ok revision)) {b : String}
    (own : b ∈ memo.bridges) : b ∉ globalsOf unit.outline := by
  have apart : (Work.start before unit.outline).IsApart := fun b none =>
    absurd none List.not_mem_nil
  have kept := composes_keepsApart.reviseAll unit (fun _ _ => trivial) _ apart
  obtain ⟨work, takes, -⟩ := takes_prepare h
  unfold prepare at h
  rcases run : (reviseAll unit).run (.start before unit.outline) with ⟨result, last⟩
  rw [run] at h kept
  cases h
  obtain ⟨more, -⟩ := takes_reviseAll run
  rw [← show last.memo.globals = globalsOf unit.outline from more.globals_eq]
  exact kept b own

/-! ## What is noted -/

section
variable {σ τ α : Type} {seen : σ → List String} {seen' : τ → List String}
variable {names more before : List String}

/-- To take note of some names succeeds exactly if none of them was seen before or comes twice, and
they have been seen from then on. -/
structure Notes (seen : σ → List String) (names before : List String)
    (result : Except PassFault σ) : Prop where
  seen_eq : ∀ t, result = .ok t → seen t = names.reverse ++ before
  ok_iff : (∃ t, result = .ok t) ↔ (names.reverse ++ before).Nodup

/-- Where nothing is to be noted there is no fault. -/
theorem notes_nothing {t : σ} (same : seen t = before) (nodup : before.Nodup) :
    Notes seen [] before (.ok t) where
  seen_eq u known := by
    cases known
    exact same
  ok_iff := ⟨fun _ => nodup, fun _ => ⟨t, rfl⟩⟩

theorem Notes.bind {result : Except PassFault σ} {next : σ → Except PassFault τ}
    (first : Notes seen names before result)
    (rest : ∀ t, (seen t).Nodup → Notes seen' more (seen t) (next t)) :
    Notes seen' (names ++ more) before (result >>= next) := by
  have all {t : σ} (known : result = .ok t) :
      more.reverse ++ seen t = (names ++ more).reverse ++ before := by
    rw [first.seen_eq t known, List.reverse_append, List.append_assoc]
  have later {t : σ} (known : result = .ok t) : Notes seen' more (seen t) (next t) :=
    rest t (first.seen_eq t known ▸ first.ok_iff.mp ⟨t, known⟩)
  constructor
  · intro u same
    obtain ⟨t, known, last⟩ := exists_ok_of_bind same
    rw [(later known).seen_eq u last, all known]
  · constructor
    · rintro ⟨u, same⟩
      obtain ⟨t, known, last⟩ := exists_ok_of_bind same
      exact all known ▸ (later known).ok_iff.mp ⟨u, last⟩
    · intro nodup
      have sooner : (names.reverse ++ before).Nodup := by
        refine nodup.sublist ?_
        rw [List.reverse_append, List.append_assoc]
        exact List.sublist_append_right _ _
      obtain ⟨t, known⟩ := first.ok_iff.mpr sooner
      obtain ⟨u, last⟩ := (later known).ok_iff.mpr (all known ▸ nodup)
      exact ⟨u, known ▸ last⟩

/-- What is noted one after the other. -/
theorem notes_foldlM {names : α → List String} {step : σ → α → Except PassFault σ}
    (as : List α)
    (each : ∀ a ∈ as, ∀ s, (seen s).Nodup → Notes seen (names a) (seen s) (step s a))
    (s : σ) (nodup : (seen s).Nodup) :
    Notes seen (as.flatMap names) (seen s) (as.foldlM step s) := by
  induction as generalizing s with
  | nil => exact notes_nothing rfl nodup
  | cons a as ih =>
    rw [List.foldlM_cons, List.flatMap_cons]
    refine (each a List.mem_cons_self s nodup).bind fun t nodup => ?_
    exact ih (fun b member => each b (List.mem_cons_of_mem a member)) t nodup

end

section
variable {memo : Exports} {ledger : Ledger} {read : Outline}

section
variable (file : String) (source : List Char)

/-- An assignment is noted unless its bridge has been seen before. -/
theorem notes_noteBridge (issued : Issued memo ledger) {b : Bridge} (own : b.name ∈ memo.bridges)
    {state : Found × List Char} (nodup : state.1.bridges.Nodup) :
    Notes (fun state => state.1.bridges) [b.name] state.1.bridges
      (noteBridge ledger file source state b) := by
  obtain ⟨found, declarations⟩ := state
  obtain ⟨exported, known⟩ := issued b.name own
  have new_iff : ([b.name].reverse ++ found.bridges).Nodup ↔
      found.bridges.contains b.name = false := by
    simpa using fun _ => nodup
  simp only [noteBridge, known]
  split
  next repeated =>
    constructor
    · intro t same
      cases same
    · rw [new_iff, repeated]
      refine ⟨?_, fun same => by cases same⟩
      rintro ⟨t, same⟩
      cases same
  next new =>
    have isNew := new_iff.mpr (eq_false_of_ne_true new)
    split
    · exact ⟨fun t same => by cases same; rfl, fun _ => isNew, fun _ => ⟨_, rfl⟩⟩
    · exact ⟨fun t same => by cases same; rfl, fun _ => isNew, fun _ => ⟨_, rfl⟩⟩

/-- A statement is noted with the bridges that it assigns, if those are all that it assigns. -/
theorem notes_noteItem (issued : Issued memo ledger) (item : Item) {found : Found}
    (nodup : found.bridges.Nodup) :
    Notes Found.bridges (((ownBridges? memo item.kind).getD []).map Bridge.name) found.bridges
      (noteItem memo ledger file source found item) := by
  rw [noteItem_eq]
  cases known : ownBridges? memo item.kind with
  | none => exact notes_nothing rfl nodup
  | some bs =>
    have noted : Notes (fun state : Found × List Char => state.1.bridges)
        (bs.flatMap fun b => [b.name]) found.bridges
        (bs.foldlM (noteBridge ledger file source) (found, [])) :=
      notes_foldlM bs (fun b member state nodup =>
        notes_noteBridge file source issued ((ownBridges?_eq_some_iff.mp known).2 b member) nodup)
        (found, []) nodup
    have last (state : Found × List Char) (nodup : state.1.bridges.Nodup) :
        Notes Found.bridges [] state.1.bridges
          (.ok { state.1 with edits := state.1.edits ++ [⟨item.span, state.2⟩] }) :=
      notes_nothing rfl nodup
    have whole := noted.bind last
    rw [List.append_nil, ← List.map_eq_flatMap] at whole
    exact whole

end

/-- The bridges in a compiled chunk are found exactly if each of them is assigned once by the
statements that assign nothing else. -/
theorem exists_find_iff (issued : Issued memo ledger) (file code : String) :
    (∃ found, find memo ledger file code read = .ok found) ↔
      ∀ b ∈ memo.bridges, ((assigned memo read).map Bridge.name).count b = 1 := by
  have noted : Notes Found.bridges ((assigned memo read).map Bridge.name) []
      (read.items.foldlM (noteItem memo ledger file code.toList) {}) := by
    rw [assigned, List.map_flatMap]
    exact notes_foldlM read.items
      (fun item _ found nodup => notes_noteItem file code.toList issued item nodup) {}
      List.nodup_nil
  have seen (found : Found)
      (known : read.items.foldlM (noteItem memo ledger file code.toList) {} = .ok found)
      (b : String) : b ∈ found.bridges ↔ b ∈ (assigned memo read).map Bridge.name := by
    rw [noted.seen_eq found known, List.append_nil, List.mem_reverse]
  have ok_iff := noted.ok_iff
  rw [List.append_nil, List.nodup_reverse] at ok_iff
  constructor
  · rintro ⟨found, search⟩ b own
    obtain ⟨last, known, complete⟩ := exists_ok_of_bind search
    refine List.count_eq_one_of_mem (ok_iff.mp ⟨last, known⟩) ((seen last known b).mp ?_)
    split at complete
    next => cases complete
    next none => simpa using List.find?_eq_none.mp none b own
  · intro once
    have nodup : ((assigned memo read).map Bridge.name).Nodup := by
      refine List.nodup_iff_count_le_one.mpr fun b => ?_
      by_cases member : b ∈ (assigned memo read).map Bridge.name
      · obtain ⟨a, within, rfl⟩ := List.mem_map.mp member
        exact Nat.le_of_eq (once a.name (own_of_assigned within))
      · rw [List.count_eq_zero_of_not_mem member]
        exact Nat.zero_le 1
    obtain ⟨found, known⟩ := ok_iff.mpr nodup
    refine ⟨found, ?_⟩
    have complete : (memo.bridges.find? fun bridge => !found.bridges.contains bridge) = none := by
      refine List.find?_eq_none.mpr fun b own missing => ?_
      have there : b ∈ found.bridges := (seen found known b).mpr <|
        List.count_pos_iff.mp (by rw [once b own]; exact Nat.one_pos)
      simp [there] at missing
    unfold find
    simp only [known, complete, bind, Except.bind]
    rfl

end

/-! ## Where statements give way -/

/-- The statements of a compiled chunk that assign bridges can be edited, and each of them ends
before the next one begins. -/
theorem declaring_inOrder {dialect : Dialect} {code : String} {read : Outline}
    (readable : Outline.ofSource dialect code = .ok read) (memo : Exports) :
    let edits := read.items.filterMap (declaring? memo code.toList)
    (∀ e ∈ edits, e.fits code.toList = true) ∧ edits.Pairwise Edit.Before := by
  intro edits
  have stands := standsFrom_ofSource readable
  have assigns {item : Item} {e : Edit} (gives : declaring? memo code.toList item = some e) :
      e.span = item.span ∧ ∃ bs, item.kind = .bridges bs := by
    unfold declaring? at gives
    obtain ⟨bs, own, rfl⟩ := Option.map_eq_some_iff.mp gives
    exact ⟨rfl, bs, (ownBridges?_eq_some_iff.mp own).1⟩
  have meant {item : Item} {bs : List Bridge} (kind : item.kind = .bridges bs) :
      item.kind ≠ .other := by
    rw [kind]
    exact ItemKind.noConfusion
  refine ⟨fun e member => ?_, List.pairwise_filterMap.mpr ?_⟩
  · obtain ⟨item, among, gives⟩ := List.mem_filterMap.mp member
    obtain ⟨same, bs, kind⟩ := assigns gives
    obtain ⟨-, st, of, placed⟩ := (stands.items item among).resolve_left (meant kind)
    unfold Edit.fits
    rw [same]
    exact of.isRange_of_bridges placed kind
  · refine stands.inOrder.imp fun {a b} order e givesA f givesB => ?_
    obtain ⟨sameA, _, kindA⟩ := assigns givesA
    obtain ⟨sameB, _, kindB⟩ := assigns givesB
    unfold Edit.Before
    rw [sameA, sameB]
    exact (order.resolve_left (meant kindA)).resolve_left (meant kindB)

/-- In a compiled chunk that is restored the statements that assign nothing but bridges give way
from left to right, and everything else is kept. -/
theorem splice_of_restore {memo : Exports} {ledger : Ledger} {file code text : String}
    {read : Outline} (readable : Outline.ofSource {} code = .ok read)
    (restored : restore memo ledger file code = .ok text) (some : memo.bridges ≠ []) :
    ∃ specifiers : List Specifier,
      specifiers.map Option.some = (assigned memo read).map (specifier? ledger) ∧
      text.toList =
        splice code.toList 0 (read.items.filterMap (declaring? memo code.toList)) ++
          (clause specifiers).toList := by
  obtain ⟨again, found, known, search, rfl⟩ := restore_ok restored some
  obtain rfl := Except.ok.inj (readable.symm.trans known)
  obtain ⟨specifiers, edits⟩ := grows_find search
  obtain ⟨fits, inOrder⟩ := declaring_inOrder readable memo
  refine ⟨found.specifiers, specifiers, ?_⟩
  rw [edits]
  exact Revision.apply_of_disjoint (.refl _) inOrder fits

/-- A compiled chunk that parses is refused exactly if some bridge is not assigned once. -/
theorem restore_error_iff {memo : Exports} {ledger : Ledger} (issued : Issued memo ledger)
    (file : String) {code : String} {read : Outline}
    (readable : Outline.ofSource {} code = .ok read) :
    (∃ fault, restore memo ledger file code = .error fault) ↔
      ∃ b ∈ memo.bridges, ((assigned memo read).map Bridge.name).count b ≠ 1 := by
  have found_iff : (∃ found, find memo ledger file code read = .ok found) ↔ _ :=
    exists_find_iff issued file code
  unfold restore
  rw [readable]
  by_cases none : memo.bridges = []
  · rw [if_pos (List.isEmpty_iff.mpr none), none]
    constructor
    · rintro ⟨fault, same⟩
      cases same
    · rintro ⟨b, member, -⟩
      cases member
  · rw [if_neg (by simpa using none)]
    dsimp only
    cases search : find memo ledger file code read with
    | ok found =>
      have once := found_iff.mp ⟨found, search⟩
      constructor
      · rintro ⟨fault, same⟩
        cases same
      · rintro ⟨b, own, other⟩
        exact absurd (once b own) other
    | error fault =>
      refine ⟨fun _ => ?_, fun _ => ⟨fault, rfl⟩⟩
      by_contra all
      push Not at all
      obtain ⟨found, known⟩ := found_iff.mpr all
      rw [search] at known
      cases known

/-- Behind exports that are accepted lies a revision. -/
theorem exists_revision {unit : ChunkUnit} {ledger : Ledger} {memo : Exports}
    (known : (prepare unit ledger).1 = memo)
    (accepted : (prepare unit ledger).2.2.toOption.isSome = true) :
    ∃ revision, prepare unit ledger = (memo, (prepare unit ledger).2.1, .ok revision) := by
  obtain ⟨revision, revised⟩ := exists_ok_of_isSome accepted
  exact ⟨revision, Prod.ext known (Prod.ext rfl revised)⟩

/-- Whatever is asked of the ledger in between and whatever the compiler makes of the chunk, as long
as it parses: no bridge is assigned by a statement of the chunk itself, the compiled chunk is
refused exactly if one of its bridges is assigned never or more than once by the statements that
assign nothing but bridges, and otherwise those statements alone give way, each in its place, to
declarations for the values that are no plain names. -/
theorem restored_iff_assigned_once (start between : List Ledger.Call) {unit : ChunkUnit}
    {memo : Exports} {after : Ledger} {revision : Revision}
    (prepared : prepare unit (Ledger.after {} start) = (memo, after, .ok revision))
    (file : String) {code : String} {read : Outline}
    (readable : Outline.ofSource {} code = .ok read) :
    let ledger := after.after between
    let edits := read.items.filterMap (declaring? memo code.toList)
    (∀ item ∈ unit.outline.items, ∀ bs, item.kind = .bridges bs →
      ∀ b ∈ bs, b.name ∉ memo.bridges) ∧
    ((∃ fault, restore memo ledger file code = .error fault) ↔
      ∃ b ∈ memo.bridges, ((assigned memo read).map Bridge.name).count b ≠ 1) ∧
    (∀ e ∈ edits, e.fits code.toList = true) ∧ edits.Pairwise Edit.Before ∧
    ∀ text, restore memo ledger file code = .ok text →
      (memo.bridges = [] → text = code) ∧
      (memo.bridges ≠ [] → ∃ specifiers : List Specifier,
        specifiers.map some = (assigned memo read).map (specifier? ledger) ∧
        text.toList = splice code.toList 0 edits ++ (clause specifiers).toList) := by
  intro ledger edits
  have issued := issued_between prepared between
  obtain ⟨fits, inOrder⟩ := declaring_inOrder readable memo
  refine ⟨fun item member bs kind b among own => notMem_globalsOf prepared own ?_,
    restore_error_iff issued file readable, fits, inOrder, fun text restored => ⟨fun none => ?_,
      splice_of_restore readable restored⟩⟩
  · refine List.mem_flatMap.mpr ⟨item, member, ?_⟩
    rw [kind]
    exact List.mem_map_of_mem among
  · unfold restore at restored
    rw [if_pos (List.isEmpty_iff.mpr none)] at restored
    exact (Except.ok.inj restored).symm

/-- The compiler has put a value where a name was, joined the assignments and put another one behind
a property of the chunk: the joined ones give way, and what the chunk assigns is kept. -/
theorem restored_of_joined_assignments :
    let code := "window.q = 1;\nexport const f = 1;\nexport default f + 1;"
    let outline : Outline := { items := [
      ⟨⟨0, 13⟩, .bridges [⟨"q", ⟨11, 12⟩, none⟩]⟩, ⟨⟨14, 33⟩, .exportDeclaration ⟨21, 33⟩ ["f"]⟩,
      ⟨⟨34, 55⟩, .exportDefaultExpression ⟨49, 54⟩⟩] }
    let compiled := "window.q=1;var c=1;window.b=2,window.a=c;window.q=3,window.a=4;"
    let read : Outline := { items := [
      ⟨⟨0, 11⟩, .bridges [⟨"q", ⟨9, 10⟩, none⟩]⟩, ⟨⟨11, 19⟩, .other⟩,
      ⟨⟨19, 41⟩, .bridges [⟨"b", ⟨28, 29⟩, none⟩, ⟨"a", ⟨39, 40⟩, some "c"⟩]⟩,
      ⟨⟨41, 63⟩, .bridges [⟨"q", ⟨50, 51⟩, none⟩, ⟨"a", ⟨61, 62⟩, none⟩]⟩] }
    let memo : Exports := ⟨["a", "b"], ["q"]⟩
    let ledger := (prepare ⟨{}, code, outline⟩ (Ledger.after {} [])).2.1.after []
    Outline.ofSource (Strict.chunkDialect .esm) code = .ok outline ∧
    Outline.ofSource {} compiled = .ok read ∧
    restore memo ledger "main.js" compiled =
      .ok ("window.q=1;var c=1;var __closure_export_b = 2;window.q=3,window.a=4;\n" ++
        "export \x7b __closure_export_b as default, c as f \x7d;") ∧
    (¬∃ b ∈ memo.bridges, ((assigned memo read).map Bridge.name).count b ≠ 1) ∧
    ∃ specifiers : List Specifier,
      specifiers.map some = (assigned memo read).map (specifier? ledger) ∧
      ("window.q=1;var c=1;var __closure_export_b = 2;window.q=3,window.a=4;\n" ++
        "export \x7b __closure_export_b as default, c as f \x7d;").toList =
        splice compiled.toList 0 [⟨⟨19, 41⟩, "var __closure_export_b = 2;".toList⟩] ++
          (clause specifiers).toList := by
  intro code outline compiled read memo ledger
  have readable : Outline.ofSource {} compiled = .ok read := eq_ok_of_toOption (by decide +kernel)
  obtain ⟨revision, prepared⟩ : ∃ revision, prepare ⟨{}, code, outline⟩ (Ledger.after {} []) =
      (memo, (prepare ⟨{}, code, outline⟩ (Ledger.after {} [])).2.1, .ok revision) :=
    exists_revision (by decide +kernel) (by decide +kernel)
  have result : restore memo ledger "main.js" compiled =
      .ok ("window.q=1;var c=1;var __closure_export_b = 2;window.q=3,window.a=4;\n" ++
        "export \x7b __closure_export_b as default, c as f \x7d;") :=
    eq_ok_of_toOption (by decide +kernel)
  have edits : read.items.filterMap (declaring? memo compiled.toList) =
      [⟨⟨19, 41⟩, "var __closure_export_b = 2;".toList⟩] := by decide +kernel
  obtain ⟨-, refused_iff, -, -, restores⟩ :=
    restored_iff_assigned_once [] [] prepared "main.js" readable
  refine ⟨eq_ok_of_toOption (by decide +kernel), readable, result, fun wrong => ?_, ?_⟩
  · obtain ⟨fault, failed⟩ := refused_iff.mpr wrong
    rw [result] at failed
    cases failed
  · rw [← edits]
    exact (restores _ result).2 (by decide)

end Exports
end ChunkBridge
