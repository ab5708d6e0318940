import ChunkBridge.Proofs.Exports.Preparation
import Mathlib.Data.List.Nodup

/-!
# How exports are restored

In a compiled chunk the bridges are looked up in the ledger one after the other. What was found is
kept in step with the ledger (`Tracks`): no bridge twice, none of another chunk, and for each the
export that the ledger has for it. As every bridge of the chunk has to be there in the end, the
clause names the exports of the chunk and nothing else (`mem_exported_iff`, `nodup_exported`).
-/

namespace ChunkBridge.Exports
open ChunkBridge.Text ChunkBridge.Script

/-- A value has the one property, and a fault the other. -/
def Meets {α : Type} (E : PassFault → Prop) (P : α → Prop) : Except PassFault α → Prop
  | .ok a => P a
  | .error fault => E fault

/-- The fault is not that a bridge was never issued. -/
def IsKnown (fault : PassFault) : Prop := ∀ b, fault ≠ .unissuedBridge b

section
variable {E : PassFault → Prop} {α β σ : Type}

/-- What meets a property is followed by what meets the next one. -/
theorem Meets.bind {P : α → Prop} {Q : β → Prop} {result : Except PassFault α}
    {next : α → Except PassFault β} (first : Meets E P result)
    (second : ∀ a, P a → Meets E Q (next a)) : Meets E Q (result >>= next) := by
  cases result with
  | ok a => exact second a first
  | error fault => exact first

/-- A property that each element keeps is there after all of them. -/
theorem meets_foldlM {P : σ → Prop} {step : σ → α → Except PassFault σ} (as : List α)
    (each : ∀ a ∈ as, ∀ s, P s → Meets E P (step s a)) {s : σ} (h : P s) :
    Meets E P (as.foldlM step s) := by
  induction as generalizing s with
  | nil => exact h
  | cons a as ih =>
    rw [List.foldlM_cons]
    refine (each a List.mem_cons_self s h).bind fun t kept => ?_
    exact ih (fun b member => each b (List.mem_cons_of_mem a member)) kept

end

/-! ## What was found -/

/-- What was found is bridges of the chunk, all different, with the exports that the ledger has
for them. -/
structure Tracks (memo : Exports) (ledger : Ledger) (found : Found) : Prop where
  nodup : found.bridges.Nodup
  own : ∀ b ∈ found.bridges, b ∈ memo.bridges
  exported_eq : found.specifiers.map (fun s => some s.exported) =
    found.bridges.reverse.map fun b => ledger.asked? b exportsScope

/-- The ledger has issued every bridge of the chunk. -/
def Issued (memo : Exports) (ledger : Ledger) : Prop :=
  ∀ b ∈ memo.bridges, ∃ name, ledger.asked? b exportsScope = some name

section
variable {memo : Exports} {ledger : Ledger} (file : String) (source : List Char)

omit file source in
/-- Another bridge of the chunk, with the export that it stands for. -/
theorem Tracks.note {found : Found} (tracks : Tracks memo ledger found) {b exported : String}
    (own : b ∈ memo.bridges) (new : b ∉ found.bridges)
    (known : ledger.asked? b exportsScope = some exported) (localName : String) :
    Tracks memo ledger
      { found with
        bridges := b :: found.bridges
        specifiers := found.specifiers ++ [⟨localName, exported⟩] } where
  nodup := List.nodup_cons.mpr ⟨new, tracks.nodup⟩
  own c member := by
    rcases List.mem_cons.mp member with rfl | older
    · exact own
    · exact tracks.own c older
  exported_eq := by
    simp only [List.map_append, List.map_cons, List.map_nil, List.reverse_cons,
      tracks.exported_eq, known]

theorem meets_noteBridge (issued : Issued memo ledger) {state : Found × List Char}
    (tracks : Tracks memo ledger state.1) {b : Bridge} (own : b.name ∈ memo.bridges) :
    Meets IsKnown (fun next => Tracks memo ledger next.1) (noteBridge ledger file source state b) := by
  obtain ⟨found, declarations⟩ := state
  obtain ⟨exported, known⟩ := issued b.name own
  simp only [noteBridge, known]
  by_cases repeated : found.bridges.contains b.name = true
  · rw [if_pos repeated]
    intro c h
    cases h
  · have new : b.name ∉ found.bridges := by simpa using repeated
    rw [if_neg repeated]
    cases b.localName with
    | some localName => exact tracks.note own new known localName
    | none => exact tracks.note own new known (inlinedLocal b.name)

theorem meets_noteItem (issued : Issued memo ledger) {found : Found}
    (tracks : Tracks memo ledger found) (item : Item) :
    Meets IsKnown (Tracks memo ledger) (noteItem memo ledger file source found item) := by
  unfold noteItem
  cases item.kind with
  | bridges bridges =>
    dsimp only
    split
    next all =>
      have own : ∀ b ∈ bridges, b.name ∈ memo.bridges := by simpa using all
      have noted : Meets IsKnown (fun next => Tracks memo ledger next.1)
          (bridges.foldlM (noteBridge ledger file source) (found, [])) :=
        meets_foldlM bridges
          (fun b member state tracks => meets_noteBridge file source issued tracks (own b member))
          tracks
      exact noted.bind fun next tracks => ⟨tracks.nodup, tracks.own, tracks.exported_eq⟩
    next => exact tracks
  | imports | reExport | exportDeclaration | exportNames | exportDefaultDeclaration
  | exportDefaultExpression | other => exact tracks

/-- Every bridge of the chunk is found, or something else than an unknown bridge is wrong. -/
theorem meets_find (issued : Issued memo ledger) (code : String) (outline : Outline) :
    Meets IsKnown (fun found => Tracks memo ledger found ∧ ∀ b ∈ memo.bridges, b ∈ found.bridges)
      (find memo ledger file code outline) := by
  have start : Tracks memo ledger {} := ⟨List.nodup_nil, by simp, rfl⟩
  have noted : Meets IsKnown (Tracks memo ledger)
      (outline.items.foldlM (noteItem memo ledger file code.toList) {}) :=
    meets_foldlM outline.items
      (fun item _ found tracks => meets_noteItem file code.toList issued tracks item) start
  refine noted.bind fun found tracks => ?_
  split
  next => intro b h; cases h
  next none =>
    refine ⟨tracks, fun b own => ?_⟩
    have := List.find?_eq_none.mp none b own
    simpa using this

/-- A chunk without bridges is left as it is. In any other one the statements that were found give
way to the clause. -/
theorem meets_restore (issued : Issued memo ledger) (code : String) :
    Meets IsKnown (fun text =>
        (memo.bridges = [] → text = code) ∧
        (memo.bridges ≠ [] → ∃ outline found,
          Outline.ofSource {} code = .ok outline ∧
          find memo ledger file code outline = .ok found ∧
          Tracks memo ledger found ∧ (∀ b ∈ memo.bridges, b ∈ found.bridges) ∧
          text = Revision.apply ⟨found.edits, (clause found.specifiers).toList⟩ code))
      (restore memo ledger file code) := by
  unfold restore
  by_cases none : memo.bridges = []
  · rw [if_pos (List.isEmpty_iff.mpr none)]
    exact ⟨fun _ => rfl, fun some => absurd none some⟩
  · rw [if_neg (by simpa using none)]
    cases outlined : Outline.ofSource {} code with
    | error e =>
      intro b h
      cases h
    | ok outline =>
      have meets := meets_find file issued code outline
      cases search : find memo ledger file code outline with
      | error fault =>
        rw [search] at meets
        dsimp only
        rw [search]
        exact meets
      | ok found =>
        rw [search] at meets
        dsimp only
        rw [search]
        exact ⟨fun h => absurd h none,
          fun _ => ⟨outline, found, rfl, search, meets.1, meets.2, rfl⟩⟩

end

/-! ## Where statements give way -/

section
variable {memo : Exports} {ledger : Ledger} {file : String} {source : List Char}

/-- Only statements that assign bridges give way. -/
def Found.OfOutline (found : Found) (outline : Outline) : Prop :=
  ∀ e ∈ found.edits, ∃ item ∈ outline.items, (∃ bs, item.kind = .bridges bs) ∧ e.span = item.span

/-- To take note of an assignment edits nothing. -/
theorem edits_noteBridge (edits : List Edit) {state : Found × List Char}
    (same : state.1.edits = edits) (b : Bridge) :
    Meets (fun _ => True) (fun next => next.1.edits = edits)
      (noteBridge ledger file source state b) := by
  obtain ⟨found, declarations⟩ := state
  unfold noteBridge
  dsimp only
  split
  · trivial
  · split
    · trivial
    · split
      · exact same
      · exact same

theorem edits_noteItem {outline : Outline} {found : Found} (edits : found.OfOutline outline)
    {item : Item} (member : item ∈ outline.items) :
    Meets (fun _ => True) (fun next => next.OfOutline outline)
      (noteItem memo ledger file source found item) := by
  unfold noteItem
  cases kind : item.kind with
  | bridges bridges =>
    dsimp only
    split
    next =>
      have noted : Meets (fun _ => True) (fun next => next.1.edits = found.edits)
          (bridges.foldlM (noteBridge ledger file source) (found, [])) :=
        meets_foldlM bridges (fun b _ state same => edits_noteBridge found.edits same b) rfl
      refine noted.bind fun next same => ?_
      intro e new
      rw [same] at new
      rcases List.mem_append.mp new with old | last
      · exact edits e old
      · rw [List.mem_singleton.mp last]
        exact ⟨item, member, ⟨bridges, kind⟩, rfl⟩
    next => exact edits
  | imports | reExport | exportDeclaration | exportNames | exportDefaultDeclaration
  | exportDefaultExpression | other => exact edits

/-- What was found gives way where it stands. -/
theorem edits_find {code : String} {outline : Outline} {found : Found}
    (h : find memo ledger file code outline = .ok found) : found.OfOutline outline := by
  have noted : Meets (fun _ => True) (fun found => found.OfOutline outline)
      (outline.items.foldlM (noteItem memo ledger file code.toList) {}) :=
    meets_foldlM outline.items (fun item member found edits => edits_noteItem edits member)
      (fun e member => nomatch member)
  have meets : Meets (fun _ => True) (fun found => found.OfOutline outline)
      (find memo ledger file code outline) := by
    refine noted.bind fun found edits => ?_
    split
    · trivial
    · exact edits
  rw [h] at meets
  exact meets

/-- Behind a chunk whose bridges are restored lies what was found in it. -/
theorem restore_ok {code text : String} (h : restore memo ledger file code = .ok text)
    (some : memo.bridges ≠ []) :
    ∃ outline found, Outline.ofSource {} code = .ok outline ∧
      find memo ledger file code outline = .ok found ∧
      text = Revision.apply ⟨found.edits, (clause found.specifiers).toList⟩ code := by
  unfold restore at h
  rw [if_neg (by simpa using some)] at h
  split at h
  next => cases h
  next outline outlined =>
    cases search : find memo ledger file code outline with
    | error fault =>
      rw [search] at h
      cases h
    | ok found =>
      rw [search] at h
      exact ⟨outline, found, outlined, search, (Except.ok.inj h).symm⟩

end

/-! ## What the clause names -/

section
variable {memo : Exports} {ledger : Ledger} {found : Found}

/-- A specifier stands for a bridge that was found. -/
theorem Tracks.mem_exported_iff (tracks : Tracks memo ledger found) (name : String) :
    name ∈ found.specifiers.map Specifier.exported ↔
      ∃ b ∈ found.bridges, ledger.asked? b exportsScope = some name := by
  have same := congrArg (fun names => some name ∈ names) tracks.exported_eq
  simpa using same

/-- Different bridges stand for different exports. -/
theorem Tracks.nodup_exported (tracks : Tracks memo ledger found) (issued : Issued memo ledger)
    (inverse : ∀ name b, ledger.issued? name exportsScope = some b ↔
      ledger.asked? b exportsScope = some name) :
    (found.specifiers.map Specifier.exported).Nodup := by
  have distinct : (found.bridges.reverse.map fun b => ledger.asked? b exportsScope).Nodup := by
    refine List.Nodup.map_on ?_ (List.nodup_reverse.mpr tracks.nodup)
    intro b member c _ same
    obtain ⟨name, known⟩ := issued b (tracks.own b (List.mem_reverse.mp member))
    have there := (inverse name b).mpr known
    have back := (inverse name c).mpr (same.symm.trans known)
    exact Option.some.inj (there.symm.trans back)
  rw [← tracks.exported_eq] at distinct
  refine List.Nodup.of_map some ?_
  rwa [List.map_map]

end

end ChunkBridge.Exports
