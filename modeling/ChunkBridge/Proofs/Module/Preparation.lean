import ChunkBridge.Module.Pass
import ChunkBridge.Proofs.Edit.Untouched
import ChunkBridge.Proofs.Ledger.Calls
import ChunkBridge.Proofs.Script.Positions

/-!
# What preparing a module leaves

A module that the registered passes go over is refused, left alone, or given back without its
hashbang line (`Session.Prepares`). Only the last leaves a line for the chunk of the module. No
other record is ever taken for such a line, since its key begins with another word.
-/

namespace ChunkBridge
open ChunkBridge.Text ChunkBridge.Script

/-! ## Keys -/

/-- The line that is kept for the chunk of a module. -/
def Store.hashbang? (store : Store) (id : String) : Option String :=
  store.get? String (hashbangKey id)

theorem hashbangKey_injective : Function.Injective hashbangKey := by
  intro a b h
  have same := congrArg String.toList h
  simp only [hashbangKey, String.toList_append] at same
  exact String.toList_inj.mp (List.append_cancel_left same)

/-- The other keys of a build begin with an `e`. -/
theorem ne_hashbangKey {key : String} (first : key.toList.head? = some 'e') (id : String) :
    key ≠ hashbangKey id := by
  rintro rfl
  simp [hashbangKey, String.toList_append] at first

theorem head?_exportsKey (id : String) : (exportsKey id).toList.head? = some 'e' := by
  simp [exportsKey, String.toList_append]

theorem head?_scanKey (code : String) : (scanKey code).toList.head? = some 'e' := by
  simp [scanKey, String.toList_append]

/-- A record under another key is no hashbang line. -/
theorem Store.hashbang?_set {α : Type} [PayloadType α] (store : Store) {key : String}
    (first : key.toList.head? = some 'e') (value : α) (phase : Phase) (id : String) :
    (store.set key value phase).hashbang? id = store.hashbang? id :=
  get?_set_of_ne store (ne_hashbangKey first id) value phase

/-- A line is kept for its own module. -/
theorem Store.hashbang?_set_hashbangKey (store : Store) (id other line : String) (phase : Phase) :
    (store.set (hashbangKey id) line phase).hashbang? other =
      if id = other then some line else store.hashbang? other := by
  rw [hashbang?, get?_set]
  simp only [hashbangKey_injective.eq_iff]
  rfl

/-! ## The front of a source -/

/-- Giving the front of a single piece a new text leaves what is behind it a piece of its own. -/
theorem Piece.replace_front {front : List Char} (nonempty : front ≠ []) (rest new : List Char) :
    replace new 0 (byteLength front) (cut (byteLength front) [{ base := front ++ rest }]) =
      { base := front, edited := some new } :: if rest = [] then [] else [{ base := rest }] := by
  have positive := byteLength_pos nonempty
  have nonzero : (byteLength front == 0) = false := by
    rw [beq_eq_false_iff_ne]
    omega
  unfold cut
  rw [nonzero]
  -- If nothing is behind the front, the piece is not cut at all.
  by_cases behind : rest = []
  · simp [behind, cut, replace, edit]
  · have longer := byteLength_pos behind
    have inside : ¬ byteLength front + byteLength rest ≤ byteLength front := by omega
    simp [inside, behind, replace, edit, takeBytes_byteLength_append, dropBytes_byteLength_append]

theorem Buffer.isRange_front {front : List Char} (nonempty : front ≠ []) (rest : List Char) :
    isRange (front ++ rest) ⟨0, byteLength front⟩ = true := by
  have positive := byteLength_pos nonempty
  simp [isRange, isCut, positive, takeBytes_byteLength_append]

theorem slice_front {source : String} {front rest : List Char}
    (split : source.toList = front ++ rest) :
    slice source ⟨0, byteLength front⟩ = String.ofList front := by
  rw [slice, sliceChars, split, Nat.sub_zero, dropBytes_zero, takeBytes_byteLength_append]

/-- A source without its front. -/
def Buffer.withoutFront (front rest : List Char) : Buffer where
  source := front ++ rest
  pieces := { base := front, edited := some [] } :: if rest = [] then [] else [{ base := rest }]

theorem Buffer.text_withoutFront (front rest : List Char) :
    (withoutFront front rest).text = String.ofList rest := by
  by_cases behind : rest = [] <;> simp [withoutFront, Buffer.text, chars, Piece.text, behind]

/-- The front of a source can be taken out. -/
theorem Buffer.remove_front {source : String} {front rest : List Char}
    (split : source.toList = front ++ rest) (nonempty : front ≠ []) :
    (ofText source).remove 0 (byteLength front) = some (withoutFront front rest) := by
  have fits := isRange_front nonempty rest
  have whole : Piece.cut 0 [{ base := front ++ rest }] = [{ base := front ++ rest }] := rfl
  simp only [remove, update, ofText, split, if_pos fits, whole, Piece.replace_front nonempty,
    withoutFront]

/-- The hashbang line of an outline is that of the source. -/
theorem Script.Outline.hashbang_ofSource {dialect : Dialect} {source : String} {outline : Outline}
    (h : Outline.ofSource dialect source = .ok outline) :
    outline.hashbang =
      (Scan.hashbangLine source.toList).map fun line => ⟨0, byteLength line⟩ := by
  unfold Outline.ofSource at h
  dsimp only at h
  split at h
  next => cases h
  next statements read =>
    rw [(Outline.ofStatements_ok h).1]
    cases found : Scan.hashbangLine source.toList with
    | none => rfl
    | some line =>
      obtain ⟨⟨rest, rfl, -⟩, -⟩ := Scan.hashbangLine_eq_some_iff.mp found
      rfl

/-! ## Passes over a module -/

namespace ModulePass

/-- Settling names requests them in the scope of exports, and nothing else. -/
theorem settle_eq (names : List String) (session : Session) :
    settle names session =
      { session with
        ledger := session.ledger.after (names.map fun name => .resolve name exportsScope) } := by
  unfold settle
  induction names generalizing session with
  | nil => rfl
  | cons name names ih => exact ih (session.resolveExport name).2

/-- The exports of a module are recorded under its name, and under its contents if these were not
known yet. -/
theorem scanExports_eq (unit : ModuleUnit) (session : Session) :
    ∃ (ledger : Ledger) (names : List String) (scanned : Store),
      (scanned = session.store ∨ scanned = session.store.set (scanKey unit.code) names .source) ∧
      scanExports unit session =
        { session with ledger, store := scanned.set (exportsKey unit.id) names .source } := by
  unfold scanExports
  rw [Store.getOrInsertWith_of_idle]
  cases session.store.get? (List String) (scanKey unit.code) with
  | some names =>
    exact ⟨(settle names session).ledger, names, session.store, .inl rfl, by simp only [settle_eq]⟩
  | none =>
    let names := unit.outline.exportedNames
    let scanned := session.store.set (scanKey unit.code) names .source
    exact ⟨(settle names session).ledger, names, scanned, .inr rfl,
      by simp only [settle_eq, names, scanned]⟩

/-- Recording exports leaves the hashbang lines alone. -/
theorem hashbang?_scanExports (unit : ModuleUnit) (session : Session) (id : String) :
    (scanExports unit session).store.hashbang? id = session.store.hashbang? id := by
  obtain ⟨ledger, names, scanned, either, same⟩ := scanExports_eq unit session
  rw [same, Store.hashbang?_set _ (head?_exportsKey unit.id)]
  rcases either with rfl | rfl
  · rfl
  · rw [Store.hashbang?_set _ (head?_scanKey unit.code)]

end ModulePass

open ModulePass (scanExports)

/-- A session before a module was prepared, with what became of the module and the session
behind. -/
inductive Session.Prepares (session : Session) (id code : String) : Outcome → Session → Prop where
  /-- The module is no script. -/
  | unread {e : OutlineError} (refused : Outline.ofSource (.ofId id) code = .error e) :
    Prepares session id code (.failed ⟨.parse, e.trace⟩) session
  /-- The module has no hashbang line. -/
  | plain {outline : Outline} (outlined : Outline.ofSource (.ofId id) code = .ok outline)
      (lineless : Scan.hashbangLine code.toList = none) :
    Prepares session id code .unchanged (scanExports ⟨id, code, outline⟩ session)
  /-- The hashbang line of the module was taken. -/
  | stripped {outline : Outline} {line rest : String} {map : SourceMap}
      (outlined : Outline.ofSource (.ofId id) code = .ok outline)
      (found : Scan.hashbangLine code.toList = some line.toList) (split : code = line ++ rest) :
    Prepares session id code (.transformed ⟨rest, some map⟩)
      (scanExports ⟨id, code, outline⟩
        { session with store := session.store.set (hashbangKey id) line .source })

namespace Session

variable {id code : String} {outline : Outline}

/-- A module without a hashbang line is left alone. -/
theorem prepareModule_of_no_hashbangLine (session : Session)
    (outlined : Outline.ofSource (.ofId id) code = .ok outline)
    (lineless : Scan.hashbangLine code.toList = none) :
    session.prepareModule id code ModulePass.registered =
      (.unchanged, scanExports ⟨id, code, outline⟩ session) := by
  have hashbang := Outline.hashbang_ofSource outlined
  simp [prepareModule, ModulePass.registered, outlined, ModulePass.runAll, ModulePass.run,
    ModulePass.takeHashbang, hashbang, lineless, Buffer.text_ofText]

/-- A hashbang line is taken out of its module and kept. -/
theorem prepareModule_of_hashbangLine (session : Session) {line rest : List Char}
    (outlined : Outline.ofSource (.ofId id) code = .ok outline)
    (found : Scan.hashbangLine code.toList = some line) (split : code.toList = line ++ rest) :
    session.prepareModule id code ModulePass.registered =
      (.transformed
          ⟨String.ofList rest, some ((Buffer.withoutFront line rest).sourceMap id)⟩,
        scanExports ⟨id, code, outline⟩
          { session with
            store := session.store.set (hashbangKey id) (String.ofList line) .source }) := by
  have hashbang := Outline.hashbang_ofSource outlined
  have nonempty : line ≠ [] := by
    obtain ⟨⟨more, rfl, -⟩, -⟩ := Scan.hashbangLine_eq_some_iff.mp found
    exact List.cons_ne_nil _ _
  have shorter : String.ofList rest ≠ code := by
    intro same
    have lengths := congrArg (fun text : String => text.toList.length) same
    simp [split] at lengths
    exact nonempty lengths
  simp only [prepareModule, ModulePass.registered, outlined, ModulePass.runAll, ModulePass.run,
    ModulePass.takeHashbang, hashbang, found, Option.map_some, Buffer.remove_front split nonempty,
    Option.getD_some, Buffer.text_withoutFront, if_neg shorter, slice_front split,
    List.isEmpty_cons, Bool.false_eq_true, if_false]

/-- Preparing a module with the registered passes comes to one of three ends. -/
theorem prepares_prepareModule (session : Session) (id code : String) :
    session.Prepares id code (session.prepareModule id code ModulePass.registered).1
      (session.prepareModule id code ModulePass.registered).2 := by
  cases outlined : Outline.ofSource (.ofId id) code with
  | error e =>
    simp only [prepareModule, ModulePass.registered, outlined]
    exact .unread outlined
  | ok outline =>
    cases found : Scan.hashbangLine code.toList with
    | none =>
      rw [prepareModule_of_no_hashbangLine session outlined found]
      exact .plain outlined found
    | some line =>
      obtain ⟨-, rest, split, -⟩ := Scan.hashbangLine_eq_some_iff.mp found
      rw [prepareModule_of_hashbangLine session outlined found split]
      exact .stripped outlined (by simpa using found) (by rw [← String.toList_inj]; simp [split])

end Session
end ChunkBridge
