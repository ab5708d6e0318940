import ChunkBridge.Proofs.Build.Rendering
import ChunkBridge.Proofs.Ledger.Extension

/-!
# What rendering a chunk leaves behind

However the rendering of a chunk ends, there is at most one new record, that of a file with externs
(`gains_renderChunk`), and the names of exports are all that was asked for (`extends_renderChunk`).
No record is overwritten, since there is nothing but files under the keys of externs.
-/

namespace ChunkBridge
open Assembled (externsKey externsFile)

/-! ## Records -/

namespace Store

/-- Where no file with externs is, there is no record at all. -/
def HoldsFiles (store : Store) : Prop :=
  ∀ text, store.get? ScratchFile (externsKey text) = none → store.record? (externsKey text) = none

/-- The store is as it was, or it has a new record of a file with externs. -/
inductive Gains (before : Store) : Store → Prop where
  | nothing : Gains before before
  | externs (text : String) (file : ScratchFile) (new : before.record? (externsKey text) = none) :
    Gains before (before.set (externsKey text) file .chunk)

namespace Gains
variable {before after : Store}

theorem kept (gains : before.Gains after) {key : String} {record : Record}
    (known : before.record? key = some record) : after.record? key = some record := by
  cases gains with
  | nothing => exact known
  | externs text file new =>
    -- There was no record under the new key, so it is not the one that is asked for.
    rw [record?_set, if_neg, known]
    rintro rfl
    rw [new] at known
    cases known

/-- Records that are no externs are neither changed nor added. -/
theorem record?_eq (gains : before.Gains after) {key : String}
    (other : ∀ text, externsKey text ≠ key) : after.record? key = before.record? key := by
  cases gains with
  | nothing => rfl
  | externs text file new => rw [record?_set, if_neg (other text)]

theorem holdsFiles (gains : before.Gains after) (files : before.HoldsFiles) : after.HoldsFiles := by
  cases gains with
  | nothing => exact files
  | externs text file new =>
    intro other none
    rw [get?_set] at none
    rw [record?_set]
    split at none
    · cases none
    next apart => rw [if_neg apart, files other none]

end Gains

/-! ## Keys of different kinds -/

/-- The kind of a key can be told from its first letters. -/
theorem ne_of_take {key other : String} (n : Nat)
    (differ : key.toList.take n ≠ other.toList.take n) : key ≠ other :=
  fun same => differ (by rw [same])

theorem externsKey_ne_hashbangKey (text id : String) : externsKey text ≠ hashbangKey id :=
  ne_of_take 1 (by simp [externsKey, hashbangKey, String.toList_append])

theorem externsKey_ne_exportsKey (text id : String) : externsKey text ≠ exportsKey id :=
  ne_of_take 3 (by simp [externsKey, exportsKey, String.toList_append])

theorem externsKey_ne_scanKey (text code : String) : externsKey text ≠ scanKey code :=
  ne_of_take 3 (by simp [externsKey, scanKey, String.toList_append])

theorem exportsKey_ne_scanKey (id code : String) : exportsKey id ≠ scanKey code :=
  ne_of_take 7 (by simp [exportsKey, scanKey, String.toList_append])

theorem HoldsFiles.set {α : Type} [PayloadType α] {store : Store} (files : store.HoldsFiles)
    {key : String} (other : ∀ text, externsKey text ≠ key) (value : α) (phase : Phase) :
    (store.set key value phase).HoldsFiles := by
  intro text none
  rw [get?_set_of_ne _ (other text).symm] at none
  rw [record?_set, if_neg (other text).symm, files text none]

end Store

/-! ## Modules -/

theorem Session.holdsFiles_prepareModule {session : Session} (files : session.store.HoldsFiles)
    (id code : String) :
    (session.prepareModule id code ModulePass.registered).2.store.HoldsFiles := by
  have scans {store : Store} (files : store.HoldsFiles) (unit : ModuleUnit) :
      (ModulePass.scanExports unit { session with store }).store.HoldsFiles := by
    obtain ⟨ledger, names, scanned, either, same⟩ :=
      ModulePass.scanExports_eq unit { session with store }
    rw [same]
    refine Store.HoldsFiles.set ?_ (fun text => Store.externsKey_ne_exportsKey text unit.id) names _
    rcases either with rfl | rfl
    · exact files
    · exact files.set (fun text => Store.externsKey_ne_scanKey text unit.code) names _
  have prepares := session.prepares_prepareModule id code
  generalize session.prepareModule id code ModulePass.registered = prepared at prepares ⊢
  obtain ⟨outcome, after⟩ := prepared
  dsimp only at prepares ⊢
  cases prepares with
  | unread => exact files
  | plain => exact scans files _
  | stripped =>
    exact scans (files.set (fun text => Store.externsKey_ne_hashbangKey text id) _ _) _

/-! ## Chunks -/

theorem Assembled.gains_externsFile {session : Session} (files : session.store.HoldsFiles)
    (text : String) : session.store.Gains (externsFile text session).2.store := by
  unfold externsFile
  cases known : session.store.get? ScratchFile (externsKey text) with
  | some file => exact .nothing
  | none => exact .externs text _ (files text known)

namespace Session
variable {session : Session}

theorem gains_assemble (session : Session) (files : session.store.HoldsFiles) (format : OutputFormat)
    (passes : List ChunkPass) (code : String) :
    session.store.Gains (session.assemble format passes code).2.store := by
  unfold assemble
  cases Flags.conflict? session.flags with
  | some conflict => exact .nothing
  | none =>
    show session.store.Gains (Assembled.generatedExterns passes session).2.store
    unfold Assembled.generatedExterns
    by_cases none : (ChunkPass.externsText passes).isEmpty = true
    · rw [if_pos none]
      exact .nothing
    · rw [if_neg none]
      exact Assembled.gains_externsFile files _

/-- However rendering a chunk ends, it leaves at most one record: a file with externs. -/
theorem gains_renderChunk (files : session.store.HoldsFiles) (format : OutputFormat) (chunk : Chunk)
    (compiler : Compiler) (code : String) :
    session.store.Gains (session.renderChunk format chunk compiler code).session.store := by
  let ledger := (ChunkPass.prepareChunk session.ledger format chunk code).ledger
  rcases session.session_renderChunk format chunk compiler code with same | ⟨passes, text, -, same⟩
  · rw [same]
    exact .nothing
  · rw [same]
    exact gains_assemble { session with ledger } files format passes text

/-- However rendering a chunk ends, it works on the names of exports alone. -/
theorem extends_renderChunk (session : Session) (format : OutputFormat) (chunk : Chunk)
    (compiler : Compiler) (code : String) :
    session.ledger.Extends exportsScope
      (session.renderChunk format chunk compiler code).session.ledger := by
  have asks := ChunkPass.extends_prepareChunk session.ledger format chunk code
  rcases session.session_renderChunk format chunk compiler code with same | ⟨passes, text, -, same⟩
  · rw [same]
    exact asks
  · rw [same, ledger_assemble]
    exact asks

/-- Nothing becomes of a chunk exactly when one of its edits is out of place. -/
theorem outcome?_renderChunk_eq_none_iff (session : Session) (format : OutputFormat)
    (chunk : Chunk) (compiler : Compiler) (code : String) :
    (session.renderChunk format chunk compiler code).outcome? = none ↔
      ∃ pass, (ChunkPass.prepareChunk session.ledger format chunk code).result =
        .error (.failed ⟨pass, .misplacedEdit⟩) := by
  have compiled (session : Session) (passes : List ChunkPass) (code : String)
      (refusal : Option Trace) :
      (session.compilePrepared format chunk compiler passes code refusal).outcome? ≠ none := by
    unfold compilePrepared
    rcases session.assemble format passes code with ⟨_ | _, _⟩ <;> exact Option.some_ne_none _
  unfold renderChunk
  dsimp only
  cases (ChunkPass.prepareChunk session.ledger format chunk code).result with
  | ok text => simp [compiled]
  | error refusal =>
    cases refusal with
    | unreadable e => simp [compiled, ChunkPass.Refusal.trace?]
    | failed failed =>
      obtain ⟨pass, fault⟩ := failed
      cases fault <;> simp [compiled, ChunkPass.Refusal.trace?]

end Session
end ChunkBridge
