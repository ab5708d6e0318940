import ChunkBridge.Proofs.Build.Independence
import ChunkBridge.Proofs.Build.Records

/-!
# Numbers of scratch files

The paths of scratch files are made up while a build runs. Two builds that differ in the numbers of
their files, and in nothing else (`Session.Renumbered`), go on to differ in nothing else: modules
become the same (`prepareModule_of_renumbered`), and so do chunks, as long as the compiler goes by
what is in its files (`renderChunk_of_renumbered`).
-/

namespace ChunkBridge
open ChunkBridge.Text
open Assembled (externsKey externsFile generatedExterns)

/-! ## Records without numbers -/

/-- What a record holds, with a file as its contents. -/
def Payload.masked : Payload → Payload
  | .externsFile file => .externsFile file.masked
  | payload => payload

def Record.masked (record : Record) : Record := { record with payload := record.payload.masked }

namespace Store

/-- The stores hold the same, up to the numbers of files. -/
def Renumbered (a b : Store) : Prop :=
  ∀ key, (a.record? key).map Record.masked = (b.record? key).map Record.masked

namespace Renumbered
variable {a b : Store}

/-- The same kind of value is found, up to the number of a file. -/
theorem map_get?_eq {α : Type} [PayloadType α] {f : α → α}
    (commutes : ∀ payload : Payload, (PayloadType.unwrap? payload.masked : Option α) =
      (PayloadType.unwrap? payload).map f)
    (same : a.Renumbered b) (key : String) : (a.get? α key).map f = (b.get? α key).map f := by
  have read (store : Store) : (store.get? α key).map f =
      ((store.record? key).map Record.masked).bind fun record =>
        PayloadType.unwrap? record.payload := by
    unfold get? record?
    cases store.records[key]? with
    | none => rfl
    | some record => exact (commutes record.payload).symm
  rw [read, read, same key]

theorem text_eq (same : a.Renumbered b) (key : String) : a.get? String key = b.get? String key := by
  simpa using same.map_get?_eq (f := id) (fun payload => by cases payload <;> rfl) key

theorem names_eq (same : a.Renumbered b) (key : String) :
    a.get? (List String) key = b.get? (List String) key := by
  simpa using same.map_get?_eq (f := id) (fun payload => by cases payload <;> rfl) key

theorem file_eq (same : a.Renumbered b) (key : String) :
    (a.get? ScratchFile key).map ScratchFile.masked =
      (b.get? ScratchFile key).map ScratchFile.masked :=
  same.map_get?_eq (fun payload => by cases payload <;> rfl) key

/-- Values that differ in the number of a file may be written. -/
theorem set {α : Type} [PayloadType α] (same : a.Renumbered b) (key : String) {value other : α}
    (equal : (PayloadType.wrap value).masked = (PayloadType.wrap other).masked) (phase : Phase) :
    (a.set key value phase).Renumbered (b.set key other phase) := by
  intro name
  rw [record?_set, record?_set]
  split
  · exact congrArg (fun payload => some (Record.mk payload phase)) equal
  · exact same name

/-- The same value may be written. -/
theorem write {α : Type} [PayloadType α] (same : a.Renumbered b) (key : String) (value : α)
    (phase : Phase) : (a.set key value phase).Renumbered (b.set key value phase) :=
  same.set key rfl phase

theorem remove (same : a.Renumbered b) (key : String) : (a.remove key).Renumbered (b.remove key) := by
  intro name
  rw [record?_remove, record?_remove]
  split
  · rfl
  · exact same name

end Renumbered
end Store

/-! ## Builds -/

/-- The builds differ in the numbers of scratch files, and in nothing else. -/
structure Session.Renumbered (s t : Session) : Prop where
  filter_eq : s.filter = t.filter
  flags_eq : s.flags = t.flags
  input_eq : s.input = t.input
  ledger_eq : s.ledger = t.ledger
  store : s.store.Renumbered t.store

namespace Session.Renumbered
variable {s t : Session}

/-- The number of the next file can be anything. -/
theorem of_scratchFiles (s : Session) (m n : Nat) :
    Renumbered { s with scratchFiles := m } { s with scratchFiles := n } :=
  ⟨rfl, rfl, rfl, rfl, fun _ => rfl⟩

theorem with_ledger (same : s.Renumbered t) (ledger : Ledger) :
    Renumbered { s with ledger } { t with ledger } :=
  ⟨same.filter_eq, same.flags_eq, same.input_eq, rfl, same.store⟩

theorem with_store (same : s.Renumbered t) {a b : Store} (store : a.Renumbered b) :
    Renumbered { s with store := a } { t with store := b } :=
  ⟨same.filter_eq, same.flags_eq, same.input_eq, same.ledger_eq, store⟩

theorem with_scratchFiles (same : s.Renumbered t) (m n : Nat) :
    Renumbered { s with scratchFiles := m } { t with scratchFiles := n } :=
  ⟨same.filter_eq, same.flags_eq, same.input_eq, same.ledger_eq, same.store⟩

theorem alike (same : s.Renumbered t) : s.Alike t where
  flags_eq := same.flags_eq.symm
  hashbang?_eq id := (same.store.text_eq (hashbangKey id)).symm
  ledger := same.ledger_eq ▸ .refl s.ledger

end Session.Renumbered

/-! ## Modules -/

namespace ModulePass
variable {s t : Session} {p q : Progress}

/-- The text of the module is the same, and so is the build up to the numbers of files. -/
structure Progress.Renumbered (p q : Progress) : Prop where
  session : p.session.Renumbered q.session
  buffer_eq : p.buffer = q.buffer

theorem takeHashbang_of_renumbered (unit : ModuleUnit) (same : p.Renumbered q) :
    (takeHashbang unit p).Renumbered (takeHashbang unit q) := by
  unfold takeHashbang
  cases unit.outline.hashbang with
  | none => exact same
  | some span =>
    exact ⟨same.session.with_store (same.session.store.write _ _ _), by simp only [same.buffer_eq]⟩

theorem scanExports_of_renumbered (unit : ModuleUnit) (same : s.Renumbered t) :
    (scanExports unit s).Renumbered (scanExports unit t) := by
  unfold scanExports
  simp only [Store.getOrInsertWith_of_idle, settle_eq, same.store.names_eq, same.ledger_eq]
  cases t.store.get? (List String) (scanKey unit.code) with
  | some names =>
    exact ⟨same.filter_eq, same.flags_eq, same.input_eq, rfl, same.store.write _ names .source⟩
  | none =>
    have scanned := same.store.write (scanKey unit.code) unit.outline.exportedNames .source
    exact ⟨same.filter_eq, same.flags_eq, same.input_eq, rfl, scanned.write _ _ .source⟩

/-- A pass goes on, or it fails in the same way. -/
theorem run_of_renumbered (unit : ModuleUnit) (same : p.Renumbered q) (pass : ModulePass) :
    (∃ p' q', pass.run unit p = .ok p' ∧ pass.run unit q = .ok q' ∧ p'.Renumbered q') ∨
      ∃ trace, pass.run unit p = .error trace ∧ pass.run unit q = .error trace := by
  cases pass with
  | hashbang => exact .inl ⟨_, _, rfl, rfl, takeHashbang_of_renumbered unit same⟩
  | exportScan =>
    exact .inl ⟨_, _, rfl, rfl, scanExports_of_renumbered unit same.session, same.buffer_eq⟩
  | banner text =>
    exact .inl ⟨_, _, rfl, rfl, same.session, congrArg (Buffer.prepend · text.toList) same.buffer_eq⟩
  | halfDone => exact .inr ⟨_, rfl, rfl⟩

theorem discard_of_renumbered (id : String) {a b : Store} (same : a.Renumbered b)
    (passes : List ModulePass) :
    (passes.foldl (discard id) a).Renumbered (passes.foldl (discard id) b) := by
  induction passes generalizing a b with
  | nil => exact same
  | cons pass passes ih =>
    refine ih ?_
    cases pass with
    | hashbang => exact same.remove _
    | exportScan => exact same.remove _
    | banner text => exact same
    | halfDone => exact same

/-- The passes go through, or they fail in the same way. -/
theorem runAll_of_renumbered (unit : ModuleUnit) (ran : List ModulePass) (same : p.Renumbered q)
    (passes : List ModulePass) :
    (∃ p' q', runAll unit ran p passes = .ok p' ∧ runAll unit ran q passes = .ok q' ∧
        p'.Renumbered q') ∨
      ∃ failure s t, runAll unit ran p passes = .error ⟨failure, s⟩ ∧
        runAll unit ran q passes = .error ⟨failure, t⟩ ∧ s.Renumbered t := by
  induction passes generalizing ran p q with
  | nil => exact .inl ⟨p, q, rfl, rfl, same⟩
  | cons pass rest ih =>
    rw [runAll, runAll]
    rcases run_of_renumbered unit same pass with ⟨p', q', left, right, goesOn⟩ | ⟨trace, left, right⟩
    · simp only [left, right]
      exact ih _ goesOn
    · simp only [left, right]
      exact .inr ⟨_, _, _, rfl, rfl,
        same.session.with_store (discard_of_renumbered unit.id same.session.store _)⟩

end ModulePass

namespace Session
variable {s t : Session}

/-- A module becomes the same, whatever numbers files have. -/
theorem prepareModule_of_renumbered (same : s.Renumbered t) (id code : String)
    (passes : List ModulePass) :
    (s.prepareModule id code passes).1 = (t.prepareModule id code passes).1 ∧
      (s.prepareModule id code passes).2.Renumbered (t.prepareModule id code passes).2 := by
  unfold prepareModule
  split
  next => exact ⟨rfl, same⟩
  next =>
    split
    next => exact ⟨rfl, same⟩
    next outline _ =>
      have start : ModulePass.Progress.Renumbered ⟨s, .ofText code⟩ ⟨t, .ofText code⟩ := ⟨same, rfl⟩
      rcases ModulePass.runAll_of_renumbered ⟨id, code, outline⟩ [] start passes with
        ⟨⟨s', buffer⟩, ⟨t', buffer'⟩, left, right, after, equal⟩ | ⟨failure, s', t', left, right, after⟩
      · cases equal
        simp only [left, right]
        split
        next => exact ⟨rfl, after⟩
        next => exact ⟨rfl, after⟩
      · rw [left, right]
        exact ⟨rfl, after⟩

end Session

/-! ## Chunks -/

namespace Assembled
variable {s t : Session}

theorem externsFile_of_renumbered (text : String) (same : s.Renumbered t) :
    (externsFile text s).1.masked = (externsFile text t).1.masked ∧
      (externsFile text s).2.Renumbered (externsFile text t).2 := by
  have found := same.store.file_eq (externsKey text)
  unfold externsFile
  cases left : s.store.get? ScratchFile (externsKey text) with
  | some file =>
    cases right : t.store.get? ScratchFile (externsKey text) with
    | some other =>
      rw [left, right] at found
      exact ⟨Option.some.inj found, same⟩
    | none =>
      rw [left, right] at found
      cases found
  | none =>
    cases right : t.store.get? ScratchFile (externsKey text) with
    | some other =>
      rw [left, right] at found
      cases found
    | none =>
      refine ⟨rfl, (same.with_scratchFiles _ _).with_store ?_⟩
      have equal : (PayloadType.wrap (s.writeFile text).1).masked =
          (PayloadType.wrap (t.writeFile text).1).masked := rfl
      exact same.store.set _ equal _

theorem generatedExterns_of_renumbered (passes : List ChunkPass) (same : s.Renumbered t) :
    (generatedExterns passes s).1.map FileName.masked =
        (generatedExterns passes t).1.map FileName.masked ∧
      (generatedExterns passes s).2.Renumbered (generatedExterns passes t).2 := by
  unfold generatedExterns
  by_cases none : (ChunkPass.externsText passes).isEmpty = true
  · simp only [if_pos none]
    exact ⟨trivial, same⟩
  · obtain ⟨file, after⟩ := externsFile_of_renumbered (ChunkPass.externsText passes) same
    simp only [if_neg none, List.map_cons, List.map_nil, FileName.masked, file]
    exact ⟨trivial, after⟩

end Assembled

/-- The same became of a chunk, up to the paths of files. -/
structure Rendered.Renumbered (a b : Rendered) : Prop where
  session : a.session.Renumbered b.session
  refusal_eq : a.refusal = b.refusal
  call_eq : a.call.map Invocation.masked = b.call.map Invocation.masked
  outcome?_eq : a.outcome?.map Outcome.masked = b.outcome?.map Outcome.masked

namespace Session
variable {s t : Session} {compiler : Compiler}

/-- The compiler is called with the same contents, or not at all. -/
theorem assemble_of_renumbered (same : s.Renumbered t) (format : OutputFormat)
    (passes : List ChunkPass) (code : String) :
    (s.assemble format passes code).1.map (fun assembled => assembled.invocation.masked) =
        (t.assemble format passes code).1.map (fun assembled => assembled.invocation.masked) ∧
      (s.assemble format passes code).2.Renumbered (t.assemble format passes code).2 := by
  unfold assemble
  rw [same.flags_eq]
  cases Flags.conflict? t.flags with
  | some conflict => exact ⟨rfl, same⟩
  | none =>
    obtain ⟨files, after⟩ := Assembled.generatedExterns_of_renumbered passes same
    refine ⟨?_, (after.with_scratchFiles _ _).with_scratchFiles _ _⟩
    simp only [Except.map, Except.ok.injEq, Invocation.masked_set, Assembled.masked_setExterns,
      List.map_append, files, after.flags_eq]
    rfl

theorem compilePrepared_of_renumbered (same : s.Renumbered t) (ignores : compiler.IgnoresPaths)
    (format : OutputFormat) (chunk : Chunk) (passes : List ChunkPass) (code : String)
    (refusal : Option Trace) :
    (s.compilePrepared format chunk compiler passes code refusal).Renumbered
      (t.compilePrepared format chunk compiler passes code refusal) := by
  obtain ⟨calls, after⟩ := assemble_of_renumbered same format passes code
  unfold compilePrepared
  generalize s.assemble format passes code = left at calls after ⊢
  generalize t.assemble format passes code = right at calls after ⊢
  obtain ⟨conflict | a, s'⟩ := left <;> obtain ⟨conflict' | b, t'⟩ := right
  · cases calls
    exact ⟨after, rfl, rfl, rfl⟩
  · cases calls
  · cases calls
  · have invocations : a.invocation.masked = b.invocation.masked := Except.ok.inj calls
    have compiled := compile_of_alike after.alike ignores format chunk passes invocations.symm
    refine ⟨after, rfl, congrArg some invocations, ?_⟩
    dsimp only at compiled ⊢
    generalize s'.compile format chunk passes compiler a = first at compiled ⊢
    generalize t'.compile format chunk passes compiler b = second at compiled ⊢
    cases first <;> cases second <;> simp_all [Except.mapError, Outcome.masked]

/-- The same becomes of a chunk, whatever numbers files have, if the compiler goes by what is in
them. -/
theorem renderChunk_of_renumbered (same : s.Renumbered t) (ignores : compiler.IgnoresPaths)
    (format : OutputFormat) (chunk : Chunk) (code : String) :
    (s.renderChunk format chunk compiler code).Renumbered
      (t.renderChunk format chunk compiler code) := by
  unfold renderChunk
  rw [same.ledger_eq]
  dsimp only
  have asked := same.with_ledger (ChunkPass.prepareChunk t.ledger format chunk code).ledger
  split
  next => exact compilePrepared_of_renumbered asked ignores ..
  next =>
    split
    next => exact ⟨asked, rfl, rfl, rfl⟩
    next => exact compilePrepared_of_renumbered asked ignores ..

end Session
end ChunkBridge
