import ChunkBridge.Store
import Mathlib.Logic.Function.Basic

/-!
# Computations over the store

A value that the store does not have is computed, and the computation may use the store itself: it
reads, writes and drops records, and it may ask for values that have to be computed in turn.
`StoreProgram.Runs` says what such a computation does to the records, told by their keys alone. The
store runs every computation by these rules (`StoreProgram.runs_run`), so the rules also say what is
left of a request for a value (`Store.getOrInsertWith_program`).
-/

namespace ChunkBridge

/-! ## Records by key -/

/-- What is recorded under each key at some moment. -/
abbrev Snapshot := String → Option Record

namespace Snapshot

/-- The value under a key, if it has the type asked for. -/
def value? (records : Snapshot) (α : Type) [PayloadType α] (key : String) : Option α :=
  (records key).bind fun record => PayloadType.unwrap? record.payload

/-- The records with another one under a key, or with none. -/
def put (records : Snapshot) (key : String) (record : Option Record) : Snapshot :=
  Function.update records key record

end Snapshot

namespace Store
variable {α : Type} [PayloadType α]

theorem isSome_record? (store : Store) (key : String) :
    (store.record? key).isSome = store.contains key := by
  simp [record?, contains]

theorem record?_set_eq_put (store : Store) (key : String) (value : α) (phase : Phase) :
    (store.set key value phase).record? =
      Snapshot.put store.record? key (some ⟨PayloadType.wrap value, phase⟩) := by
  funext name
  rw [record?_set, Snapshot.put, Function.update_apply]
  exact if_congr eq_comm rfl rfl

theorem record?_remove_eq_put (store : Store) (key : String) :
    (store.remove key).record? = Snapshot.put store.record? key none := by
  funext name
  rw [record?_remove, Snapshot.put, Function.update_apply]
  exact if_congr eq_comm rfl rfl

end Store

/-! ## Programs -/

/-- A computation that does some work on a store before it gives its value. What it does next may
depend on what it has read. -/
inductive StoreProgram : Type → Type 1 where
  | done {α : Type} (value : α) : StoreProgram α
  /-- Reads a value. -/
  | get {α : Type} (β : Type) [PayloadType β] (key : String) (next : Option β → StoreProgram α) :
    StoreProgram α
  /-- Writes a record. -/
  | set {α β : Type} [PayloadType β] (key : String) (value : β) (phase : Phase)
    (next : StoreProgram α) : StoreProgram α
  /-- Drops a record, and sees whether there was one. -/
  | remove {α : Type} (key : String) (next : Bool → StoreProgram α) : StoreProgram α
  /-- Asks for a value, with a computation for the case that there is none. -/
  | fetch {α β : Type} [PayloadType β] (key : String) (phase : Phase) (compute : StoreProgram β)
    (next : β → StoreProgram α) : StoreProgram α

namespace StoreProgram

/-- What a program leaves: its value, the store behind it, and the keys that it had to compute a
value for, each in front of those that this computation needed. -/
structure Ran (α : Type) where
  value : α
  store : Store
  computed : List String

/-- What the store gets to see of a computation. -/
def Ran.left {α : Type} (ran : Ran α) : α × Store := (ran.value, ran.store)

/-- Runs a program on a store. -/
def run : {α : Type} → StoreProgram α → Store → Ran α
  | _, .done value, store => ⟨value, store, []⟩
  | _, @get _ β _ key next, store => (next (store.get? β key)).run store
  | _, @set _ _ _ key value phase next, store => next.run (store.set key value phase)
  | _, .remove key next, store => (next (store.contains key)).run (store.remove key)
  | _, @fetch _ _ _ key phase compute next, store =>
    let fetched := store.getOrInsertWith key phase fun store => (compute.run store).left
    let inner := if fetched.computed then key :: (compute.run store).computed else []
    let rest := (next fetched.value).run fetched.store
    { rest with computed := inner ++ rest.computed }

/-- What a program does to records: the value that it gives, the records behind it, and the keys that
it computes a value for. -/
inductive Runs : {α : Type} → StoreProgram α → Snapshot → α → Snapshot → List String → Prop where
  | done {α : Type} (value : α) (records : Snapshot) : Runs (.done value) records value records []
  | get {α β : Type} [PayloadType β] {key : String} {next : Option β → StoreProgram α}
    {records after : Snapshot} {value : α} {computed : List String}
    (rest : Runs (next (records.value? β key)) records value after computed) :
    Runs (.get β key next) records value after computed
  | set {α β : Type} [PayloadType β] {key : String} {written : β} {phase : Phase}
    {next : StoreProgram α} {records after : Snapshot} {value : α} {computed : List String}
    (rest : Runs next (records.put key (some ⟨PayloadType.wrap written, phase⟩)) value after
      computed) :
    Runs (.set key written phase next) records value after computed
  | remove {α : Type} {key : String} {next : Bool → StoreProgram α} {records after : Snapshot}
    {value : α} {computed : List String}
    (rest : Runs (next (records key).isSome) (records.put key none) value after computed) :
    Runs (.remove key next) records value after computed
  /-- There is a value of the type asked for. -/
  | known {α β : Type} [PayloadType β] {key : String} {phase : Phase} {compute : StoreProgram β}
    {next : β → StoreProgram α} {records after : Snapshot} {found : β} {value : α}
    {computed : List String} (there : records.value? β key = some found)
    (rest : Runs (next found) records value after computed) :
    Runs (.fetch key phase compute next) records value after computed
  /-- There is none, but the computation has left one under the key. -/
  | left {α β : Type} [PayloadType β] {key : String} {phase : Phase} {compute : StoreProgram β}
    {next : β → StoreProgram α} {records between after : Snapshot} {made found : β} {value : α}
    {inner computed : List String} (missing : records.value? β key = none)
    (computes : Runs compute records made between inner)
    (there : between.value? β key = some found)
    (rest : Runs (next found) between value after computed) :
    Runs (.fetch key phase compute next) records value after (key :: inner ++ computed)
  /-- There is none, and what the computation gave is written. -/
  | made {α β : Type} [PayloadType β] {key : String} {phase : Phase} {compute : StoreProgram β}
    {next : β → StoreProgram α} {records between after : Snapshot} {made : β} {value : α}
    {inner computed : List String} (missing : records.value? β key = none)
    (computes : Runs compute records made between inner)
    (still : between.value? β key = none)
    (rest : Runs (next made) (between.put key (some ⟨PayloadType.wrap made, phase⟩)) value after
      computed) :
    Runs (.fetch key phase compute next) records value after (key :: inner ++ computed)

end StoreProgram

/-! ## One request -/

namespace Store
variable {α : Type} [PayloadType α] (store : Store) {key : String} (phase : Phase)

/-- What is there is given back, whatever would be computed. -/
theorem getOrInsertWith_of_known {value : α} (known : store.get? α key = some value)
    (compute : Store → α × Store) :
    store.getOrInsertWith key phase compute = ⟨value, false, store⟩ := by
  simp only [getOrInsertWith, known]

/-- What the computation has left under the key goes before what it gives. -/
theorem getOrInsertWith_of_left {compute : Store → α × Store} {value : α}
    (missing : store.get? α key = none) (there : (compute store).2.get? α key = some value) :
    store.getOrInsertWith key phase compute = ⟨value, true, (compute store).2⟩ := by
  simp only [getOrInsertWith, missing, there]

theorem getOrInsertWith_of_made {compute : Store → α × Store}
    (missing : store.get? α key = none) (still : (compute store).2.get? α key = none) :
    store.getOrInsertWith key phase compute =
      ⟨(compute store).1, true, (compute store).2.set key (compute store).1 phase⟩ := by
  simp only [getOrInsertWith, missing, still]

/-- What a request leaves, for a computation that is told by what it gives and leaves. -/
theorem getOrInsertWith_spec (key : String) (compute : Store → α × Store) :
    let fetched := store.getOrInsertWith key phase compute
    let made := (compute store).1
    let left := (compute store).2
    fetched.store.get? α key = some fetched.value ∧
    (fetched.computed = true ↔ store.get? α key = none) ∧
    (fetched.computed = false → fetched.store = store ∧
      ∀ other : Store → α × Store, store.getOrInsertWith key phase other = fetched) ∧
    (fetched.computed = true →
      (∀ value, left.get? α key = some value →
        fetched.value = value ∧ fetched.store.record? key = left.record? key) ∧
      (left.get? α key = none → fetched.value = made ∧
        fetched.store.record? key = some ⟨PayloadType.wrap made, phase⟩) ∧
      ∀ other, other ≠ key → fetched.store.record? other = left.record? other) := by
  intro fetched made left
  cases known : store.get? α key with
  | some value =>
    have same : fetched = ⟨value, false, store⟩ := store.getOrInsertWith_of_known phase known _
    rw [same]
    refine ⟨known, by simp, fun _ => ⟨rfl, fun other => ?_⟩, nofun⟩
    exact store.getOrInsertWith_of_known phase known other
  | none =>
    cases there : left.get? α key with
    | some value =>
      have same : fetched = ⟨value, true, left⟩ := store.getOrInsertWith_of_left phase known there
      rw [same]
      refine ⟨there, by simp, nofun, fun _ => ⟨?_, nofun, fun _ _ => rfl⟩⟩
      rintro _ ⟨⟩
      exact ⟨rfl, rfl⟩
    | none =>
      have same : fetched = ⟨made, true, left.set key made phase⟩ :=
        store.getOrInsertWith_of_made phase known there
      rw [same]
      refine ⟨by simp [get?_set], by simp, nofun, fun _ => ⟨nofun, fun _ => ⟨rfl, ?_⟩, ?_⟩⟩
      · simp [record?_set]
      · intro other apart
        rw [record?_set, if_neg apart.symm]

end Store

/-! ## Runs -/

namespace StoreProgram

/-- The store runs every program by the rules. The induction is on the program, so the programs that
are run in the middle of a request are covered as well. -/
theorem runs_run {α : Type} (program : StoreProgram α) (store : Store) :
    program.Runs store.record? (program.run store).value (program.run store).store.record?
      (program.run store).computed := by
  induction program generalizing store with
  | done value => exact .done value store.record?
  | get β key next ih => exact .get (ih _ store)
  | set key value phase next ih =>
    have rest := ih (store.set key value phase)
    rw [Store.record?_set_eq_put] at rest
    exact .set rest
  | remove key next ih =>
    have rest := ih (store.contains key) (store.remove key)
    rw [Store.record?_remove_eq_put, ← Store.isSome_record?] at rest
    rw [run, ← Store.isSome_record?]
    exact .remove rest
  | @fetch α β _ key phase compute next computes ih =>
    unfold run
    dsimp only
    cases known : store.get? β key with
    | some value =>
      rw [store.getOrInsertWith_of_known phase known]
      exact .known known (ih value store)
    | none =>
      have inner := computes store
      cases there : (compute.run store).store.get? β key with
      | some value =>
        rw [store.getOrInsertWith_of_left phase known there]
        exact .left known inner there (ih value _)
      | none =>
        rw [store.getOrInsertWith_of_made phase known there]
        have rest := ih (compute.run store).value
          ((compute.run store).store.set key (compute.run store).value phase)
        rw [Store.record?_set_eq_put] at rest
        exact .made known inner there rest

/-- A program has one course and one end. -/
theorem Runs.unique {α : Type} {program : StoreProgram α} {records after after' : Snapshot}
    {value value' : α} {computed computed' : List String}
    (one : program.Runs records value after computed)
    (other : program.Runs records value' after' computed') :
    value' = value ∧ after' = after ∧ computed' = computed := by
  induction one generalizing after' computed' with
  | done => cases other; exact ⟨rfl, rfl, rfl⟩
  | get _ ih => cases other with | get rest => exact ih rest
  | set _ ih => cases other with | set rest => exact ih rest
  | remove _ ih => cases other with | remove rest => exact ih rest
  | known there _ ih =>
    cases other with
    | known there' rest =>
      cases there.symm.trans there'
      exact ih rest
    | left missing => cases there.symm.trans missing
    | made missing => cases there.symm.trans missing
  | left missing _ there _ ihc ih =>
    cases other with
    | known there' => cases missing.symm.trans there'
    | left _ computes' there' rest =>
      obtain ⟨rfl, rfl, rfl⟩ := ihc computes'
      cases there.symm.trans there'
      obtain ⟨rfl, rfl, rfl⟩ := ih rest
      exact ⟨rfl, rfl, rfl⟩
    | made _ computes' still' =>
      obtain ⟨rfl, rfl, rfl⟩ := ihc computes'
      cases there.symm.trans still'
  | made missing _ still _ ihc ih =>
    cases other with
    | known there' => cases missing.symm.trans there'
    | left _ computes' there' =>
      obtain ⟨rfl, rfl, rfl⟩ := ihc computes'
      cases still.symm.trans there'
    | made _ computes' _ rest =>
      obtain ⟨rfl, rfl, rfl⟩ := ihc computes'
      obtain ⟨rfl, rfl, rfl⟩ := ih rest
      exact ⟨rfl, rfl, rfl⟩

end StoreProgram

namespace Store
variable {α : Type} [PayloadType α]

/-- Asking for a value with any computation for the case that there is none. In the end the value is
there. The computation runs exactly if there was no value of the type asked for; otherwise nothing
depends on it, and the store is as it was. If it ran, a value of the type that it has left under the
key stays in its record and is given back, and if it has left none, what it gave is recorded with the
phase of the request. All other records are as it has left them. -/
theorem getOrInsertWith_program (store : Store) (key : String) (phase : Phase)
    (compute : StoreProgram α) :
    let fetched := store.getOrInsertWith key phase fun store => (compute.run store).left
    ∃ made left inner, compute.Runs store.record? made left inner ∧
      (∀ value after computed,
        (StoreProgram.fetch key phase compute .done).Runs store.record? value after computed ↔
          value = fetched.value ∧ after = fetched.store.record? ∧
            computed = if fetched.computed then key :: inner else []) ∧
      fetched.store.get? α key = some fetched.value ∧
      (fetched.computed = true ↔ store.get? α key = none) ∧
      (fetched.computed = false → fetched.store = store ∧
        ∀ other : Store → α × Store, store.getOrInsertWith key phase other = fetched) ∧
      (fetched.computed = true →
        (∀ value, left.value? α key = some value →
          fetched.value = value ∧ fetched.store.record? key = left key) ∧
        (left.value? α key = none → fetched.value = made ∧
          fetched.store.record? key = some ⟨PayloadType.wrap made, phase⟩) ∧
        ∀ other, other ≠ key → fetched.store.record? other = left other) := by
  intro fetched
  let request : StoreProgram α := .fetch key phase compute .done
  have inner := compute.runs_run store
  have whole : request.Runs store.record? fetched.value fetched.store.record?
      (if fetched.computed then key :: (compute.run store).computed else []) := by
    have runs := request.runs_run store
    simpa [request, StoreProgram.run, fetched] using runs
  refine ⟨_, _, _, inner, fun value after computed => ⟨whole.unique, ?_⟩,
    store.getOrInsertWith_spec phase key _⟩
  rintro ⟨rfl, rfl, rfl⟩
  exact whole

/-- A value that the computation itself asked for goes before the one that it gives. -/
example :
    let compute : StoreProgram String :=
      .set "key" (7 : Int) .source (.fetch "key" .chunk (.done "inner") fun _ => .done "outer")
    let fetched := ({} : Store).getOrInsertWith "key" .source fun store => (compute.run store).left
    fetched.value = "inner" ∧ fetched.store.phase? "key" = some .chunk := by
  decide +kernel

end Store
end ChunkBridge
