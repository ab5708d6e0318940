import ChunkBridge.Proofs.Build.Records

/-!
# Modules that were given up

The passes over a module run in order, and any of them may leave records. If one fails, the records
that the passes up to it keep about the module are dropped, whether they were written now or before.
What is known of the contents of the module and the names that were issued stay, and no other record
is touched (`records_of_failed_module`). The keys of the records do not collide, for the kind of a
record is told by the first letters of its key.
-/

namespace ChunkBridge
open ChunkBridge.Text ChunkBridge.Script

/-! ## The record of some contents -/

/-- The record of the names that some contents export, after they were looked at: names that are
known stay, and a record of another type gives way. -/
def scanRecord (names : List String) : Option Record → Record
  | some ⟨.names known, phase⟩ => ⟨.names known, phase⟩
  | _ => ⟨.names names, .source⟩

/-- To look once more changes nothing. -/
theorem scanRecord_scanRecord (names : List String) (record : Option Record) :
    scanRecord names (some (scanRecord names record)) = scanRecord names record := by
  rcases record with _ | ⟨payload, phase⟩
  · rfl
  · cases payload <;> rfl

theorem scanRecord_of_known {store : Store} {key : String} {known : List String}
    (h : store.get? (List String) key = some known) (names : List String) :
    store.record? key = some (scanRecord names (store.record? key)) := by
  unfold Store.get? at h
  unfold Store.record?
  obtain ⟨⟨payload, phase⟩, there, typed⟩ := Option.bind_eq_some_iff.mp h
  rw [there]
  cases payload with
  | names value => rfl
  | text | number | externsFile => cases typed

theorem scanRecord_of_unknown {store : Store} {key : String}
    (h : store.get? (List String) key = none) (names : List String) :
    scanRecord names (store.record? key) = ⟨.names names, .source⟩ := by
  unfold Store.get? at h
  unfold Store.record?
  rcases there : store.records[key]? with _ | ⟨payload, phase⟩
  · rfl
  · rw [there] at h
    cases payload with
    | names value => cases h
    | text | number | externsFile => rfl

/-! ## Passes that run -/

namespace ModulePass
variable {unit : ModuleUnit} {front back : List ModulePass} {a b c : Session}

/-- A session, before and after some passes ran over a module: the names that were issued and the
records of other modules are as they were, and so is what is known of other contents. -/
structure Leaves (unit : ModuleUnit) (ran : List ModulePass) (before after : Session) : Prop where
  settings_eq : { before with ledger := after.ledger, store := after.store } = after
  ledger : before.ledger.Extends exportsScope after.ledger
  hashbang_eq : .hashbang ∉ ran →
    after.store.record? (hashbangKey unit.id) = before.store.record? (hashbangKey unit.id)
  exports_eq : .exportScan ∉ ran →
    after.store.record? (exportsKey unit.id) = before.store.record? (exportsKey unit.id)
  scan_eq : after.store.record? (scanKey unit.code) =
    if .exportScan ∈ ran then
      some (scanRecord unit.outline.exportedNames (before.store.record? (scanKey unit.code)))
    else before.store.record? (scanKey unit.code)
  other_eq : ∀ key, key ≠ hashbangKey unit.id → key ≠ exportsKey unit.id →
    key ≠ scanKey unit.code → after.store.record? key = before.store.record? key

namespace Leaves

/-- Passes that leave the session alone. -/
theorem idle (noScan : .exportScan ∉ front) (a : Session) : Leaves unit front a a where
  settings_eq := rfl
  ledger := .refl exportsScope a.ledger
  hashbang_eq _ := rfl
  exports_eq _ := rfl
  scan_eq := (if_neg noScan).symm
  other_eq _ _ _ _ := rfl

theorem trans (left : Leaves unit front a b) (right : Leaves unit back b c) :
    Leaves unit (front ++ back) a c where
  settings_eq := by rw [← right.settings_eq, ← left.settings_eq]
  ledger := left.ledger.trans right.ledger
  hashbang_eq none := by
    rw [List.mem_append, not_or] at none
    rw [right.hashbang_eq none.2, left.hashbang_eq none.1]
  exports_eq none := by
    rw [List.mem_append, not_or] at none
    rw [right.exports_eq none.2, left.exports_eq none.1]
  scan_eq := by
    rw [right.scan_eq, left.scan_eq]
    by_cases first : ModulePass.exportScan ∈ front <;>
      by_cases second : ModulePass.exportScan ∈ back <;>
        simp [first, second, scanRecord_scanRecord]
  other_eq key noHashbang noExports noScan := by
    rw [right.other_eq key noHashbang noExports noScan, left.other_eq key noHashbang noExports noScan]

end Leaves

theorem leaves_takeHashbang (unit : ModuleUnit) (p : Progress) :
    Leaves unit [.hashbang] p.session (takeHashbang unit p).session := by
  unfold takeHashbang
  cases unit.outline.hashbang with
  | none => exact .idle (by simp) p.session
  | some span =>
    have other {key : String} (apart : key ≠ hashbangKey unit.id) :
        (p.session.store.set (hashbangKey unit.id) (slice unit.code span) .source).record? key =
          p.session.store.record? key := by
      rw [Store.record?_set, if_neg apart.symm]
    refine ⟨rfl, .refl _ _, fun none => ?_, fun _ => ?_, ?_, fun key apart _ _ => other apart⟩
    · exact absurd (List.mem_singleton_self _) none
    · exact other (ne_hashbangKey (head?_exportsKey unit.id) unit.id)
    · rw [if_neg (by simp)]
      exact other (ne_hashbangKey (head?_scanKey unit.code) unit.id)

/-- To record the exports of a module, names are asked for in the scope of exports. -/
theorem extends_settle (names : List String) (session : Session) :
    session.ledger.Extends exportsScope (settle names session).ledger := by
  unfold settle
  induction names generalizing session with
  | nil => exact .refl exportsScope session.ledger
  | cons name names ih =>
    exact (session.ledger.extends_resolve name exportsScope).trans (ih (session.resolveExport name).2)

theorem extends_scanExports (unit : ModuleUnit) (session : Session) :
    session.ledger.Extends exportsScope (scanExports unit session).ledger := by
  unfold scanExports
  generalize session.store.getOrInsertWith (scanKey unit.code) .source
    (fun store => (unit.outline.exportedNames, store)) = fetched
  exact extends_settle fetched.value { session with store := fetched.store }

/-- Apart from the record of the module itself, its contents are recorded and nothing else. -/
theorem record?_scanExports (unit : ModuleUnit) (session : Session) {key : String}
    (other : exportsKey unit.id ≠ key) :
    (scanExports unit session).store.record? key =
      if scanKey unit.code = key then
        some (scanRecord unit.outline.exportedNames (session.store.record? key))
      else session.store.record? key := by
  unfold scanExports
  rw [Store.getOrInsertWith_of_idle]
  cases known : session.store.get? (List String) (scanKey unit.code) with
  | some names =>
    simp only [settle_eq, Store.record?_set, if_neg other]
    split
    next same =>
      subst same
      exact scanRecord_of_known known unit.outline.exportedNames
    next => rfl
  | none =>
    simp only [settle_eq, Store.record?_set, if_neg other]
    split
    next same =>
      subst same
      rw [scanRecord_of_unknown known]
      rfl
    next => rfl

theorem leaves_scanExports (unit : ModuleUnit) (session : Session) :
    Leaves unit [.exportScan] session (scanExports unit session) where
  settings_eq := by
    obtain ⟨ledger, names, scanned, -, same⟩ := scanExports_eq unit session
    rw [same]
  ledger := extends_scanExports unit session
  hashbang_eq _ := by
    have noExports := ne_hashbangKey (head?_exportsKey unit.id) unit.id
    rw [record?_scanExports unit session noExports,
      if_neg (ne_hashbangKey (head?_scanKey unit.code) unit.id)]
  exports_eq none := absurd (List.mem_singleton_self _) none
  scan_eq := by
    rw [record?_scanExports unit session (Store.exportsKey_ne_scanKey unit.id unit.code), if_pos rfl,
      if_pos (List.mem_singleton_self _)]
  other_eq key _ noExports noScan := by
    rw [record?_scanExports unit session noExports.symm, if_neg noScan.symm]

/-- Every pass runs but for the one that gives up. -/
theorem exists_run {pass : ModulePass} (runs : pass ≠ .halfDone) (unit : ModuleUnit)
    (p : Progress) :
    ∃ q, pass.run unit p = .ok q ∧ Leaves unit [pass] p.session q.session := by
  cases pass with
  | hashbang => exact ⟨_, rfl, leaves_takeHashbang unit p⟩
  | exportScan => exact ⟨_, rfl, leaves_scanExports unit p.session⟩
  | banner text => exact ⟨_, rfl, .idle (by simp) p.session⟩
  | halfDone => exact absurd rfl runs

/-- Passes of which none gives up run to the end, and then it is the turn of those behind them. -/
theorem exists_runAll_append (all : .halfDone ∉ front) (back ran : List ModulePass)
    (unit : ModuleUnit) (p : Progress) :
    ∃ q, Leaves unit front p.session q.session ∧
      runAll unit ran p (front ++ back) = runAll unit (front.reverse ++ ran) q back := by
  induction front generalizing ran p with
  | nil => exact ⟨p, .idle (by simp) p.session, rfl⟩
  | cons pass front ih =>
    rw [List.mem_cons, not_or] at all
    obtain ⟨middle, runs, first⟩ := exists_run (Ne.symm all.1) unit p
    obtain ⟨q, rest, same⟩ := ih all.2 (pass :: ran) middle
    refine ⟨q, first.trans rest, ?_⟩
    -- Passes that ran are held the latest first, so those in front come out in reverse.
    rw [List.cons_append, runAll, runs]
    dsimp only
    rw [same, List.reverse_cons, List.append_assoc]
    rfl

/-! ## Records that are dropped -/

/-- What some passes drop is what they keep about the module. -/
theorem record?_foldl_discard (id key : String) (passes : List ModulePass) (store : Store) :
    (passes.foldl (discard id) store).record? key =
      if .hashbang ∈ passes ∧ hashbangKey id = key ∨ .exportScan ∈ passes ∧ exportsKey id = key then
        none
      else store.record? key := by
  induction passes generalizing store with
  | nil => simp
  | cons pass passes ih =>
    rw [List.foldl_cons, ih]
    cases pass with
    | hashbang =>
      simp only [discard, Store.record?_remove]
      by_cases here : hashbangKey id = key <;> simp [here]
    | exportScan =>
      simp only [discard, Store.record?_remove]
      by_cases here : exportsKey id = key <;> simp [here]
    | banner text => simp [discard]
    | halfDone => simp [discard]

end ModulePass

/-- A session, before and after a module was given up, with the passes in `ran` over before the one
that failed. -/
structure Session.GivesUp (before : Session) (unit : ModuleUnit) (ran : List ModulePass)
    (after : Session) : Prop where
  /-- No line is kept for the chunk of the module if it was looked for one. -/
  hashbang_eq : after.store.record? (hashbangKey unit.id) =
    if .hashbang ∈ ran then none else before.store.record? (hashbangKey unit.id)
  /-- No exports are recorded for the module if it was looked for them. -/
  exports_eq : after.store.record? (exportsKey unit.id) =
    if .exportScan ∈ ran then none else before.store.record? (exportsKey unit.id)
  /-- What the contents export stays known. -/
  scan_eq : after.store.record? (scanKey unit.code) =
    if .exportScan ∈ ran then
      some (scanRecord unit.outline.exportedNames (before.store.record? (scanKey unit.code)))
    else before.store.record? (scanKey unit.code)
  other_eq : ∀ key, key ≠ hashbangKey unit.id → key ≠ exportsKey unit.id →
    key ≠ scanKey unit.code → after.store.record? key = before.store.record? key
  issued : ∀ n s m, before.ledger.issued? n s = some m → after.ledger.issued? n s = some m
  settings_eq : { before with ledger := after.ledger, store := after.store } = after

namespace ModulePass
variable {unit : ModuleUnit} {front : List ModulePass} {before after : Session}

/-- What the passes leave of the records of a module is dropped behind them. -/
theorem Leaves.givesUp (leaves : Leaves unit front before after) (dropped : List ModulePass)
    (hashbang : .hashbang ∈ dropped ↔ .hashbang ∈ front)
    (exportScan : .exportScan ∈ dropped ↔ .exportScan ∈ front) :
    before.GivesUp unit front
      { after with store := dropped.foldl (discard unit.id) after.store } where
  hashbang_eq := by
    have apart := ne_hashbangKey (head?_exportsKey unit.id) unit.id
    simp only [record?_foldl_discard, hashbang, and_true, apart, and_false, or_false]
    by_cases looked : ModulePass.hashbang ∈ front
    · rw [if_pos looked, if_pos looked]
    · rw [if_neg looked, if_neg looked, leaves.hashbang_eq looked]
  exports_eq := by
    have apart := (ne_hashbangKey (head?_exportsKey unit.id) unit.id).symm
    simp only [record?_foldl_discard, exportScan, and_true, apart, and_false, false_or]
    by_cases looked : ModulePass.exportScan ∈ front
    · rw [if_pos looked, if_pos looked]
    · rw [if_neg looked, if_neg looked, leaves.exports_eq looked]
  scan_eq := by
    have noHashbang := (ne_hashbangKey (head?_scanKey unit.code) unit.id).symm
    have noExports := Store.exportsKey_ne_scanKey unit.id unit.code
    simp only [record?_foldl_discard, noHashbang, noExports, and_false, or_self, if_false]
    exact leaves.scan_eq
  other_eq key noHashbang noExports noScan := by
    simp only [record?_foldl_discard, noHashbang.symm, noExports.symm, and_false, or_self, if_false]
    exact leaves.other_eq key noHashbang noExports noScan
  issued := leaves.ledger.issued
  settings_eq := by rw [← leaves.settings_eq]

end ModulePass

namespace Session

variable {session : Session} {id code : String} {passes : List ModulePass} {outline : Outline}

/-- A module that is read goes through its passes. -/
theorem prepareModule_of_outlined (nonempty : passes ≠ [])
    (outlined : Outline.ofSource (.ofId id) code = .ok outline) :
    session.prepareModule id code passes =
      match ModulePass.runAll ⟨id, code, outline⟩ [] ⟨session, .ofText code⟩ passes with
      | .error setback => (.failed setback.failure, setback.session)
      | .ok ⟨session, buffer⟩ =>
        if buffer.text = code then (.unchanged, session)
        else (.transformed ⟨buffer.text, some (buffer.sourceMap id)⟩, session) := by
  have isEmpty : passes.isEmpty = false := by simpa using nonempty
  rw [prepareModule, isEmpty, outlined]
  rfl

/-- A module of which no pass gives up has an outcome. -/
theorem prepareModule_of_whole (outlined : Outline.ofSource (.ofId id) code = .ok outline)
    (whole : .halfDone ∉ passes) (failure : Failure) :
    (session.prepareModule id code passes).1 ≠ .failed failure := by
  by_cases none : passes = []
  · simp [prepareModule, none]
  · obtain ⟨q, -, ran⟩ := ModulePass.exists_runAll_append whole [] [] ⟨id, code, outline⟩
      ⟨session, .ofText code⟩
    rw [List.append_nil] at ran
    rw [prepareModule_of_outlined none outlined, ran]
    dsimp only [ModulePass.runAll]
    split <;> intro same <;> cases same

/-- The first pass that gives up ends the preparation of a module. -/
theorem prepareModule_of_halfDone (outlined : Outline.ofSource (.ofId id) code = .ok outline)
    {front back : List ModulePass} (split : passes = front ++ .halfDone :: back)
    (first : .halfDone ∉ front) :
    (session.prepareModule id code passes).1 =
        .failed ⟨.sourceTransform, ⟨"throwing failed", ["boom"]⟩⟩ ∧
      session.GivesUp ⟨id, code, outline⟩ front (session.prepareModule id code passes).2 := by
  obtain ⟨q, leaves, ran⟩ := ModulePass.exists_runAll_append first (.halfDone :: back) []
    ⟨id, code, outline⟩ ⟨session, .ofText code⟩
  rw [prepareModule_of_outlined (by simp [split]) outlined, split, ran, List.append_nil]
  exact ⟨rfl, leaves.givesUp (.halfDone :: front.reverse) (by simp) (by simp)⟩

/-- Preparing a module fails exactly if the module is no script or one of the passes gives up. If it
is no script, nothing changes. If a pass gives up, the records about the module that it and the
passes before it keep are gone, also those that were there from the start. Of all other records only
that of the contents of the module may have changed, which is there if exports were looked for. And
every name that was issued is called as it was. -/
theorem records_of_failed_module (session : Session) (id code : String)
    (passes : List ModulePass) :
    let prepared := session.prepareModule id code passes
    ((∃ failure, prepared.1 = .failed failure) ↔
      passes ≠ [] ∧ ((∃ e, Outline.ofSource (.ofId id) code = .error e) ∨ .halfDone ∈ passes)) ∧
    ∀ failure, prepared.1 = .failed failure →
      failure.stage = .parse ∧ prepared.2 = session ∨
      failure.stage = .sourceTransform ∧
        ∃ outline front back, Outline.ofSource (.ofId id) code = .ok outline ∧
          passes = front ++ .halfDone :: back ∧ .halfDone ∉ front ∧
          session.GivesUp ⟨id, code, outline⟩ front prepared.2 := by
  intro prepared
  cases outlined : Outline.ofSource (.ofId id) code with
  | error e =>
    by_cases none : passes = []
    · simp [prepared, prepareModule, none]
    · have refused : prepared = (.failed ⟨.parse, e.trace⟩, session) := by
        simp [prepared, prepareModule, none, outlined]
      simp [refused, none]
  | ok outline =>
    by_cases given : ModulePass.halfDone ∈ passes
    · obtain ⟨front, back, split, first⟩ := List.eq_append_cons_of_mem given
      obtain ⟨failed, givesUp⟩ := session.prepareModule_of_halfDone outlined split first
      refine ⟨⟨fun _ => ⟨List.ne_nil_of_mem given, .inr given⟩, fun _ => ⟨_, failed⟩⟩, ?_⟩
      intro failure told
      cases failed.symm.trans told
      exact .inr ⟨rfl, outline, front, back, rfl, split, first, givesUp⟩
    · have whole (failure : Failure) : prepared.1 ≠ .failed failure :=
        prepareModule_of_whole outlined given failure
      simp [whole, given]

/-- A line that was kept before is dropped too, and the lines of other modules are not. -/
example :
    let store := (({} : Store).set (hashbangKey "/src/a.js") "#!before" .source).set
      (hashbangKey "/src/b.js") "#!other" .source
    let left := (prepareModule { store } "/src/a.js" "export const x = 1;\n"
      [.hashbang, .exportScan, .halfDone]).2
    left.store.hashbang? "/src/a.js" = none ∧ left.store.hashbang? "/src/b.js" = some "#!other" ∧
      left.store.get? (List String) (exportsKey "/src/a.js") = none ∧
      left.ledger.issued? "x" exportsScope = some "a" := by
  decide +kernel

end Session
end ChunkBridge
