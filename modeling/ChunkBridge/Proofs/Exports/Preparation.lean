import ChunkBridge.Chunk.Pass
import ChunkBridge.Proofs.Ledger.Calls

/-!
# How exports are prepared

Before compilation a chunk's exports are turned into assignments statement by statement. What a
step of that does to the work on a chunk is said once, by what it takes (`Work.Takes`): the names
it requests from the ledger, the edits and the lines it plans. Steps one after the other take what
each of them takes, so the whole pass takes what its statements take (`takes_reviseAll`). What is said
of steps whether they succeed or not is carried to the whole pass by `Composes.reviseAll`.
-/

namespace ChunkBridge
open ChunkBridge.Text ChunkBridge.Script

namespace Script

/-- The names that a statement exports and that are not another module's. -/
def ItemKind.localExports : ItemKind → List String
  | .exportDeclaration _ names => names
  | .exportNames pairs => pairs.map Prod.snd
  | .exportDefaultDeclaration .. | .exportDefaultExpression _ => [Exports.defaultName]
  | .imports _ | .reExport _ | .bridges _ | .other => []

/-- The names that a script exports and that are not another module's. -/
def Outline.localExports (outline : Outline) : List String :=
  outline.items.flatMap fun item => item.kind.localExports

end Script

namespace Exports

/-! ## What the steps are made of -/

theorem run_bind {α β : Type} (step : Step α) (next : α → Step β) (work : Work) :
    (step >>= next).run work =
      match step.run work with
      | (.ok a, middle) => (next a).run middle
      | (.error fault, middle) => (.error fault, middle) := by
  simp only [ExceptT.run_bind]
  show (step.run >>= _) work = _
  simp only [bind, StateT.bind]
  rcases step.run work with ⟨_ | _, _⟩ <;> rfl

theorem run_pure {α : Type} (a : α) (work : Work) :
    (pure a : Step α).run work = (.ok a, work) := rfl

theorem run_get (work : Work) : (get : Step Work).run work = (.ok work, work) := rfl

theorem run_set (work new : Work) : (set new : Step PUnit).run work = (.ok (), new) := rfl

theorem run_throw {α : Type} (fault : PassFault) (work : Work) :
    (throw fault : Step α).run work = (.error fault, work) := rfl

/-- A sequence of steps has a result only if each of them has one. -/
theorem ok_of_run_bind {α β : Type} {step : Step α} {next : α → Step β} {work after : Work}
    {b : β} (h : (step >>= next).run work = (.ok b, after)) :
    ∃ a middle, step.run work = (.ok a, middle) ∧ (next a).run middle = (.ok b, after) := by
  rw [run_bind] at h
  rcases first : step.run work with ⟨fault | a, middle⟩
  · rw [first] at h
    cases h
  · rw [first] at h
    exact ⟨a, middle, rfl, h⟩

/-- A name is resolved, and the chunk may not assign its bridge on its own. -/
theorem run_bridge (exported : String) (work : Work) :
    (bridge exported).run work =
      let resolved := work.ledger.resolve exported exportsScope
      if work.memo.globals.contains resolved.1 then
        (.error (.takenBridge resolved.1 exported), { work with ledger := resolved.2 })
      else
        (.ok resolved.1,
          { work with
            ledger := resolved.2
            memo := { work.memo with bridges := insertNew work.memo.bridges resolved.1 } }) := by
  simp only [bridge, run_bind, run_get, run_set]
  split <;> simp only [run_bind, run_throw, run_set, run_pure]

/-- An edit is planned if it fits. -/
theorem run_plan (source : List Char) (e : Edit) (work : Work) :
    (plan source e).run work =
      if e.fits source then (.ok (), { work with edits := work.edits ++ [e] })
      else (.error .misplacedEdit, work) := by
  unfold plan
  cases e.fits source <;> rfl

/-- An assignment is planned behind the resolution of its bridge. -/
theorem run_assign (exported value : String) (work : Work) :
    (assign exported value).run work =
      match (bridge exported).run work with
      | (.ok name, after) =>
        (.ok (), { after with lines := after.lines ++ [assignment name value] })
      | (.error fault, after) => (.error fault, after) := by
  simp only [assign, run_bind]
  rcases (bridge exported).run work with ⟨_ | _, _⟩ <;> rfl

/-- A property that a sequence of steps has if each of them has it, and that the steps of the pass
have as far as they ask for names that may be asked for. -/
structure Composes (P : ∀ {α : Type}, Step α → Prop) (mayAsk : String → Prop) : Prop where
  pure : ∀ {α : Type} (a : α), P (pure a)
  throw : ∀ {α : Type} (fault : PassFault), P (throw fault : Step α)
  bind : ∀ {α β : Type} {step : Step α} {next : α → Step β},
    P step → (∀ a, P (next a)) → P (step >>= next)
  bridge : ∀ exported, mayAsk exported → P (bridge exported)
  plan : ∀ source e, P (plan source e)
  line : ∀ text : String,
    P (modify fun work : Work => { work with lines := work.lines ++ [text] } : Step Unit)
  revision : P (do
    let work ← get
    return { edits := work.edits, trailer := work.lines.flatMap fun line => '\n' :: line.toList } :
    Step Revision)

namespace Composes
variable {P : ∀ {α : Type}, Step α → Prop} {mayAsk : String → Prop}

theorem forM (composes : Composes P mayAsk) {α : Type} {step : α → Step Unit} (as : List α)
    (each : ∀ a ∈ as, P (step a)) : P (as.forM step) := by
  induction as with
  | nil => exact composes.pure ()
  | cons a as ih =>
    refine composes.bind (each a List.mem_cons_self) fun _ => ?_
    exact ih fun b member => each b (List.mem_cons_of_mem a member)

theorem assign (composes : Composes P mayAsk) {exported : String} (asks : mayAsk exported)
    (value : String) : P (assign exported value) :=
  composes.bind (composes.bridge exported asks) fun name => composes.line (assignment name value)

/-- Whatever a statement is, all that is asked for are the names that it exports. -/
theorem reviseItem (composes : Composes P mayAsk) (unit : ChunkUnit) {item : Item}
    (asks : ∀ name ∈ item.kind.localExports, mayAsk name) : P (reviseItem unit item) := by
  obtain ⟨span, kind⟩ := item
  cases kind with
  | imports | reExport | bridges | other => exact composes.pure ()
  | exportDeclaration declaration exported =>
    refine composes.bind (composes.plan _ _) fun _ => ?_
    exact composes.forM exported fun name member => composes.assign (asks name member) name
  | exportNames pairs =>
    refine composes.bind (composes.plan _ _) fun _ => composes.forM pairs fun pair member => ?_
    exact composes.assign (asks pair.2 (List.mem_map_of_mem member)) pair.1
  | exportDefaultDeclaration declaration name =>
    have default := asks defaultName List.mem_cons_self
    cases name with
    | some name => exact composes.bind (composes.plan _ _) fun _ => composes.assign default name
    | none =>
      have body (front back : Edit) : P (do
          Exports.plan unit.code.toList front
          Exports.plan unit.code.toList back
          Exports.assign defaultName defaultLocal) :=
        composes.bind (composes.plan _ _) fun _ => composes.bind (composes.plan _ _) fun _ =>
          composes.assign default defaultLocal
      unfold Exports.reviseItem
      dsimp only
      -- An open declaration is refused before anything is asked.
      split
      · exact body _ _
      · exact composes.bind (composes.throw _) fun _ => body _ _
  | exportDefaultExpression expression =>
    have default := asks defaultName List.mem_cons_self
    exact composes.bind (composes.bridge defaultName default) fun _ => composes.plan _ _

/-- So has the whole pass a property that its steps have. -/
theorem reviseAll (composes : Composes P mayAsk) (unit : ChunkUnit)
    (asks : ∀ name ∈ unit.outline.localExports, mayAsk name) : P (reviseAll unit) := by
  refine composes.bind (composes.forM unit.outline.items fun item member => ?_) fun _ =>
    composes.revision
  exact composes.reviseItem unit fun name own =>
    asks name (List.mem_flatMap.mpr ⟨item, member, own⟩)

end Composes

theorem mem_insertNew (names : List String) (name other : String) :
    other ∈ insertNew names name ↔ other ∈ names ∨ other = name := by
  unfold insertNew
  by_cases known : names.contains name = true
  · rw [if_pos known]
    constructor
    · exact .inl
    · rintro (h | rfl)
      · exact h
      · simpa using known
  · rw [if_neg known]
    simp

/-! ## What steps take -/

/-- The requests for the bridges of some exports. -/
def requests (names : List String) : List Ledger.Call :=
  names.map fun name => .resolve name exportsScope

/-- The function gives the bridges that the ledger has issued. -/
def Agrees (bridgeOf : String → String) (ledger : Ledger) : Prop :=
  ∀ name bridge, ledger.issued? name exportsScope = some bridge → bridgeOf name = bridge

/-- The bridges that a ledger has issued. -/
def bridgeOf (ledger : Ledger) (name : String) : String :=
  (ledger.issued? name exportsScope).getD ""

theorem agrees_bridgeOf (ledger : Ledger) : Agrees (bridgeOf ledger) ledger := by
  intro name bridge known
  rw [bridgeOf, known]
  rfl

/-- What was issued agrees with what is known later. -/
theorem Agrees.before {bridgeOf : String → String} {ledger : Ledger} {calls : List Ledger.Call}
    (agrees : Agrees bridgeOf (ledger.after calls)) : Agrees bridgeOf ledger :=
  fun name bridge known => agrees name bridge (Ledger.issued?_after known calls)

/-- The work on a chunk, before and after it has requested the bridges of `names` and planned some
edits and lines. Those may hold bridges, so they are given for any function that agrees with the
ledger on them. -/
structure Work.Takes (before after : Work) (names : List String)
    (edits : (String → String) → List Edit) (lines : (String → String) → List String) : Prop where
  ledger_eq : after.ledger = before.ledger.after (requests names)
  globals_eq : after.memo.globals = before.memo.globals
  bridges_iff : ∀ b, b ∈ after.memo.bridges ↔
    b ∈ before.memo.bridges ∨ ∃ name ∈ names, after.ledger.issued? name exportsScope = some b
  edits_eq : ∀ bridgeOf, Agrees bridgeOf after.ledger →
    after.edits = before.edits ++ edits bridgeOf
  lines_eq : ∀ bridgeOf, Agrees bridgeOf after.ledger →
    after.lines = before.lines ++ lines bridgeOf

namespace Work.Takes
variable {first second third : Work} {names more : List String}
variable {edits moreEdits : (String → String) → List Edit}
variable {lines moreLines : (String → String) → List String}

/-- A work that stays as it is takes nothing. -/
theorem refl (work : Work) : work.Takes work [] (fun _ => []) (fun _ => []) where
  ledger_eq := rfl
  globals_eq := rfl
  bridges_iff b := by simp
  edits_eq _ _ := (List.append_nil _).symm
  lines_eq _ _ := (List.append_nil _).symm

/-- Every name that was requested has its bridge. -/
theorem issued (takes : first.Takes second names edits lines) {name : String}
    (member : name ∈ names) : ∃ b, second.ledger.issued? name exportsScope = some b := by
  rw [takes.ledger_eq]
  exact Ledger.issued?_after_of_mem (List.mem_map.mpr ⟨name, member, rfl⟩)

/-- Two stretches of work take what each of them takes. -/
theorem trans (left : first.Takes second names edits lines)
    (right : second.Takes third more moreEdits moreLines) :
    first.Takes third (names ++ more) (fun f => edits f ++ moreEdits f)
      (fun f => lines f ++ moreLines f) where
  ledger_eq := by
    rw [right.ledger_eq, left.ledger_eq, ← Ledger.after_append, requests, requests, requests,
      List.map_append]
  globals_eq := right.globals_eq.trans left.globals_eq
  bridges_iff b := by
    have kept (name : String) (member : name ∈ names) :
        second.ledger.issued? name exportsScope = some b ↔
          third.ledger.issued? name exportsScope = some b := by
      obtain ⟨c, known⟩ := left.issued member
      have later := Ledger.issued?_after known (requests more)
      rw [← right.ledger_eq] at later
      rw [known, later]
    rw [right.bridges_iff, left.bridges_iff, or_assoc]
    simp only [List.mem_append, or_and_right, exists_or]
    refine or_congr_right (or_congr_left ?_)
    exact exists_congr fun name => and_congr_right fun member => kept name member
  edits_eq f agrees := by
    have sooner : Agrees f second.ledger := (right.ledger_eq ▸ agrees).before
    rw [right.edits_eq f agrees, left.edits_eq f sooner, List.append_assoc]
  lines_eq f agrees := by
    have sooner : Agrees f second.ledger := (right.ledger_eq ▸ agrees).before
    rw [right.lines_eq f agrees, left.lines_eq f sooner, List.append_assoc]

/-- The edits and lines may be told another way if that comes to the same on every function that
agrees with the ledger. -/
theorem congr (takes : first.Takes second names edits lines)
    (same : ∀ bridgeOf, Agrees bridgeOf second.ledger →
      edits bridgeOf = moreEdits bridgeOf ∧ lines bridgeOf = moreLines bridgeOf) :
    first.Takes second names moreEdits moreLines where
  ledger_eq := takes.ledger_eq
  globals_eq := takes.globals_eq
  bridges_iff := takes.bridges_iff
  edits_eq f agrees := by rw [takes.edits_eq f agrees, (same f agrees).1]
  lines_eq f agrees := by rw [takes.lines_eq f agrees, (same f agrees).2]

end Work.Takes

/-- A step takes so much whenever it has a result. -/
def StepTakes (step : Step Unit) (names : List String)
    (edits : (String → String) → List Edit) (lines : (String → String) → List String) : Prop :=
  ∀ ⦃before after : Work⦄, step.run before = (.ok (), after) → before.Takes after names edits lines

/-- A step that does nothing takes nothing. -/
theorem takes_pure : StepTakes (pure ()) [] (fun _ => []) (fun _ => []) := by
  intro before after h
  rw [run_pure] at h
  cases h
  exact .refl before

/-- Two steps take what each of them takes. -/
theorem takes_bind {first second : Step Unit} {names more : List String}
    {edits moreEdits : (String → String) → List Edit}
    {lines moreLines : (String → String) → List String}
    (left : StepTakes first names edits lines) (right : StepTakes second more moreEdits moreLines) :
    StepTakes (do first; second) (names ++ more) (fun f => edits f ++ moreEdits f)
      (fun f => lines f ++ moreLines f) := by
  intro before after h
  obtain ⟨_, middle, h₁, h₂⟩ := ok_of_run_bind h
  exact (left h₁).trans (right h₂)

/-- Steps for the elements of a list take what each of them takes. -/
theorem takes_forM {α : Type} {step : α → Step Unit} {names : α → List String}
    {edits : α → (String → String) → List Edit} {lines : α → (String → String) → List String}
    (each : ∀ a, StepTakes (step a) (names a) (edits a) (lines a)) (as : List α) :
    StepTakes (as.forM step) (as.flatMap names) (fun f => as.flatMap fun a => edits a f)
      (fun f => as.flatMap fun a => lines a f) := by
  induction as with
  | nil => exact takes_pure
  | cons a as ih => exact takes_bind (each a) ih

/-- A bridge is requested, and it is the one that the ledger knows from then on. -/
theorem takes_bridge {exported name : String} {before after : Work}
    (h : (bridge exported).run before = (.ok name, after)) :
    before.Takes after [exported] (fun _ => []) (fun _ => []) ∧
      after.ledger.issued? exported exportsScope = some name := by
  rw [run_bridge] at h
  have known := before.ledger.issued?_resolve_self exported exportsScope
  dsimp only at h
  split at h
  · cases h
  · cases h
    refine ⟨⟨rfl, rfl, fun b => ?_, fun _ _ => (List.append_nil _).symm,
      fun _ _ => (List.append_nil _).symm⟩, known⟩
    simp only [mem_insertNew, List.mem_singleton, exists_eq_left, known, Option.some.injEq]
    exact or_congr_right eq_comm

/-- An edit is all that planning it takes. -/
theorem takes_plan (source : List Char) (e : Edit) :
    StepTakes (plan source e) [] (fun _ => [e]) (fun _ => []) := by
  intro before after h
  rw [run_plan] at h
  split at h
  · cases h
    exact ⟨rfl, rfl, fun b => by simp, fun _ _ => rfl, fun _ _ => (List.append_nil _).symm⟩
  · cases h

/-- An assignment takes a bridge and a line. -/
theorem takes_assign (exported value : String) :
    StepTakes (assign exported value) [exported] (fun _ => [])
      (fun f => [assignment (f exported) value]) := by
  intro before after h
  rw [run_assign] at h
  split at h
  next name middle first =>
    cases h
    obtain ⟨takes, known⟩ := takes_bridge first
    refine ⟨takes.ledger_eq, takes.globals_eq, takes.bridges_iff, takes.edits_eq, ?_⟩
    intro f agrees
    have same : f exported = name := agrees _ _ known
    show middle.lines ++ _ = _
    rw [takes.lines_eq f agrees, List.append_nil, same]
  next => cases h

/-- Assignments for the elements of a list take a bridge and a line each. -/
theorem takes_assignEach {α : Type} (exported value : α → String) (as : List α) :
    StepTakes (as.forM fun a => assign (exported a) (value a)) (as.map exported) (fun _ => [])
      (fun f => as.map fun a => assignment (f (exported a)) (value a)) := by
  induction as with
  | nil => exact takes_pure
  | cons a as ih => exact takes_bind (takes_assign (exported a) (value a)) ih

/-! ## What a chunk takes -/

/-- The edits of a statement, with the bridges that `bridgeOf` gives. -/
def itemEdits (bridgeOf : String → String) (item : Item) : List Edit :=
  match item.kind with
  | .exportDeclaration declaration _ | .exportDefaultDeclaration declaration (some _) =>
    [{ span := ⟨item.span.start, declaration.start⟩ }]
  | .exportNames _ => [{ span := item.span }]
  | .exportDefaultDeclaration declaration none =>
    [⟨⟨item.span.start, declaration.start⟩, ("const " ++ defaultLocal ++ " = ").toList⟩,
      ⟨⟨declaration.stop - 1, declaration.stop⟩, "\x7d;".toList⟩]
  | .exportDefaultExpression expression =>
    [⟨⟨item.span.start, expression.start⟩, (target (bridgeOf defaultName)).toList⟩]
  | .imports _ | .reExport _ | .bridges _ | .other => []

/-- The exports of a statement that are assigned at the end of the chunk, with their values. -/
def lateExports : ItemKind → List (String × String)
  | .exportDeclaration _ names => names.map fun name => (name, name)
  | .exportNames pairs => pairs.map Prod.swap
  | .exportDefaultDeclaration _ name => [(defaultName, name.getD defaultLocal)]
  | .imports _ | .reExport _ | .exportDefaultExpression _ | .bridges _ | .other => []

/-- The assignments at the end of a chunk that a statement causes. -/
def itemLines (bridgeOf : String → String) (item : Item) : List String :=
  (lateExports item.kind).map fun (exported, value) => assignment (bridgeOf exported) value

/-- A statement takes its exports, edits and lines. -/
theorem takes_reviseItem (unit : ChunkUnit) (item : Item) :
    StepTakes (reviseItem unit item) item.kind.localExports (fun f => itemEdits f item)
      (fun f => itemLines f item) := by
  obtain ⟨span, kind⟩ := item
  cases kind with
  | imports | reExport | bridges | other => exact takes_pure
  | exportDeclaration declaration names =>
    have takes := takes_bind
      (takes_plan unit.code.toList { span := ⟨span.start, declaration.start⟩ })
      (takes_assignEach (fun name => name) (fun name => name) names)
    simpa [reviseItem, itemEdits, itemLines, lateExports, ItemKind.localExports,
      Function.comp_def] using takes
  | exportNames pairs =>
    have takes := takes_bind (takes_plan unit.code.toList { span := span })
      (takes_assignEach Prod.snd Prod.fst pairs)
    simpa [reviseItem, itemEdits, itemLines, lateExports, ItemKind.localExports,
      Function.comp_def] using takes
  | exportDefaultDeclaration declaration name =>
    cases name with
    | some name =>
      exact takes_bind (takes_plan unit.code.toList { span := ⟨span.start, declaration.start⟩ })
        (takes_assign defaultName name)
    | none =>
      intro before after h
      simp only [reviseItem] at h
      split at h
      · exact takes_bind (takes_plan _ _) (takes_bind (takes_plan _ _) (takes_assign _ _)) h
      · cases h
  | exportDefaultExpression expression =>
    intro before after h
    obtain ⟨name, middle, first, second⟩ := ok_of_run_bind h
    obtain ⟨takes, known⟩ := takes_bridge first
    have planned := takes_plan _ _ second
    refine (takes.trans planned).congr fun f agrees => ⟨?_, rfl⟩
    have same : f defaultName = name := by
      refine agrees _ _ ?_
      rw [planned.ledger_eq]
      exact known
    rw [itemEdits, same]
    rfl

/-- A chunk that is accepted takes what its statements take, in order. -/
theorem takes_reviseAll {unit : ChunkUnit} {before after : Work} {revision : Revision}
    (h : (reviseAll unit).run before = (.ok revision, after)) :
    before.Takes after unit.outline.localExports
        (fun f => unit.outline.items.flatMap (itemEdits f))
        (fun f => unit.outline.items.flatMap (itemLines f)) ∧
      revision = ⟨after.edits, after.lines.flatMap fun line => '\n' :: line.toList⟩ := by
  obtain ⟨_, middle, first, second⟩ := ok_of_run_bind h
  rw [run_bind, run_get] at second
  cases second
  exact ⟨takes_forM (takes_reviseItem unit) unit.outline.items first, rfl⟩

/-- The calls that keep a ledger from issuing what a chunk assigns on its own. -/
def reservations (outline : Outline) : List Ledger.Call :=
  (globalsOf outline).map fun name => .reserve name exportsScope

theorem ledger_start (ledger : Ledger) (outline : Outline) :
    (Work.start ledger outline).ledger = ledger.after (reservations outline) := by
  simp only [Work.start, reservations, Ledger.after, List.foldl_map]
  rfl

/-- An accepted chunk has its exports assigned, each to the bridge that the ledger has for it. -/
theorem takes_prepare {unit : ChunkUnit} {before after : Ledger} {memo : Exports}
    {revision : Revision} (h : prepare unit before = (memo, after, .ok revision)) :
    ∃ work, (Work.start before unit.outline).Takes work unit.outline.localExports
        (fun f => unit.outline.items.flatMap (itemEdits f))
        (fun f => unit.outline.items.flatMap (itemLines f)) ∧
      memo = work.memo ∧ after = work.ledger ∧
      revision = ⟨work.edits, work.lines.flatMap fun line => '\n' :: line.toList⟩ := by
  unfold prepare at h
  rcases run : (reviseAll unit).run (.start before unit.outline) with ⟨result, work⟩
  rw [run] at h
  cases h
  obtain ⟨takes, told⟩ := takes_reviseAll run
  exact ⟨work, takes, rfl, rfl, told⟩

/-- The text behind a chunk: a line for each assignment. -/
def trailer (bridgeOf : String → String) (outline : Outline) : List Char :=
  (outline.items.flatMap (itemLines bridgeOf)).flatMap fun line => '\n' :: line.toList

/-- The revision of an accepted chunk is that of its statements, in order. -/
theorem revision_prepare {unit : ChunkUnit} {before after : Ledger} {memo : Exports}
    {revision : Revision} (h : prepare unit before = (memo, after, .ok revision))
    {bridgeOf : String → String} (agrees : Agrees bridgeOf after) :
    revision =
      ⟨unit.outline.items.flatMap (itemEdits bridgeOf), trailer bridgeOf unit.outline⟩ := by
  obtain ⟨work, takes, -, rfl, rfl⟩ := takes_prepare h
  rw [takes.edits_eq bridgeOf agrees, takes.lines_eq bridgeOf agrees]
  rfl

/-- The bridges of an accepted chunk are those of its exports. -/
theorem mem_bridges_prepare {unit : ChunkUnit} {before after : Ledger} {memo : Exports}
    {revision : Revision} (h : prepare unit before = (memo, after, .ok revision)) (b : String) :
    b ∈ memo.bridges ↔
      ∃ name ∈ unit.outline.localExports, after.issued? name exportsScope = some b := by
  obtain ⟨work, takes, rfl, rfl, -⟩ := takes_prepare h
  rw [takes.bridges_iff]
  exact or_iff_right List.not_mem_nil

/-- Every export of an accepted chunk has a bridge. -/
theorem issued_prepare {unit : ChunkUnit} {before after : Ledger} {memo : Exports}
    {revision : Revision} (h : prepare unit before = (memo, after, .ok revision)) {name : String}
    (member : name ∈ unit.outline.localExports) :
    ∃ b, after.issued? name exportsScope = some b := by
  obtain ⟨work, takes, rfl, rfl, -⟩ := takes_prepare h
  exact takes.issued member

/-- A chunk has bridges exactly when it has exports. -/
theorem bridges_eq_nil_iff {unit : ChunkUnit} {before after : Ledger} {memo : Exports}
    {revision : Revision} (h : prepare unit before = (memo, after, .ok revision)) :
    memo.bridges = [] ↔ unit.outline.localExports = [] := by
  constructor
  · intro none
    refine List.eq_nil_iff_forall_not_mem.mpr fun name member => ?_
    obtain ⟨b, known⟩ := issued_prepare h member
    have own := (mem_bridges_prepare h b).mpr ⟨name, member, known⟩
    rw [none] at own
    cases own
  · intro none
    refine List.eq_nil_iff_forall_not_mem.mpr fun b own => ?_
    obtain ⟨name, member, -⟩ := (mem_bridges_prepare h b).mp own
    rw [none] at member
    cases member

/-- A chunk is prepared by calls on the ledger: what it assigns on its own is reserved, then its
exports are requested in order. -/
theorem ledger_prepare {unit : ChunkUnit} {before after : Ledger} {memo : Exports}
    {revision : Revision} (h : prepare unit before = (memo, after, .ok revision)) :
    after = before.after (reservations unit.outline ++ requests unit.outline.localExports) := by
  obtain ⟨work, takes, -, rfl, -⟩ := takes_prepare h
  rw [takes.ledger_eq, ledger_start, Ledger.after_append]

end Exports
end ChunkBridge
