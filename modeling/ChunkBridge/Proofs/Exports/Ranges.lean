import ChunkBridge.Proofs.Exports.Preparation

/-!
# Ranges that are edited

Before an edit is planned its range is looked at. Which ranges those are is told by the statements of
a chunk and its text alone (`itemRanges`), whatever the ledger is: the edits that are planned have the
first of them, all of them if the chunk is accepted, and an edit is only found out of place if there
is one that cannot be edited (`tries_reviseAll`).
-/

namespace ChunkBridge.Exports
open ChunkBridge.Text ChunkBridge.Script

/-- The ranges of a statement that are edited. A default export without a name is edited only if its
text ends in a brace. -/
def itemRanges (source : List Char) (item : Item) : List Span :=
  match item.kind with
  | .exportDeclaration declaration _ | .exportDefaultDeclaration declaration (some _) =>
    [⟨item.span.start, declaration.start⟩]
  | .exportNames _ => [item.span]
  | .exportDefaultDeclaration declaration none =>
    if (takeBytes declaration.stop source).getLast? == some '\x7d' then
      [⟨item.span.start, declaration.start⟩, ⟨declaration.stop - 1, declaration.stop⟩]
    else []
  | .exportDefaultExpression expression => [⟨item.span.start, expression.start⟩]
  | .imports _ | .reExport _ | .bridges _ | .other => []

variable {α β : Type} {source : List Char} {ranges more : List Span}

/-- The work on a chunk, before and after some ranges were tried one after the other. -/
structure Work.Tried (source : List Char) (ranges : List Span) (before after : Work)
    (result : Except PassFault α) : Prop where
  planned : ∃ edits, after.edits = before.edits ++ edits ∧ (∀ e ∈ edits, e.fits source = true) ∧
    edits.map Edit.span <+: ranges ∧ ∀ a, result = .ok a → edits.map Edit.span = ranges
  misplaced : result = .error .misplacedEdit → ∃ range ∈ ranges, Buffer.isRange source range = false

/-- A step tries some ranges, whatever was done before. -/
def Tries (source : List Char) (step : Step α) (ranges : List Span) : Prop :=
  ∀ work : Work, work.Tried source ranges (step.run work).2 (step.run work).1

/-- A step that plans nothing and finds nothing out of place. -/
theorem tries_nothing {step : Step α} (kept : ∀ work, (step.run work).2.edits = work.edits)
    (placed : ∀ work, (step.run work).1 ≠ .error .misplacedEdit) : Tries source step [] := by
  intro work
  refine ⟨⟨[], ?_, nofun, List.nil_prefix, fun _ _ => rfl⟩, fun misplaced => ?_⟩
  · rw [kept, List.append_nil]
  · exact absurd misplaced (placed work)

theorem tries_pure (a : α) : Tries source (pure a : Step α) [] :=
  tries_nothing (fun _ => rfl) fun _ same => nomatch same

theorem tries_bind {step : Step α} {next : α → Step β} (first : Tries source step ranges)
    (rest : ∀ a, Tries source (next a) more) : Tries source (step >>= next) (ranges ++ more) := by
  intro work
  have left := first work
  rw [run_bind]
  generalize step.run work = result at left ⊢
  obtain ⟨fault | a, middle⟩ := result
  · obtain ⟨edits, appended, fit, isPrefix, -⟩ := left.planned
    refine ⟨⟨edits, appended, fit, isPrefix.trans (List.prefix_append _ _), nofun⟩, fun same => ?_⟩
    obtain ⟨range, member, unfit⟩ := left.misplaced (congrArg Except.error (Except.error.inj same))
    exact ⟨range, List.mem_append_left _ member, unfit⟩
  · have right := rest a middle
    dsimp only
    obtain ⟨edits, appended, fit, -, whole⟩ := left.planned
    obtain ⟨later, behind, fitLater, isPrefix, wholeLater⟩ := right.planned
    refine ⟨⟨edits ++ later, ?_, ?_, ?_, fun b same => ?_⟩, fun same => ?_⟩
    · rw [behind, appended, List.append_assoc]
    · exact fun e member => (List.mem_append.mp member).elim (fit e) (fitLater e)
    · rw [List.map_append, whole a rfl]
      exact (List.prefix_append_right_inj ranges).mpr isPrefix
    · rw [List.map_append, whole a rfl, wholeLater b same]
    · obtain ⟨range, member, unfit⟩ := right.misplaced same
      exact ⟨range, List.mem_append_right _ member, unfit⟩

theorem tries_forM {γ : Type} {step : γ → Step Unit} {rangesOf : γ → List Span}
    (each : ∀ c, Tries source (step c) (rangesOf c)) (cs : List γ) :
    Tries source (cs.forM step) (cs.flatMap rangesOf) := by
  induction cs with
  | nil => exact tries_pure ()
  | cons c cs ih => exact tries_bind (each c) fun _ => ih

/-- A bridge may be taken, but there is nothing out of place about it. -/
theorem tries_bridge (exported : String) : Tries source (bridge exported) [] := by
  refine tries_nothing (fun work => ?_) fun work => ?_
  · rw [run_bridge]
    dsimp only
    split <;> rfl
  · rw [run_bridge]
    dsimp only
    split <;> exact nofun

theorem tries_plan (source : List Char) (e : Edit) : Tries source (plan source e) [e.span] := by
  intro work
  rw [run_plan]
  by_cases fits : e.fits source = true
  · rw [if_pos fits]
    refine ⟨⟨[e], rfl, fun f member => ?_, List.prefix_rfl, fun _ _ => rfl⟩, nofun⟩
    rw [List.mem_singleton.mp member]
    exact fits
  · rw [if_neg fits]
    refine ⟨⟨[], (List.append_nil _).symm, nofun, List.nil_prefix, nofun⟩, fun _ => ?_⟩
    exact ⟨e.span, List.mem_singleton_self _, by simpa [Edit.fits] using fits⟩

theorem tries_assign (exported value : String) : Tries source (assign exported value) [] := by
  have line (name : String) : Tries source (modify fun work : Work =>
      { work with lines := work.lines ++ [assignment name value] } : Step Unit) [] :=
    tries_nothing (fun _ => rfl) fun _ same => nomatch same
  exact tries_bind (tries_bridge exported) line

theorem tries_assignEach (exported value : α → String) (as : List α) :
    Tries source (as.forM fun a => assign (exported a) (value a)) [] := by
  have steps : Tries source (as.forM fun a => assign (exported a) (value a))
      (as.flatMap fun _ => []) := tries_forM (fun a => tries_assign (exported a) (value a)) as
  rwa [List.flatMap_eq_nil_iff.mpr fun _ _ => rfl] at steps

theorem tries_reviseItem (unit : ChunkUnit) (item : Item) :
    Tries unit.code.toList (reviseItem unit item) (itemRanges unit.code.toList item) := by
  obtain ⟨span, kind⟩ := item
  cases kind with
  | imports | reExport | bridges | other => exact tries_pure ()
  | exportDeclaration declaration names =>
    exact tries_bind (tries_plan _ { span := ⟨span.start, declaration.start⟩ })
      fun _ => tries_assignEach _ _ names
  | exportNames pairs =>
    exact tries_bind (tries_plan _ { span := span }) fun _ => tries_assignEach Prod.snd Prod.fst pairs
  | exportDefaultDeclaration declaration name =>
    cases name with
    | some name =>
      exact tries_bind (tries_plan _ { span := ⟨span.start, declaration.start⟩ })
        fun _ => tries_assign _ _
    | none =>
      simp only [reviseItem, itemRanges]
      split
      · exact tries_bind
          (tries_plan unit.code.toList
            ⟨⟨span.start, declaration.start⟩, ("const " ++ defaultLocal ++ " = ").toList⟩)
          fun _ => tries_bind
            (tries_plan unit.code.toList ⟨⟨declaration.stop - 1, declaration.stop⟩, "\x7d;".toList⟩)
            fun _ => tries_assign defaultName defaultLocal
      · refine tries_nothing (fun _ => rfl) fun _ same => ?_
        cases same
  | exportDefaultExpression expression =>
    exact tries_bind (tries_bridge defaultName) fun name =>
      tries_plan _ ⟨⟨span.start, expression.start⟩, (target name).toList⟩

/-- The ranges of a chunk are tried whatever the ledger is. -/
theorem tries_reviseAll (unit : ChunkUnit) :
    Tries unit.code.toList (reviseAll unit)
      (unit.outline.items.flatMap (itemRanges unit.code.toList)) := by
  have last : Tries unit.code.toList (do
      let work ← get
      return { edits := work.edits, trailer := work.lines.flatMap fun line => '\n' :: line.toList } :
      Step Revision) [] := tries_nothing (fun _ => rfl) fun _ same => nomatch same
  have steps : Tries unit.code.toList (reviseAll unit)
      (unit.outline.items.flatMap (itemRanges unit.code.toList) ++ []) :=
    tries_bind (tries_forM (tries_reviseItem unit) unit.outline.items) fun _ => last
  rwa [List.append_nil] at steps

/-- The edits that are planned for a chunk, also if it is refused in the end. -/
def plannedEdits (unit : ChunkUnit) (ledger : Ledger) : List Edit :=
  ((reviseAll unit).run (.start ledger unit.outline)).2.edits

/-- What is planned for a chunk can be done. -/
theorem fits_plannedEdits (unit : ChunkUnit) (ledger : Ledger) :
    ∀ e ∈ plannedEdits unit ledger, e.fits unit.code.toList = true := by
  obtain ⟨edits, appended, fit, -⟩ := (tries_reviseAll unit (.start ledger unit.outline)).planned
  rw [plannedEdits, appended]
  exact fit

/-- The ranges that edits are planned for are the first ones of the chunk. -/
theorem isPrefix_plannedEdits (unit : ChunkUnit) (ledger : Ledger) :
    (plannedEdits unit ledger).map Edit.span <+:
      unit.outline.items.flatMap (itemRanges unit.code.toList) := by
  obtain ⟨edits, appended, -, isPrefix, -⟩ :=
    (tries_reviseAll unit (.start ledger unit.outline)).planned
  rw [plannedEdits, appended]
  exact isPrefix

/-- An accepted chunk is given what was planned for it. -/
theorem edits_prepare {unit : ChunkUnit} {ledger after : Ledger} {memo : Exports}
    {revision : Revision} (h : prepare unit ledger = (memo, after, .ok revision)) :
    revision.edits = plannedEdits unit ledger := by
  unfold plannedEdits
  unfold prepare at h
  rcases run : (reviseAll unit).run (.start ledger unit.outline) with ⟨result, work⟩
  rw [run] at h
  cases h
  rw [(takes_reviseAll run).2]

/-- An edit is only out of place if one of the ranges is. -/
theorem exists_misplaced {unit : ChunkUnit} {ledger : Ledger}
    (misplaced : (prepare unit ledger).2.2 = .error .misplacedEdit) :
    ∃ range ∈ unit.outline.items.flatMap (itemRanges unit.code.toList),
      Buffer.isRange unit.code.toList range = false :=
  (tries_reviseAll unit (.start ledger unit.outline)).misplaced misplaced

end ChunkBridge.Exports
