import ChunkBridge.Proofs.Exports.Preparation

/-!
# Chunks whose exports are settled

All that chunks share while they are prepared and repaired is the ledger. Once every export of a
chunk has its name there, preparing the chunk only keeps more names from being issued
(`prepareChunk_of_settled`), and that is nothing to any other chunk (`Ledger.Alike`).
-/

namespace ChunkBridge
open ChunkBridge.Text ChunkBridge.Script

namespace Ledger

/-- A name that was issued is found, and the ledger stays as it is. -/
theorem resolve_of_issued {ledger : Ledger} {name scope mangled : String}
    (known : ledger.issued? name scope = some mangled) :
    ledger.resolve name scope = (mangled, ledger) := by
  simp only [resolve, known]

/-- Two ledgers know the same names of exports. -/
structure Alike (a b : Ledger) : Prop where
  issued?_eq : ∀ name, b.issued? name exportsScope = a.issued? name exportsScope
  asked?_eq : ∀ mangled, b.asked? mangled exportsScope = a.asked? mangled exportsScope

namespace Alike
variable {a b c : Ledger}

theorem refl (a : Ledger) : a.Alike a := ⟨fun _ => rfl, fun _ => rfl⟩

theorem symm (alike : a.Alike b) : b.Alike a :=
  ⟨fun name => (alike.issued?_eq name).symm, fun mangled => (alike.asked?_eq mangled).symm⟩

theorem trans (left : a.Alike b) (right : b.Alike c) : a.Alike c :=
  ⟨fun name => (right.issued?_eq name).trans (left.issued?_eq name),
    fun mangled => (right.asked?_eq mangled).trans (left.asked?_eq mangled)⟩

end Alike

/-- Keeping names from being issued changes no name that was. -/
theorem alike_after_reserve (ledger : Ledger) (names : List String) :
    ledger.Alike (ledger.after (names.map fun name => .reserve name exportsScope)) := by
  induction names generalizing ledger with
  | nil => exact .refl ledger
  | cons name names ih =>
    have first : ledger.Alike (ledger.reserve name exportsScope) :=
      ⟨fun n => issued?_reserve .., fun m => asked?_reserve ..⟩
    exact first.trans (ih _)

/-- The ledger has issued a bridge for each of some exports. -/
def HasBridges (ledger : Ledger) (bridgeOf : String → String) (names : List String) : Prop :=
  ∀ name ∈ names, ledger.issued? name exportsScope = some (bridgeOf name)

theorem HasBridges.of_alike {a b : Ledger} {bridgeOf : String → String} {names : List String}
    (has : a.HasBridges bridgeOf names) (alike : a.Alike b) : b.HasBridges bridgeOf names :=
  fun name member => (alike.issued?_eq name).trans (has name member)

end Ledger

/-! ## Before compilation -/

namespace Exports
variable {bridgeOf : String → String} {names : List String} {α β : Type}

/-- The step does the same over all ledgers that have the bridges, and leaves them alone. -/
def Steady (bridgeOf : String → String) (names : List String) (step : Step α) : Prop :=
  ∀ work : Work, ∃ (result : Except PassFault α) (after : Work),
    ∀ ledger : Ledger, ledger.HasBridges bridgeOf names →
      step.run { work with ledger } = (result, { after with ledger })

theorem steady_bind {step : Step α} {next : α → Step β} (first : Steady bridgeOf names step)
    (second : ∀ a, Steady bridgeOf names (next a)) : Steady bridgeOf names (step >>= next) := by
  intro work
  obtain ⟨result, middle, same⟩ := first work
  cases result with
  | error fault =>
    refine ⟨.error fault, middle, fun ledger has => ?_⟩
    rw [run_bind, same ledger has]
  | ok a =>
    obtain ⟨final, after, rest⟩ := second a middle
    refine ⟨final, after, fun ledger has => ?_⟩
    rw [run_bind, same ledger has]
    exact rest ledger has

theorem steady_bridge {exported : String} (member : exported ∈ names) :
    Steady bridgeOf names (bridge exported) := by
  intro work
  by_cases taken : work.memo.globals.contains (bridgeOf exported) = true
  · refine ⟨.error (.takenBridge (bridgeOf exported) exported), work, fun ledger has => ?_⟩
    simp only [run_bridge, Ledger.resolve_of_issued (has exported member), if_pos taken]
  · refine ⟨.ok (bridgeOf exported),
      { work with
        memo := { work.memo with bridges := insertNew work.memo.bridges (bridgeOf exported) } },
      fun ledger has => ?_⟩
    simp only [run_bridge, Ledger.resolve_of_issued (has exported member), if_neg taken]

theorem steady_plan (source : List Char) (e : Edit) : Steady bridgeOf names (plan source e) := by
  intro work
  by_cases fits : e.fits source = true
  · refine ⟨.ok (), { work with edits := work.edits ++ [e] }, fun ledger _ => ?_⟩
    rw [run_plan, if_pos fits]
  · refine ⟨.error .misplacedEdit, work, fun ledger _ => ?_⟩
    rw [run_plan, if_neg fits]

/-- The bridges of some exports are found, and nothing else of the ledger is looked at. -/
theorem composes_steady (bridgeOf : String → String) (names : List String) :
    Composes (Steady bridgeOf names) (· ∈ names) where
  pure a work := ⟨.ok a, work, fun _ _ => rfl⟩
  throw fault work := ⟨.error fault, work, fun _ _ => rfl⟩
  bind := steady_bind
  bridge _ := steady_bridge
  plan := steady_plan
  line text work := ⟨.ok (), { work with lines := work.lines ++ [text] }, fun _ _ => rfl⟩
  -- The revision is read off the work, and the ledger is no part of it.
  revision work :=
    ⟨.ok ⟨work.edits, work.lines.flatMap fun line => '\n' :: line.toList⟩, work, fun _ _ => rfl⟩

/-- All ledgers that have the bridges of a chunk make the same of it. What it assigns on its own is
reserved, and nothing is issued. -/
theorem prepare_of_settled (bridgeOf : String → String) (unit : ChunkUnit) :
    ∃ memo result, ∀ ledger : Ledger, ledger.HasBridges bridgeOf unit.outline.localExports →
      prepare unit ledger = (memo, ledger.after (reservations unit.outline), result) := by
  have steady := (composes_steady bridgeOf unit.outline.localExports).reviseAll unit fun _ => id
  obtain ⟨result, work, same⟩ := steady (.start {} unit.outline)
  refine ⟨work.memo, result, fun ledger has => ?_⟩
  have kept : (ledger.after (reservations unit.outline)).HasBridges bridgeOf
      unit.outline.localExports :=
    has.of_alike (ledger.alike_after_reserve (globalsOf unit.outline))
  have ran := same _ kept
  rw [← ledger_start] at ran ⊢
  unfold prepare
  exact congrArg (fun (r : Except PassFault Revision × Work) => (r.2.memo, r.2.ledger, r.1)) ran

end Exports

namespace ChunkPass

/-- The names that a chunk exports and that are not another module's. -/
def exportsOf (format : OutputFormat) (code : String) : List String :=
  match Outline.ofSource (Strict.chunkDialect format) code with
  | .ok outline => outline.localExports
  | .error _ => []

theorem prepare_of_settled (bridgeOf : String → String) (unit : ChunkUnit) (pass : ChunkPass) :
    ∃ (done : ChunkPass) (reserved : List String) (result : Except PassFault Revision),
      ∀ ledger : Ledger, ledger.HasBridges bridgeOf unit.outline.localExports →
        pass.prepare unit ledger =
          (done, ledger.after (reserved.map fun name => .reserve name exportsScope), result) := by
  cases pass with
  | strict => exact ⟨.strict, [], .ok {}, fun ledger _ => rfl⟩
  | hashbang => exact ⟨.hashbang, [], .ok {}, fun ledger _ => rfl⟩
  | imports => exact ⟨_, [], _, fun ledger _ => rfl⟩
  | exports =>
    obtain ⟨memo, result, same⟩ := Exports.prepare_of_settled bridgeOf unit
    refine ⟨.exports memo, Exports.globalsOf unit.outline, result, fun ledger has => ?_⟩
    rw [prepare, same ledger has]
    rfl

theorem prepareAll_of_settled (bridgeOf : String → String) (unit : ChunkUnit)
    (passes : List ChunkPass) (buffer : Buffer) :
    ∃ (done : List ChunkPass) (reserved : List String) (result : Except Failed Buffer),
      ∀ ledger : Ledger, ledger.HasBridges bridgeOf unit.outline.localExports →
        prepareAll unit passes ledger buffer =
          (done, ledger.after (reserved.map fun name => .reserve name exportsScope), result) := by
  induction passes generalizing buffer with
  | nil => exact ⟨[], [], .ok buffer, fun ledger _ => rfl⟩
  | cons pass passes ih =>
    obtain ⟨first, reserved, fault | revision, same⟩ := prepare_of_settled bridgeOf unit pass
    · refine ⟨first :: passes, reserved, .error ⟨pass.name, fault⟩, fun ledger has => ?_⟩
      rw [prepareAll, same ledger has]
    · obtain ⟨done, more, result, rest⟩ := ih (buffer.revise revision)
      refine ⟨first :: done, reserved ++ more, result, fun ledger has => ?_⟩
      have kept := has.of_alike (ledger.alike_after_reserve reserved)
      rw [prepareAll, same ledger has]
      simp only [rest _ kept, List.map_append, Ledger.after_append]

/-- All ledgers that have the bridges of a chunk prepare it in the same way, whether it is accepted
or not. They reserve names and issue none. -/
theorem prepareChunk_of_settled (bridgeOf : String → String) (format : OutputFormat)
    (chunk : Chunk) (code : String) :
    ∃ (passes : List ChunkPass) (reserved : List String) (result : Except Refusal String),
      ∀ ledger : Ledger, ledger.HasBridges bridgeOf (exportsOf format code) →
        prepareChunk ledger format chunk code =
          ⟨passes, ledger.after (reserved.map fun name => .reserve name exportsScope), result⟩ := by
  unfold prepareChunk exportsOf
  cases Outline.ofSource (Strict.chunkDialect format) code with
  | error e => exact ⟨ofFormat format, [], .error (.unreadable e), fun ledger _ => rfl⟩
  | ok outline =>
    obtain ⟨done, reserved, result, same⟩ :=
      prepareAll_of_settled bridgeOf ⟨chunk, code, outline⟩ (ofFormat format) (.ofText code)
    refine ⟨done, reserved, (result.map Buffer.text).mapError .failed, fun ledger has => ?_⟩
    simp only [same ledger has]

/-- Two ledgers that know the same names prepare a chunk in the same way and go on knowing the same
names. -/
theorem prepareChunk_of_alike {a b : Ledger} (alike : a.Alike b) {format : OutputFormat}
    {code : String} (chunk : Chunk)
    (settled : ∀ name ∈ exportsOf format code, (a.issued? name exportsScope).isSome) :
    (prepareChunk b format chunk code).passes = (prepareChunk a format chunk code).passes ∧
    (prepareChunk b format chunk code).result = (prepareChunk a format chunk code).result ∧
    a.Alike (prepareChunk a format chunk code).ledger ∧
    b.Alike (prepareChunk b format chunk code).ledger := by
  let bridgeOf (name : String) : String := (a.issued? name exportsScope).getD ""
  have has : a.HasBridges bridgeOf (exportsOf format code) := by
    intro name member
    obtain ⟨b, known⟩ := Option.isSome_iff_exists.mp (settled name member)
    simp only [bridgeOf, known, Option.getD_some]
  obtain ⟨passes, reserved, result, same⟩ := prepareChunk_of_settled bridgeOf format chunk code
  rw [same a has, same b (has.of_alike alike)]
  exact ⟨rfl, rfl, a.alike_after_reserve reserved, b.alike_after_reserve reserved⟩

end ChunkPass

/-! ## After compilation -/

namespace Exports
variable {a b : Ledger}

theorem noteBridge_of_alike (alike : a.Alike b) : noteBridge b = noteBridge a := by
  funext file source state bridge
  simp only [noteBridge, alike.asked?_eq]

theorem noteItem_of_alike (alike : a.Alike b) (memo : Exports) : noteItem memo b = noteItem memo a := by
  funext file source found item
  simp only [noteItem, noteBridge_of_alike alike]

theorem restore_of_alike (alike : a.Alike b) (memo : Exports) : memo.restore b = memo.restore a := by
  funext file code
  simp only [restore, find, noteItem_of_alike alike]

end Exports

/-- A compiled chunk is repaired in the same way over ledgers that know the same names and stores
that have the same hashbang lines. -/
theorem ChunkPass.restoreChunk_of_alike {s t : Session} (alike : s.ledger.Alike t.ledger)
    {chunk : Chunk} (same : Hashbang.line? t.store chunk = Hashbang.line? s.store chunk)
    (format : OutputFormat) (passes : List ChunkPass) :
    restoreChunk t format chunk passes = restoreChunk s format chunk passes := by
  have each : ∀ pass : ChunkPass, ∀ code,
      pass.restore t format chunk code = pass.restore s format chunk code := by
    intro pass code
    cases pass with
    | strict => rfl
    | imports memo => rfl
    | exports memo => simp only [restore, Exports.restore_of_alike alike]
    | hashbang => simp only [restore, Hashbang.restore, same]
  funext code
  simp only [restoreChunk, each]

end ChunkBridge
