import ChunkBridge.Proofs.Exports.Preparation

/-!
# What work in one scope leaves

All that a chunk does to a ledger comes to calls in the scope of exports, also if one of its passes
fails half way (`extends_prepareChunk`). Such calls leave every other scope as it was, take back no
name that was issued and drop no reservation (`Ledger.Extends`).
-/

namespace ChunkBridge
open ChunkBridge.Text ChunkBridge.Script

namespace Ledger

/-- A ledger, before and after some work in one scope. -/
structure Extends (scope : String) (before after : Ledger) : Prop where
  scopes_eq : ∀ other, other ≠ scope → after.scopes[other]? = before.scopes[other]?
  issued : ∀ n s m, before.issued? n s = some m → after.issued? n s = some m
  reserved : ∀ n s, before.IsReserved n s → after.IsReserved n s

namespace Extends
variable {scope : String} {a b c : Ledger}

theorem refl (scope : String) (a : Ledger) : a.Extends scope a where
  scopes_eq _ _ := rfl
  issued _ _ _ known := known
  reserved _ _ kept := kept

theorem trans (left : a.Extends scope b) (right : b.Extends scope c) : a.Extends scope c where
  scopes_eq other apart := (right.scopes_eq other apart).trans (left.scopes_eq other apart)
  issued n s m known := right.issued n s m (left.issued n s m known)
  reserved n s kept := right.reserved n s (left.reserved n s kept)

end Extends

theorem extends_resolve (ledger : Ledger) (name scope : String) :
    ledger.Extends scope (ledger.resolve name scope).2 where
  scopes_eq other apart := by
    unfold resolve
    split
    · rfl
    · exact Std.TreeMap.getElem?_insert.trans (if_neg (by simpa using apart.symm))
  issued n s m known := issued?_resolve known name scope
  reserved n s kept := by
    rcases ledger.resolve_cases name scope with ⟨mangled, -, same⟩ | allocates
    · rwa [same]
    · exact (allocates.isReserved_iff n s).mpr kept

theorem extends_reserve (ledger : Ledger) (name scope : String) :
    ledger.Extends scope (ledger.reserve name scope) where
  scopes_eq other apart :=
    Std.TreeMap.getElem?_insert.trans (if_neg (by simpa using apart.symm))
  issued n s m known := by rwa [issued?_reserve]
  reserved n s kept := (isReserved_reserve ledger name scope n s).mpr (.inr kept)

end Ledger

namespace Exports
variable {α β : Type}

/-- The step works in the scope of exports, whether it has a result or fails. -/
def Asks (step : Step α) : Prop :=
  ∀ work : Work, work.ledger.Extends exportsScope (step.run work).2.ledger

theorem asks_bind {step : Step α} {next : α → Step β} (first : Asks step)
    (second : ∀ a, Asks (next a)) : Asks (step >>= next) := by
  intro work
  have start := first work
  rw [run_bind]
  generalize step.run work = ran at start ⊢
  obtain ⟨fault | a, middle⟩ := ran
  · exact start
  · exact start.trans (second a middle)

theorem asks_bridge (exported : String) : Asks (bridge exported) := by
  intro work
  rw [run_bridge]
  dsimp only
  split <;> exact work.ledger.extends_resolve exported exportsScope

theorem asks_plan (source : List Char) (e : Edit) : Asks (plan source e) := by
  intro work
  rw [run_plan]
  split <;> exact .refl _ work.ledger

theorem composes_asks : Composes Asks fun _ => True where
  pure _ work := .refl _ work.ledger
  throw _ work := .refl _ work.ledger
  bind := asks_bind
  bridge exported _ := asks_bridge exported
  plan := asks_plan
  line _ work := .refl _ work.ledger
  revision work := .refl _ work.ledger

/-- However far the pass over a chunk gets, it works in the scope of exports. -/
theorem extends_prepare (unit : ChunkUnit) (ledger : Ledger) :
    ledger.Extends exportsScope (prepare unit ledger).2.1 := by
  have reserves (names : List String) (ledger : Ledger) : ledger.Extends exportsScope
      (names.foldl (fun ledger name => ledger.reserve name exportsScope) ledger) := by
    induction names generalizing ledger with
    | nil => exact .refl _ ledger
    | cons name names ih => exact (ledger.extends_reserve name exportsScope).trans (ih _)
  have all : Asks (reviseAll unit) := composes_asks.reviseAll unit fun _ _ => trivial
  exact (reserves (globalsOf unit.outline) ledger).trans (all (.start ledger unit.outline))

end Exports

namespace ChunkPass

theorem extends_prepareAll (unit : ChunkUnit) (passes : List ChunkPass) (ledger : Ledger)
    (buffer : Buffer) :
    ledger.Extends exportsScope (prepareAll unit passes ledger buffer).2.1 := by
  induction passes generalizing ledger buffer with
  | nil => exact .refl _ ledger
  | cons pass passes ih =>
    have first : ledger.Extends exportsScope (pass.prepare unit ledger).2.1 := by
      cases pass with
      | exports => exact Exports.extends_prepare unit ledger
      | strict | imports | hashbang => exact .refl _ ledger
    rw [prepareAll]
    generalize pass.prepare unit ledger = prepared at first ⊢
    obtain ⟨done, after, fault | revision⟩ := prepared
    · exact first
    · exact first.trans (ih after (buffer.revise revision))

/-- However far the preparation of a chunk gets, it works in the scope of exports. -/
theorem extends_prepareChunk (ledger : Ledger) (format : OutputFormat) (chunk : Chunk)
    (code : String) :
    ledger.Extends exportsScope (prepareChunk ledger format chunk code).ledger := by
  unfold prepareChunk
  cases Outline.ofSource (Strict.chunkDialect format) code with
  | error e => exact .refl _ ledger
  | ok outline => exact extends_prepareAll ⟨chunk, code, outline⟩ (ofFormat format) ledger _

end ChunkPass
end ChunkBridge
