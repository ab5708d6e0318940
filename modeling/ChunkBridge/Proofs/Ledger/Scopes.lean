import ChunkBridge.Proofs.Ledger.Calls

/-!
# Scopes keep to themselves

The names of a scope come from the requests and reservations in that scope alone (`decisions`).
Whatever else is asked of a ledger in between, in other scopes, backwards or for people to read,
may be left out of a run (`filter_answers`).
-/

namespace ChunkBridge.Ledger

namespace Call

/-- The scope whose names the call may change. -/
def decides? : Call → Option String
  | .resolve _ scope | .reserve _ scope => some scope
  | .original _ _ | .debug => none

/-- The scope that the call is about. -/
def scope? : Call → Option String
  | .resolve _ scope | .reserve _ scope | .original _ scope => some scope
  | .debug => none

theorem scope?_of_decides? {call : Call} {s : String} (h : call.decides? = some s) :
    call.scope? = some s := by
  cases call <;> first | exact h | cases h

end Call

/-- The calls that may change the names of a scope. -/
def decisions (s : String) (calls : List Call) : List Call :=
  calls.filter fun call => call.decides? = some s

theorem decisions_append (s : String) (calls more : List Call) :
    decisions s (calls ++ more) = decisions s calls ++ decisions s more :=
  List.filter_append ..

theorem decisions_cons (s : String) (call : Call) (calls : List Call) :
    decisions s (call :: calls) =
      if call.decides? = some s then call :: decisions s calls else decisions s calls := by
  simp [decisions, List.filter_cons]

variable {a b : Ledger} {s : String}

/-- A request is answered, and its scope changed, by what the names of the scope are. -/
theorem resolve_of_scope_eq (same : a.scope s = b.scope s) (name : String) :
    (a.resolve name s).1 = (b.resolve name s).1 ∧
      (a.resolve name s).2.scope s = (b.resolve name s).2.scope s := by
  have issued : a.issued? name s = b.issued? name s := by rw [issued?, issued?, same]
  unfold resolve
  rw [issued]
  cases b.issued? name s with
  | some mangled => exact ⟨rfl, same⟩
  | none => simp [scope_insert, same]

/-- A request in another scope changes nothing. -/
theorem scope_resolve_of_ne {scope : String} (apart : scope ≠ s) (name : String) :
    (a.resolve name scope).2.scope s = a.scope s := by
  unfold resolve
  split
  · rfl
  · rw [scope_insert, if_neg apart]

/-- What is answered about a scope is told by its names. -/
theorem Call.answer_of_scope_eq {call : Call} (about : call.scope? = some s)
    (same : a.scope s = b.scope s) : call.answer a = call.answer b := by
  cases call with
  | resolve name scope =>
    cases about
    rw [Call.answer, Call.answer, (resolve_of_scope_eq same name).1]
  | reserve name scope => rfl
  | original mangled scope =>
    cases about
    rw [Call.answer, Call.answer, asked?, asked?, same]
  | debug => cases about

/-- A call that is no decision of a scope leaves its names alone. -/
theorem Call.scope_apply_of_foreign {call : Call} (foreign : call.decides? ≠ some s) :
    (call.apply a).scope s = a.scope s := by
  cases call with
  | resolve name scope =>
    exact scope_resolve_of_ne (fun equal => foreign (congrArg some equal)) name
  | reserve name scope =>
    have apart : scope ≠ s := fun equal => foreign (congrArg some equal)
    rw [Call.apply, Ledger.reserve, scope_insert, if_neg apart]
  | original mangled scope => rfl
  | debug => rfl

/-- A decision of a scope makes the same of the same names, whatever other scopes hold. -/
theorem Call.scope_apply_of_scope_eq {call : Call} (own : call.decides? = some s)
    (same : a.scope s = b.scope s) : (call.apply a).scope s = (call.apply b).scope s := by
  cases call with
  | resolve name scope =>
    cases own
    exact (resolve_of_scope_eq same name).2
  | reserve name scope =>
    cases own
    rw [Call.apply, Call.apply, Ledger.reserve, Ledger.reserve, scope_insert, scope_insert, same]
  | original mangled scope => cases own
  | debug => cases own

/-- The names of a scope after a run are those after its decisions alone. -/
theorem scope_after_decisions (same : a.scope s = b.scope s) (calls : List Call) :
    (a.after calls).scope s = (b.after (decisions s calls)).scope s := by
  induction calls generalizing a b with
  | nil => exact same
  | cons call calls ih =>
    rw [after_cons, decisions_cons]
    split
    next own => exact ih (Call.scope_apply_of_scope_eq own same)
    next foreign => exact ih ((Call.scope_apply_of_foreign foreign).trans same)

/-- The decisions of a scope are answered in a run as they would be on their own. -/
theorem filter_answers (same : a.scope s = b.scope s) (calls : List Call) :
    ((a.answers calls).filter fun event => event.call.decides? = some s) =
      b.answers (decisions s calls) := by
  induction calls generalizing a b with
  | nil => rfl
  | cons call calls ih =>
    rw [answers, List.filter_cons, decisions_cons, Call.call_answer]
    by_cases own : call.decides? = some s
    · rw [if_pos own, if_pos (decide_eq_true own), answers,
        Call.answer_of_scope_eq (Call.scope?_of_decides? own) same,
        ih (Call.scope_apply_of_scope_eq own same)]
    · rw [if_neg own, if_neg (by simpa using own),
        ih ((Call.scope_apply_of_foreign own).trans same)]

/-- Two runs with the same decisions of a scope: each of those is answered alike in both, and so is
any call about the scope at two points that as many of them lie behind. -/
theorem answers_of_same_decisions (s : String) {calls others : List Call}
    (same : decisions s calls = decisions s others) :
    ((answers {} calls).filter fun event => event.call.decides? = some s) =
        ((answers {} others).filter fun event => event.call.decides? = some s) ∧
    (∀ before later earlier rest, calls = before ++ later → others = earlier ++ rest →
      (decisions s before).length = (decisions s earlier).length →
      ∀ call : Call, call.scope? = some s →
        call.answer (after {} before) = call.answer (after {} earlier)) ∧
    ∀ past event future past' event' future',
      answers {} calls = past ++ event :: future → answers {} others = past' ++ event' :: future' →
      (decisions s (past.map Event.call)).length = (decisions s (past'.map Event.call)).length →
      event.call = event'.call → event.call.scope? = some s → event = event' := by
  have points : ∀ before later earlier rest, calls = before ++ later → others = earlier ++ rest →
      (decisions s before).length = (decisions s earlier).length →
      ∀ call : Call, call.scope? = some s →
        call.answer (after {} before) = call.answer (after {} earlier) := by
    rintro before later earlier rest rfl rfl level call about
    rw [decisions_append, decisions_append] at same
    refine Call.answer_of_scope_eq about ?_
    rw [scope_after_decisions (b := {}) rfl before, scope_after_decisions (b := {}) rfl earlier,
      List.append_inj_left same level]
  refine ⟨?_, points, ?_⟩
  · rw [filter_answers (b := {}) rfl, filter_answers (b := {}) rfl, same]
  · intro past event future past' event' future' split split' level equal about
    obtain ⟨before, call, later, told, rfl, rfl⟩ := answers_eq_append_cons split
    obtain ⟨earlier, call', rest, told', rfl, rfl⟩ := answers_eq_append_cons split'
    rw [map_call_answers, map_call_answers] at level
    rw [Call.call_answer, Call.call_answer] at equal
    subst equal
    exact points before _ earlier _ told told' level call (by rwa [Call.call_answer] at about)

/-- Reservations in another scope, reverse lookups and a look at the decisions change nothing. -/
theorem answers_of_interleaved_calls :
    let calls : List Call := [.resolve "f" "s", .reserve "b" "s", .resolve "g" "s",
      .original "c" "s"]
    let others : List Call := [.reserve "a" "t", .resolve "f" "s", .debug, .original "a" "t",
      .reserve "b" "s", .resolve "h" "t", .original "a" "s", .resolve "g" "s", .resolve "f" "t",
      .original "c" "s"]
    decisions "s" calls = decisions "s" others ∧
    ((answers {} calls).filter fun event => event.call.decides? = some "s") =
      ((answers {} others).filter fun event => event.call.decides? = some "s") ∧
    (∃ past future, answers {} others = past ++ .original "c" "s" (some "g") :: future) := by
  intro calls others
  have same : decisions "s" calls = decisions "s" others := by decide
  have alike := answers_of_same_decisions "s" same
  refine ⟨same, alike.1, answers {} (others.take 9), [], ?_⟩
  decide +kernel

end ChunkBridge.Ledger
