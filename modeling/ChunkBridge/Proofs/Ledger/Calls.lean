import ChunkBridge.Proofs.Ledger.Allocation
import Mathlib.Data.List.Induction

/-!
# Runs of a ledger

A ledger answers calls one after the other. What it answers is told by the calls before alone:
the ledger records exactly what has happened to it (`Records`), and every call keeps it so
(`Records.step`).
-/

namespace ChunkBridge.Ledger

/-- A call on a ledger. -/
inductive Call where
  | resolve (name scope : String)
  | reserve (name scope : String)
  | original (mangled scope : String)
  | debug
deriving Repr, DecidableEq

/-- A call with its answer. -/
inductive Event where
  /-- `name` is called `mangled` in the scope. -/
  | resolved (name scope mangled : String)
  | reserved (name scope : String)
  /-- The name that `mangled` stands for was asked for. -/
  | original (mangled scope : String) (name : Option String)
  /-- The decisions were shown, with the number of scopes. -/
  | shown (entries : List Entry) (scopes : Nat)
deriving Repr, DecidableEq

/-- The call that an event answers. -/
def Event.call : Event → Call
  | .resolved name scope _ => .resolve name scope
  | .reserved name scope => .reserve name scope
  | .original mangled scope _ => .original mangled scope
  | .shown _ _ => .debug

/-- The decision that an event tells of. -/
def Event.entry? : Event → Option Entry
  | .resolved name scope mangled => some ⟨name, mangled, scope⟩
  | _ => none

namespace Call

/-- What a ledger answers to a call. -/
def answer (ledger : Ledger) : Call → Event
  | .resolve name scope => .resolved name scope (ledger.resolve name scope).1
  | .reserve name scope => .reserved name scope
  | .original mangled scope => .original mangled scope (ledger.asked? mangled scope)
  | .debug => .shown ledger.entries ledger.scopes.size

/-- The ledger after a call. -/
def apply (ledger : Ledger) : Call → Ledger
  | .resolve name scope => (ledger.resolve name scope).2
  | .reserve name scope => ledger.reserve name scope
  | .original _ _ | .debug => ledger

@[simp] theorem call_answer (ledger : Ledger) (call : Call) : (call.answer ledger).call = call := by
  cases call <;> rfl

end Call

/-- The ledger after some calls. -/
def after (ledger : Ledger) (calls : List Call) : Ledger := calls.foldl Call.apply ledger

/-- What a ledger answers to calls that come one after the other. -/
def answers (ledger : Ledger) : List Call → List Event
  | [] => []
  | call :: calls => call.answer ledger :: answers (call.apply ledger) calls

@[simp] theorem after_nil (ledger : Ledger) : ledger.after [] = ledger := rfl

@[simp] theorem after_cons (ledger : Ledger) (call : Call) (calls : List Call) :
    ledger.after (call :: calls) = (call.apply ledger).after calls := rfl

theorem after_append (ledger : Ledger) (calls more : List Call) :
    ledger.after (calls ++ more) = (ledger.after calls).after more := List.foldl_append

/-- No call takes back a name that was issued. -/
theorem issued?_after {ledger : Ledger} {n s m : String} (known : ledger.issued? n s = some m)
    (calls : List Call) : (ledger.after calls).issued? n s = some m := by
  induction calls generalizing ledger with
  | nil => exact known
  | cons call calls ih =>
    apply ih
    cases call with
    | resolve name scope => exact issued?_resolve known name scope
    | reserve name scope => rwa [Call.apply, issued?_reserve]
    | original mangled scope => exact known
    | debug => exact known

/-- A name that was requested is issued. -/
theorem issued?_after_of_mem {ledger : Ledger} {calls : List Call} {name scope : String}
    (requested : .resolve name scope ∈ calls) :
    ∃ m, (ledger.after calls).issued? name scope = some m := by
  obtain ⟨before, later, rfl⟩ := List.append_of_mem requested
  rw [after_append]
  exact ⟨_, issued?_after (issued?_resolve_self _ name scope) later⟩

/-- Every call is answered, in order. -/
theorem map_call_answers (ledger : Ledger) (calls : List Call) :
    (ledger.answers calls).map Event.call = calls := by
  induction calls generalizing ledger with
  | nil => rfl
  | cons call calls ih => simp [answers, ih]

/-- An event in a run is the answer of the ledger that the events before it have left. -/
theorem answers_eq_append_cons {ledger : Ledger} {calls : List Call} {past future : List Event}
    {event : Event} (split : ledger.answers calls = past ++ event :: future) :
    ∃ before call later, calls = before ++ call :: later ∧ past = ledger.answers before ∧
      event = call.answer (ledger.after before) := by
  induction past generalizing ledger calls with
  | nil =>
    cases calls with
    | nil => simp [answers] at split
    | cons call calls =>
      obtain ⟨rfl, rfl⟩ := List.cons.inj split
      exact ⟨[], call, calls, rfl, rfl, rfl⟩
  | cons first past ih =>
    cases calls with
    | nil => simp [answers] at split
    | cons call calls =>
      obtain ⟨rfl, rest⟩ := List.cons.inj split
      obtain ⟨before, next, later, rfl, rfl, rfl⟩ := ih rest
      exact ⟨call :: before, next, later, rfl, rfl, rfl⟩

/-! ## What a ledger records -/

/-- The ledger knows of the past what its later answers rest on. -/
structure Records (ledger : Ledger) (past : List Event) : Prop where
  issued?_iff : ∀ n s m, ledger.issued? n s = some m ↔ .resolved n s m ∈ past
  asked?_iff : ∀ n s m, ledger.asked? m s = some n ↔ .resolved n s m ∈ past
  isReserved_iff : ∀ n s, ledger.IsReserved n s ↔ .reserved n s ∈ past
  not_forbidden : ∀ n s m, .resolved n s m ∈ past → m ∉ forbiddenNames
  entries_eq : ledger.entries = (past.filterMap Event.entry?).eraseDups

/-- A fresh ledger has no past. -/
theorem records_empty : Records {} [] where
  issued?_iff n s m := by simp [issued?, scope]
  asked?_iff n s m := by simp [asked?, scope]
  isReserved_iff n s := by simp [IsReserved, scope]
  not_forbidden n s m h := nomatch h
  entries_eq := rfl

/-- A decision that was made before adds nothing, and a new one comes last. -/
theorem eraseDups_concat (entries : List Entry) (entry : Entry) :
    (entries ++ [entry]).eraseDups =
      if entry ∈ entries then entries.eraseDups else entries.eraseDups ++ [entry] := by
  rw [List.eraseDups_append]
  by_cases known : entry ∈ entries <;> simp [List.removeAll, List.eraseDups_cons, known]

theorem nodup_eraseDups (entries : List Entry) : entries.eraseDups.Nodup := by
  induction entries using List.reverseRecOn with
  | nil => simp
  | append_singleton entries entry ih =>
    rw [eraseDups_concat]
    by_cases known : entry ∈ entries
    · rwa [if_pos known]
    · rw [if_neg known, ← List.concat_eq_append]
      exact ih.concat (by rwa [List.mem_eraseDups])

namespace Records
variable {ledger : Ledger} {past : List Event}

/-- Two answers in a scope are the same exactly when the names asked for are. -/
theorem mangled_eq_iff (records : Records ledger past) {s n₁ n₂ m₁ m₂ : String}
    (h₁ : .resolved n₁ s m₁ ∈ past) (h₂ : .resolved n₂ s m₂ ∈ past) : m₁ = m₂ ↔ n₁ = n₂ := by
  constructor
  · rintro rfl
    have back₁ := (records.asked?_iff _ _ _).mpr h₁
    have back₂ := (records.asked?_iff _ _ _).mpr h₂
    exact Option.some.inj (back₁.symm.trans back₂)
  · rintro rfl
    have there₁ := (records.issued?_iff _ _ _).mpr h₁
    have there₂ := (records.issued?_iff _ _ _).mpr h₂
    exact Option.some.inj (there₁.symm.trans there₂)

/-- The first answer for a name is no name that was reserved before. -/
theorem not_reserved_of_first (records : Records ledger past) {n s : String}
    (first : ∀ m, .resolved n s m ∉ past) :
    .reserved (ledger.resolve n s).1 s ∉ past := by
  rcases ledger.resolve_cases n s with ⟨m, known, -⟩ | allocates
  · exact absurd ((records.issued?_iff _ _ _).mp known) (first m)
  · rw [← records.isReserved_iff]
    exact allocates.not_reserved

/-- A name that was issued before is found again. -/
theorem found (records : Records ledger past) {name scope mangled : String}
    (known : ledger.issued? name scope = some mangled) :
    Records ledger (past ++ [.resolved name scope mangled]) := by
  have member := (records.issued?_iff _ _ _).mp known
  have same (event : Event) :
      event ∈ past ++ [.resolved name scope mangled] ↔ event ∈ past := by
    rw [List.mem_append, List.mem_singleton]
    exact ⟨fun h => h.elim id fun equal => equal ▸ member, .inl⟩
  refine ⟨?_, ?_, ?_, ?_, ?_⟩
  · intro n s m
    rw [same, records.issued?_iff]
  · intro n s m
    rw [same, records.asked?_iff]
  · intro n s
    rw [same, records.isReserved_iff]
  · intro n s m h
    exact records.not_forbidden n s m ((same _).mp h)
  · have logged : (⟨name, mangled, scope⟩ : Entry) ∈ past.filterMap Event.entry? :=
      List.mem_filterMap.mpr ⟨_, member, rfl⟩
    rw [List.filterMap_append, records.entries_eq]
    exact ((eraseDups_concat _ _).trans (if_pos logged)).symm

/-- A name that is issued for the first time is recorded both ways. -/
theorem allocated (records : Records ledger past) {name scope mangled : String} {after : Ledger}
    (step : ledger.Allocates name scope mangled after) :
    Records after (past ++ [.resolved name scope mangled]) := by
  have unasked (m : String) : .resolved name scope m ∉ past := by
    rw [← records.issued?_iff, step.unknown]
    simp
  have unused (n : String) : .resolved n scope mangled ∉ past := by
    rw [← records.asked?_iff, step.vacant]
    simp
  refine ⟨?_, ?_, ?_, ?_, ?_⟩
  · intro n s m
    rw [step.issued?_eq, List.mem_append, List.mem_singleton]
    by_cases same : scope = s ∧ name = n
    · obtain ⟨rfl, rfl⟩ := same
      simp [unasked, eq_comm]
    · rw [if_neg same, records.issued?_iff]
      constructor
      · exact .inl
      · rintro (h | h)
        · exact h
        · cases h
          exact absurd ⟨rfl, rfl⟩ same
  · intro n s m
    rw [step.asked?_eq, List.mem_append, List.mem_singleton]
    by_cases same : scope = s ∧ mangled = m
    · obtain ⟨rfl, rfl⟩ := same
      simp [unused, eq_comm]
    · rw [if_neg same, records.asked?_iff]
      constructor
      · exact .inl
      · rintro (h | h)
        · exact h
        · cases h
          exact absurd ⟨rfl, rfl⟩ same
  · intro n s
    rw [step.isReserved_iff, records.isReserved_iff]
    simp
  · intro n s m h
    rw [List.mem_append, List.mem_singleton] at h
    rcases h with h | h
    · exact records.not_forbidden n s m h
    · cases h
      exact step.not_forbidden
  · have fresh : (⟨name, mangled, scope⟩ : Entry) ∉ past.filterMap Event.entry? := by
      intro logged
      obtain ⟨event, member, told⟩ := List.mem_filterMap.mp logged
      cases event <;> simp [Event.entry?] at told
      obtain ⟨rfl, rfl, rfl⟩ := told
      exact unasked _ member
    rw [step.entries_eq, List.filterMap_append, records.entries_eq]
    exact ((eraseDups_concat _ _).trans (if_neg fresh)).symm

/-- An answer that leaves the ledger alone is of no consequence. -/
theorem idle (records : Records ledger past) {event : Event} (quiet : event.entry? = none)
    (kept : ∀ n s, event ≠ .reserved n s) : Records ledger (past ++ [event]) := by
  have other (n s m : String) : event ≠ .resolved n s m := by
    rintro rfl
    simp [Event.entry?] at quiet
  refine ⟨?_, ?_, ?_, ?_, ?_⟩
  · intro n s m
    simp [records.issued?_iff, (other n s m).symm]
  · intro n s m
    simp [records.asked?_iff, (other n s m).symm]
  · intro n s
    simp [records.isReserved_iff, (kept n s).symm]
  · intro n s m h
    refine records.not_forbidden n s m ?_
    simpa [(other n s m).symm] using h
  · rw [List.filterMap_append, records.entries_eq]
    simp [quiet]

/-- A reserved name is recorded, and nothing else changes. -/
theorem reserved (records : Records ledger past) (name scope : String) :
    Records (ledger.reserve name scope) (past ++ [.reserved name scope]) := by
  refine ⟨?_, ?_, ?_, ?_, ?_⟩
  · intro n s m
    simp [records.issued?_iff]
  · intro n s m
    simp [records.asked?_iff]
  · intro n s
    rw [isReserved_reserve, records.isReserved_iff, List.mem_append, List.mem_singleton,
      Event.reserved.injEq]
    constructor
    · rintro (⟨rfl, rfl⟩ | h)
      · exact .inr ⟨rfl, rfl⟩
      · exact .inl h
    · rintro (h | ⟨rfl, rfl⟩)
      · exact .inr h
      · exact .inl ⟨rfl, rfl⟩
  · intro n s m h
    exact records.not_forbidden n s m (by simpa using h)
  · rw [entries_reserve, List.filterMap_append, records.entries_eq]
    exact congrArg List.eraseDups (List.append_nil _).symm

/-- Every call is recorded with its answer. -/
theorem step (records : Records ledger past) (call : Call) :
    Records (call.apply ledger) (past ++ [call.answer ledger]) := by
  cases call with
  | resolve name scope =>
    rcases ledger.resolve_cases name scope with ⟨mangled, known, same⟩ | allocates
    · simpa only [Call.apply, Call.answer, same] using records.found known
    · exact records.allocated allocates
  | reserve name scope => exact records.reserved name scope
  | original mangled scope => exact records.idle rfl (by simp [Call.answer])
  | debug => exact records.idle rfl (by simp [Call.answer])

/-- Whatever the calls are, the ledger behind them has recorded their answers. -/
theorem run (records : Records ledger past) (calls : List Call) :
    Records (ledger.after calls) (past ++ ledger.answers calls) := by
  induction calls generalizing ledger past with
  | nil => simpa [answers] using records
  | cons call calls ih => simpa [answers] using ih (records.step call)

end Records

/-- A ledger that was made by calls has recorded them. -/
theorem records_after (calls : List Call) :
    Records (Ledger.after {} calls) (Ledger.answers {} calls) := by
  simpa using records_empty.run calls

/-! ## What the answers of a fresh ledger are -/

/-- Within a scope equal answers mean equal names, wherever in the run they were asked for. An
answer is no reserved word, no global name and no name that was reserved before the name was first
asked for. A text stands for a name exactly when it was an answer for that name before, and the
log holds every decision once, in the order they were made. -/
theorem fresh_ledger_answers (calls : List Call) :
    let events := Ledger.answers {} calls
    events.map Event.call = calls ∧
    (∀ s n₁ n₂ m₁ m₂, .resolved n₁ s m₁ ∈ events → .resolved n₂ s m₂ ∈ events →
      (m₁ = m₂ ↔ n₁ = n₂)) ∧
    (∀ s n m, .resolved n s m ∈ events →
      m ∉ Script.reservedWords ∧ m ∉ Script.strictWords ∧ m ∉ globalNames) ∧
    (∀ past s n m future, events = past ++ .resolved n s m :: future →
      (∀ m', .resolved n s m' ∉ past) →
      ∀ r, .reserved r s ∈ past → .resolved n s r ∉ events) ∧
    (∀ past s m found future, events = past ++ .original m s found :: future →
      ∀ n, found = some n ↔ .resolved n s m ∈ past) ∧
    (∀ past shown scopes future, events = past ++ .shown shown scopes :: future →
      shown = (past.filterMap Event.entry?).eraseDups) ∧
    (Ledger.after {} calls).entries = (events.filterMap Event.entry?).eraseDups ∧
    (Ledger.after {} calls).entries.Nodup := by
  intro events
  have records : Records (Ledger.after {} calls) events := records_after calls
  refine ⟨map_call_answers {} calls, ?_, ?_, ?_, ?_, ?_, records.entries_eq,
    records.entries_eq ▸ nodup_eraseDups _⟩
  · intro s n₁ n₂ m₁ m₂ h₁ h₂
    exact records.mangled_eq_iff h₁ h₂
  · intro s n m h
    simpa [forbiddenNames, and_assoc] using records.not_forbidden n s m h
  · intro past s n m future split first r kept answered
    have here : .resolved n s m ∈ events := by simp [split]
    obtain ⟨before, call, later, -, rfl, told⟩ := answers_eq_append_cons split
    cases call <;> simp only [Call.answer, reduceCtorEq, Event.resolved.injEq] at told
    obtain ⟨rfl, rfl, rfl⟩ := told
    have equal : r = _ := (records.mangled_eq_iff answered here).mpr rfl
    rw [equal] at kept
    exact (records_after before).not_reserved_of_first first kept
  · intro past s m found future split n
    obtain ⟨before, call, later, -, rfl, told⟩ := answers_eq_append_cons split
    cases call <;> simp only [Call.answer, reduceCtorEq, Event.original.injEq] at told
    obtain ⟨rfl, rfl, rfl⟩ := told
    exact (records_after before).asked?_iff n s m
  · intro past shown scopes future split
    obtain ⟨before, call, later, -, rfl, told⟩ := answers_eq_append_cons split
    cases call <;> simp only [Call.answer, reduceCtorEq, Event.shown.injEq] at told
    rw [told.1]
    exact (records_after before).entries_eq

/-- A name that is reserved late keeps what it has, and a text that is issued stays issued. -/
example : Ledger.answers {} [.resolve "f" "s", .reserve "a" "s", .reserve "b" "s",
      .resolve "g" "s", .resolve "f" "s", .original "a" "s", .original "a" "t"] =
    [.resolved "f" "s" "a", .reserved "a" "s", .reserved "b" "s", .resolved "g" "s" "c",
      .resolved "f" "s" "a", .original "a" "s" (some "f"), .original "a" "t" none] := by
  decide +kernel

end ChunkBridge.Ledger
