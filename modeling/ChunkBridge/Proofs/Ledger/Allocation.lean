import ChunkBridge.Ledger.Basic
import ChunkBridge.Proofs.Ledger.Candidate
import Mathlib.Data.List.Perm.Subperm

/-!
# How a ledger issues a name

A scope looks for its next free candidate among only so many. As all candidates differ and only so
many names are taken, one of those is free (`nextFree_spec`). What a request does to a ledger is
said once: it finds the name that was issued before and changes nothing, or it allocates
(`resolve_cases`, `Allocates`).
-/

namespace ChunkBridge.Ledger

namespace Scope

/-- The names that a scope does not issue. -/
def taken (s : Scope) : List String := forbiddenNames ++ s.reserved.keys ++ s.asked.keys

theorem length_taken (s : Scope) :
    s.taken.length = forbiddenNames.length + s.reserved.size + s.asked.size := by
  simp [taken, Std.TreeMap.length_keys, Nat.add_assoc]

theorem isFree_iff (s : Scope) (name : String) : s.isFree name = true ↔ name ∉ s.taken := by
  simp [isFree, taken, and_assoc, ← Std.TreeMap.contains_iff_mem]

/-- The search passes over candidates that are taken, until it is at a free one or has looked at as
many as it may. -/
theorem search_spec (s : Scope) (fuel n : Nat) :
    n ≤ s.search fuel n ∧
      (∀ k, n ≤ k → k < s.search fuel n → candidate k ∈ s.taken) ∧
      (s.isFree (candidate (s.search fuel n)) = true ∨ s.search fuel n = n + fuel) := by
  induction fuel generalizing n with
  | zero =>
    refine ⟨Nat.le_refl n, fun k lower upper => ?_, .inr rfl⟩
    exact absurd upper (Nat.not_lt.mpr lower)
  | succ fuel ih =>
    by_cases free : s.isFree (candidate n) = true
    · have here : s.search (fuel + 1) n = n := by simp [search, free]
      rw [here]
      refine ⟨Nat.le_refl n, fun k lower upper => ?_, .inl free⟩
      exact absurd upper (Nat.not_lt.mpr lower)
    · have next : s.search (fuel + 1) n = s.search fuel (n + 1) := by simp [search, free]
      obtain ⟨onward, between, ending⟩ := ih (n + 1)
      rw [next]
      refine ⟨by omega, fun k lower upper => ?_, ?_⟩
      · rcases Nat.eq_or_lt_of_le lower with rfl | above
        · rw [isFree_iff] at free
          exact not_not.mp free
        · exact between k above upper
      · rcases ending with found | stop
        · exact .inl found
        · exact .inr (by omega)

/-- A stretch of candidates that are all taken is no longer than the names that are. -/
theorem length_le_of_taken (s : Scope) {n length : Nat}
    (all : ∀ k, n ≤ k → k < n + length → candidate k ∈ s.taken) : length ≤ s.taken.length := by
  have inside : (List.range' n length).map candidate ⊆ s.taken := by
    intro name member
    obtain ⟨k, within, rfl⟩ := List.mem_map.mp member
    rw [List.mem_range'_1] at within
    exact all k within.1 within.2
  have distinct : ((List.range' n length).map candidate).Nodup :=
    List.Nodup.map candidate_injective List.nodup_range'
  have bound := (List.subperm_of_subset distinct inside).length_le
  rwa [List.length_map, List.length_range'] at bound

/-- The candidate that a scope settles for is free, and those between the counter and it are
taken. -/
theorem nextFree_spec (s : Scope) :
    s.next ≤ s.nextFree ∧ (∀ k, s.next ≤ k → k < s.nextFree → candidate k ∈ s.taken) ∧
      s.isFree (candidate s.nextFree) = true := by
  unfold nextFree
  rw [← length_taken]
  obtain ⟨onward, between, ending⟩ := s.search_spec s.taken.length s.next
  refine ⟨onward, between, ?_⟩
  rcases ending with found | stop
  · exact found
  -- The search has passed over as many candidates as there are taken names; one more would not fit.
  · by_contra taken
    rw [isFree_iff, not_not] at taken
    have long : s.taken.length + 1 ≤ s.taken.length := by
      refine s.length_le_of_taken (n := s.next) fun k lower upper => ?_
      rcases Nat.lt_or_ge k (s.search s.taken.length s.next) with below | last
      · exact between k lower below
      · have same : k = s.search s.taken.length s.next := by omega
        exact same ▸ taken
    omega

end Scope

/-- The name is kept from being issued in the scope. -/
def IsReserved (ledger : Ledger) (name scope : String) : Prop :=
  name ∈ (ledger.scope scope).reserved

/-- A ledger, before and after it has issued `mangled` for a name that it did not know. -/
structure Allocates (ledger : Ledger) (name scope mangled : String) (after : Ledger) : Prop where
  unknown : ledger.issued? name scope = none
  not_forbidden : mangled ∉ forbiddenNames
  not_reserved : ¬ ledger.IsReserved mangled scope
  vacant : ledger.asked? mangled scope = none
  issued?_eq : ∀ n s,
    after.issued? n s = if scope = s ∧ name = n then some mangled else ledger.issued? n s
  asked?_eq : ∀ m s,
    after.asked? m s = if scope = s ∧ mangled = m then some name else ledger.asked? m s
  isReserved_iff : ∀ n s, after.IsReserved n s ↔ ledger.IsReserved n s
  entries_eq : after.entries = ledger.entries ++ [⟨name, mangled, scope⟩]

/-- A new version of one scope leaves the others as they were. -/
theorem scope_insert (ledger : Ledger) (name other : String) (names : Scope) (log : List Entry) :
    Ledger.scope ⟨ledger.scopes.insert name names, log⟩ other =
      if name = other then names else ledger.scope other := by
  simp [Ledger.scope, Std.TreeMap.getD_insert]

/-- A request finds what was issued before and changes nothing, or it allocates. -/
theorem resolve_cases (ledger : Ledger) (name scope : String) :
    (∃ mangled, ledger.issued? name scope = some mangled ∧
      ledger.resolve name scope = (mangled, ledger)) ∨
    ledger.Allocates name scope (ledger.resolve name scope).1 (ledger.resolve name scope).2 := by
  cases known : ledger.issued? name scope with
  | some mangled => exact .inl ⟨mangled, rfl, by simp [resolve, known]⟩
  | none =>
    right
    obtain ⟨-, -, free⟩ := (ledger.scope scope).nextFree_spec
    rw [Scope.isFree_iff] at free
    simp only [Scope.taken, List.mem_append, Std.TreeMap.mem_keys, not_or] at free
    obtain ⟨⟨not_forbidden, not_reserved⟩, vacant⟩ := free
    simp only [resolve, known]
    refine ⟨known, not_forbidden, not_reserved, ?_, ?_, ?_, ?_, ?_⟩
    · exact Std.TreeMap.getElem?_eq_none vacant
    · intro n s
      rw [issued?, scope_insert]
      by_cases same : scope = s
      · simp [same, Scope.issue, Std.TreeMap.getElem?_insert, issued?]
      · simp [same, issued?]
    · intro m s
      rw [asked?, scope_insert]
      by_cases same : scope = s
      · simp [same, Scope.issue, Std.TreeMap.getElem?_insert, asked?]
      · simp [same, asked?]
    · intro n s
      rw [IsReserved, scope_insert]
      by_cases same : scope = s <;> simp [same, Scope.issue, IsReserved]
    · simp [entries]

/-- What a request answers is what the ledger knows from then on. -/
theorem issued?_resolve_self (ledger : Ledger) (name scope : String) :
    (ledger.resolve name scope).2.issued? name scope = some (ledger.resolve name scope).1 := by
  rcases ledger.resolve_cases name scope with ⟨mangled, known, same⟩ | allocates
  · rw [same, known]
  · rw [allocates.issued?_eq, if_pos ⟨rfl, rfl⟩]

/-- A request takes nothing back. -/
theorem issued?_resolve {ledger : Ledger} {n s m : String} (known : ledger.issued? n s = some m)
    (name scope : String) : (ledger.resolve name scope).2.issued? n s = some m := by
  rcases ledger.resolve_cases name scope with ⟨mangled, -, same⟩ | allocates
  · rw [same, known]
  · rw [allocates.issued?_eq, if_neg, known]
    rintro ⟨rfl, rfl⟩
    rw [allocates.unknown] at known
    cases known

@[simp] theorem issued?_reserve (ledger : Ledger) (name scope n s : String) :
    (ledger.reserve name scope).issued? n s = ledger.issued? n s := by
  rw [reserve, issued?, scope_insert]
  by_cases same : scope = s <;> simp [same, issued?]

@[simp] theorem asked?_reserve (ledger : Ledger) (name scope m s : String) :
    (ledger.reserve name scope).asked? m s = ledger.asked? m s := by
  rw [reserve, asked?, scope_insert]
  by_cases same : scope = s <;> simp [same, asked?]

theorem isReserved_reserve (ledger : Ledger) (name scope n s : String) :
    (ledger.reserve name scope).IsReserved n s ↔
      scope = s ∧ name = n ∨ ledger.IsReserved n s := by
  rw [reserve, IsReserved, scope_insert]
  by_cases same : scope = s <;> simp [same, IsReserved, Std.TreeMap.mem_insert]

@[simp] theorem entries_reserve (ledger : Ledger) (name scope : String) :
    (ledger.reserve name scope).entries = ledger.entries := rfl

end ChunkBridge.Ledger
