import ChunkBridge.Proofs.Ledger.Calls
import Mathlib.Algebra.Group.Nat.Defs

/-!
# The search for a name

A scope looks at one candidate after the other, from its counter on, until one is vacant. Every
candidate below the counter is taken, and all that was issued lies there (`Scope.Swept`). So the
search passes over names that are forbidden or reserved and never over one that was issued, and the
counter is no greater than the number of names that are taken (`search_ends`).
-/

namespace ChunkBridge.Ledger

namespace Scope

/-! ## Looks -/

/-- What a search finds at a candidate. -/
inductive Look where
  /-- The name is forbidden, or it is reserved in the scope. -/
  | kept
  /-- The name is issued in the scope. -/
  | occupied
  | vacant
deriving Repr, DecidableEq

/-- What the scope finds at the candidate with index `n`. Whether it was issued is asked last. -/
def look (s : Scope) (n : Nat) : Look :=
  if forbiddenNames.contains (candidate n) || s.reserved.contains (candidate n) then .kept
  else if s.asked.contains (candidate n) then .occupied
  else .vacant

/-- A search from the candidate with index `n` on, look by look, with no bound to it: it goes on as
long as a candidate is not vacant. -/
inductive Searches (s : Scope) : Nat → List Look → Nat → Prop where
  | found {n : Nat} (vacant : s.look n = .vacant) : Searches s n [.vacant] n
  | passed {n last : Nat} {looks : List Look} (taken : s.look n ≠ .vacant)
    (rest : Searches s (n + 1) looks last) : Searches s n (s.look n :: looks) last

variable {s : Scope}

theorem look_eq_vacant_iff (n : Nat) : s.look n = .vacant ↔ s.isFree (candidate n) = true := by
  unfold look isFree
  cases forbiddenNames.contains (candidate n) <;> cases s.reserved.contains (candidate n) <;>
    cases s.asked.contains (candidate n) <;> decide

/-- A taken name that was not issued is forbidden or reserved. -/
theorem look_eq_kept {n : Nat} (taken : candidate n ∈ s.taken) (unissued : candidate n ∉ s.asked) :
    s.look n = .kept := by
  have kept : candidate n ∈ forbiddenNames ∨ candidate n ∈ s.reserved := by
    simpa [Scope.taken, unissued] using taken
  unfold look
  rw [if_pos]
  simpa using kept

theorem look_ne_occupied {n : Nat} (unissued : candidate n ∉ s.asked) : s.look n ≠ .occupied := by
  unfold look
  rw [if_neg (by simpa using unissued : ¬ s.asked.contains (candidate n) = true)]
  split <;> exact nofun

/-- A search has one course and one end. -/
theorem Searches.unique {n last last' : Nat} {looks looks' : List Look}
    (one : s.Searches n looks last) (other : s.Searches n looks' last') :
    looks' = looks ∧ last' = last := by
  induction one generalizing looks' last' with
  | found vacant =>
    cases other with
    | found => exact ⟨rfl, rfl⟩
    | passed taken rest => exact absurd vacant taken
  | passed taken rest ih =>
    cases other with
    | found vacant => exact absurd vacant taken
    | passed taken' rest' =>
      obtain ⟨rfl, rfl⟩ := ih rest'
      exact ⟨rfl, rfl⟩

/-- A search goes over what is kept to the first candidate that is vacant. -/
theorem searches_of_kept {n gap last : Nat} (far : n + gap = last)
    (kept : ∀ k, n ≤ k → k < last → s.look k = .kept) (vacant : s.look last = .vacant) :
    s.Searches n (List.replicate gap .kept ++ [.vacant]) last := by
  induction gap generalizing n with
  | zero =>
    subst far
    exact .found vacant
  | succ gap ih =>
    have here : s.look n = .kept := kept n (Nat.le_refl n) (by omega)
    have rest : s.Searches (n + 1) (List.replicate gap .kept ++ [.vacant]) last :=
      ih (by omega) fun k lower upper => kept k (by omega) upper
    have passed : s.Searches n (s.look n :: (List.replicate gap .kept ++ [.vacant])) last :=
      .passed (by simp [here]) rest
    rwa [here] at passed

/-! ## What lies below the counter -/

/-- Below the counter every candidate is taken, and all names that were issued lie there. -/
structure Swept (s : Scope) : Prop where
  taken : ∀ k, k < s.next → candidate k ∈ s.taken
  issued : ∀ name ∈ s.asked, ∃ k, k < s.next ∧ candidate k = name

theorem swept_empty : Swept {} where
  taken k below := absurd below (Nat.not_lt_zero k)
  issued name member := by simp at member

/-- The scope with a further reservation. -/
def reserve (s : Scope) (name : String) : Scope :=
  { s with reserved := s.reserved.insert name () }

theorem mem_taken_reserve {name other : String} (taken : other ∈ s.taken) :
    other ∈ (s.reserve name).taken := by
  simp only [Scope.taken, reserve, List.mem_append, Std.TreeMap.mem_keys,
    Std.TreeMap.mem_insert] at taken ⊢
  tauto

theorem mem_taken_issue_iff {name other : String} :
    other ∈ (s.issue name).taken ↔ other = candidate s.nextFree ∨ other ∈ s.taken := by
  simp only [Scope.taken, issue, List.mem_append, Std.TreeMap.mem_keys, Std.TreeMap.mem_insert,
    Std.LawfulEqCmp.compare_eq_iff_eq, @eq_comm _ other]
  tauto

namespace Swept

/-- Nothing from the counter on was issued. -/
theorem unissued (swept : s.Swept) {n : Nat} (onward : s.next ≤ n) : candidate n ∉ s.asked := by
  intro member
  obtain ⟨k, below, same⟩ := swept.issued (candidate n) member
  have equal := candidate_injective same
  omega

/-- All candidates before the next free one are taken. -/
theorem taken_of_lt_nextFree (swept : s.Swept) {k : Nat} (below : k < s.nextFree) :
    candidate k ∈ s.taken := by
  obtain ⟨-, between, -⟩ := s.nextFree_spec
  rcases Nat.lt_or_ge k s.next with swept' | beyond
  · exact swept.taken k swept'
  · exact between k beyond below

theorem reserve (swept : s.Swept) (name : String) : (s.reserve name).Swept where
  taken k below := mem_taken_reserve (swept.taken k below)
  issued := swept.issued

theorem issue (swept : s.Swept) (name : String) : (s.issue name).Swept where
  taken k below := by
    -- Below the new counter lie the candidates that the search went over, and the one it ended at.
    rw [mem_taken_issue_iff]
    rcases Nat.lt_or_eq_of_le (Nat.le_of_lt_succ below) with before | rfl
    · exact .inr (swept.taken_of_lt_nextFree before)
    · exact .inl rfl
  issued other member := by
    have onward := s.nextFree_spec.1
    simp only [Scope.issue, Std.TreeMap.mem_insert, Std.LawfulEqCmp.compare_eq_iff_eq] at member
    rcases member with here | before
    · exact ⟨s.nextFree, Nat.lt_succ_self s.nextFree, here⟩
    · obtain ⟨k, below, same⟩ := swept.issued other before
      exact ⟨k, Nat.lt_succ_of_le (Nat.le_of_lt (Nat.lt_of_lt_of_le below onward)), same⟩

/-- The next free candidate is not farther than there are names taken. -/
theorem nextFree_le (swept : s.Swept) :
    s.nextFree ≤ s.asked.size + s.reserved.size + forbiddenNames.length := by
  have bound : s.nextFree ≤ s.taken.length := by
    -- The candidates are all different, so as many names are taken as lie before the next free one.
    refine s.length_le_of_taken (n := 0) fun k _ below => ?_
    exact swept.taken_of_lt_nextFree (by omega)
  rw [length_taken] at bound
  omega

/-- The search passes over names that are forbidden or reserved and ends. -/
theorem searches_iff (swept : s.Swept) (looks : List Look) (last : Nat) :
    s.Searches s.next looks last ↔
      looks = List.replicate (s.nextFree - s.next) .kept ++ [.vacant] ∧ last = s.nextFree := by
  obtain ⟨onward, between, free⟩ := s.nextFree_spec
  have course : s.Searches s.next (List.replicate (s.nextFree - s.next) .kept ++ [.vacant])
      s.nextFree := by
    refine searches_of_kept (by omega) (fun k lower upper => ?_)
      ((look_eq_vacant_iff s.nextFree).mpr free)
    exact look_eq_kept (between k lower upper) (swept.unissued lower)
  constructor
  · exact course.unique
  · rintro ⟨rfl, rfl⟩
    exact course

end Swept
end Scope

/-! ## Runs -/

/-- What a call may do to the names of a scope. -/
theorem Call.scope_apply_cases (ledger : Ledger) (call : Call) (s : String) :
    (call.apply ledger).scope s = ledger.scope s ∨
      (∃ name, (call.apply ledger).scope s = (ledger.scope s).issue name) ∨
      ∃ name, (call.apply ledger).scope s = (ledger.scope s).reserve name := by
  cases call with
  | resolve name scope =>
    rw [Call.apply, Ledger.resolve]
    split
    · exact .inl rfl
    · rw [scope_insert]
      by_cases same : scope = s
      · subst same
        exact .inr (.inl ⟨name, if_pos rfl⟩)
      · exact .inl (if_neg same)
  | reserve name scope =>
    rw [Call.apply, Ledger.reserve, scope_insert]
    by_cases same : scope = s
    · subst same
      exact .inr (.inr ⟨name, if_pos rfl⟩)
    · exact .inl (if_neg same)
  | original mangled scope => exact .inl rfl
  | debug => exact .inl rfl

/-- Every scope of a ledger that was made by calls is swept up to its counter. -/
theorem swept_after (calls : List Call) (s : String) : ((after {} calls).scope s).Swept := by
  induction calls using List.reverseRecOn with
  | nil =>
    have fresh : (after {} []).scope s = {} := by simp [scope]
    rw [fresh]
    exact Scope.swept_empty
  | append_singleton calls call ih =>
    rw [after_append, after_cons, after_nil]
    rcases Call.scope_apply_cases (after {} calls) call s with same | ⟨name, same⟩ | ⟨name, same⟩
    · rwa [same]
    · rw [same]
      exact ih.issue name
    · rw [same]
      exact ih.reserve name

/-- What stands for a name in a ledger that was made by calls is a candidate. -/
theorem exists_candidate_of_asked? {calls : List Call} {name b s : String}
    (known : (after {} calls).asked? b s = some name) : ∃ n, candidate n = b := by
  have issued : b ∈ ((after {} calls).scope s).asked :=
    Std.TreeMap.isSome_getElem?_iff_mem.mp (Option.isSome_iff_exists.mpr ⟨name, known⟩)
  obtain ⟨n, -, same⟩ := (swept_after calls s).issued b issued
  exact ⟨n, same⟩

/-- A call issues or reserves one name at most. -/
theorem size_after_le (calls : List Call) (s : String) :
    ((after {} calls).scope s).asked.size + ((after {} calls).scope s).reserved.size ≤
      calls.length := by
  induction calls using List.reverseRecOn with
  | nil => simp [scope]
  | append_singleton calls call ih =>
    rw [after_append, after_cons, after_nil, List.length_append, List.length_singleton]
    rcases Call.scope_apply_cases (after {} calls) call s with same | ⟨name, same⟩ | ⟨name, same⟩
    · rw [same]
      omega
    · have more := Std.TreeMap.size_insert_le (t := ((after {} calls).scope s).asked)
        (k := candidate ((after {} calls).scope s).nextFree) (v := name)
      rw [same]
      simp only [Scope.issue]
      omega
    · have more := Std.TreeMap.size_insert_le (t := ((after {} calls).scope s).reserved)
        (k := name) (v := ())
      rw [same]
      simp only [Scope.reserve]
      omega

/-- What a name that was not asked for is called, and where its scope counts on from. -/
theorem resolve_of_unknown {ledger : Ledger} {name scope : String}
    (unknown : ledger.issued? name scope = none) :
    (ledger.resolve name scope).1 = candidate (ledger.scope scope).nextFree ∧
      ((ledger.resolve name scope).2.scope scope).next = (ledger.scope scope).nextFree + 1 := by
  unfold resolve
  rw [unknown]
  dsimp only
  rw [scope_insert, if_pos rfl]
  exact ⟨rfl, rfl⟩

/-- In any state that calls can lead to, the search of a scope has one course, which ends: it goes
over some candidates that are forbidden or reserved, and then it is at one that is vacant, which is
what a new name is called. None of the candidates it may come to was issued. Neither the counter nor
the candidate where the search ends is farther than there are names that are issued, reserved or
forbidden. In a run of fewer than `2 ^ 63` calls the counter is less than `2 ^ 64`, also behind a
further search. -/
theorem search_ends (calls : List Call) (scope : String) :
    let ledger := after {} calls
    let names := ledger.scope scope
    let bound := names.asked.size + names.reserved.size + forbiddenNames.length
    (∀ looks last, names.Searches names.next looks last ↔
      looks = List.replicate (names.nextFree - names.next) .kept ++ [.vacant] ∧
        last = names.nextFree) ∧
    (∀ name, ledger.issued? name scope = none →
      (ledger.resolve name scope).1 = candidate names.nextFree ∧
        ((ledger.resolve name scope).2.scope scope).next = names.nextFree + 1) ∧
    (∀ n, names.next ≤ n → names.look n ≠ .occupied) ∧
    names.next ≤ bound ∧ names.nextFree ≤ bound ∧
    (calls.length < 2 ^ 63 → names.next < 2 ^ 64 ∧ names.nextFree + 1 < 2 ^ 64) := by
  intro ledger names bound
  have swept : names.Swept := swept_after calls scope
  have onward : names.next ≤ names.nextFree := names.nextFree_spec.1
  have near : names.nextFree ≤ bound := swept.nextFree_le
  have calls_le : names.asked.size + names.reserved.size ≤ calls.length := size_after_le calls scope
  have forbidden : forbiddenNames.length = 50 := by decide +kernel
  refine ⟨swept.searches_iff, fun name unknown => resolve_of_unknown unknown, ?_, by omega, near, ?_⟩
  · intro n beyond
    exact Scope.look_ne_occupied (swept.unissued beyond)
  · intro few
    constructor <;> omega

/-- Two names are kept, of which the counter has passed one, and one is issued. -/
example :
    let names := (after {} [.reserve "a" "s", .resolve "f" "s", .reserve "c" "s"]).scope "s"
    names.next = 2 ∧ names.nextFree = 3 ∧ names.asked.size = 1 ∧ names.reserved.size = 2 := by
  decide +kernel

end ChunkBridge.Ledger
