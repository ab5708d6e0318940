import ChunkBridge.Proofs.Ledger.Search

/-!
# The shortest name that is left

A name that is asked for the first time is called by the first of all candidates that is neither
forbidden nor reserved nor issued in its scope. As every name of ASCII characters is a candidate, and
they come in the order of their lengths, no such name that is left is shorter (`resolve_shortest`).
-/

namespace ChunkBridge.Ledger

/-- After what has happened the name may still be issued in the scope: it is not forbidden, it was
not reserved and it is not what another name is called. -/
def IsLeft (past : List Event) (scope name : String) : Prop :=
  name ∉ forbiddenNames ∧ .reserved name scope ∉ past ∧ ∀ other, .resolved other scope name ∉ past

/-- The names that are left are those that the scope does not hold for taken. -/
theorem Records.isLeft_iff {ledger : Ledger} {past : List Event} (records : Records ledger past)
    (scope name : String) : IsLeft past scope name ↔ name ∉ (ledger.scope scope).taken := by
  have reserved : name ∈ (ledger.scope scope).reserved ↔ .reserved name scope ∈ past :=
    records.isReserved_iff name scope
  have issued : name ∈ (ledger.scope scope).asked ↔ ∃ other, .resolved other scope name ∈ past := by
    simp only [← records.asked?_iff, asked?, ← Option.isSome_iff_exists,
      Std.TreeMap.isSome_getElem?_iff_mem]
  simp only [IsLeft, Scope.taken, List.mem_append, Std.TreeMap.mem_keys, reserved, issued, not_or,
    not_exists, and_assoc]

/-- Behind any calls, a name that has not been asked for in a scope is called by the first candidate
that is left there. It is a name of ASCII characters, and no shorter one is left. -/
theorem resolve_shortest (calls : List Call) (name scope : String)
    (unasked : ∀ mangled, .resolved name scope mangled ∉ answers {} calls) :
    let past := answers {} calls
    let mangled := ((after {} calls).resolve name scope).1
    (∃ n, mangled = candidate n ∧ IsLeft past scope (candidate n) ∧
      ∀ k, k < n → ¬ IsLeft past scope (candidate k)) ∧
    IsAsciiName mangled.toList ∧
    ∀ other : String, IsAsciiName other.toList → IsLeft past scope other →
      mangled.length ≤ other.length := by
  intro past mangled
  have records : Records (after {} calls) past := records_after calls
  have swept := swept_after calls scope
  have unknown : (after {} calls).issued? name scope = none := by
    refine Option.eq_none_iff_forall_ne_some.mpr fun known issued => ?_
    exact unasked known ((records.issued?_iff name scope known).mp issued)
  obtain ⟨called, -⟩ := resolve_of_unknown unknown
  obtain ⟨-, -, free⟩ := ((after {} calls).scope scope).nextFree_spec
  rw [Scope.isFree_iff, ← records.isLeft_iff] at free
  have least (k : Nat) (below : k < ((after {} calls).scope scope).nextFree) :
      ¬ IsLeft past scope (candidate k) := by
    rw [records.isLeft_iff, not_not]
    exact swept.taken_of_lt_nextFree below
  refine ⟨⟨_, called, free, least⟩, ?_, ?_⟩
  · rw [show mangled = candidate _ from called]
    exact isAsciiName_candidate _
  · intro other ascii left
    have same : other = candidate (candidateIndex other.toList) := by
      rw [candidate_candidateIndex ascii, String.ofList_toList]
    rw [show mangled = candidate _ from called, same]
    refine length_candidate_mono (Nat.le_of_not_lt fun below => ?_)
    exact least _ below (same ▸ left)

/-- Where all names of one character are reserved, the shortest that are left have two. -/
theorem resolve_behind_characters :
    let calls : List Call := firstChars.map fun c => .reserve (String.singleton c) "s"
    (∀ mangled, .resolved "f" "s" mangled ∉ answers {} calls) ∧
      ((after {} calls).resolve "f" "s").1 = "aa" ∧
      ∀ other : String, IsAsciiName other.toList → IsLeft (answers {} calls) "s" other →
        2 ≤ other.length := by
  intro calls
  have told : answers {} calls = firstChars.map fun c => .reserved (String.singleton c) "s" := by
    decide +kernel
  have unasked (mangled : String) : .resolved "f" "s" mangled ∉ answers {} calls := by
    simp [told]
  have called : ((after {} calls).resolve "f" "s").1 = "aa" := by decide +kernel
  obtain ⟨-, -, shortest⟩ := resolve_shortest calls "f" "s" unasked
  rw [called] at shortest
  exact ⟨unasked, called, shortest⟩

end ChunkBridge.Ledger
