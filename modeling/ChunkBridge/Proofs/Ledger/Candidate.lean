import ChunkBridge.Ledger.Candidate
import ChunkBridge.Text.Identifier
import Mathlib.Data.List.GetD
import Mathlib.Data.List.Nodup
import Mathlib.Data.Set.Function
import Mathlib.Order.Monotone.Defs

/-!
# The index of a candidate

A candidate is a number written with 54 digits in front and 64 behind, the lowest first, where
the digits behind count from one. So the number can be read back from it, and no two numbers have
the same candidate. Every name of ASCII characters is a candidate (`candidate_candidateIndex`), and
candidates do not get shorter as their numbers grow (`length_candidate_mono`).
-/

namespace ChunkBridge.Ledger

theorem length_firstChars : firstChars.length = 54 := by decide +kernel

theorem length_restChars : restChars.length = 64 := by decide +kernel

theorem nodup_firstChars : firstChars.Nodup := by decide +kernel

theorem nodup_restChars : restChars.Nodup := by decide +kernel

/-- The number that the further characters of a candidate stand for. -/
def restIndex : List Char → Nat
  | [] => 0
  | c :: cs => restChars.idxOf c + 64 * restIndex cs + 1

/-- The number that the characters of a candidate stand for. -/
def candidateIndex : List Char → Nat
  | [] => 0
  | c :: cs => firstChars.idxOf c + 54 * restIndex cs

/-- A digit is read back as its place in the alphabet. -/
theorem idxOf_getD {alphabet : List Char} (distinct : alphabet.Nodup) {n : Nat}
    (h : n < alphabet.length) : alphabet.idxOf (alphabet.getD n 'a') = n := by
  rw [List.getD_eq_getElem _ _ h]
  exact distinct.idxOf_getElem n h

theorem restIndex_restOf (n : Nat) : restIndex (restOf n) = n := by
  induction n using restOf.induct with
  | case1 => simp [restOf, restIndex]
  | case2 n further =>
    have digit : restChars.idxOf (restChars.getD (n % 64) 'a') = n % 64 := by
      apply idxOf_getD nodup_restChars
      rw [length_restChars]
      exact Nat.mod_lt n (by omega)
    rw [restOf, restIndex, digit, further]
    omega

theorem candidateIndex_candidate (n : Nat) : candidateIndex (candidate n).toList = n := by
  have digit : firstChars.idxOf (firstChar n) = n % 54 := by
    apply idxOf_getD nodup_firstChars
    rw [length_firstChars]
    exact Nat.mod_lt n (by omega)
  rw [candidate, String.toList_ofList, candidateIndex, digit, restIndex_restOf]
  omega

/-- No two numbers have the same candidate. -/
theorem candidate_injective : Function.Injective candidate := by
  intro m n h
  rw [← candidateIndex_candidate m, h, candidateIndex_candidate]

/-! ## Every name is a candidate -/

/-- What holds of 128 characters holds of all that are ASCII. -/
theorem of_ascii {p : Char → Bool} (all : ((List.range 128).all fun n => p (Char.ofNat n)) = true)
    {c : Char} (ascii : c.toNat < 128) : p c = true := by
  have here := List.all_eq_true.mp all c.toNat (List.mem_range.mpr ascii)
  rwa [Char.ofNat_toNat] at here

theorem toNat_lt_of_isAlphanum {c : Char} (h : c.isAlphanum = true) : c.toNat < 128 := by
  have ranges : (decide ('A'.val ≤ c.val ∧ c.val ≤ 'Z'.val) ||
      (decide ('a'.val ≤ c.val) && decide (c.val ≤ 'z'.val)) ||
      (decide ('0'.val ≤ c.val) && decide (c.val ≤ '9'.val))) = true := h
  simp only [Bool.or_eq_true, Bool.and_eq_true, decide_eq_true_eq, UInt32.le_iff_toNat_le] at ranges
  have upper : 'Z'.val.toNat = 90 := rfl
  have lower : 'z'.val.toNat = 122 := rfl
  have digit : '9'.val.toNat = 57 := rfl
  show c.val.toNat < 128
  omega

/-- A candidate goes on with letters, digits, `_` and `$`. -/
theorem mem_restChars_iff (c : Char) : c ∈ restChars ↔ c.isAlphanum = true ∨ c = '_' ∨ c = '$' := by
  constructor
  · have all : (restChars.all fun d => d.isAlphanum || d == '_' || d == '$') = true := by
      decide +kernel
    intro member
    simpa [or_assoc] using List.all_eq_true.mp all c member
  · rintro (h | rfl | rfl)
    · have all := of_ascii (p := fun d => !d.isAlphanum || restChars.contains d) (by decide +kernel)
        (toNat_lt_of_isAlphanum h)
      simpa [h] using all
    · decide +kernel
    · decide +kernel

/-- A candidate begins with a letter, `_` or `$`. -/
theorem mem_firstChars_iff (c : Char) : c ∈ firstChars ↔ c.isAlpha = true ∨ c = '_' ∨ c = '$' := by
  constructor
  · have all : (firstChars.all fun d => d.isAlpha || d == '_' || d == '$') = true := by
      decide +kernel
    intro member
    simpa [or_assoc] using List.all_eq_true.mp all c member
  · rintro (h | rfl | rfl)
    · have alphanumeric : c.isAlphanum = true := by simp [Char.isAlphanum, h]
      have all := of_ascii (p := fun d => !d.isAlpha || firstChars.contains d) (by decide +kernel)
        (toNat_lt_of_isAlphanum alphanumeric)
      simpa [h] using all
    · decide +kernel
    · decide +kernel

/-- A name of ASCII characters: a letter, `_` or `$`, and then these and digits. -/
def IsAsciiName : List Char → Prop
  | [] => False
  | c :: cs =>
    (c.isAlpha = true ∨ c = '_' ∨ c = '$') ∧
      ∀ d ∈ cs, d.isAlphanum = true ∨ d = '_' ∨ d = '$'

theorem isAsciiName_cons_iff (c : Char) (cs : List Char) :
    IsAsciiName (c :: cs) ↔ c ∈ firstChars ∧ ∀ d ∈ cs, d ∈ restChars := by
  simp only [IsAsciiName, mem_firstChars_iff, mem_restChars_iff]

theorem getD_mem {alphabet : List Char} {n : Nat} (h : n < alphabet.length) :
    alphabet.getD n 'a' ∈ alphabet := by
  rw [List.getD_eq_getElem _ _ h]
  exact List.getElem_mem h

theorem mem_restChars_of_mem_restOf {n : Nat} {c : Char} (member : c ∈ restOf n) :
    c ∈ restChars := by
  induction n using restOf.induct with
  | case1 => simp [restOf] at member
  | case2 n further =>
    rw [restOf, List.mem_cons] at member
    rcases member with rfl | behind
    · apply getD_mem
      rw [length_restChars]
      exact Nat.mod_lt n (by omega)
    · exact further behind

theorem isAsciiName_candidate (n : Nat) : IsAsciiName (candidate n).toList := by
  rw [candidate, String.toList_ofList, isAsciiName_cons_iff]
  refine ⟨?_, fun d member => mem_restChars_of_mem_restOf member⟩
  apply getD_mem
  rw [length_firstChars]
  exact Nat.mod_lt n (by omega)

/-- A name of ASCII characters may be part of an identifier. -/
theorem isIdentifierPart_of_isAsciiName {cs : List Char} (name : IsAsciiName cs) :
    ∀ c ∈ cs, Text.isIdentifierPart c = true := by
  have part {c : Char} (among : c.isAlphanum = true ∨ c = '_' ∨ c = '$') :
      Text.isIdentifierPart c = true := by
    unfold Text.isIdentifierPart
    rcases among with alphanumeric | rfl | rfl
    · rw [if_pos (toNat_lt_of_isAlphanum alphanumeric), alphanumeric]
      rfl
    · decide
    · decide
  cases cs with
  | nil => cases name
  | cons first rest =>
    refine List.forall_mem_cons.mpr ⟨part ?_, fun c member => part (name.2 c member)⟩
    exact name.1.imp_left fun letter => by simp [Char.isAlphanum, letter]

/-- A character of an alphabet is found at its place. -/
theorem getD_idxOf {alphabet : List Char} {c : Char} (member : c ∈ alphabet) :
    alphabet.getD (alphabet.idxOf c) 'a' = c := by
  rw [List.getD_eq_getElem _ _ (List.idxOf_lt_length_of_mem member)]
  exact List.getElem_idxOf _

theorem restOf_restIndex {cs : List Char} (all : ∀ c ∈ cs, c ∈ restChars) :
    restOf (restIndex cs) = cs := by
  induction cs with
  | nil => rw [restIndex, restOf]
  | cons c cs ih =>
    have member := all c List.mem_cons_self
    have digit := List.idxOf_lt_length_of_mem member
    rw [length_restChars] at digit
    have lowest : (restChars.idxOf c + 64 * restIndex cs) % 64 = restChars.idxOf c := by omega
    have higher : (restChars.idxOf c + 64 * restIndex cs) / 64 = restIndex cs := by omega
    rw [restIndex, restOf, lowest, higher, getD_idxOf member,
      ih fun d behind => all d (List.mem_cons_of_mem c behind)]

/-- Every name of ASCII characters is the candidate with its index. -/
theorem candidate_candidateIndex {cs : List Char} (name : IsAsciiName cs) :
    candidate (candidateIndex cs) = String.ofList cs := by
  cases cs with
  | nil => cases name
  | cons c cs =>
    obtain ⟨first, rest⟩ := (isAsciiName_cons_iff c cs).mp name
    have digit := List.idxOf_lt_length_of_mem first
    rw [length_firstChars] at digit
    have lowest : (firstChars.idxOf c + 54 * restIndex cs) % 54 = firstChars.idxOf c := by omega
    have higher : (firstChars.idxOf c + 54 * restIndex cs) / 54 = restIndex cs := by omega
    rw [candidateIndex, candidate, firstChar, lowest, higher, getD_idxOf first,
      restOf_restIndex rest]

/-! ## The length of a candidate -/

theorem length_restOf_mono {m n : Nat} (h : m ≤ n) : (restOf m).length ≤ (restOf n).length := by
  induction m using restOf.induct generalizing n with
  | case1 => simp [restOf]
  | case2 m further =>
    obtain ⟨n, rfl⟩ : ∃ k, n = k + 1 := ⟨n - 1, by omega⟩
    have higher : m / 64 ≤ n / 64 := Nat.div_le_div_right (by omega)
    rw [restOf, restOf, List.length_cons, List.length_cons]
    exact Nat.succ_le_succ (further higher)

/-- A candidate is no longer than one with a greater index. -/
theorem length_candidate_mono {m n : Nat} (h : m ≤ n) :
    (candidate m).length ≤ (candidate n).length := by
  simp only [candidate, String.length_ofList, List.length_cons]
  exact Nat.succ_le_succ (length_restOf_mono (Nat.div_le_div_right h))

/-! ## Numbers and names -/

/-- A first character of the one alphabet, and then any number of characters of the other. -/
def asciiNames : Set String :=
  {text | ∃ first rest, text.toList = first :: rest ∧ first ∈ firstChars ∧ ∀ c ∈ rest, c ∈ restChars}

theorem mem_asciiNames_iff {text : String} : text ∈ asciiNames ↔ IsAsciiName text.toList := by
  constructor
  · rintro ⟨first, rest, split, known⟩
    rw [split, isAsciiName_cons_iff]
    exact known
  · intro name
    cases split : text.toList with
    | nil =>
      rw [split] at name
      cases name
    | cons first rest =>
      rw [split] at name
      exact ⟨first, rest, split, (isAsciiName_cons_iff first rest).mp name⟩

/-- Each name is the candidate with one number and no other, and candidates do not get shorter as
their numbers grow. -/
theorem candidate_bijOn :
    Set.BijOn candidate Set.univ asciiNames ∧ Monotone fun n => (candidate n).length := by
  refine ⟨⟨fun n _ => mem_asciiNames_iff.mpr (isAsciiName_candidate n), ?_, fun text name => ?_⟩, ?_⟩
  · exact candidate_injective.injOn
  · refine ⟨candidateIndex text.toList, trivial, ?_⟩
    rw [candidate_candidateIndex (mem_asciiNames_iff.mp name), String.ofList_toList]
  · exact fun m n le => length_candidate_mono le

end ChunkBridge.Ledger
