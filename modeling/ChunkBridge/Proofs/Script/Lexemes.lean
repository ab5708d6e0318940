import ChunkBridge.Script.Scanner
import ChunkBridge.Text.Quoted
import Mathlib.Algebra.Group.Nat.Defs

/-!
# Names and strings as tokens

A name in a clause is written as it is or as a quoted text, and either way it is one token, which
gives the name back (`token_clauseName`). For an identifier that is the longest match: what stands
behind it must not go on with a name. A quoted text ends with its quote, whatever stands behind it.
-/

namespace ChunkBridge.Script.Scan
open ChunkBridge.Text

/-! ## Characters of names -/

/-- What holds of each character in a range of code points holds of a character in the range. -/
theorem eq_of_toNat_bounds {p : Char → Bool} {answer : Bool} (low width : Nat)
    (each : ∀ k < width, p (Char.ofNat (low + k)) = answer) {c : Char} (above : low ≤ c.toNat)
    (below : c.toNat < low + width) : p c = answer := by
  obtain ⟨k, same⟩ := Nat.exists_eq_add_of_le above
  have told := each k (by omega)
  rw [← same, Char.ofNat_toNat] at told
  exact told

theorem not_isIdentifierStart_of_isDigit {c : Char} (digit : c.isDigit = true) :
    isIdentifierStart c = false := by
  simp only [Char.isDigit, Bool.and_eq_true, decide_eq_true_eq] at digit
  have above : 48 ≤ c.toNat := UInt32.le_iff_toNat_le.mp digit.1
  have below : c.toNat ≤ 57 := UInt32.le_iff_toNat_le.mp digit.2
  exact eq_of_toNat_bounds 48 10 (by decide) above (Nat.lt_succ_of_le below)

theorem not_isIdentifierStart_of_isLineBreak {c : Char} (ends : isLineBreak c = true) :
    isIdentifierStart c = false := by
  simp only [isLineBreak, Bool.or_eq_true, beq_iff_eq] at ends
  rcases ends with ((rfl | rfl) | rfl) | rfl <;> decide +kernel

theorem not_isIdentifierStart_of_isBlank {c : Char} (blank : isBlank c = true) :
    isIdentifierStart c = false := by
  have spaces (above : '\u2000' ≤ c) (below : c ≤ '\u200b') : isIdentifierStart c = false :=
    eq_of_toNat_bounds 0x2000 12 (by decide +kernel) above (Nat.lt_succ_of_le below)
  simp only [isBlank, Bool.or_eq_true, beq_iff_eq, Bool.and_eq_true, decide_eq_true_eq] at blank
  rcases blank with
    (((((((((((rfl | rfl) | rfl) | rfl) | rfl) | rfl) | rfl) | between) | rfl) | rfl) | rfl) | rfl)
  case inl.inl.inl.inl.inr => exact spaces between.1 between.2
  all_goals decide +kernel

/-- The character begins a token, and neither a blank nor a comment. -/
structure Opens (c : Char) : Prop where
  not_isLineBreak : isLineBreak c = false
  not_isBlank : isBlank c = false
  ne_slash : c ≠ '/'
  ne_less : c ≠ '<'
  ne_dash : c ≠ '-'

section
variable {c : Char} (start : isIdentifierStart c = true)
include start

theorem ne_of_isIdentifierStart {d : Char} (other : isIdentifierStart d = false) : c ≠ d := by
  rintro rfl
  rw [start] at other
  cases other

theorem opens_of_isIdentifierStart : Opens c where
  not_isLineBreak := by
    rw [← Bool.not_eq_true]
    intro ends
    rw [not_isIdentifierStart_of_isLineBreak ends] at start
    cases start
  not_isBlank := by
    rw [← Bool.not_eq_true]
    intro blank
    rw [not_isIdentifierStart_of_isBlank blank] at start
    cases start
  ne_slash := ne_of_isIdentifierStart start (by decide)
  ne_less := ne_of_isIdentifierStart start (by decide)
  ne_dash := ne_of_isIdentifierStart start (by decide)

end

/-! ## Identifiers -/

/-- Nothing at the start of the text goes on with a name. -/
def EndsName (cs : List Char) : Prop := ∀ c ∈ cs.head?, c ≠ '\\' ∧ isIdentifierPart c = false

/-- A name that has begun goes on as far as it can. -/
theorem name_append {acc cs behind : List Char} (n : Nat) (escaped : Bool) (begun : acc ≠ [])
    (parts : cs.all isIdentifierPart = true) (ends : EndsName behind) :
    name 0 acc n escaped (cs ++ behind) =
      ⟨acc.reverse ++ cs, n + cs.length, escaped, true⟩ := by
  induction cs generalizing acc n with
  | nil =>
    rw [List.nil_append, List.append_nil, List.length_nil, Nat.add_zero]
    cases behind with
    | nil => rfl
    | cons c cs =>
      obtain ⟨unescaped, other⟩ := ends c rfl
      have nonempty : acc.isEmpty = false := List.isEmpty_eq_false_iff.mpr begun
      simp [name, unescaped, nonempty, other]
  | cons c cs ih =>
    rw [List.all_cons, Bool.and_eq_true] at parts
    obtain ⟨part, parts⟩ := parts
    have unescaped : c ≠ '\\' := by
      rintro rfl
      exact absurd part (by decide)
    have nonempty : acc.isEmpty = false := List.isEmpty_eq_false_iff.mpr begun
    have more := ih (n + 1) (List.cons_ne_nil c acc) parts
    rw [List.reverse_cons, List.append_assoc, List.singleton_append, Nat.add_right_comm] at more
    simp [name, unescaped, nonempty, part, more, Nat.add_assoc]

/-- An identifier is one word. -/
theorem token_of_isIdentifierName {cs behind : List Char} (identifier : isIdentifierName cs = true)
    (ends : EndsName behind) :
    token (cs ++ behind) = ⟨.word (String.ofList cs) false, cs.length, true⟩ := by
  cases cs with
  | nil => cases identifier
  | cons c cs =>
    rw [isIdentifierName, Bool.and_eq_true] at identifier
    obtain ⟨start, parts⟩ := identifier
    have single : c ≠ '\'' := ne_of_isIdentifierStart start (by decide)
    have double : c ≠ '"' := ne_of_isIdentifierStart start (by decide)
    have template : c ≠ '\x60' := ne_of_isIdentifierStart start (by decide)
    have dot : c ≠ '.' := ne_of_isIdentifierStart start (by decide)
    have hash : c ≠ '#' := ne_of_isIdentifierStart start (by decide)
    have backslash : c ≠ '\\' := ne_of_isIdentifierStart start (by decide)
    have digit : c.isDigit = false := by
      rw [← Bool.not_eq_true]
      intro digit
      rw [not_isIdentifierStart_of_isDigit digit] at start
      cases start
    have scan : name 0 [] 0 false (c :: (cs ++ behind)) =
        ⟨c :: cs, cs.length + 1, false, true⟩ := by
      have more := name_append 1 false (List.cons_ne_nil c []) parts ends
      simp [name, backslash, start, more, Nat.add_comm]
    simp [token, single, double, template, dot, hash, digit, start, scan]

/-! ## Escapes -/

theorem length_hexDigits (width n : Nat) : (hexDigits width n).length = width := by
  induction width generalizing n with
  | zero => rfl
  | succ width ih => rw [hexDigits, List.length_append, ih, List.length_singleton]

theorem hexValue?_hexDigit : ∀ {d : Nat}, d < 16 → hexValue? (hexDigit d) = some d := by
  decide

/-- The digits of a number one after the other. -/
theorem hexNumber?_add (width more acc : Nat) (cs : List Char) :
    hexNumber? (width + more) acc cs =
      (hexNumber? width acc cs).bind fun n => hexNumber? more n (cs.drop width) := by
  induction width generalizing acc cs with
  | zero => simp [hexNumber?]
  | succ width ih =>
    rw [Nat.add_right_comm]
    cases cs with
    | nil => rfl
    | cons c cs =>
      simp only [hexNumber?]
      cases hexValue? c with
      | none => rfl
      | some d => exact ih _ cs

/-- The digits of a number give the number. -/
theorem hexNumber?_hexDigits (width : Nat) {n : Nat} (bound : n < 16 ^ width) (acc : Nat)
    (cs : List Char) :
    hexNumber? width acc (hexDigits width n ++ cs) = some (16 ^ width * acc + n) := by
  induction width generalizing n cs with
  | zero =>
    obtain rfl : n = 0 := Nat.lt_one_iff.mp bound
    simp [hexNumber?]
  | succ width ih =>
    have small : n / 16 < 16 ^ width := by
      rw [Nat.div_lt_iff_lt_mul (by decide), ← Nat.pow_succ]
      exact bound
    have digit := hexValue?_hexDigit (Nat.mod_lt n (by decide : 0 < 16))
    have behind : (hexDigits width (n / 16) ++ (hexDigit (n % 16) :: cs)).drop width =
        hexDigit (n % 16) :: cs := List.drop_left' (length_hexDigits width _)
    rw [hexDigits, List.append_assoc, List.singleton_append, hexNumber?_add, ih small,
      Option.bind_some, behind]
    simp only [hexNumber?, digit, Option.some.injEq]
    rw [Nat.mul_add, Nat.add_assoc, Nat.div_add_mod, ← Nat.mul_assoc, Nat.pow_succ']

/-- The number of a control character is read as that number: it has no part of a pair in it. -/
theorem unicodeEscape?_hexDigits {n : Nat} (control : n < 32) (cs : List Char) :
    unicodeEscape? (hexDigits 4 n ++ cs) = some (.point n, 4) := by
  have number := hexNumber?_hexDigits 4 (Nat.lt_trans control (by decide)) 0 cs
  rw [Nat.mul_zero, Nat.zero_add] at number
  have front : (hexDigits 4 n).head? = some '0' := by
    have each : ∀ n < 32, (hexDigits 4 n).head? = some '0' := by decide
    exact each n control
  have unbraced : ((hexDigits 4 n ++ cs).head? == some '\x7b') = false := by
    rw [List.head?_append, front]
    rfl
  have single : ¬0xd800 ≤ n := by omega
  simp only [unicodeEscape?, unbraced, Bool.false_eq_true, if_false, number, single, decide_false,
    Bool.false_and]

/-- A character is escaped as something that is read as this character, or it needs no escape. -/
theorem jsonEscape_cases (c : Char) :
    (∃ code, jsonEscape c = '\\' :: code ∧
      ∀ cs, escape? false (code ++ cs) = some ([c], code.length)) ∨
    jsonEscape c = [c] ∧ c ≠ '"' ∧ c ≠ '\\' ∧ c ≠ '\n' ∧ c ≠ '\r' := by
  have same {d : Char} (code : Char) (read : ∀ cs, escape? false (code :: cs) = some ([d], 1))
      (is : (c == d) = true) : ∃ text, ['\\', code] = '\\' :: text ∧
        ∀ cs, escape? false (text ++ cs) = some ([c], text.length) :=
    ⟨[code], rfl, beq_iff_eq.mp is ▸ read⟩
  unfold jsonEscape
  split
  next is => exact .inl (same '"' (fun _ => rfl) is)
  split
  next is => exact .inl (same '\\' (fun _ => rfl) is)
  split
  next is => exact .inl (same 'b' (fun _ => rfl) is)
  split
  next is => exact .inl (same 'f' (fun _ => rfl) is)
  split
  next is => exact .inl (same 'n' (fun _ => rfl) is)
  split
  next is => exact .inl (same 'r' (fun _ => rfl) is)
  split
  next is => exact .inl (same 't' (fun _ => rfl) is)
  split
  next control =>
    refine .inl ⟨'u' :: hexDigits 4 c.toNat, rfl, fun cs => ?_⟩
    have number := unicodeEscape?_hexDigits control cs
    have character : Escaped.text (.point c.toNat) = [c] := by
      have valid : c.toNat.isValidChar := .inl (Nat.lt_trans control (by decide))
      rw [Escaped.text, if_pos valid, Char.ofNat_toNat]
    simp [escape?, number, character, length_hexDigits, isLineBreak]
  next quote backslash _ _ newline ret _ _ =>
    exact .inr ⟨rfl, by simpa using quote, by simpa using backslash, by simpa using newline,
      by simpa using ret⟩

/-! ## Quoted texts -/

/-- Characters that belong to an escape are gone past. -/
theorem string_skip (quote : Char) {skip : Nat} (acc : List Char) (n : Nat) (ok : Bool)
    {cs : List Char} (within : skip ≤ cs.length) :
    string quote skip acc n ok cs = string quote 0 acc (n + skip) ok (cs.drop skip) := by
  induction skip generalizing n cs with
  | zero => rfl
  | succ skip ih =>
    cases cs with
    | nil => cases within
    | cons c cs =>
      rw [string, if_pos (Nat.succ_pos skip), Nat.add_sub_cancel,
        ih _ (Nat.le_of_succ_le_succ within), List.drop_succ_cons, Nat.add_right_comm,
        Nat.add_assoc]

/-- An escaped character in a string is this character. -/
theorem string_jsonEscape (acc : List Char) (n : Nat) (ok : Bool) (c : Char) (cs : List Char) :
    string '"' 0 acc n ok (jsonEscape c ++ cs) =
      string '"' 0 (c :: acc) (n + (jsonEscape c).length) ok cs := by
  rcases jsonEscape_cases c with ⟨code, escaped, read⟩ | ⟨plain, quote, backslash, newline, ret⟩
  · have within : code.length ≤ (code ++ cs).length :=
      List.length_append ▸ Nat.le_add_right _ _
    have past := string_skip '"' (c :: acc) (n + 1) ok within
    rw [List.drop_left] at past
    rw [escaped, List.cons_append, string]
    simp [read, past, Nat.add_assoc, Nat.add_comm 1]
  · rw [plain, List.singleton_append, string]
    simp [quote, backslash, newline, ret]

/-- Escaped characters up to the closing quote are these characters. -/
theorem string_flatMap_jsonEscape (acc : List Char) (n : Nat) (ok : Bool) (text cs : List Char) :
    string '"' 0 acc n ok (text.flatMap jsonEscape ++ '"' :: cs) =
      ⟨.string (String.ofList (acc.reverse ++ text)), n + (text.flatMap jsonEscape).length + 1,
        ok⟩ := by
  induction text generalizing acc n with
  | nil => simp [string]
  | cons c text ih =>
    rw [List.flatMap_cons, List.append_assoc, string_jsonEscape, ih, List.reverse_cons,
      List.append_assoc, List.singleton_append, List.length_append, Nat.add_assoc n]

/-- A quoted text is one string, with this text as its value. -/
theorem token_jsonQuoted (text : String) (behind : List Char) :
    token ((jsonQuoted text).toList ++ behind) =
      ⟨.string text, (jsonQuoted text).toList.length, true⟩ := by
  have body := string_flatMap_jsonEscape [] 1 true text.toList behind
  rw [List.reverse_nil, List.nil_append, String.ofList_toList] at body
  rw [jsonQuoted, String.toList_ofList, List.cons_append, List.append_assoc,
    List.singleton_append]
  simp [token, body, Nat.add_comm]

/-! ## Names in clauses -/

/-- The token that a name in a clause is. -/
def nameToken (name : String) : Token :=
  if isIdentifierName name.toList then .word name false else .string name

/-- A name in a clause is one token, which gives the name. -/
theorem token_clauseName (name : String) {behind : List Char} (ends : EndsName behind) :
    token ((clauseName name).toList ++ behind) =
      ⟨nameToken name, (clauseName name).toList.length, true⟩ := by
  unfold clauseName nameToken
  split
  next identifier => rw [token_of_isIdentifierName identifier ends, String.ofList_toList]
  next => exact token_jsonQuoted name behind

/-- A name in a clause has a first character, and that begins a token. -/
theorem opens_clauseName (name : String) (behind : List Char) :
    ∀ c ∈ ((clauseName name).toList ++ behind).head?, Opens c := by
  unfold clauseName
  split
  next identifier =>
    intro c first
    cases chars : name.toList with
    | nil =>
      rw [chars] at identifier
      cases identifier
    | cons d ds =>
      obtain rfl : d = c := by simpa [chars] using first
      rw [chars, isIdentifierName, Bool.and_eq_true] at identifier
      exact opens_of_isIdentifierStart identifier.1
  next =>
    intro c first
    obtain rfl : '"' = c := by simpa [jsonQuoted] using first
    exact ⟨by decide, by decide, by decide, by decide, by decide⟩

end ChunkBridge.Script.Scan
