import ChunkBridge.Process.Program
import Mathlib.Data.List.Basic

/-!
# What the command line tells of the flags

A flag may reach the command line in more than one way: as a text, as one of a list, or inside the
name of another flag. The checks look at texts only, so the command line settles what they say as
long as no flag that they look at is given in another way (`Flags.Disguises`).
-/

namespace ChunkBridge
open ChunkBridge.Text
namespace Flags

/-! ## Arguments -/

/-- A value of a flag on the command line. -/
def assignment (key text : String) : String := "--" ++ key ++ "=" ++ text

/-- The arguments of one flag. -/
def argumentsOf (key : String) : FlagValue → List String
  | .bool true => ["--" ++ key]
  | value => value.values.map (assignment key)

theorem arguments_eq (flags : Flags) :
    flags.arguments = flags.entries.flatMap fun entry => argumentsOf entry.1 entry.2 := rfl

theorem mem_arguments_iff {flags : Flags} {argument : String} :
    argument ∈ flags.arguments ↔
      ∃ key value, flags.get? key = some value ∧ argument ∈ argumentsOf key value := by
  rw [arguments_eq, List.mem_flatMap]
  simp only [Prod.exists, Table.get?_eq_some_iff]

theorem assignment_inj {key text other : String} :
    assignment key text = assignment key other ↔ text = other := by
  constructor
  · intro same
    have chars := congrArg String.toList same
    simp only [assignment, String.toList_append, List.append_cancel_left_eq] at chars
    exact String.toList_inj.mp chars
  · exact congrArg (assignment key)

theorem argumentsOf_of_ne {value : FlagValue} (alone : value ≠ .bool true) (key : String) :
    argumentsOf key value = value.values.map (assignment key) := by
  unfold argumentsOf
  split
  · exact absurd rfl alone
  · rfl

/-- What a flag has under its own name. -/
theorem assignment_mem_argumentsOf {key text : String} {value : FlagValue} :
    assignment key text ∈ argumentsOf key value ↔ value ≠ .bool true ∧ text ∈ value.values := by
  by_cases alone : value = .bool true
  · subst alone
    have differ : assignment key text ≠ "--" ++ key := by
      intro same
      have chars := congrArg String.toList same
      simp [assignment] at chars
    simp [argumentsOf, differ]
  · simp [argumentsOf_of_ne alone, assignment_inj, alone]

/-- Under another name there is only one way to come to the same argument: the name has the value in
it. -/
theorem assignment_mem_argumentsOf_of_ne {key name text : String} {value : FlagValue}
    (apart : name ≠ key) (plain : '=' ∉ key.toList) (whole : '=' ∉ text.toList) :
    assignment key text ∈ argumentsOf name value ↔
      value = .bool true ∧ name = key ++ "=" ++ text := by
  by_cases alone : value = .bool true
  · subst alone
    simp [argumentsOf, assignment, String.append_assoc, eq_comm]
  · simp only [argumentsOf_of_ne alone, alone, false_and, iff_false, List.mem_map, not_exists,
      not_and]
    intro other _ same
    -- Both arguments are cut at their first sign of equality.
    have chars : key.toList ++ '=' :: text.toList = name.toList ++ '=' :: other.toList := by
      simpa [assignment, eq_comm] using congrArg String.toList same
    have names := ((List.append_cons_inj_of_notMem plain whole).mp chars).1
    exact apart (String.toList_inj.mp names.symm)

/-! ## Values that are no texts -/

/-- The flags without one of them, if that is a text. -/
def withoutText (flags : Flags) (key : String) : Flags :=
  if (flags.text? key).isSome then flags.remove key else flags

/-- The command line gives a flag a value that it does not have as a text. -/
def Disguises (flags : Flags) (key text : String) : Prop :=
  assignment key text ∈ (flags.withoutText key).arguments

instance (flags : Flags) (key text : String) : Decidable (flags.Disguises key text) :=
  inferInstanceAs (Decidable (_ ∈ _))

theorem text?_eq_some_iff {flags : Flags} {key text : String} :
    flags.text? key = some text ↔ flags.get? key = some (.text text) := by
  rw [text?, Option.bind_eq_some_iff]
  constructor
  · rintro ⟨_ | _ | _ | _, given, same⟩ <;> cases same
    exact given
  · exact fun given => ⟨_, given, rfl⟩

theorem get?_withoutText {flags : Flags} {key name : String} {value : FlagValue} :
    (flags.withoutText key).get? name = some value ↔
      flags.get? name = some value ∧ ¬ (name = key ∧ ∃ text, value = .text text) := by
  unfold withoutText
  cases known : flags.text? key with
  | none =>
    have missing (text : String) : flags.get? key ≠ some (.text text) := by
      rw [Ne, ← text?_eq_some_iff, known]
      exact nofun
    constructor
    · intro given
      refine ⟨given, ?_⟩
      rintro ⟨rfl, text, rfl⟩
      exact missing text given
    · exact And.left
  | some text =>
    have own := text?_eq_some_iff.mp known
    rw [Option.isSome_some, if_pos rfl, Table.get?_remove_eq_some_iff]
    refine and_congr_right fun given => not_congr ?_
    constructor
    · rintro rfl
      rw [own] at given
      exact ⟨rfl, text, (Option.some.inj given).symm⟩
    · exact And.left

/-- A value comes to the command line as the text of its flag, or in disguise. -/
theorem assignment_mem_arguments_iff {flags : Flags} {key text : String} :
    assignment key text ∈ flags.arguments ↔
      flags.text? key = some text ∨ flags.Disguises key text := by
  rw [Disguises, mem_arguments_iff, mem_arguments_iff]
  constructor
  · rintro ⟨name, value, given, member⟩
    by_cases own : name = key ∧ ∃ text, value = .text text
    · obtain ⟨rfl, other, rfl⟩ := own
      have same : text = other := by
        simpa [FlagValue.values] using (assignment_mem_argumentsOf.mp member).2
      exact .inl (text?_eq_some_iff.mpr (same ▸ given))
    · exact .inr ⟨name, value, get?_withoutText.mpr ⟨given, own⟩, member⟩
  · rintro (given | ⟨name, value, given, member⟩)
    · refine ⟨key, _, text?_eq_some_iff.mp given, assignment_mem_argumentsOf.mpr ?_⟩
      simp [FlagValue.values]
    · exact ⟨name, value, (get?_withoutText.mp given).1, member⟩

/-! ## Values that are words -/

/-- No truth value and no number is written as this. -/
structure IsWord (text : String) : Prop where
  ne_false : text ≠ "false"
  letter : ∃ c ∈ text.toList, c ≠ '-' ∧ c.isDigit = false

theorem isWord_verbose : IsWord verbose := ⟨by decide, 'V', by decide, by decide⟩

theorem isWord_advancedOptimizations : IsWord advancedOptimizations :=
  ⟨by decide, 'A', by decide, by decide⟩

/-- A number is written with digits and a sign. -/
theorem of_mem_toString {n : Int} {c : Char} (member : c ∈ (toString n).toList) :
    c = '-' ∨ c.isDigit = true := by
  have digits {m : Nat} (member : c ∈ m.repr.toList) : c.isDigit = true := by
    rw [Nat.repr, String.toList_ofList] at member
    exact Nat.isDigit_of_mem_toDigits (by decide) (by decide) member
  cases n with
  | ofNat m => exact .inr (digits member)
  | negSucc m =>
    have member : c ∈ ("-" ++ (m + 1).repr).toList := member
    rw [String.toList_append] at member
    rcases List.mem_append.mp member with sign | member
    · exact .inl (by simpa using sign)
    · exact .inr (digits member)

/-- A word can be disguised in two ways: in a list, or in the name of a flag that is true. -/
theorem disguises_iff {flags : Flags} {key text : String} (word : IsWord text)
    (plain : '=' ∉ key.toList) (whole : '=' ∉ text.toList) :
    flags.Disguises key text ↔
      (∃ values, flags.get? key = some (.list values) ∧ text ∈ values) ∨
        flags.get? (key ++ "=" ++ text) = some (.bool true) := by
  rw [Disguises, mem_arguments_iff]
  constructor
  · rintro ⟨name, value, left, member⟩
    obtain ⟨given, other⟩ := get?_withoutText.mp left
    by_cases own : name = key
    · subst own
      obtain ⟨alone, among⟩ := assignment_mem_argumentsOf.mp member
      cases value with
      | bool value =>
        cases value with
        | true => exact absurd rfl alone
        | false => exact absurd (List.mem_singleton.mp among) word.ne_false
      | number n =>
        obtain ⟨c, letter, sign, digit⟩ := word.letter
        have same : text = toString n := List.mem_singleton.mp among
        rcases of_mem_toString (same ▸ letter) with minus | isDigit
        · exact absurd minus sign
        · rw [digit] at isDigit
          cases isDigit
      | text value => exact absurd ⟨rfl, value, rfl⟩ other
      | list values => exact .inl ⟨values, given, among⟩
    · obtain ⟨rfl, rfl⟩ := (assignment_mem_argumentsOf_of_ne own plain whole).mp member
      exact .inr given
  · rintro (⟨values, given, among⟩ | given)
    · refine ⟨key, _, get?_withoutText.mpr ⟨given, nofun⟩, assignment_mem_argumentsOf.mpr ?_⟩
      exact ⟨nofun, among⟩
    · have longer : key ++ "=" ++ text ≠ key := by
        intro same
        have chars := congrArg String.toList same
        simp at chars
      refine ⟨_, _, get?_withoutText.mpr ⟨given, fun both => longer both.1⟩, ?_⟩
      exact (assignment_mem_argumentsOf_of_ne longer plain whole).mpr ⟨rfl, rfl⟩

/-! ## Checks -/

section
variable {a b : Flags} (same : a.arguments = b.arguments)
include same

/-- A text that the command line gives in no other way is the text of the flag in every map with that
command line. -/
theorem text?_eq_some_iff_of_arguments_eq {key text : String}
    (plain : ¬ ∃ flags ∈ [a, b], flags.Disguises key text) :
    a.text? key = some text ↔ b.text? key = some text := by
  simp only [List.mem_cons, List.not_mem_nil, or_false, exists_eq_or_imp, exists_eq_left,
    not_or] at plain
  calc a.text? key = some text
    _ ↔ assignment key text ∈ a.arguments := by
      rw [assignment_mem_arguments_iff, or_iff_left plain.1]
    _ ↔ assignment key text ∈ b.arguments := by rw [same]
    _ ↔ b.text? key = some text := by
      rw [assignment_mem_arguments_iff, or_iff_left plain.2]

theorem isVerbose_eq_or_disguises :
    a.isVerbose = b.isVerbose ∨ ∃ flags ∈ [a, b], flags.Disguises warningLevel verbose := by
  rw [or_iff_not_imp_right]
  intro plain
  rw [Bool.eq_iff_iff, isVerbose, isVerbose, beq_iff_eq, beq_iff_eq]
  exact text?_eq_some_iff_of_arguments_eq same plain

theorem isAdvanced_eq_or_disguises :
    a.isAdvanced = b.isAdvanced ∨
      ∃ flags ∈ [a, b], flags.Disguises compilationLevel advancedOptimizations := by
  rw [or_iff_not_imp_right]
  intro plain
  rw [Bool.eq_iff_iff, isAdvanced, isAdvanced, beq_iff_eq, beq_iff_eq]
  exact text?_eq_some_iff_of_arguments_eq same plain

/-- Two maps that agree about warnings can be at odds about conflicts only if one of them disguises the
language. -/
theorem conflict?_eq_or_disguises (agree : a.isVerbose = b.isVerbose) :
    a.conflict? = b.conflict? ∨
      ∃ flags ∈ [a, b], ∃ language, flags.Disguises languageOut language := by
  rw [or_iff_not_imp_right]
  intro plain
  have languages : a.text? languageOut = b.text? languageOut := by
    ext language
    refine text?_eq_some_iff_of_arguments_eq same ?_
    rintro ⟨flags, among, disguises⟩
    exact plain ⟨flags, among, language, disguises⟩
  rw [conflict?, conflict?, agree, languages]

end

/-- If all warnings are asked for, whatever a program has printed as an error fails the compilation,
however the program ended. -/
theorem outcome_of_warnings {flags : Flags} (asked : flags.isVerbose = true)
    {finished : Machine.Finished} {errors : String}
    (printed : Program.trimmed (Utf8.decodeLossy finished.err) = errors) (warned : errors ≠ "") :
    Program.outcome flags.isVerbose finished = .error
      (if finished.ending = .exited 0 then .warned errors
        else .failed finished.ending errors) := by
  have told : errors.isEmpty = false := by
    rw [Bool.eq_false_iff, Ne, String.isEmpty_iff]
    exact warned
  unfold Program.outcome
  simp only [printed, asked, told]
  by_cases fine : finished.ending = .exited 0
  · simp [fine]
  · simp [fine]

/-- A call of the program fails if its outcome is a fault. -/
theorem run_of_outcome {flags : Flags} {program : Program} {files : Files}
    {finished : Machine.Finished} {fault : Program.Fault}
    (ran : Machine.run files program.command.1 (program.command.2 ++ flags.arguments) =
      some finished)
    (outcome : Program.outcome flags.isVerbose finished = .error fault) :
    ∃ fault, (program.run flags files).1 = .error fault := by
  unfold Program.run
  dsimp only
  split
  · exact ⟨_, rfl⟩
  · simp only [ran]
    exact ⟨fault, outcome⟩

/-- Two maps of flags with the same command line. The checks tell them apart only if one of them has
the level in a list or in the name of another flag, or its language in disguise. A map that asks for
all warnings on the command line, and not in these ways, has to name a language, and then a process
that printed anything as an error is no compilation, whatever else came of it. -/
theorem checks_of_same_arguments {a b : Flags} (same : a.arguments = b.arguments) :
    let hidden (flags : Flags) (key text : String) : Prop :=
      (∃ values, flags.get? key = some (.list values) ∧ text ∈ values) ∨
        flags.get? (key ++ "=" ++ text) = some (.bool true)
    (a.isVerbose = b.isVerbose ∨ ∃ flags ∈ [a, b], hidden flags "warning_level" "VERBOSE") ∧
    (a.isAdvanced = b.isAdvanced ∨
      ∃ flags ∈ [a, b], hidden flags "compilation_level" "ADVANCED_OPTIMIZATIONS") ∧
    (a.conflict? = b.conflict? ∨ (∃ flags ∈ [a, b], hidden flags "warning_level" "VERBOSE") ∨
      ∃ flags ∈ [a, b], ∃ language, flags.Disguises "language_out" language) ∧
    ("--warning_level=VERBOSE" ∈ a.arguments → ¬ hidden a "warning_level" "VERBOSE" →
      (a.conflict? = none →
        ∃ language, a.text? "language_out" = some language ∧ language ≠ "NO_TRANSPILE") ∧
      ∀ (finished : Machine.Finished) (errors : String),
        Program.trimmed (Utf8.decodeLossy finished.err) = errors → errors ≠ "" →
        Program.outcome a.isVerbose finished = .error
          (if finished.ending = .exited 0 then .warned errors
            else .failed finished.ending errors) ∧
        ∀ (program : Program) (files : Files),
          Machine.run files program.command.1 (program.command.2 ++ a.arguments) =
            some finished →
          ∃ fault, (program.run a files).1 = .error fault) := by
  intro hidden
  have level (flags : Flags) : flags.Disguises warningLevel verbose ↔
      hidden flags "warning_level" "VERBOSE" :=
    disguises_iff isWord_verbose (by decide) (by decide)
  have optimizations (flags : Flags) :
      flags.Disguises compilationLevel advancedOptimizations ↔
        hidden flags "compilation_level" "ADVANCED_OPTIMIZATIONS" :=
    disguises_iff isWord_advancedOptimizations (by decide) (by decide)
  have warnings := isVerbose_eq_or_disguises same
  simp only [level] at warnings
  refine ⟨warnings, ?_, ?_, fun given plain => ?_⟩
  · have advanced := isAdvanced_eq_or_disguises same
    simp only [optimizations] at advanced
    exact advanced
  · rcases warnings with agree | apart
    · exact (conflict?_eq_or_disguises same agree).imp_right .inr
    · exact .inr (.inl apart)
  · have asked : a.text? warningLevel = some verbose :=
      (assignment_mem_arguments_iff.mp given).resolve_right (mt (level a).mp plain)
    have isVerbose : a.isVerbose = true := beq_iff_eq.mpr asked
    refine ⟨fun valid => ?_, fun finished errors printed warned => ?_⟩
    · rw [conflict?, isVerbose] at valid
      cases language : a.text? languageOut with
      | none =>
        rw [language] at valid
        cases valid
      | some text =>
        refine ⟨text, language, fun none => ?_⟩
        rw [language, none] at valid
        cases valid
    · have outcome := outcome_of_warnings isVerbose printed warned
      exact ⟨outcome, fun program files ran => run_of_outcome ran outcome⟩

/-- It makes no difference whether externs are given alone or in a list: the flags can be used, they
name a language, and what a process says about them fails the compilation, and so does a call of a
shell that does not know them. -/
theorem checks_of_listed_externs :
    let flags (externs : FlagValue) : Flags := .ofList
      [("warning_level", .text "VERBOSE"), ("language_out", .text "ES5"), ("externs", externs)]
    let a := flags (.text "own.js")
    let b := flags (.list ["own.js"])
    a.arguments = b.arguments ∧ a.isVerbose = b.isVerbose ∧ a.isAdvanced = b.isAdvanced ∧
      a.conflict? = b.conflict? ∧
      (∃ language, a.text? "language_out" = some language ∧ language ≠ "NO_TRANSPILE") ∧
      (∀ finished : Machine.Finished, finished.ending = .exited 0 →
        finished.err = Utf8.encode "WARNING - unused\n" →
        Program.outcome a.isVerbose finished = .error (.warned "WARNING - unused")) ∧
      ∃ fault, ((Program.native "sh").run a {}).1 = .error fault := by
  intro flags a b
  have same : a.arguments = b.arguments := by decide +kernel
  obtain ⟨verbose, advanced, conflict, told⟩ := checks_of_same_arguments same
  have levels : ∀ flags ∈ [a, b], flags.get? "warning_level" = some (.text "VERBOSE") ∧
      flags.get? "warning_level=VERBOSE" = none ∧ flags.get? "compilation_level" = none ∧
      flags.get? "compilation_level=ADVANCED_OPTIMIZATIONS" = none := by decide +kernel
  have others : ∀ flags ∈ [a, b], (flags.withoutText "language_out").arguments =
      ["--warning_level=VERBOSE", "--externs=own.js"] := by decide +kernel
  have plain : ∀ flags ∈ [a, b],
      ¬ ((∃ values, flags.get? "warning_level" = some (.list values) ∧ "VERBOSE" ∈ values) ∨
        flags.get? ("warning_level" ++ "=" ++ "VERBOSE") = some (.bool true)) := by
    rintro flags among (⟨values, given, -⟩ | given)
    · rw [(levels flags among).1] at given
      cases given
    · exact nomatch (levels flags among).2.1.symm.trans given
  refine ⟨same, verbose.resolve_right ?_, advanced.resolve_right ?_, conflict.resolve_right ?_, ?_⟩
  · exact fun ⟨flags, among, hidden⟩ => plain flags among hidden
  · rintro ⟨flags, among, ⟨values, given, -⟩ | given⟩
    · rw [(levels flags among).2.2.1] at given
      cases given
    · exact nomatch (levels flags among).2.2.2.symm.trans given
  · rintro (⟨flags, among, hidden⟩ | ⟨flags, among, language, disguises⟩)
    · exact plain flags among hidden
    · rw [Disguises, others flags among] at disguises
      simp [assignment, ← String.toList_inj] at disguises
  · obtain ⟨named, warned⟩ := told (by decide +kernel) (plain a (by simp))
    refine ⟨named (by decide +kernel), fun finished fine err => ?_, ?_⟩
    · have printed : Program.trimmed (Utf8.decodeLossy finished.err) = "WARNING - unused" := by
        rw [err]
        decide +kernel
      rw [(warned finished _ printed (by decide)).1, if_pos fine]
    · refine (warned _ _ rfl ?_).2 (.native "sh") {} rfl
      decide +kernel

/-- A level that is given in a list reaches the command line all the same, and no check sees it. A
language in a list is not seen either. -/
theorem listed_level_is_not_checked :
    let a : Flags := .ofList [("warning_level", .text "VERBOSE")]
    let b : Flags := .ofList [("warning_level", .list ["VERBOSE"])]
    let c : Flags := .ofList [("warning_level", .text "VERBOSE"), ("language_out", .text "ES5")]
    let d : Flags := .ofList [("warning_level", .text "VERBOSE"), ("language_out", .list ["ES5"])]
    a.arguments = b.arguments ∧ a.isVerbose = true ∧ b.isVerbose = false ∧
      a.conflict? = some .verboseWithoutLanguage ∧ b.conflict? = none ∧
      c.arguments = d.arguments ∧ c.conflict? = none ∧
      d.conflict? = some .verboseWithoutLanguage := by
  decide +kernel

end Flags
end ChunkBridge
