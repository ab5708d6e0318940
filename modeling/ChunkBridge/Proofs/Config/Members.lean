import ChunkBridge.Config.Options
import ChunkBridge.Proofs.Chunk.Stages
import ChunkBridge.Proofs.Config.CommandLine
import ChunkBridge.Proofs.Script.Positions

/-!
# Where options come from

The members of an object are sorted out into patterns and flags. A flag can be written back as the
JSON value that it was read from (`FlagValue.toJson`), so what became of an object is told by its own
members: patterns are what stands under their two names, which may each be given once (`Given`), and
a flag stands where its name stood first, with the value that stood last (`flags_of_object`).
-/

namespace ChunkBridge
open ChunkBridge.Text ChunkBridge.Script
open ChunkBridge.Json (Value Document Decoder Problem)

/-! ## Values written back -/

/-- Texts as a JSON value. -/
def jsonTexts (texts : List String) : Value := .array (texts.map .string) none

/-- The JSON value that a flag has. -/
def FlagValue.toJson : FlagValue → Value
  | .bool value => .bool value
  | .number value => .int value
  | .text value => .string value
  | .list values => jsonTexts values

/-- The JSON value that patterns are given as. -/
def Patterns.toJson : Patterns → Value
  | .one pattern => .string pattern
  | .many patterns => jsonTexts patterns

namespace Json.Decoder

theorem checkFault_ok {fault : Option Fault} (h : checkFault fault = .ok ()) : fault = none := by
  cases fault with
  | none => rfl
  | some fault => cases h

theorem whole_ok {v w : Value} (h : whole v = .ok w) : v = w ∧ v.fault? true = none := by
  obtain ⟨_, sound, same⟩ := exists_ok_of_bind h
  exact ⟨Except.ok.inj same, checkFault_ok sound⟩

end Json.Decoder

/-- A list that is whole is so at its end. -/
theorem Json.Value.fault_eq_none {items : List Value} {fault : Option Json.Fault}
    (whole : (Value.array items fault).fault? true = none) : fault = none := by
  rw [Value.fault?, Option.or_eq_none_iff] at whole
  exact whole.2

namespace Options

theorem eq_of_texts? {items : List Value} {texts : List String}
    (h : texts? items = some texts) : items = texts.map .string := by
  induction items generalizing texts with
  | nil =>
    cases h
    rfl
  | cons item items ih =>
    unfold texts? at h
    rw [List.mapM_cons] at h
    obtain ⟨first, read, h⟩ := Option.bind_eq_some_iff.mp h
    obtain ⟨others, rest, h⟩ := Option.bind_eq_some_iff.mp h
    cases h
    rw [List.map_cons, ← ih rest]
    split at read
    · cases read
      rfl
    · cases read

/-- A list of texts that is whole. -/
theorem eq_jsonTexts {items : List Value} {fault : Option Json.Fault} {texts : List String}
    (whole : (Value.array items fault).fault? true = none) (h : texts? items = some texts) :
    Value.array items fault = jsonTexts texts := by
  rw [Json.Value.fault_eq_none whole, eq_of_texts? h]
  rfl

/-- The value of a flag was read from the value that it is written as. -/
theorem eq_toJson_of_flagValue? {v : Value} {value : FlagValue} (whole : v.fault? true = none)
    (h : flagValue? v = some value) : v = value.toJson := by
  cases v with
  | bool b =>
    cases h
    rfl
  | int n =>
    unfold flagValue? at h
    dsimp only at h
    split at h
    · cases h
      rfl
    · cases h
  | string text =>
    cases h
    rfl
  | array items fault =>
    obtain ⟨texts, read, rfl⟩ := Option.map_eq_some_iff.mp h
    exact eq_jsonTexts whole read
  | null | float | object | void | broken => cases h

/-- So were patterns. -/
theorem eq_toJson_of_patterns? {v : Value} {given : Patterns} (whole : v.fault? true = none)
    (h : patterns? v = some given) : v = given.toJson := by
  cases v with
  | string text =>
    cases h
    rfl
  | array items fault =>
    obtain ⟨texts, read, rfl⟩ := Option.map_eq_some_iff.mp h
    exact eq_jsonTexts whole read
  | null | bool | int | float | object | void | broken => cases h

theorem eq_toJson_of_flagValue {v : Value} {value : FlagValue} (whole : v.fault? true = none)
    (h : flagValue v = .ok value) : v = value.toJson := by
  unfold flagValue at h
  split at h
  next read =>
    cases h
    exact eq_toJson_of_flagValue? whole read
  next => cases h

theorem eq_toJson_of_patterns {v : Value} {given : Patterns} (h : patterns v = .ok given) :
    v = given.toJson := by
  obtain ⟨w, whole, h⟩ := exists_ok_of_bind h
  obtain ⟨rfl, sound⟩ := Decoder.whole_ok whole
  split at h
  next read =>
    cases h
    exact eq_toJson_of_patterns? sound read
  next => cases h

/-! ## Patterns -/

/-- The values that an object has under a name. -/
def valuesOf (key : String) (members : List (String × Value)) : List Value :=
  (members.filter fun member => member.1 == key).map Prod.snd

/-- What values under the name of patterns come to: there is at most one, and it may be null. -/
inductive Given : List Value → Option Patterns → Prop
  | missing : Given [] none
  | null : Given [.null] none
  | patterns (given : Patterns) : Given [given.toJson] (some given)

theorem given_of_nullable {v : Value} {given : Option Patterns}
    (h : Decoder.nullable patterns v = .ok given) : Given [v] given := by
  unfold Decoder.nullable at h
  split at h
  next =>
    cases h
    exact .null
  next =>
    cases read : patterns v with
    | error problem =>
      rw [read] at h
      cases h
    | ok found =>
      rw [read] at h
      cases h
      rw [eq_toJson_of_patterns read]
      exact .patterns found

/-- What is known of patterns when the values behind a place have been looked at: what was known
before, or what the only one of them gives. -/
inductive Takes (known : Option (Option Patterns)) : List Value → Option (Option Patterns) → Prop
  | nothing : Takes known [] known
  | value {v : Value} {given : Option Patterns} (unknown : known = none) (gives : Given [v] given) :
    Takes known [v] (some given)

theorem Takes.cons {known next last : Option (Option Patterns)} {key : String} {v : Value}
    {values : List Value}
    (once : Decoder.once key known (Decoder.nullable patterns) v = .ok next)
    (rest : Takes next values last) : Takes known (v :: values) last := by
  unfold Decoder.once at once
  split at once
  next => cases once
  next unknown =>
    cases read : Decoder.nullable patterns v with
    | error problem =>
      rw [read] at once
      cases once
    | ok given =>
      rw [read] at once
      cases once
      cases rest with
      | nothing => exact .value (by simpa using unknown) (given_of_nullable read)
      | value unknown => cases unknown

theorem Takes.given {values : List Value} {last : Option (Option Patterns)}
    (takes : Takes none values last) : Given values last.join := by
  cases takes with
  | nothing => exact .missing
  | value _ gives => exact gives

/-! ## Members sorted out -/

/-- The members that are flags. -/
def flagMembers (members : List (String × Value)) : List (String × Value) :=
  members.filter fun member => !(member.1 == "include" || member.1 == "exclude")

/-- What has become of the members behind a place. -/
structure SortedOut (known : Members) (members : List (String × Value)) (last : Members) :
    Prop where
  included : Takes known.include? (valuesOf "include" members) last.include?
  excluded : Takes known.exclude? (valuesOf "exclude" members) last.exclude?
  flags_eq : last.flags = known.flags.reverse ++ flagMembers members
  whole : ∀ member ∈ flagMembers members, member.2.fault? true = none

theorem sortedOut_of_ok {known last : Members} {members : List (String × Value)}
    (h : sortMembers known members = .ok last) : SortedOut known members last := by
  induction members generalizing known with
  | nil =>
    cases h
    exact ⟨.nothing, .nothing, by simp [flagMembers], nofun⟩
  | cons member members ih =>
    obtain ⟨key, value⟩ := member
    unfold sortMembers at h
    by_cases first : key = "include"
    · subst first
      obtain ⟨next, once, h⟩ := exists_ok_of_bind h
      have rest := ih h
      exact ⟨rest.included.cons once, rest.excluded, rest.flags_eq, rest.whole⟩
    · rw [if_neg (by simpa using first)] at h
      by_cases second : key = "exclude"
      · subst second
        obtain ⟨next, once, h⟩ := exists_ok_of_bind h
        have rest := ih h
        exact ⟨rest.included, rest.excluded.cons once, rest.flags_eq, rest.whole⟩
      · rw [if_neg (by simpa using second)] at h
        obtain ⟨w, whole, h⟩ := exists_ok_of_bind h
        obtain ⟨rfl, sound⟩ := Decoder.whole_ok whole
        have rest := ih h
        have own : flagMembers ((key, value) :: members) = (key, value) :: flagMembers members := by
          simp [flagMembers, first, second]
        have none (name : String) (apart : key ≠ name) :
            valuesOf name ((key, value) :: members) = valuesOf name members := by
          simp [valuesOf, apart]
        refine ⟨none _ first ▸ rest.included, none _ second ▸ rest.excluded, ?_, ?_⟩
        · rw [own, rest.flags_eq, List.reverse_cons, List.append_assoc]
          rfl
        · rw [own]
          intro member among
          rcases List.mem_cons.mp among with rfl | later
          · exact sound
          · exact rest.whole member later

/-- The flags are told by the members that they were read from. -/
theorem map_toJson_of_ok {entries : List (String × Value)} {flags : List (String × FlagValue)}
    (whole : ∀ entry ∈ entries, entry.2.fault? true = none)
    (h : (entries.mapM fun (key, value) => return (key, ← flagValue value)) =
      (.ok flags : Except Problem _)) :
    flags.map (fun flag => (flag.1, flag.2.toJson)) = entries := by
  induction entries generalizing flags with
  | nil =>
    cases h
    rfl
  | cons entry entries ih =>
    obtain ⟨flag, others, first, rest, rfl⟩ := exists_of_mapM_cons_ok h
    obtain ⟨value, read, same⟩ := exists_ok_of_bind first
    cases same
    have own := eq_toJson_of_flagValue (whole entry List.mem_cons_self) read
    have behind := ih (fun other member => whole other (List.mem_cons_of_mem _ member)) rest
    rw [List.map_cons, behind, ← own]

/-- What has become of an object: its members sorted out, and each flag written back. -/
structure MadeOf (options : Options) (members : List (String × Value)) : Prop where
  included : Given (valuesOf "include" members) options.include?
  excluded : Given (valuesOf "exclude" members) options.exclude?
  flags_eq : options.flags.map FlagValue.toJson = Table.ofList (flagMembers members)

/-- Accepted options were made of an object, and nothing stands behind it. -/
theorem madeOf_of_ok {text : String} {options : Options} (h : ofJson text = .ok options) :
    ∃ members, Document.read text = ⟨.object members none, false⟩ ∧ options.MadeOf members := by
  unfold ofJson Decoder.run at h
  obtain ⟨value, decoded, h⟩ := exists_ok_of_bind h
  rcases read : Document.read text with ⟨document, hasMore⟩
  rw [read] at decoded h
  cases hasMore with
  | true => cases h
  | false =>
    cases h
    cases document with
    | object members fault =>
      obtain ⟨last, sorted, decoded⟩ := exists_ok_of_bind decoded
      obtain ⟨_, sound, decoded⟩ := exists_ok_of_bind decoded
      obtain ⟨flags, looked, decoded⟩ := exists_ok_of_bind decoded
      cases decoded
      obtain ⟨included, excluded, flags_eq, whole⟩ := sortedOut_of_ok sorted
      rw [List.reverse_nil, List.nil_append] at flags_eq
      rw [flags_eq] at looked
      refine ⟨members, by rw [Decoder.checkFault_ok sound], included.given, excluded.given, ?_⟩
      rw [Table.map_ofList, map_toJson_of_ok whole looked]
    | null | bool | int | float | string | array | void | broken => cases decoded

end Options

/-! ## Arguments -/

namespace Flags

/-- The command line, key by key. -/
theorem arguments_eq_flatMap_keys {flags : Flags} {valueOf : String → FlagValue}
    (values : ∀ key ∈ flags.keys, flags.get? key = some (valueOf key)) :
    flags.arguments = flags.keys.flatMap fun key => argumentsOf key (valueOf key) := by
  rw [arguments_eq, Table.keys, List.flatMap_map]
  refine List.flatMap_congr fun entry member => ?_
  have own := values entry.1 (List.mem_map_of_mem member)
  rw [Table.get?_eq_some_iff.mpr member] at own
  rw [Option.some.inj own]

/-- The argument is one of the flag with this name. -/
def IsFor (key argument : String) : Prop :=
  argument = "--" ++ key ∨ ∃ text, argument = assignment key text

/-- An argument that was made for a flag may be read as one of another flag only if the name of the
first begins with an assignment to the other. -/
theorem exists_of_isFor {key name argument : String} {value : FlagValue} (apart : name ≠ key)
    (plain : '=' ∉ key.toList) (made : argument ∈ argumentsOf name value)
    (reads : IsFor key argument) : ∃ rest, name = key ++ "=" ++ rest := by
  have cut (rest : List Char) (text : String)
      (same : name.toList ++ rest = key.toList ++ '=' :: text.toList)
      (begins : ∀ c ∈ rest.head?, c = '=') : ∃ rest, name = key ++ "=" ++ rest := by
    rcases List.append_eq_append_iff.mp same with ⟨more, split, back⟩ | ⟨more, split, back⟩
    · cases more with
      | nil => exact absurd (String.toList_inj.mp (by simpa using split.symm)) apart
      | cons c more =>
        have equal : c = '=' := begins c (by rw [back]; rfl)
        exact absurd (by rw [split, equal]; simp) plain
    · cases more with
      | nil => exact absurd (String.toList_inj.mp (by simpa using split)) apart
      | cons c more =>
        obtain ⟨rfl, -⟩ := List.cons.inj back
        refine ⟨String.ofList more, String.toList_inj.mp ?_⟩
        simp [split]
  by_cases alone : value = .bool true
  · subst alone
    have bare : argument = "--" ++ name := by simpa [argumentsOf] using made
    rcases reads with same | ⟨text, same⟩
    · have chars := congrArg String.toList (bare.symm.trans same)
      exact absurd (String.toList_inj.mp (by simpa using chars)) apart
    · have chars := congrArg String.toList (bare.symm.trans same)
      exact cut [] text (by simpa [assignment] using chars) (by simp)
  · rw [argumentsOf_of_ne alone] at made
    obtain ⟨other, -, rfl⟩ := List.mem_map.mp made
    rcases reads with same | ⟨text, same⟩
    · have chars := congrArg String.toList same
      have split : name.toList ++ '=' :: other.toList = key.toList := by
        simpa [assignment] using chars
      exact absurd (by simp [← split]) plain
    · have chars := congrArg String.toList same
      exact cut ('=' :: other.toList) text (by simpa [assignment] using chars) (by simp)

end Flags

namespace Options

theorem mem_keys_iff_of_madeOf {options : Options} {members : List (String × Value)}
    (made : options.MadeOf members) {key : String} :
    key ∈ options.flags.keys ↔ key ≠ "include" ∧ key ≠ "exclude" ∧ key ∈ members.map Prod.fst := by
  rw [← Table.keys_map FlagValue.toJson, made.flags_eq, Table.keys_ofList, List.mem_eraseDups]
  simp only [flagMembers, List.mem_map, List.mem_filter, Bool.not_eq_true', Bool.or_eq_false_iff,
    beq_eq_false_iff_ne]
  constructor
  · rintro ⟨member, ⟨among, first, second⟩, rfl⟩
    exact ⟨first, second, member, among, rfl⟩
  · rintro ⟨first, second, member, among, rfl⟩
    exact ⟨member, ⟨among, first, second⟩, rfl⟩

/-- Options that are accepted are the members of an object. Patterns stand under their own two names
and are no flags. All other names are flags, in the order in which they stood first, with the values
that stood last. The command line has the arguments of these values, name by name; an argument that
reads like patterns comes only from a flag whose name has a sign of equality in it. -/
theorem flags_of_object {text : String} {options : Options} (accepted : ofJson text = .ok options) :
    ∃ members, Document.read text = ⟨.object members none, false⟩ ∧
      Given (valuesOf "include" members) options.include? ∧
      Given (valuesOf "exclude" members) options.exclude? ∧
      "include" ∉ options.flags.keys ∧ "exclude" ∉ options.flags.keys ∧
      options.flags.keys = ((flagMembers members).map Prod.fst).eraseDups ∧
      (∀ key, (options.flags.get? key).map FlagValue.toJson =
        (flagMembers members).reverse.lookup key) ∧
      (∃ valueOf : String → FlagValue,
        (∀ key ∈ options.flags.keys,
          (flagMembers members).reverse.lookup key = some (valueOf key).toJson) ∧
        options.flags.arguments = ((flagMembers members).map Prod.fst).eraseDups.flatMap
          fun key => Flags.argumentsOf key (valueOf key)) ∧
      ∀ argument ∈ options.flags.arguments, ∀ key ∈ ["include", "exclude"],
        Flags.IsFor key argument → ∃ rest, key ++ "=" ++ rest ∈ options.flags.keys := by
  obtain ⟨members, read, made⟩ := madeOf_of_ok accepted
  have keys : options.flags.keys = ((flagMembers members).map Prod.fst).eraseDups := by
    rw [← Table.keys_map FlagValue.toJson, made.flags_eq, Table.keys_ofList]
  have last (key : String) : (options.flags.get? key).map FlagValue.toJson =
      (flagMembers members).reverse.lookup key := by
    rw [← Table.get?_map, made.flags_eq, Table.get?_ofList]
  have noFilter {key : String} (filter : key ∈ ["include", "exclude"]) :
      key ∉ options.flags.keys := by
    rw [mem_keys_iff_of_madeOf made]
    rintro ⟨first, second, -⟩
    simp [first, second] at filter
  refine ⟨members, read, made.included, made.excluded, noFilter (by simp), noFilter (by simp), keys,
    last, ?_, fun argument member key filter reads => ?_⟩
  · let valueOf (key : String) : FlagValue := (options.flags.get? key).getD default
    have values (key : String) (member : key ∈ options.flags.keys) :
        options.flags.get? key = some (valueOf key) := by
      obtain ⟨value, known⟩ := Option.isSome_iff_exists.mp (Table.contains_iff.mpr member)
      simp only [valueOf, known, Option.getD_some]
    refine ⟨valueOf, fun key member => ?_, ?_⟩
    · rw [← last, values key member]
      rfl
    · rw [Flags.arguments_eq_flatMap_keys values, keys]
  · obtain ⟨name, value, known, own⟩ := Flags.mem_arguments_iff.mp member
    have among : name ∈ options.flags.keys :=
      Table.contains_iff.mp (Option.isSome_iff_exists.mpr ⟨value, known⟩)
    have apart : name ≠ key := fun same => noFilter filter (same ▸ among)
    have plain : '=' ∉ key.toList := by
      simp only [List.mem_cons, List.not_mem_nil, or_false] at filter
      rcases filter with rfl | rfl <;> decide
    obtain ⟨rest, rfl⟩ := Flags.exists_of_isFor apart plain own reads
    exact ⟨rest, among⟩

/-- A flag that is given twice keeps its first place and has its last value. -/
theorem flags_of_repeated_flag :
    ∃ options members,
      ofJson "\x7b\"a\":1,\"include\":\"src/**\",\"b\":true,\"a\":[\"x\",\"y\"],\"exclude\":null\x7d" =
        .ok options ∧
      options.include? = some (.one "src/**") ∧ options.exclude? = none ∧
      Given (valuesOf "include" members) options.include? ∧
      options.flags.keys = ["a", "b"] ∧
      ["a", "b"] = ((flagMembers members).map Prod.fst).eraseDups ∧
      (flagMembers members).reverse.lookup "a" = some (jsonTexts ["x", "y"]) ∧
      options.flags.arguments = ["--a=x", "--a=y", "--b"] := by
  let options : Options :=
    { include? := some (.one "src/**"), flags := .ofList [("a", .list ["x", "y"]), ("b", .bool true)] }
  have accepted : ofJson
      "\x7b\"a\":1,\"include\":\"src/**\",\"b\":true,\"a\":[\"x\",\"y\"],\"exclude\":null\x7d" =
        .ok options := eq_ok_of_toOption (by decide +kernel)
  obtain ⟨members, -, included, -, -, -, keys, last, -⟩ := flags_of_object accepted
  have order : options.flags.keys = ["a", "b"] := by decide +kernel
  exact ⟨options, members, accepted, rfl, rfl, included, order, order ▸ keys,
    (last "a").symm.trans rfl, by decide +kernel⟩

/-- Nothing keeps a name from having a sign of equality in it, so a flag that is no pattern can come to
the command line as if it were one. -/
theorem pattern_in_name_of_flag :
    ∃ options, ofJson "\x7b\"include=src/**\":true\x7d" = .ok options ∧
      options.include? = none ∧ options.flags.keys = ["include=src/**"] ∧
      options.flags.arguments = ["--include=src/**"] ∧
      ∃ argument ∈ options.flags.arguments, Flags.IsFor "include" argument := by
  let options : Options := { flags := .ofList [("include=src/**", .bool true)] }
  have arguments : options.flags.arguments = ["--include=src/**"] := by decide +kernel
  exact ⟨options, eq_ok_of_toOption (by decide +kernel), rfl, by decide +kernel, arguments,
    "--include=src/**", arguments ▸ List.mem_singleton_self _, .inr ⟨"src/**", by decide +kernel⟩⟩

end Options
end ChunkBridge
