import ChunkBridge.Proofs.Build.ExternsFiles

/-!
# The settings of a call

What the user has set stays in its place and keeps its value, but for the three settings that the
build has to make itself. What the user has not set is put behind it, always in the same order
(`Assembled.keys_invocationOf`). The result is as valid as what the user has given
(`Assembled.conflict?_invocationOf`), and it tells where the chunk and its externs are
(`Session.settings_of_assembled`).
-/

namespace ChunkBridge

/-! ## Keys in order -/

/-- The keys with one more; a new key goes last. -/
def withKey (keys : List String) (key : String) : List String :=
  if key ∈ keys then keys else keys ++ [key]

/-- Of several keys the new ones go last, in their order. -/
theorem foldl_withKey {more : List String} (distinct : more.Nodup) (keys : List String) :
    more.foldl withKey keys = keys ++ more.filter (· ∉ keys) := by
  induction more generalizing keys with
  | nil => simp
  | cons key more ih =>
    obtain ⟨new, distinct⟩ := List.nodup_cons.mp distinct
    rw [List.foldl_cons, ih distinct]
    by_cases member : key ∈ keys
    · simp [withKey, member]
    · have rest : more.filter (· ∉ keys ++ [key]) = more.filter (· ∉ keys) := by
        refine List.filter_congr fun other among => ?_
        have apart : other ≠ key := fun same => new (same ▸ among)
        simp [apart]
      rw [withKey, if_neg member, rest]
      simp [member]

theorem Table.keys_set_eq_withKey {α : Type} (t : Table α) (key : String) (value : α) :
    (t.set key value).keys = withKey t.keys key := t.keys_set key value

namespace Assembled

/-- What the build sets unless the user has, in its order. -/
def addedKeys (files : List FileName) : List String :=
  ["language_out", "assume_function_wrapper", "warning_level", "module_resolution"] ++
    (if files = [] then [] else ["externs"]) ++ ["js", "create_source_map"]

theorem nodup_addedKeys (files : List FileName) : (addedKeys files).Nodup := by
  unfold addedKeys
  split <;> decide

theorem keys_withDefaults (flags : Flags) (format : OutputFormat) :
    (withDefaults flags format).keys =
      ["language_out", "assume_function_wrapper", "warning_level", "module_resolution"].foldl
        withKey flags.keys := by
  simp only [withDefaults, defaults, List.foldl_cons, List.foldl_nil, Table.keys_setDefault,
    Table.keys_map]
  rfl

theorem keys_setExterns (files : List FileName) (invocation : Invocation) :
    (setExterns files invocation).keys =
      (if files = [] then [] else ["externs"]).foldl withKey invocation.keys := by
  cases files with
  | nil => rfl
  | cons file files => exact Table.keys_set_eq_withKey invocation Flags.externsFlag _

variable (flags : Flags) (format : OutputFormat) (files : List FileName) (script : ScratchFile)
  (map : Nat)

/-- The keys of the user stand first, in their order, and those that the build adds behind them. -/
theorem keys_invocationOf :
    (invocationOf flags format files script map).keys =
      flags.keys ++ (addedKeys files).filter (· ∉ flags.keys) := by
  rw [invocationOf, Table.keys_set_eq_withKey, Table.keys_set_eq_withKey, keys_setExterns,
    keys_withDefaults, ← foldl_withKey (nodup_addedKeys files), addedKeys, List.foldl_append,
    List.foldl_append]
  rfl

/-- What stands under a key that is not for the build to set. -/
theorem get?_flags_invocationOf {key : String}
    (other : key ∉ ["externs", "js", "create_source_map"]) :
    (invocationOf flags format files script map).flags.get? key =
      (flags.get? key).or ((defaults format).lookup key) := by
  obtain ⟨externs, js, place⟩ : key ≠ Flags.externsFlag ∧ key ≠ Invocation.script ∧
      key ≠ Invocation.createSourceMap := by
    simpa [Flags.externsFlag, Invocation.script, Invocation.createSourceMap] using other
  rw [Invocation.flags, Table.get?_map, get?_invocationOf, if_neg place, if_neg js,
    if_neg fun both => externs both.1, get?_withDefaults, Option.map_map]
  exact Option.map_id'

theorem get?_flags_script :
    (invocationOf flags format files script map).flags.get? Invocation.script =
      some (.text script.path) := by
  rw [Invocation.flags, Table.get?_map, get?_invocationOf, if_neg (by decide), if_pos rfl]
  rfl

theorem get?_flags_createSourceMap :
    (invocationOf flags format files script map).flags.get? Invocation.createSourceMap =
      some (.text (ScratchFile.mapPath map)) := by
  rw [Invocation.flags, Table.get?_map, get?_invocationOf, if_pos rfl]
  rfl

/-- The files with externs are told by their paths. If there are none, the user's setting stays, which
may be a list of none. -/
theorem get?_flags_externs :
    (invocationOf flags format files script map).flags.get? Flags.externsFlag =
      if files = [] then flags.get? Flags.externsFlag
      else some (.list (files.map FileName.path)) := by
  rw [Invocation.flags, Table.get?_map, get?_invocationOf, if_neg (by decide), if_neg (by decide)]
  by_cases none : files = []
  · rw [if_neg fun both => both.2 none, if_pos none, get?_withDefaults_externs, Option.map_map]
    exact Option.map_id'
  · rw [if_pos ⟨rfl, none⟩, if_neg none]
    rfl

/-- A text that the user has set is still there. -/
theorem text?_flags_invocationOf {key text : String}
    (other : key ∉ ["externs", "js", "create_source_map"])
    (given : flags.text? key = some text) :
    Flags.text? (invocationOf flags format files script map).flags key = some text := by
  obtain ⟨value, known, same⟩ := Option.bind_eq_some_iff.mp given
  rw [Flags.text?, get?_flags_invocationOf flags format files script map other, known]
  exact same

/-- All warnings are asked for exactly if the user does so. -/
theorem isVerbose_invocationOf :
    Flags.isVerbose (invocationOf flags format files script map).flags = flags.isVerbose := by
  have other : Flags.warningLevel ∉ ["externs", "js", "create_source_map"] := by decide
  have level := get?_flags_invocationOf flags format files script map other
  unfold Flags.isVerbose Flags.text?
  rw [level]
  cases flags.get? Flags.warningLevel with
  | none => cases format <;> decide
  | some value => rfl

/-- What the build adds makes no conflict. -/
theorem conflict?_invocationOf (valid : Flags.conflict? flags = none) :
    Flags.conflict? (invocationOf flags format files script map).flags = none := by
  unfold Flags.conflict? at valid ⊢
  rw [isVerbose_invocationOf]
  cases verbose : flags.isVerbose with
  | false => rfl
  | true =>
    rw [verbose] at valid
    cases language : flags.text? Flags.languageOut with
    | none =>
      rw [language] at valid
      cases valid
    | some text =>
      rw [language] at valid
      rw [text?_flags_invocationOf flags format files script map (by decide) language]
      exact valid

/-- The generated externs of a call are at most one file. It is kept for the chunks to come, and if
the build has kept no wrong text in its place, it holds the externs. -/
theorem exists_generated (passes : List ChunkPass) (session : Session) :
    ∃ generated : Option ScratchFile,
      (generatedExterns passes session).1 = generated.toList.map FileName.scratch ∧
      (generated = none ↔ ChunkPass.externsText passes = "") ∧
      ∀ file ∈ generated,
        (generatedExterns passes session).2.store.get? ScratchFile
          (externsKey (ChunkPass.externsText passes)) = some file ∧
        (session.Caches (ChunkPass.externsText passes) →
          file.contents = ChunkPass.externsText passes) := by
  rcases generatedExterns_cases passes session with ⟨nothing, same⟩ | ⟨something, same⟩
  · rw [same]
    exact ⟨none, rfl, by simpa using nothing, nofun⟩
  · rw [same]
    refine ⟨some (externsFile (ChunkPass.externsText passes) session).1, rfl, ?_, ?_⟩
    · simpa using something
    · rintro file ⟨⟩
      refine ⟨?_, fun caches => contents_externsFile caches⟩
      rw [get?_externsFile, if_pos rfl]

end Assembled

namespace Session

/-- The settings of a call, told from those of the user. The keys of the user come first, and then
those that the build adds. The user's values stay but for externs, script and source map, and the
defaults are for the other keys. The externs are those of the user and behind them the file with the
externs of the chunk, if it has any. The script holds the chunk. The result is valid again. -/
theorem settings_of_assembled {session : Session} {format : OutputFormat} {passes : List ChunkPass}
    {code : String} {assembled : Assembled}
    (answered : (session.assemble format passes code).1 = .ok assembled) :
    let user := session.flags
    let flags := assembled.invocation.flags
    let text := ChunkPass.externsText passes
    ∃ generated : Option ScratchFile,
      let externs := Flags.externs user ++ generated.toList.map ScratchFile.path
      let added := ["language_out", "assume_function_wrapper", "warning_level", "module_resolution"] ++
        (if externs = [] then [] else ["externs"]) ++ ["js", "create_source_map"]
      (generated = none ↔ text = "") ∧
      (∀ file ∈ generated,
        (session.assemble format passes code).2.store.get? ScratchFile
          (Assembled.externsKey text) = some file ∧
        (session.Caches text → file.contents = text)) ∧
      flags.keys = user.keys ++ added.filter (· ∉ user.keys) ∧ flags.keys.Nodup ∧
      (∀ key, key ∉ ["externs", "js", "create_source_map"] →
        flags.get? key = (user.get? key).or ((Assembled.defaults format).lookup key)) ∧
      flags.get? "externs" =
        (if externs = [] then user.get? "externs" else some (.list externs)) ∧
      (∃ script, assembled.invocation.get? "js" = some (.script script) ∧
        flags.get? "js" = some (.text script.path) ∧ script.contents = code) ∧
      flags.get? "create_source_map" = some (.text (ScratchFile.mapPath assembled.map)) ∧
      Flags.conflict? flags = none := by
  intro user flags text
  rcases session.assemble_cases format passes code with
    ⟨conflict, -, same⟩ | ⟨other, script, valid, given, invocation, contents, store, -⟩
  · rw [same] at answered
    cases answered
  · rw [given] at answered
    cases answered
    obtain ⟨generated, files, nothing, holds⟩ := Assembled.exists_generated passes session
    rw [files] at invocation
    let named := (Flags.externs user).map FileName.named ++ generated.toList.map FileName.scratch
    let externs := Flags.externs user ++ generated.toList.map ScratchFile.path
    have paths : named.map FileName.path = externs := by
      simp only [named, externs, List.map_append, List.map_map]
      congr 1
      exact List.map_id _
    have empty : named = [] ↔ externs = [] := by
      rw [← paths, List.map_eq_nil_iff]
    have told : flags = (Assembled.invocationOf user format named script assembled.map).flags :=
      congrArg Invocation.flags invocation
    refine ⟨generated, nothing, fun file among => ?_, ?_, flags.distinct, fun key other => ?_, ?_,
      ⟨script, ?_, ?_, contents⟩, ?_, ?_⟩
    · rw [store]
      exact holds file among
    · rw [told, Invocation.flags, Table.keys_map, Assembled.keys_invocationOf, Assembled.addedKeys,
        if_congr empty rfl rfl]
    · rw [told]
      exact Assembled.get?_flags_invocationOf user format named script assembled.map other
    · have told' := Assembled.get?_flags_externs user format named script assembled.map
      rw [← told, paths, if_congr empty rfl rfl] at told'
      exact told'
    · rw [invocation, Assembled.get?_invocationOf, if_neg (by decide)]
      exact if_pos rfl
    · rw [told]
      exact Assembled.get?_flags_script user format named script assembled.map
    · rw [told]
      exact Assembled.get?_flags_createSourceMap user format named script assembled.map
    · rw [told]
      exact Assembled.conflict?_invocationOf user format named script assembled.map valid

/-- The user asks for all warnings, names externs and a script, and leaves the rest to the build. -/
theorem settings_of_verbose_user :
    let user : Flags := .ofList [("js", .text "own.js"), ("warning_level", .text "VERBOSE"),
      ("externs", .text "own-externs.js"), ("language_out", .text "ECMASCRIPT_2017")]
    let session : Session := { flags := user }
    let passes := (ChunkPass.prepareChunk {} .esm {} "import \x7b a \x7d from './a.js';").passes
    ∃ assembled, (session.assemble .esm passes "a();").1 = .ok assembled ∧
      ∃ file script : ScratchFile, file.contents = "var a;" ∧ script.contents = "a();" ∧
        let flags := assembled.invocation.flags
        flags.keys = ["js", "warning_level", "externs", "language_out", "assume_function_wrapper",
          "module_resolution", "create_source_map"] ∧
        flags.get? "js" = some (.text script.path) ∧
        flags.get? "warning_level" = some (.text "VERBOSE") ∧
        flags.get? "externs" = some (.list ["own-externs.js", file.path]) ∧
        Flags.conflict? flags = none := by
  intro user session passes
  have valid : Flags.conflict? session.flags = none := by decide +kernel
  have text : ChunkPass.externsText passes = "var a;" := by decide +kernel
  rcases session.assemble_cases .esm passes "a();" with
    ⟨conflict, refused, -⟩ | ⟨assembled, -, -, answered, -⟩
  · rw [valid] at refused
    cases refused
  · obtain ⟨generated, nothing, holds, keys, -, values, externs, ⟨script, -, js, code⟩, -, again⟩ :=
      settings_of_assembled answered
    rw [text] at nothing holds
    cases generated with
    | none => exact absurd (nothing.mp rfl) (by decide)
    | some file =>
      have caches : session.Caches "var a;" := by
        intro file known
        have none : session.store.get? ScratchFile (Assembled.externsKey "var a;") = none := rfl
        rw [none] at known
        cases known
      refine ⟨assembled, answered, file, script, (holds file rfl).2 caches, code, ?_, js, ?_, externs,
        again⟩
      · rw [keys]
        rfl
      · rw [values _ (by decide)]
        rfl

end Session
end ChunkBridge
