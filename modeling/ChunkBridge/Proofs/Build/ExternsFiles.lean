import ChunkBridge.Proofs.Build.Externs
import Std.Data.String.ToNat

/-!
# The files that externs are kept in

The calls of a build share the files that hold externs. A text is written when a call needs it for
the first time. From then on its file stays in its place (`get?_request`), under a number that no
other file has (`Session.Shelves`). So two calls name the same file exactly when they need the same
externs, whatever else was assembled before, in between and after (`externs_of_answers`).
-/

namespace ChunkBridge
open ChunkBridge.Text ChunkBridge.Script

/-! ## The text of externs -/

namespace ChunkPass

/-- The declaration of an imported name. -/
def externLine (name : String) : String := "var " ++ name ++ ";"

/-- The names that some passes know to be imported, in order. -/
def importedNames (passes : List ChunkPass) : List String :=
  passes.flatMap fun
    | .imports memo => memo.locals
    | .strict | .exports _ | .hashbang => []

theorem externLine_injective : Function.Injective externLine := by
  intro a b h
  have same := congrArg String.toList h
  simp only [externLine, String.toList_append, List.append_assoc, List.append_cancel_left_eq] at same
  exact String.toList_inj.mp (List.append_cancel_right same)

theorem flatMap_externs (passes : List ChunkPass) :
    passes.flatMap externs = (importedNames passes).map externLine := by
  rw [importedNames, List.map_flatMap]
  congr 1
  funext pass
  cases pass <;> rfl

theorem eraseDups_map_externLine (names : List String) :
    (names.map externLine).eraseDups = names.eraseDups.map externLine := by
  induction names using List.reverseRecOn with
  | nil => rfl
  | append_singleton names name ih =>
    rw [List.map_append, List.eraseDups_append, List.eraseDups_append, ih, List.map_append]
    by_cases member : name ∈ names <;>
      simp [List.removeAll, List.eraseDups_cons, externLine_injective.eq_iff, member]

/-- The externs of some passes: a line for each imported name, in the order of their first
mention. -/
theorem externsText_eq (passes : List ChunkPass) :
    externsText passes =
      "\n".intercalate ((importedNames passes).eraseDups.map externLine) := by
  rw [externsText, flatMap_externs, eraseDups_map_externLine]

/-- There are externs exactly when something is imported. -/
theorem isEmpty_externsText (passes : List ChunkPass) :
    (externsText passes).isEmpty = true ↔ importedNames passes = [] := by
  rw [externsText_eq]
  cases importedNames passes with
  | nil => simp
  | cons name names =>
    rw [List.eraseDups_cons, List.map_cons]
    cases (names.filter fun other => !other == name).eraseDups.map externLine <;>
      simp [externLine, String.intercalate_cons_cons]

/-- The imported names of a prepared module chunk are those of its import statements. -/
theorem importedNames_prepareChunk {ledger : Ledger} {chunk : Chunk} {code text : String}
    (accepted : (prepareChunk ledger .esm chunk code).result = .ok text) {outline : Outline}
    (outlined : Outline.ofSource (Strict.chunkDialect .esm) code = .ok outline) :
    importedNames (prepareChunk ledger .esm chunk code).passes =
      outline.items.flatMap fun item => (Imports.locals? item.kind).getD [] := by
  obtain ⟨read, memo, after, revision, known, -, same⟩ := prepareChunk_esm accepted
  rw [outlined] at known
  cases known
  rw [same]
  simp [importedNames, Imports.ofUnit]

end ChunkPass

/-! ## What a call names -/

namespace Assembled

/-- Defaults stand behind the flags of the user. -/
theorem get?_withDefaults (flags : Flags) (format : OutputFormat) (key : String) :
    (withDefaults flags format).get? key =
      ((flags.get? key).or ((defaults format).lookup key)).map Setting.plain := by
  have filled := Table.get?_foldl_setDefault Setting.plain (defaults format)
    (flags.map Setting.plain) key
  rw [Table.get?_map, ← Option.map_or] at filled
  exact filled

theorem plain_of_get?_withDefaults {flags : Flags} {format : OutputFormat} {key : String}
    {setting : Setting} (h : (withDefaults flags format).get? key = some setting) :
    ∃ value, setting = .plain value := by
  rw [get?_withDefaults] at h
  obtain ⟨value, -, rfl⟩ := Option.map_eq_some_iff.mp h
  exact ⟨value, rfl⟩

theorem get?_withDefaults_externs (flags : Flags) (format : OutputFormat) :
    (withDefaults flags format).get? Flags.externsFlag =
      (flags.get? Flags.externsFlag).map .plain := by
  have none : (defaults format).lookup Flags.externsFlag = none := by
    cases format <;> decide
  rw [get?_withDefaults, none, Option.or_none]

/-- The invocation with some files as externs, and with a script and the place for a source map. -/
def invocationOf (flags : Flags) (format : OutputFormat) (files : List FileName)
    (script : ScratchFile) (map : Nat) : Invocation :=
  setExterns files (withDefaults flags format)
    |>.set Invocation.script (.script script)
    |>.set Invocation.createSourceMap (.mapFile map)

variable (flags : Flags) (format : OutputFormat) (files : List FileName) (script : ScratchFile)
  (map : Nat)

theorem get?_invocationOf (key : String) :
    (invocationOf flags format files script map).get? key =
      if key = Invocation.createSourceMap then some (.mapFile map)
      else if key = Invocation.script then some (.script script)
      else if key = Flags.externsFlag ∧ files ≠ [] then some (.files files)
      else (withDefaults flags format).get? key := by
  unfold invocationOf setExterns
  rw [Table.get?_set, Table.get?_set]
  refine if_congr Iff.rfl rfl (if_congr Iff.rfl rfl ?_)
  cases files with
  | nil => simp
  | cons file files => simp [Table.get?_set]

/-- The externs on the command line are the paths of the files, which are those of the user and
others behind them. -/
theorem externs_invocationOf (others : List FileName)
    (split : files = (Flags.externs flags).map FileName.named ++ others) :
    Flags.externs (invocationOf flags format files script map).flags =
      Flags.externs flags ++ others.map FileName.path := by
  have paths : files.map FileName.path = Flags.externs flags ++ others.map FileName.path := by
    have named : FileName.path ∘ FileName.named = id := rfl
    rw [split, List.map_append, List.map_map, named, List.map_id]
  rw [Flags.externs, Invocation.flags, Table.get?_map, get?_invocationOf, if_neg (by decide),
    if_neg (by decide)]
  by_cases none : files = []
  · have own : Flags.externs flags = [] ∧ others = [] := by simpa [none] using split.symm
    rw [if_neg (by simp [none]), get?_withDefaults_externs, own.2]
    simp only [Option.map_map, List.map_nil, List.append_nil]
    rfl
  · rw [if_pos ⟨rfl, none⟩, ← paths]
    rfl

theorem scratchFile_of_externs {file : ScratchFile} (among : .scratch file ∈ files) :
    file ∈ (invocationOf flags format files script map).scratchFiles := by
  have known : (invocationOf flags format files script map).get? Flags.externsFlag =
      some (.files files) := by
    rw [get?_invocationOf, if_neg (by decide), if_neg (by decide),
      if_pos ⟨rfl, List.ne_nil_of_mem among⟩]
  exact List.mem_flatMap.mpr ⟨(Flags.externsFlag, .files files), Table.get?_eq_some_iff.mp known,
    List.mem_filterMap.mpr ⟨.scratch file, among, rfl⟩⟩

/-- No other scratch files are named, but for the script. -/
theorem mem_scratchFiles_invocationOf {file : ScratchFile}
    (named : file ∈ (invocationOf flags format files script map).scratchFiles) :
    file = script ∨ .scratch file ∈ files := by
  obtain ⟨⟨key, setting⟩, member, among⟩ := List.mem_flatMap.mp named
  have known : (invocationOf flags format files script map).get? key = some setting :=
    Table.get?_eq_some_iff.mpr member
  rw [get?_invocationOf] at known
  split at known
  · cases known
    cases among
  · split at known
    · cases known
      exact .inl (List.mem_singleton.mp among)
    · split at known
      · cases known
        refine .inr ?_
        obtain ⟨name, within, same⟩ := List.mem_filterMap.mp among
        cases name with
        | named path => cases same
        | scratch other =>
          cases same
          exact within
      · obtain ⟨value, rfl⟩ := plain_of_get?_withDefaults known
        cases among

end Assembled

/-! ## Files in their places -/

/-- The files with externs are numbered, each with a number of its own. -/
structure Session.Shelves (session : Session) : Prop where
  below : ∀ key file, session.store.get? ScratchFile key = some file →
    file.number < session.scratchFiles
  apart : ∀ key other file twin, session.store.get? ScratchFile key = some file →
    session.store.get? ScratchFile other = some twin → file.number = twin.number → key = other

theorem Session.shelves_of_fileless {session : Session}
    (fileless : ∀ key, session.store.get? ScratchFile key = none) : session.Shelves where
  below key file known := by simp [fileless] at known
  apart key other file twin known := by simp [fileless] at known

theorem Session.Shelves.of_store_eq {before after : Session} (shelves : before.Shelves)
    (store : after.store = before.store) (more : before.scratchFiles ≤ after.scratchFiles) :
    after.Shelves where
  below key file known := by
    rw [store] at known
    exact Nat.lt_of_lt_of_le (shelves.below key file known) more
  apart key other file twin known there := by
    rw [store] at known there
    exact shelves.apart key other file twin known there

namespace Assembled

/-- A text has its file from then on, and the files of other texts stay. -/
theorem get?_externsFile (text key : String) (session : Session) :
    (externsFile text session).2.store.get? ScratchFile key =
      if externsKey text = key then some (externsFile text session).1
      else session.store.get? ScratchFile key := by
  unfold externsFile
  cases known : session.store.get? ScratchFile (externsKey text) with
  | some file =>
    by_cases same : externsKey text = key
    · rw [if_pos same, ← same]
      exact known
    · rw [if_neg same]
  | none => exact Store.get?_set session.store (externsKey text) key _ .chunk

/-- The file is the one that was there, or it gets the next number. -/
theorem externsFile_cases (text : String) (session : Session) :
    session.store.get? ScratchFile (externsKey text) = some (externsFile text session).1 ∧
        (externsFile text session).2 = session ∨
      session.store.get? ScratchFile (externsKey text) = none ∧
        (externsFile text session).1.number = session.scratchFiles ∧
        (externsFile text session).2.scratchFiles = session.scratchFiles + 1 := by
  unfold externsFile
  cases session.store.get? ScratchFile (externsKey text) with
  | some file => exact .inl ⟨rfl, rfl⟩
  | none => exact .inr ⟨rfl, rfl, rfl⟩

theorem shelves_externsFile {session : Session} (shelves : session.Shelves) (text : String) :
    (externsFile text session).2.Shelves := by
  rcases externsFile_cases text session with ⟨-, same⟩ | ⟨-, number, more⟩
  · rwa [same]
  -- The new file has the number that came next, and every one that was there has a smaller one.
  · have below (key : String) (file : ScratchFile)
        (known : session.store.get? ScratchFile key = some file) :
        file.number < (externsFile text session).1.number :=
      number ▸ shelves.below key file known
    refine ⟨fun key file known => ?_, fun key other file twin known there same => ?_⟩
    · rw [get?_externsFile] at known
      split at known
      · cases known
        omega
      · have := shelves.below key file known
        omega
    · rw [get?_externsFile] at known there
      split at known <;> split at there
      next here again => exact here.symm.trans again
      next here _ =>
        cases known
        have := below other twin there
        omega
      next _ here =>
        cases there
        have := below key file known
        omega
      next => exact shelves.apart key other file twin known there same

theorem externsFile_of_known (session : Session) {text : String} {file : ScratchFile}
    (known : session.store.get? ScratchFile (externsKey text) = some file) :
    externsFile text session = (file, session) := by
  rw [externsFile, known]

/-- The generated externs of a call are a file with their text, or nothing. -/
theorem generatedExterns_cases (passes : List ChunkPass) (session : Session) :
    (ChunkPass.externsText passes).isEmpty = true ∧ generatedExterns passes session = ([], session) ∨
      (ChunkPass.externsText passes).isEmpty = false ∧ generatedExterns passes session =
        ([.scratch (externsFile (ChunkPass.externsText passes) session).1],
          (externsFile (ChunkPass.externsText passes) session).2) := by
  unfold generatedExterns
  cases none : (ChunkPass.externsText passes).isEmpty with
  | true => exact .inl ⟨rfl, by simp [none]⟩
  | false => exact .inr ⟨rfl, by simp [none]⟩

end Assembled

namespace Session

/-- Nothing is written for a call whose flags are at odds. For any other one the externs are looked
up, and the script and the source map get a number each. -/
theorem assemble_cases (session : Session) (format : OutputFormat) (passes : List ChunkPass)
    (code : String) :
    (∃ conflict, Flags.conflict? session.flags = some conflict ∧
        session.assemble format passes code = (.error conflict, session)) ∨
      ∃ assembled script,
        let generated := Assembled.generatedExterns passes session
        Flags.conflict? session.flags = none ∧
        (session.assemble format passes code).1 = .ok assembled ∧
        assembled.invocation = Assembled.invocationOf session.flags format
          ((Flags.externs session.flags).map FileName.named ++ generated.1) script assembled.map ∧
        script.contents = code ∧
        (session.assemble format passes code).2.store = generated.2.store ∧
        generated.2.scratchFiles ≤ (session.assemble format passes code).2.scratchFiles := by
  unfold assemble
  cases Flags.conflict? session.flags with
  | some conflict => exact .inl ⟨conflict, rfl, rfl⟩
  | none =>
    have flags := (Assembled.renders_generatedExterns passes session).flags_eq
    generalize Assembled.generatedExterns passes session = generated at flags ⊢
    obtain ⟨names, after⟩ := generated
    dsimp only at flags
    refine .inr ⟨_, ⟨after.scratchFiles, code⟩, rfl, rfl, ?_, rfl, rfl, ?_⟩
    · simp only [flags]
      rfl
    · simp only [writeFile]
      omega

end Session

/-! ## One call after the other -/

/-- What a call is assembled from. -/
structure Request where
  flags : Flags
  format : OutputFormat
  passes : List ChunkPass
  code : String

namespace Request

def externs (r : Request) : String := ChunkPass.externsText r.passes

end Request

namespace Session
variable {session : Session} {texts : List String} {r : Request}

/-- A call is assembled. -/
def request (session : Session) (r : Request) : Except Flags.Conflict Assembled × Session :=
  { session with flags := r.flags }.assemble r.format r.passes r.code

/-- The session behind some calls. -/
def afterRequests (session : Session) (requests : List Request) : Session :=
  requests.foldl (fun session r => (session.request r).2) session

/-- Calls that are assembled one after the other, with what comes of them. -/
def answers (session : Session) : List Request → List (Request × Except Flags.Conflict Assembled)
  | [] => []
  | r :: rs => (r, (session.request r).1) :: answers (session.request r).2 rs

/-- A call is refused, or it names what belongs to it. -/
theorem request_cases (session : Session) (r : Request) :
    (∃ conflict, session.request r = (.error conflict, { session with flags := r.flags })) ∨
      ∃ assembled script map,
        let generated := Assembled.generatedExterns r.passes { session with flags := r.flags }
        (session.request r).1 = .ok assembled ∧
        assembled.invocation = Assembled.invocationOf r.flags r.format
          ((Flags.externs r.flags).map FileName.named ++ generated.1) script map ∧
        (session.request r).2.store = generated.2.store ∧
        generated.2.scratchFiles ≤ (session.request r).2.scratchFiles := by
  rcases assemble_cases { session with flags := r.flags } r.format r.passes r.code with
    ⟨conflict, -, same⟩ | ⟨assembled, script, -, answered, invocation, -, store, more⟩
  · exact .inl ⟨conflict, same⟩
  · exact .inr ⟨assembled, script, assembled.map, answered, invocation, store, more⟩

theorem map_fst_answers (session : Session) (requests : List Request) :
    (session.answers requests).map Prod.fst = requests := by
  induction requests generalizing session with
  | nil => rfl
  | cons r rs ih => exact congrArg (List.cons r) (ih _)

/-- A file that is there stays for all later calls. -/
theorem get?_request {key : String} {file : ScratchFile}
    (known : session.store.get? ScratchFile key = some file) (r : Request) :
    (session.request r).2.store.get? ScratchFile key = some file := by
  rcases session.request_cases r with ⟨conflict, same⟩ | ⟨assembled, script, map, -, -, store, -⟩
  · rw [same]
    exact known
  · rw [store]
    rcases Assembled.generatedExterns_cases r.passes { session with flags := r.flags } with
      ⟨-, same⟩ | ⟨-, same⟩
    · rw [same]
      exact known
    · rw [same, Assembled.get?_externsFile]
      split
      next here =>
        rw [← here] at known
        have again := Assembled.externsFile_of_known { session with flags := r.flags } known
        exact congrArg (fun written => some written.1) again
      next => exact known

theorem shelves_request (shelves : session.Shelves) (r : Request) :
    (session.request r).2.Shelves := by
  have own : Shelves { session with flags := r.flags } := shelves.of_store_eq rfl (Nat.le_refl _)
  rcases session.request_cases r with ⟨conflict, same⟩ | ⟨assembled, script, map, -, -, store, more⟩
  · rw [same]
    exact own
  · refine Shelves.of_store_eq ?_ store more
    rcases Assembled.generatedExterns_cases r.passes { session with flags := r.flags } with
      ⟨-, same⟩ | ⟨-, same⟩
    · rw [same]
      exact own
    · rw [same]
      exact Assembled.shelves_externsFile own _

/-! ## What the calls of a run name -/

/-- The call names the externs of the user, and behind them the file that the session has for what
it needs to know of imports. -/
structure Names (session : Session) (r : Request) (invocation : Invocation) : Prop where
  none : ChunkPass.importedNames r.passes = [] →
    Flags.externs invocation.flags = Flags.externs r.flags ∧
      ∀ file ∈ invocation.scratchFiles, invocation.get? Invocation.script = some (.script file)
  some : ChunkPass.importedNames r.passes ≠ [] → ∃ file,
    session.store.get? ScratchFile (Assembled.externsKey r.externs) = some file ∧
      file ∈ invocation.scratchFiles ∧
      Flags.externs invocation.flags = Flags.externs r.flags ++ [file.path]

theorem names_request {assembled : Assembled}
    (answered : (session.request r).1 = .ok assembled) :
    (session.request r).2.Names r assembled.invocation := by
  rcases session.request_cases r with
    ⟨conflict, same⟩ | ⟨other, script, map, given, invocation, store, -⟩
  · rw [same] at answered
    cases answered
  · rw [given] at answered
    cases answered
    have empty := ChunkPass.isEmpty_externsText r.passes
    rw [invocation]
    rcases Assembled.generatedExterns_cases r.passes { session with flags := r.flags } with
      ⟨nothing, same⟩ | ⟨something, same⟩
    · refine ⟨fun _ => ?_, fun some => absurd (empty.mp nothing) some⟩
      rw [same]
      refine ⟨?_, fun file named => ?_⟩
      · rw [Assembled.externs_invocationOf _ _ _ _ _ [] rfl]
        exact List.append_nil _
      · rcases Assembled.mem_scratchFiles_invocationOf _ _ _ _ _ named with rfl | among
        · rw [Assembled.get?_invocationOf, if_neg (by decide), if_pos rfl]
        · simp at among
    · let file := (Assembled.externsFile r.externs { session with flags := r.flags }).1
      refine ⟨fun none => ?_, fun _ => ⟨file, ?_, ?_, ?_⟩⟩
      · rw [empty.mpr none] at something
        cases something
      · rw [store, same, Request.externs, Assembled.get?_externsFile, if_pos rfl]
        rfl
      · rw [same]
        exact Assembled.scratchFile_of_externs _ _ _ _ _
          (List.mem_append_right _ (List.mem_singleton_self _))
      · rw [same, Assembled.externs_invocationOf _ _ _ _ _ _ rfl]
        rfl

theorem Names.later {invocation : Invocation} (names : session.Names r invocation) (next : Request) :
    (session.request next).2.Names r invocation where
  none := names.none
  some some := by
    obtain ⟨file, known, rest⟩ := names.some some
    exact ⟨file, get?_request known next, rest⟩

theorem Names.after {invocation : Invocation} (names : session.Names r invocation)
    (requests : List Request) : (session.afterRequests requests).Names r invocation := by
  induction requests generalizing session with
  | nil => exact names
  | cons next requests ih => exact ih (names.later next)

/-- Whatever the calls are, in the end the session has the externs that each of them names. -/
theorem names_answers {requests : List Request} {assembled : Assembled}
    (member : (r, .ok assembled) ∈ session.answers requests) :
    (session.afterRequests requests).Names r assembled.invocation := by
  induction requests generalizing session with
  | nil => cases member
  | cons first requests ih =>
    rcases List.mem_cons.mp member with here | later
    · obtain ⟨rfl, answered⟩ := Prod.mk.inj here
      exact (names_request answered.symm).after requests
    · exact ih later

/-- The texts that are generated for some calls. -/
def generatedTexts (requests : List Request) : List String :=
  (requests.map Request.externs).filter fun text => !text.isEmpty

theorem shelves_afterRequests (shelves : session.Shelves) (requests : List Request) :
    (session.afterRequests requests).Shelves := by
  induction requests generalizing session with
  | nil => exact shelves
  | cons r requests ih => exact ih (shelves_request shelves r)

theorem caches_afterRequests (distinct : NoCollision texts) (caches : session.CachesAll texts)
    {requests : List Request} (covers : ∀ r ∈ requests, Covers texts r.passes) :
    (session.afterRequests requests).CachesAll texts := by
  induction requests generalizing session with
  | nil => exact caches
  | cons r requests ih =>
    have own : CachesAll { session with flags := r.flags } texts := caches
    refine ih ?_ fun other member => covers other (List.mem_cons_of_mem r member)
    exact caches_assemble distinct own (covers r List.mem_cons_self) r.format r.code

theorem covers_generatedTexts {requests : List Request} (member : r ∈ requests) :
    Covers (generatedTexts requests) r.passes := by
  intro some
  exact List.mem_filter.mpr ⟨List.mem_map_of_mem member, by simp [some]⟩

end Session

theorem ScratchFile.path_eq_iff (file other : ScratchFile) :
    file.path = other.path ↔ file.number = other.number := by
  constructor
  · intro same
    have paths := congrArg String.toList same
    simp only [path, String.toList_append, List.append_assoc, List.append_cancel_left_eq] at paths
    have numbers : toString file.number = toString other.number :=
      String.toList_inj.mp (List.append_cancel_right paths)
    exact Nat.repr_inj.mp numbers
  · intro same
    rw [path, path, same]

namespace Session

/-- Calls that share their records, whatever they are made of. Each that is answered and has
something imported names a file behind the externs of the user, and that file holds a line for each
imported name, in the order of first mention. The last of its externs is that of another call
exactly when both need the same text. A call that has nothing imported names no file but its
script. -/
theorem externs_of_answers {session : Session}
    (fileless : ∀ key, session.store.get? ScratchFile key = none) {requests : List Request}
    (distinct : NoCollision (generatedTexts requests)) :
    let answers := session.answers requests
    answers.map Prod.fst = requests ∧
    (∀ r assembled, (r, .ok assembled) ∈ answers →
      let invocation := assembled.invocation
      let imported := ChunkPass.importedNames r.passes
      (imported ≠ [] → ∃ file ∈ invocation.scratchFiles,
        Flags.externs invocation.flags = Flags.externs r.flags ++ [file.path] ∧
        file.contents = "\n".intercalate (imported.eraseDups.map fun name => "var " ++ name ++ ";")) ∧
      (imported = [] → Flags.externs invocation.flags = Flags.externs r.flags ∧
        ∀ file ∈ invocation.scratchFiles,
          invocation.get? Invocation.script = some (.script file)) ∧
      ∀ ledger chunk code text outline,
        (ChunkPass.prepareChunk ledger .esm chunk code).result = .ok text →
        r.passes = (ChunkPass.prepareChunk ledger .esm chunk code).passes →
        Outline.ofSource (Strict.chunkDialect .esm) code = .ok outline →
        imported = outline.items.flatMap fun item => (Imports.locals? item.kind).getD []) ∧
    ∀ r assembled other twin, (r, .ok assembled) ∈ answers → (other, .ok twin) ∈ answers →
      ChunkPass.importedNames r.passes ≠ [] → ChunkPass.importedNames other.passes ≠ [] →
      ((Flags.externs assembled.invocation.flags).getLast? =
          (Flags.externs twin.invocation.flags).getLast? ↔ r.externs = other.externs) := by
  intro answers
  -- All that calls name is looked up in the session behind the last of them.
  have shelves := shelves_afterRequests (shelves_of_fileless fileless) requests
  have caches : (session.afterRequests requests).CachesAll (generatedTexts requests) := by
    refine caches_afterRequests distinct (fun text _ file known => ?_)
      fun r member => covers_generatedTexts member
    rw [fileless] at known
    cases known
  have order : answers.map Prod.fst = requests := session.map_fst_answers requests
  have generated {r : Request} {assembled : Except Flags.Conflict Assembled}
      (member : (r, assembled) ∈ answers) (some : ChunkPass.importedNames r.passes ≠ []) :
      r.externs ∈ generatedTexts requests := by
    have asked : r ∈ requests := order ▸ List.mem_map_of_mem member
    refine covers_generatedTexts asked ?_
    rw [Bool.eq_false_iff]
    exact fun none => some ((ChunkPass.isEmpty_externsText r.passes).mp none)
  refine ⟨order, fun r assembled member => ⟨fun some => ?_, fun none => ?_, ?_⟩, ?_⟩
  · obtain ⟨file, known, named, externs⟩ := (names_answers member).some some
    refine ⟨file, named, externs, ?_⟩
    rw [caches r.externs (generated member some) file known]
    exact ChunkPass.externsText_eq r.passes
  · exact (names_answers member).none none
  · intro ledger chunk code text outline accepted prepared outlined
    simp only [prepared]
    exact ChunkPass.importedNames_prepareChunk accepted outlined
  · intro r assembled other twin member there some something
    obtain ⟨file, known, -, externs⟩ := (names_answers member).some some
    obtain ⟨copy, found, -, again⟩ := (names_answers there).some something
    rw [externs, again, List.getLast?_concat, List.getLast?_concat, Option.some_inj,
      ScratchFile.path_eq_iff]
    constructor
    · intro same
      -- One file is kept under one key, and the key tells the text.
      have keys := shelves.apart _ _ _ _ known found same
      exact distinct r.externs (generated member some) other.externs (generated there something)
        (Assembled.fingerprint_eq_of_externsKey keys)
    · intro same
      rw [same, found] at known
      cases known
      rfl

/-- Three chunks of a build: the first and the last import the same name, the flags of the second
have externs of their own. -/
theorem externs_of_three_chunks :
    let passes (code : String) : List ChunkPass :=
      (ChunkPass.prepareChunk {} .esm { fileName := "main.js" } code).passes
    let first : Request := ⟨{}, .esm, passes "import \x7b x \x7d from './x.js';", ""⟩
    let second : Request := ⟨({} : Table FlagValue).set "externs" (.list ["own.js"]), .esm,
      passes "import y, * as z from './y.js';\nimport \x7b y as x \x7d from './z.js';", ""⟩
    let last : Request := ⟨{}, .esm, passes "import * as x from './z.js';", ""⟩
    let answers := (Session.start {} {}).answers [first, second, last]
    [first, second, last].map Request.externs = ["var x;", "var y;\nvar z;\nvar x;", "var x;"] ∧
    (answers.map fun answer => answer.2.toOption.map fun assembled =>
      (Flags.externs assembled.invocation.flags).length) = [some 1, some 2, some 1] ∧
    ∀ assembled twin, (first, .ok assembled) ∈ answers → (last, .ok twin) ∈ answers →
      (Flags.externs assembled.invocation.flags).getLast? =
        (Flags.externs twin.invocation.flags).getLast? := by
  intro passes first second last answers
  have texts : [first, second, last].map Request.externs =
      ["var x;", "var y;\nvar z;\nvar x;", "var x;"] := by
    decide +kernel
  have distinct : NoCollision (generatedTexts [first, second, last]) := by
    unfold generatedTexts NoCollision
    rw [texts]
    decide +kernel
  refine ⟨texts, by decide +kernel, fun assembled twin answered again => ?_⟩
  exact ((externs_of_answers (fun _ => rfl) distinct).2.2 first assembled last twin answered again
    (by decide +kernel) (by decide +kernel)).mpr (by decide +kernel)

end Session
end ChunkBridge
