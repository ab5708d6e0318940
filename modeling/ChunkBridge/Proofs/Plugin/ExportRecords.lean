import ChunkBridge.Proofs.Build.Externs
import ChunkBridge.Proofs.Plugin.Frame

/-!
# The records of exports

What a module exports is recorded under its name, and under its contents for other modules that have
the same ones. So a module is recorded with the names that the first module of the build with these
contents was read with (`exports_of_transform`). These are its own if both are of one dialect: the
key of the contents does not tell in which dialect they were read.
-/

namespace ChunkBridge
open ChunkBridge.Text ChunkBridge.Script
open Glob (Verdict)

/-! ## Keys -/

theorem fingerprint_eq_of_scanKey {a b : String} (h : scanKey a = scanKey b) :
    fingerprint a = fingerprint b := fingerprint_eq_of_key "export-scan:" h

/-! ## One module -/

/-- A session, before and after a module was recorded with the names it exports: all of them are
settled, and they are what later modules with the same contents are recorded with. -/
structure Session.Scans (before : Session) (id code : String) (names : List String)
    (after : Session) : Prop where
  filter_eq : after.filter = before.filter
  recorded : after.store.get? (List String) (exportsKey id) = some names
  issued : ∀ name ∈ names, ∃ mangled, after.ledger.issued? name exportsScope = some mangled
  scan_eq : ∀ source, after.store.get? (List String) (scanKey source) =
    if scanKey code = scanKey source then some names
    else before.store.get? (List String) (scanKey source)

namespace Session

/-- The names that a module is recorded with: those that its contents are known for, or else its
own. -/
def knownExports (session : Session) (code : String) (outline : Outline) : List String :=
  (session.store.get? (List String) (scanKey code)).getD outline.exportedNames

theorem scans_scanExports (session : Session) (unit : ModuleUnit) :
    session.Scans unit.id unit.code (session.knownExports unit.code unit.outline)
      (ModulePass.scanExports unit session) := by
  have apart := Store.exportsKey_ne_scanKey unit.id
  have settled (ledger : Ledger) (names : List String) : ∀ name ∈ names, ∃ mangled,
      (ledger.after (names.map fun name => .resolve name exportsScope)).issued? name exportsScope =
        some mangled :=
    fun name member => Ledger.issued?_after_of_mem (List.mem_map_of_mem member)
  unfold ModulePass.scanExports knownExports
  rw [Store.getOrInsertWith_of_idle]
  cases known : session.store.get? (List String) (scanKey unit.code) with
  | some names =>
    simp only [ModulePass.settle_eq, Option.getD_some]
    refine ⟨rfl, by simp [Store.get?_set], settled session.ledger names, fun source => ?_⟩
    rw [Store.get?_set, if_neg (apart source)]
    split
    next same => exact same ▸ known
    next => rfl
  | none =>
    simp only [ModulePass.settle_eq, Option.getD_none]
    refine ⟨rfl, by simp [Store.get?_set], settled session.ledger unit.outline.exportedNames,
      fun source => ?_⟩
    rw [Store.get?_set, if_neg (apart source), Store.get?_set]

theorem scans_prepareModule (session : Session) {id code : String} {outline : Outline}
    (outlined : Outline.ofSource (.ofId id) code = .ok outline) :
    session.Scans id code (session.knownExports code outline)
      (session.prepareModule id code ModulePass.registered).2 := by
  have prepares := session.prepares_prepareModule id code
  generalize session.prepareModule id code ModulePass.registered = prepared at prepares ⊢
  obtain ⟨outcome, after⟩ := prepared
  dsimp only at prepares ⊢
  cases prepares with
  | unread refused =>
    rw [outlined] at refused
    cases refused
  | plain again =>
    cases outlined.symm.trans again
    exact session.scans_scanExports ⟨id, code, outline⟩
  | @stripped _ line _ _ again =>
    cases outlined.symm.trans again
    -- The hashbang line is kept under a key of its own.
    have other (source : String) : (session.store.set (hashbangKey id) line .source).get?
        (List String) (scanKey source) = session.store.get? (List String) (scanKey source) :=
      Store.get?_set_of_ne _ (ne_hashbangKey (head?_scanKey source) id).symm line .source
    have scans := scans_scanExports
      { session with store := session.store.set (hashbangKey id) line .source } ⟨id, code, outline⟩
    rw [knownExports, other] at scans
    exact ⟨scans.filter_eq, scans.recorded, scans.issued, fun source => other source ▸ scans.scan_eq source⟩

theorem prepareModule_of_unread (session : Session) {id code : String} {e : OutlineError}
    (refused : Outline.ofSource (.ofId id) code = .error e) :
    (session.prepareModule id code ModulePass.registered).2 = session := by
  simp [prepareModule, ModulePass.registered, refused]

end Session

/-! ## Runs -/

/-- The names that the call reads a module with, if the plugin is to touch the module and its
contents are `code`. -/
def HookEvent.reading? (filter : Filter) (code : String) (event : HookEvent) : Option (List String) :=
  match event.call with
  | .transform id source =>
    if source = code ∧ filter.verdict id = .yes then
      (Outline.ofSource (.ofId id) source).toOption.map Outline.exportedNames
    else none
  | .configure _ | .buildStart | .renderChunk .. => none

/-- The names that some contents were read with first. -/
def firstReading? (filter : Filter) (code : String) (events : List HookEvent) :
    Option (List String) :=
  events.findSome? fun event => event.reading? filter code

/-- The contents of the module that the call is about. -/
def HookCall.source? : HookCall → Option String
  | .transform _ source => some source
  | .configure _ | .buildStart | .renderChunk .. => none

/-- The contents of the modules that were handed to the plugin, in order. -/
def sourcesOf (events : List HookEvent) : List String :=
  events.filterMap fun event => event.call.source?

theorem HookEvent.reading?_eq_none {event : HookEvent} (aside : event.call.module? = none)
    (filter : Filter) (code : String) : event.reading? filter code = none := by
  obtain ⟨call, result⟩ := event
  cases call with
  | transform => cases aside
  | configure | buildStart | renderChunk => rfl

/-- What was read is a module with these contents. -/
theorem HookEvent.of_reading? {event : HookEvent} {filter : Filter} {code : String}
    {names : List String} (reading : event.reading? filter code = some names) :
    ∃ id outline, event.call = .transform id code ∧ filter.verdict id = .yes ∧
      Outline.ofSource (.ofId id) code = .ok outline ∧ names = outline.exportedNames := by
  obtain ⟨call, result⟩ := event
  cases call with
  | configure | buildStart | renderChunk => cases reading
  | transform id source =>
    obtain ⟨⟨rfl, passes⟩, read⟩ := Option.ite_none_right_eq_some.mp reading
    obtain ⟨outline, outlined, rfl⟩ := Option.map_eq_some_iff.mp read
    exact ⟨id, outline, rfl, passes, eq_ok_of_toOption outlined, rfl⟩

theorem firstReading?_concat (filter : Filter) (code : String) (events : List HookEvent)
    (event : HookEvent) :
    firstReading? filter code (events ++ [event]) =
      (firstReading? filter code events).or (event.reading? filter code) := by
  simp [firstReading?, List.findSome?_append]

theorem mem_sourcesOf_concat (events : List HookEvent) (event : HookEvent) (source : String) :
    source ∈ sourcesOf (events ++ [event]) ↔
      source ∈ sourcesOf events ∨ event.call.source? = some source := by
  simp [sourcesOf, List.filterMap_append]

namespace CompilerPlugin

/-- As long as no build runs, no module was handed over. -/
theorem module?_eq_none_of_idle (p : CompilerPlugin) (calls : List HookCall)
    (idle : (p.after calls).session = none) : ∀ event ∈ p.events calls, event.call.module? = none := by
  induction calls using List.reverseRecOn with
  | nil => exact fun event member => nomatch member
  | append_singleton calls call ih =>
    rw [after_concat] at idle
    rw [events_concat]
    cases call with
    | configure input =>
      intro event member
      rcases List.mem_append.mp member with earlier | last
      · exact ih idle event earlier
      · rw [List.mem_singleton.mp last]
        rfl
    | buildStart => cases idle
    | transform id code =>
      unfold HookCall.reply transform at idle
      dsimp only at idle
      split at idle <;> cases idle
    | renderChunk handed format chunk code =>
      unfold HookCall.reply renderChunk at idle
      dsimp only at idle
      split at idle <;> cases idle

/-- A module is read unless its contents are known already. No others have their key. -/
theorem scan_transform (p : CompilerPlugin) (id source : String) {texts : List String}
    (distinct : NoCollision texts) (given : source ∈ texts) {code : String} (member : code ∈ texts)
    (result : Except HookFault (Option Output)) :
    (p.transform id source).plugin.running.filter = p.running.filter ∧
    (p.transform id source).plugin.running.store.get? (List String) (scanKey code) =
      (p.running.store.get? (List String) (scanKey code)).or
        (HookEvent.reading? p.running.filter code ⟨.transform id source, result⟩) := by
  rw [running_transform, HookEvent.reading?]
  dsimp only
  by_cases passes : p.running.filter.verdict id = .yes
  · rw [if_pos passes]
    cases outlined : Outline.ofSource (.ofId id) source with
    | error e =>
      rw [Session.prepareModule_of_unread _ outlined]
      simp [Except.toOption]
    | ok outline =>
      have scans := p.running.scans_prepareModule outlined
      refine ⟨scans.filter_eq, ?_⟩
      rw [scans.scan_eq]
      by_cases same : source = code
      · subst same
        rw [if_pos rfl, if_pos ⟨rfl, passes⟩, Session.knownExports]
        cases p.running.store.get? (List String) (scanKey source) <;> rfl
      · have apart : scanKey source ≠ scanKey code := fun keys =>
          same (distinct source given code member (fingerprint_eq_of_scanKey keys))
        rw [if_neg apart, if_neg fun both => same both.1, Option.or_none]
  · rw [if_neg passes, if_neg fun both => passes both.2, Option.or_none]
    exact ⟨rfl, rfl⟩

theorem scan_renderChunk (p : CompilerPlugin) (files : p.running.store.HoldsFiles)
    (handed : Compiler) (format : OutputFormat) (chunk : Chunk) (text code : String) :
    (p.renderChunk handed format chunk text).plugin.running.filter = p.running.filter ∧
    (p.renderChunk handed format chunk text).plugin.running.store.get? (List String) (scanKey code) =
      p.running.store.get? (List String) (scanKey code) := by
  rw [running_renderChunk]
  split
  · have gains := Session.gains_renderChunk files format chunk (p.compilerOr handed) text
    refine ⟨(Session.renders_renderChunk ..).filter_eq, Store.get?_of_record? ?_⟩
    exact gains.record?_eq fun externs => Store.externsKey_ne_scanKey externs code
  · exact ⟨rfl, rfl⟩

/-- After a run the plugin has for some contents the names that they were read with first in the
build that runs. -/
theorem scan_after {p : CompilerPlugin} (fresh : p.session = none) (calls : List HookCall)
    {texts : List String} (distinct : NoCollision texts)
    (covers : ∀ source ∈ sourcesOf (currentBuild (p.events calls)), source ∈ texts) {code : String}
    (member : code ∈ texts) :
    (p.after calls).running.store.get? (List String) (scanKey code) =
      firstReading? (p.after calls).running.filter code (currentBuild (p.events calls)) := by
  induction calls using List.reverseRecOn with
  | nil =>
    rw [after, List.foldl_nil, running_of_no_session fresh]
    simp [Session.start, Store.get?, events, currentBuild, firstReading?]
  | append_singleton calls call ih =>
    rw [after_concat]
    rw [events_concat] at covers ⊢
    have files := holdsFiles_after fresh calls
    have idle := p.module?_eq_none_of_idle calls
    generalize p.after calls = q at ih files idle ⊢
    cases call with
    | configure input =>
      rw [currentBuild_concat _ rfl] at covers ⊢
      rw [firstReading?_concat, HookEvent.reading?_eq_none rfl, Option.or_none, HookCall.reply]
      cases known : q.session with
      | none =>
        -- The filter of a build that does not run yet may change, but no module was read by it.
        have unread : firstReading? (q.configure input).running.filter code
            (currentBuild (p.events calls)) = none :=
          List.findSome?_eq_none_iff.mpr fun event among =>
            HookEvent.reading?_eq_none (idle known event ((List.rtakeWhile_suffix _ _).mem among)) _ _
        rw [unread, running_of_no_session (p := q.configure input) known]
        simp [Session.start, Store.get?]
      | some session =>
        have same : (q.configure input).running = q.running := by simp [running, configure, known]
        rw [same]
        exact ih fun source among =>
          covers source ((mem_sourcesOf_concat _ _ _).mpr (.inl among))
    | buildStart =>
      rw [currentBuild_concat_of_isStart _ rfl]
      simp [HookCall.reply, buildStart, keep, running, Session.start, Store.get?, firstReading?]
    | transform id source =>
      rw [currentBuild_concat _ rfl] at covers ⊢
      have given : source ∈ texts := covers source ((mem_sourcesOf_concat _ _ _).mpr (.inr rfl))
      obtain ⟨filter, scan⟩ := q.scan_transform id source distinct given member
        (q.transform id source).result
      rw [HookCall.reply, filter, scan, firstReading?_concat]
      rw [ih fun source among => covers source ((mem_sourcesOf_concat _ _ _).mpr (.inl among))]
    | renderChunk handed format chunk text =>
      rw [currentBuild_concat _ rfl] at covers ⊢
      obtain ⟨filter, scan⟩ := q.scan_renderChunk files handed format chunk text code
      rw [HookCall.reply, filter, scan, firstReading?_concat, HookEvent.reading?_eq_none rfl,
        Option.or_none]
      exact ih fun source among => covers source ((mem_sourcesOf_concat _ _ _).mpr (.inl among))

/-- Whatever hooks were called before: a module that can be read is recorded with the names that its
contents were read with first in the build that runs, and all of these are settled. If no earlier
module with the same contents is of another dialect, they are the names that the module exports. -/
theorem exports_of_transform (options : Options) (program : Option Program) (input : InputOptions)
    (calls : List HookCall) (id code : String) {outline : Outline}
    (passes : (after { options, program, input } calls).running.filter.verdict id = .yes)
    (outlined : Outline.ofSource (.ofId id) code = .ok outline)
    (distinct : NoCollision
      (code :: sourcesOf (currentBuild (events { options, program, input } calls)))) :
    let p := after { options, program, input } calls
    let build := currentBuild (events { options, program, input } calls)
    let left := (p.transform id code).plugin.running
    let known := (firstReading? p.running.filter code build).getD outline.exportedNames
    left.store.get? (List String) (exportsKey id) = some known ∧
    (∀ name ∈ known, ∃ mangled, left.ledger.issued? name exportsScope = some mangled) ∧
    ((∀ event ∈ build, ∀ other, event.call = .transform other code →
        p.running.filter.verdict other = .yes → Dialect.ofId other = Dialect.ofId id) →
      known = outline.exportedNames) := by
  intro p build left known
  have scan : p.running.store.get? (List String) (scanKey code) =
      firstReading? p.running.filter code build :=
    scan_after rfl calls distinct (fun source among => List.mem_cons_of_mem code among)
      List.mem_cons_self
  have scans := p.running.scans_prepareModule outlined
  rw [Session.knownExports, scan] at scans
  have behind : left = (p.running.prepareModule id code ModulePass.registered).2 :=
    (p.running_transform id code).trans (if_pos passes)
  rw [behind]
  refine ⟨scans.recorded, scans.issued, fun alike => ?_⟩
  cases first : firstReading? p.running.filter code build with
  | none => simp only [known, first, Option.getD_none]
  | some names =>
    obtain ⟨event, among, reading⟩ := List.exists_of_findSome?_eq_some first
    obtain ⟨other, read, called, touched, outlinedThere, rfl⟩ := HookEvent.of_reading? reading
    rw [alike event among other called touched, outlined] at outlinedThere
    cases outlinedThere
    simp only [known, first, Option.getD_some]

/-- Two copies of a source share what it was read with, and both are recorded. -/
theorem exports_of_copy :
    let code := "export const x = 1;\nexport default x;\n"
    let calls : List HookCall := [.buildStart, .transform "/vendor/a/lib.js" code]
    let left := ((after {} calls).transform "/vendor/b/lib.js" code).plugin.running
    left.store.get? (List String) (exportsKey "/vendor/b/lib.js") = some ["x", "default"] ∧
    ∀ name ∈ ["x", "default"], ∃ mangled,
      left.ledger.issued? name exportsScope = some mangled := by
  intro code calls left
  have passes : (after {} calls).running.filter.verdict "/vendor/b/lib.js" = .yes := by
    decide +kernel
  obtain ⟨result, build⟩ : ∃ result,
      currentBuild (events {} calls) = [⟨.transform "/vendor/a/lib.js" code, result⟩] :=
    ⟨_, currentBuild_concat [⟨.buildStart, .ok none⟩] rfl⟩
  have sources : sourcesOf (currentBuild (events {} calls)) = [code] := by
    rw [build]
    rfl
  have distinct : NoCollision (code :: sourcesOf (currentBuild (events {} calls))) := by
    rw [sources]
    unfold NoCollision
    decide +kernel
  obtain ⟨outline, outlined, exports⟩ : ∃ outline,
      Outline.ofSource (.ofId "/vendor/b/lib.js") code = .ok outline ∧
        outline.exportedNames = ["x", "default"] := by
    have told : (Outline.ofSource (.ofId "/vendor/b/lib.js") code).toOption.map
        Outline.exportedNames = some ["x", "default"] := by decide +kernel
    obtain ⟨outline, outlined, names⟩ := Option.map_eq_some_iff.mp told
    exact ⟨outline, eq_ok_of_toOption outlined, names⟩
  obtain ⟨recorded, issued, own⟩ :=
    exports_of_transform {} none {} calls "/vendor/b/lib.js" code passes outlined distinct
  have alike := own fun event among other called _ => by
    rw [build, List.mem_singleton] at among
    subst among
    cases called
    decide +kernel
  rw [alike, exports] at recorded issued
  exact ⟨recorded, issued⟩

/-- A source with types is recorded with what the same text exports as a script with elements, and an
export that it has beyond that gets no name. -/
theorem exports_of_other_dialect :
    let code := "export const a = <b>1;\nexport const c = 2; //</b>"
    let calls : List HookCall := [.buildStart, .transform "/src/a.js" code]
    let left := ((after {} calls).transform "/src/a.ts" code).plugin.running
    (Outline.ofSource (.ofId "/src/a.ts") code).toOption.map Outline.exportedNames =
      some ["a", "c"] ∧
    (Outline.ofSource (.ofId "/src/a.js") code).toOption.map Outline.exportedNames = some ["a"] ∧
    left.store.get? (List String) (exportsKey "/src/a.ts") = some ["a"] ∧
    left.ledger.issued? "c" exportsScope = none := by
  decide +kernel

end CompilerPlugin
end ChunkBridge
