import ChunkBridge.Plugin.Bundler
import ChunkBridge.Proofs.Build.Rendering
import Mathlib.Data.List.DropRight
import Mathlib.Data.List.Induction
import Mathlib.Data.List.Pairwise

/-!
# Runs of the compiler plugin

A bundler calls the hooks of the plugin in any order. From the events of a run it can be told which
hashbang line the plugin has for a module (`line?_after_iff`): the one that was taken from it last
in the build that runs.
-/

namespace ChunkBridge
open ChunkBridge.Script
open Glob (Verdict)

/-- A call of a hook. -/
inductive HookCall where
  | configure (input : InputOptions)
  | buildStart
  | transform (id code : String)
  | renderChunk (handed : Compiler) (format : OutputFormat) (chunk : Chunk) (code : String)

namespace HookCall

/-- What the plugin replies to a call. -/
def reply (p : CompilerPlugin) : HookCall → Reply CompilerPlugin
  | .configure input => { plugin := p.configure input }
  | .buildStart => p.buildStart
  | .transform id code => p.transform id code
  | .renderChunk handed format chunk code => p.renderChunk handed format chunk code

/-- The call starts a build. -/
def isStart : HookCall → Bool
  | .buildStart => true
  | .configure _ | .transform .. | .renderChunk .. => false

/-- The module that the call is about. -/
def module? : HookCall → Option String
  | .transform id _ => some id
  | .configure _ | .buildStart | .renderChunk .. => none

end HookCall

/-- A call with what the plugin made of it. -/
structure HookEvent where
  call : HookCall
  result : Except HookFault (Option Output)

/-- The events of the build that runs at the end. -/
def currentBuild (events : List HookEvent) : List HookEvent :=
  events.rtakeWhile fun event => !event.call.isStart

theorem currentBuild_concat_of_isStart (events : List HookEvent) {event : HookEvent}
    (starts : event.call.isStart = true) : currentBuild (events ++ [event]) = [] :=
  List.rtakeWhile_concat_neg _ _ _ (by simp [starts])

theorem currentBuild_concat (events : List HookEvent) {event : HookEvent}
    (goesOn : event.call.isStart = false) :
    currentBuild (events ++ [event]) = currentBuild events ++ [event] :=
  List.rtakeWhile_concat_pos _ _ _ (by simp [goesOn])

/-- The modules that were handed to the plugin, in order. -/
def modulesOf (events : List HookEvent) : List String :=
  events.filterMap fun event => event.call.module?

/-- A module that was handed over once was handed over in one event. -/
theorem eq_of_nodup_modulesOf {events : List HookEvent} (once : (modulesOf events).Nodup)
    {a b : HookEvent} {id : String} (first : a ∈ events) (second : b ∈ events)
    (ofFirst : a.call.module? = some id) (ofSecond : b.call.module? = some id) : a = b := by
  by_contra different
  have apart := List.pairwise_filterMap.mp once
  have symm : Std.Symm fun a b : HookEvent => ∀ id, a.call.module? = some id →
      ∀ other, b.call.module? = some other → id ≠ other :=
    ⟨fun _ _ differ _ ofB _ ofA => (differ _ ofA _ ofB).symm⟩
  exact apart.forall first second different id ofFirst id ofSecond rfl

namespace CompilerPlugin

/-- The plugin after some calls. -/
def after (p : CompilerPlugin) (calls : List HookCall) : CompilerPlugin :=
  calls.foldl (fun p call => (call.reply p).plugin) p

/-- The events of a run. -/
def events (p : CompilerPlugin) : List HookCall → List HookEvent
  | [] => []
  | call :: calls => ⟨call, (call.reply p).result⟩ :: events (call.reply p).plugin calls

theorem after_concat (p : CompilerPlugin) (calls : List HookCall) (call : HookCall) :
    p.after (calls ++ [call]) = (call.reply (p.after calls)).plugin := by
  simp [after]

theorem events_concat (p : CompilerPlugin) (calls : List HookCall) (call : HookCall) :
    p.events (calls ++ [call]) = p.events calls ++ [⟨call, (call.reply (p.after calls)).result⟩] := by
  induction calls generalizing p with
  | nil => rfl
  | cons first calls ih => exact congrArg (List.cons _) (ih _)

/-- The hashbang line that the plugin has for the chunk of a module. -/
def line? (p : CompilerPlugin) (id : String) : Option String := p.running.store.hashbang? id

end CompilerPlugin

/-- The call took a hashbang line from a module and gave back the text behind it. -/
def HookEvent.Takes (event : HookEvent) (id line : String) : Prop :=
  ∃ code output, event = ⟨.transform id code, .ok (some output)⟩ ∧ code = line ++ output.code

/-- The line was taken from the module, and none was taken from it later. -/
def TakenLast (events : List HookEvent) (id line : String) : Prop :=
  ∃ past event future, events = past ++ event :: future ∧ event.Takes id line ∧
    ∀ later ∈ future, ∀ other, ¬ later.Takes id other

/-- A line is taken by preparing its module. -/
theorem HookEvent.takes_transform_iff (module code id line : String)
    (result : Except HookFault (Option Output)) :
    Takes ⟨.transform module code, result⟩ id line ↔
      module = id ∧ ∃ output, result = .ok (some output) ∧ code = line ++ output.code := by
  constructor
  · rintro ⟨_, output, same, split⟩
    cases same
    exact ⟨rfl, output, rfl, split⟩
  · rintro ⟨rfl, output, rfl, split⟩
    exact ⟨code, output, rfl, split⟩

/-- No other call takes one. -/
theorem HookEvent.not_takes {event : HookEvent} (aside : event.call.module? = none)
    (id line : String) : ¬ event.Takes id line := by
  rintro ⟨code, output, rfl, -⟩
  cases aside

/-- No line was taken by nobody. -/
theorem not_takenLast_nil (id line : String) : ¬ TakenLast [] id line := by
  rintro ⟨past, event, future, split, -⟩
  simp at split

/-- A further event takes the line, or it was taken before and the event takes none. -/
theorem takenLast_concat_iff (events : List HookEvent) (event : HookEvent) (id line : String) :
    TakenLast (events ++ [event]) id line ↔
      event.Takes id line ∨ (∀ other, ¬ event.Takes id other) ∧ TakenLast events id line := by
  constructor
  · rintro ⟨past, found, future, split, takes, last⟩
    rcases List.eq_nil_or_concat future with rfl | ⟨between, final, rfl⟩
    · have ends := List.append_inj_right' split rfl
      cases ends
      exact .inl takes
    · rw [List.concat_eq_append] at split last
      rw [← List.cons_append, ← List.append_assoc] at split
      have ends := List.append_inj_right' split rfl
      cases ends
      refine .inr ⟨last event (by simp), past, found, between, List.append_cancel_right split,
        takes, fun later member => ?_⟩
      exact last later (List.mem_append_left _ member)
  · rintro (takes | ⟨none, past, found, future, rfl, takes, last⟩)
    · exact ⟨events, event, [], rfl, takes, fun later member => nomatch member⟩
    · refine ⟨past, found, future ++ [event], by simp, takes, fun later member => ?_⟩
      rcases List.mem_append.mp member with older | final
      · exact last later older
      · rw [List.mem_singleton.mp final]
        exact none

/-! ## What each hook does to the lines -/

namespace CompilerPlugin

/-- A build that is about to start has no lines. -/
theorem line?_of_no_session {p : CompilerPlugin} (idle : p.session = none) (id : String) :
    p.line? id = none := by
  simp [line?, running, idle, Session.start, Store.hashbang?, Store.get?]

/-- The input of later builds does not matter to the one that runs. -/
theorem line?_configure (p : CompilerPlugin) (input : InputOptions) (id : String) :
    (p.configure input).line? id = p.line? id := by
  cases running : p.session with
  | none => rw [line?_of_no_session running, line?_of_no_session (by exact running)]
  | some session => simp [line?, CompilerPlugin.running, configure, running]

/-- A new build has no lines. -/
theorem line?_buildStart (p : CompilerPlugin) (id : String) : p.buildStart.plugin.line? id = none := by
  simp [line?, buildStart, keep, running, Session.start, Store.hashbang?, Store.get?]

/-- Preparing a module takes its line or none at all. -/
theorem line?_transform (p : CompilerPlugin) (id code : String) :
    (∃ output line, (p.transform id code).result = .ok (some output) ∧
      code = line ++ output.code ∧
      ∀ other, (p.transform id code).plugin.line? other =
        if id = other then some line else p.line? other) ∨
    (∀ output, (p.transform id code).result ≠ .ok (some output)) ∧
      ∀ other, (p.transform id code).plugin.line? other = p.line? other := by
  unfold transform
  dsimp only
  cases p.running.filter.verdict id with
  | no => exact .inr ⟨fun output h => (nomatch h), fun other => rfl⟩
  | tooDeep => exact .inr ⟨fun output h => (nomatch h), fun other => rfl⟩
  | yes =>
    have prepares := p.running.prepares_prepareModule id code
    generalize p.running.prepareModule id code ModulePass.registered = prepared at prepares ⊢
    obtain ⟨outcome, session⟩ := prepared
    dsimp only at prepares ⊢
    cases prepares with
    | unread => exact .inr ⟨fun output h => (nomatch h), fun other => rfl⟩
    | plain =>
      refine .inr ⟨fun output h => (nomatch h), fun other => ?_⟩
      exact ModulePass.hashbang?_scanExports _ _ other
    | @stripped outline line rest map outlined found split =>
      refine .inl ⟨_, line, rfl, split, fun other => ?_⟩
      exact (ModulePass.hashbang?_scanExports _ _ other).trans
        (Store.hashbang?_set_hashbangKey _ id other line .source)

/-- Rendering a chunk takes no line. -/
theorem line?_renderChunk (p : CompilerPlugin) (handed : Compiler) (format : OutputFormat)
    (chunk : Chunk) (code id : String) :
    (p.renderChunk handed format chunk code).plugin.line? id = p.line? id := by
  unfold renderChunk
  dsimp only
  cases p.running.filter.verdict chunk.fileName with
  | no => rfl
  | tooDeep => rfl
  | yes => exact (Session.renders_renderChunk _ _ _ _ _).hashbang?_eq id

/-- A line is there because the call took it, or it was there before and the call neither started
a build nor took another one. -/
theorem line?_reply_iff (p : CompilerPlugin) (call : HookCall) (id line : String) :
    (call.reply p).plugin.line? id = some line ↔
      HookEvent.Takes ⟨call, (call.reply p).result⟩ id line ∨
        call.isStart = false ∧
          (∀ other, ¬ HookEvent.Takes ⟨call, (call.reply p).result⟩ id other) ∧
          p.line? id = some line := by
  have idle (aside : call.module? = none) :
      ∀ other, ¬ HookEvent.Takes ⟨call, (call.reply p).result⟩ id other :=
    HookEvent.not_takes aside id
  cases call with
  | configure input =>
    rw [or_iff_right (idle rfl line), HookCall.reply, line?_configure]
    exact ⟨fun known => ⟨rfl, idle rfl, known⟩, fun known => known.2.2⟩
  | buildStart =>
    rw [or_iff_right (idle rfl line), HookCall.reply, line?_buildStart]
    exact ⟨fun known => (nomatch known), fun known => (nomatch known.1)⟩
  | renderChunk handed format chunk code =>
    rw [or_iff_right (idle rfl line), HookCall.reply, line?_renderChunk]
    exact ⟨fun known => ⟨rfl, idle rfl, known⟩, fun known => known.2.2⟩
  | transform module code =>
    simp only [HookEvent.takes_transform_iff, HookCall.reply, HookCall.isStart, true_and]
    rcases p.line?_transform module code with ⟨output, taken, given, split, lines⟩ | ⟨none, lines⟩
    · rw [lines id]
      by_cases same : module = id
      · have own (other : String) : code = other ++ output.code ↔ taken = other := by
          rw [split, String.append_left_inj]
        simp only [if_pos same, Option.some.injEq, given, Except.ok.injEq]
        simp [same, own]
      · simp [same]
    · have takes (other : String) : ¬ ∃ output, (p.transform module code).result =
          .ok (some output) ∧ code = other ++ output.code := fun ⟨output, given, _⟩ =>
        none output given
      simp [lines id, takes]

/-- After a run the plugin has for each module the line that was taken from it last in the build
that runs. -/
theorem line?_after_iff {p : CompilerPlugin} (fresh : p.session = none) (calls : List HookCall)
    (id line : String) :
    (p.after calls).line? id = some line ↔
      TakenLast (currentBuild (p.events calls)) id line := by
  induction calls using List.reverseRecOn with
  | nil =>
    rw [after, List.foldl_nil, line?_of_no_session fresh]
    exact ⟨fun known => (nomatch known), fun taken => absurd taken (not_takenLast_nil id line)⟩
  | append_singleton calls call ih =>
    rw [after_concat, events_concat, line?_reply_iff, ih]
    cases starts : call.isStart with
    | true =>
      have aside : call.module? = none := by
        cases call <;> first | rfl | cases starts
      rw [currentBuild_concat_of_isStart _ starts, or_iff_right (HookEvent.not_takes aside id line)]
      simp [not_takenLast_nil]
    | false =>
      rw [currentBuild_concat _ starts, takenLast_concat_iff]
      simp only [true_and]

end CompilerPlugin
end ChunkBridge
