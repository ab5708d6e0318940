import ChunkBridge.Compile.Scripted
import ChunkBridge.Proofs.Build.Externs
import ChunkBridge.Proofs.Chunk.Settled

/-!
# Renders that do not touch each other

The chunks of a build are rendered one after the other in one session, and each leaves reserved
names, externs and numbered files there. If all exports were settled before, none of that can be
told from what a later render does (`Session.Alike`), so every chunk is rendered as it would be
first, or in any other build that begins with the same records and names (`views_eq_map_view`).
-/

namespace ChunkBridge
open ChunkBridge.Text

/-! ## What is seen of a render -/

/-- A chunk that is to be rendered. -/
structure Job where
  format : OutputFormat
  chunk : Chunk
  code : String

/-- The failure without the path of a source map that was not there. -/
def Failure.masked : Failure → Failure
  | ⟨.sourceMap, ⟨_, cause :: causes⟩⟩ => ⟨.sourceMap, ⟨"Failed to read source map", cause :: causes⟩⟩
  | failure => failure

def Outcome.masked : Outcome → Outcome
  | .failed failure => .failed failure.masked
  | outcome => outcome

/-- What is seen of a render: the prepared chunk or why it was refused, what the compiler was called
with, and what became of the chunk. Paths of scratch files are not seen, but what they hold is. -/
structure View where
  prepared : Except ChunkPass.Refusal String
  call : Option Invocation
  outcome? : Option Outcome

namespace Session

/-- A job is done. -/
def render (session : Session) (compiler : Compiler) (job : Job) : Rendered :=
  session.renderChunk job.format job.chunk compiler job.code

/-- What is seen when a job is done. -/
def view (session : Session) (compiler : Compiler) (job : Job) : View where
  prepared := (ChunkPass.prepareChunk session.ledger job.format job.chunk job.code).result
  call := (session.render compiler job).call.map Invocation.masked
  outcome? := (session.render compiler job).outcome?.map Outcome.masked

/-- What is seen when jobs are done one after the other. -/
def views (session : Session) (compiler : Compiler) : List Job → List View
  | [] => []
  | job :: jobs =>
    session.view compiler job :: views (session.render compiler job).session compiler jobs

/-- The externs that a job needs; empty if there are none. -/
def externsOf (session : Session) (job : Job) : String :=
  let prepared := ChunkPass.prepareChunk session.ledger job.format job.chunk job.code
  match prepared.result with
  | .ok _ => ChunkPass.externsText prepared.passes
  | .error _ => ""

/-- The texts that are generated as externs when jobs are done. -/
def externTexts (session : Session) (jobs : List Job) : List String :=
  (jobs.map session.externsOf).filter fun text => !text.isEmpty

end Session

/-- Every export of the chunk has its name. -/
def Job.IsSettled (job : Job) (ledger : Ledger) : Prop :=
  ∀ name ∈ ChunkPass.exportsOf job.format job.code, (ledger.issued? name exportsScope).isSome

/-- The compiler goes by the texts in its files and not by where they are. -/
def Compiler.IgnoresPaths (compiler : Compiler) : Prop :=
  ∀ i j : Invocation, i.masked = j.masked → compiler i = compiler j

theorem Invocation.code_masked (invocation : Invocation) : invocation.masked.code = invocation.code := by
  unfold Invocation.code Invocation.masked
  rw [Table.get?_map]
  cases invocation.get? script with
  | none => rfl
  | some setting => cases setting <;> rfl

/-- A scripted compiler reads the script and nothing else. -/
theorem CompilerScript.ignoresPaths (script : CompilerScript) : script.compiler.IgnoresPaths := by
  intro i j same
  have code : i.code = j.code := by rw [← i.code_masked, same, j.code_masked]
  simp only [compiler, code]

/-! ## Sessions that cannot be told apart -/

/-- Two sessions have the same settings, hashbang lines and names of exports. -/
structure Session.Alike (s t : Session) : Prop where
  flags_eq : t.flags = s.flags
  hashbang?_eq : ∀ id, t.store.hashbang? id = s.store.hashbang? id
  ledger : s.ledger.Alike t.ledger

namespace Session.Alike
variable {s t u : Session}

theorem symm (alike : s.Alike t) : t.Alike s where
  flags_eq := alike.flags_eq.symm
  hashbang?_eq id := (alike.hashbang?_eq id).symm
  ledger := alike.ledger.symm

theorem trans (left : s.Alike t) (right : t.Alike u) : s.Alike u where
  flags_eq := right.flags_eq.trans left.flags_eq
  hashbang?_eq id := (right.hashbang?_eq id).trans (left.hashbang?_eq id)
  ledger := left.ledger.trans right.ledger

/-- Work on a chunk that changes no names cannot be told. -/
theorem of_renders (renders : s.Renders t) (ledger : s.ledger.Alike t.ledger) : s.Alike t :=
  ⟨renders.flags_eq, renders.hashbang?_eq, ledger⟩

theorem line?_eq (alike : s.Alike t) (chunk : Chunk) :
    Hashbang.line? t.store chunk = Hashbang.line? s.store chunk := by
  unfold Hashbang.line?
  cases chunk.facade with
  | none => rfl
  | some id => exact alike.hashbang?_eq id

end Session.Alike

namespace Session
variable {s t : Session} {compiler : Compiler}

/-- Alike sessions make the same of an answer of the compiler. -/
theorem compile_of_alike (alike : s.Alike t) (ignores : compiler.IgnoresPaths)
    (format : OutputFormat) (chunk : Chunk) (passes : List ChunkPass) {a b : Assembled}
    (same : b.invocation.masked = a.invocation.masked) :
    (t.compile format chunk passes compiler b).mapError Failure.masked =
      (s.compile format chunk passes compiler a).mapError Failure.masked := by
  have restores := ChunkPass.restoreChunk_of_alike alike.ledger (alike.line?_eq chunk) format passes
  unfold compile
  rw [restores, ignores _ _ same]
  dsimp only
  cases (compiler a.invocation).code with
  | error trace => rfl
  | ok compiled =>
    dsimp only [Except.mapError, bind, Except.bind]
    cases ChunkPass.restoreChunk s format chunk passes compiled with
    | error failed => rfl
    | ok text =>
      -- The path is only told when there is no map to be read.
      cases (compiler a.invocation).map <;> rfl

/-- A session cannot be told from what it was before a call was assembled. -/
theorem alike_assemble (session : Session) (format : OutputFormat) (passes : List ChunkPass)
    (code : String) : session.Alike (session.assemble format passes code).2 := by
  refine .of_renders (renders_assemble session format passes code) ?_
  rw [ledger_assemble]
  exact .refl session.ledger

/-- Alike sessions compile a prepared chunk alike. -/
theorem compilePrepared_of_alike (alike : s.Alike t) (ignores : compiler.IgnoresPaths)
    {texts : List String} {passes : List ChunkPass} (covers : Covers texts passes)
    (cachesS : s.CachesAll texts) (cachesT : t.CachesAll texts) (format : OutputFormat)
    (chunk : Chunk) (code : String) (refusal : Option Trace) :
    let left := s.compilePrepared format chunk compiler passes code refusal
    let right := t.compilePrepared format chunk compiler passes code refusal
    right.call.map Invocation.masked = left.call.map Invocation.masked ∧
      right.outcome?.map Outcome.masked = left.outcome?.map Outcome.masked := by
  intro left right
  have first := masked_assemble cachesS covers format code
  have second := masked_assemble cachesT covers format code
  have sLeft := alike_assemble s format passes code
  have tLeft := alike_assemble t format passes code
  simp only [left, right, compilePrepared]
  rw [alike.flags_eq] at second
  generalize s.assemble format passes code = leftCall at first sLeft ⊢
  generalize t.assemble format passes code = rightCall at second tLeft ⊢
  obtain ⟨a, s'⟩ := leftCall
  obtain ⟨b, t'⟩ := rightCall
  cases conflict : Flags.conflict? s.flags with
  | some conflict =>
    simp only [conflict] at first second
    subst first second
    exact ⟨rfl, rfl⟩
  | none =>
    simp only [conflict] at first second
    obtain ⟨a, rfl, firstMasked⟩ := first
    obtain ⟨b, rfl, secondMasked⟩ := second
    have same : b.invocation.masked = a.invocation.masked := secondMasked.trans firstMasked.symm
    have compiled := compile_of_alike ((sLeft.symm.trans alike).trans tLeft) ignores format chunk
      passes same
    refine ⟨congrArg some same, ?_⟩
    dsimp only
    generalize s'.compile format chunk passes compiler a = leftResult at compiled ⊢
    generalize t'.compile format chunk passes compiler b = rightResult at compiled ⊢
    cases leftResult <;> cases rightResult <;> simp_all [Except.mapError, Outcome.masked]

/-! ## Renders of settled chunks -/

/-- The texts hold the externs of a job. -/
def CoversJob (texts : List String) (session : Session) (job : Job) : Prop :=
  (session.externsOf job).isEmpty = false → session.externsOf job ∈ texts

/-- A session behind the preparation of a chunk. -/
def asked (session : Session) (job : Job) : Session :=
  { session with
    ledger := (ChunkPass.prepareChunk session.ledger job.format job.chunk job.code).ledger }

theorem alike_asked {job : Job} (settled : job.IsSettled s.ledger) : s.Alike (s.asked job) := by
  obtain ⟨-, -, same, -⟩ := ChunkPass.prepareChunk_of_alike (.refl s.ledger) job.chunk settled
  exact ⟨rfl, fun _ => rfl, same⟩

/-- An accepted chunk is compiled as it was prepared. -/
theorem render_of_accepted {job : Job} {code : String}
    (accepted : (ChunkPass.prepareChunk s.ledger job.format job.chunk job.code).result = .ok code) :
    s.render compiler job =
      (s.asked job).compilePrepared job.format job.chunk compiler
        (ChunkPass.prepareChunk s.ledger job.format job.chunk job.code).passes code none := by
  unfold render renderChunk
  dsimp only
  rw [accepted]
  rfl

/-- A refused chunk is compiled as it is, or it ends the build. -/
theorem render_of_refused {job : Job} {refusal : ChunkPass.Refusal}
    (refused : (ChunkPass.prepareChunk s.ledger job.format job.chunk job.code).result =
      .error refusal) :
    s.render compiler job =
      match refusal.trace? with
      | none => { session := s.asked job, outcome? := none }
      | some trace =>
        (s.asked job).compilePrepared job.format job.chunk compiler (ChunkPass.ofFormat job.format)
          job.code (some trace) :=
  renderChunk_of_error compiler refused

/-- Passes that remember nothing have no externs. -/
theorem covers_ofFormat (texts : List String) (format : OutputFormat) :
    Covers texts (ChunkPass.ofFormat format) := by
  intro some
  rw [ChunkPass.externsText_ofFormat] at some
  cases some

/-- The externs of an accepted chunk are those of its passes. -/
theorem CoversJob.covers {texts : List String} {job : Job} (covers : CoversJob texts s job)
    {code : String}
    (accepted : (ChunkPass.prepareChunk s.ledger job.format job.chunk job.code).result = .ok code) :
    Covers texts (ChunkPass.prepareChunk s.ledger job.format job.chunk job.code).passes := by
  unfold CoversJob externsOf at covers
  dsimp only at covers
  rw [accepted] at covers
  exact covers

/-- Alike sessions need the same externs for a job. -/
theorem externsOf_of_alike (alike : s.Alike t) {job : Job} (settled : job.IsSettled s.ledger) :
    t.externsOf job = s.externsOf job := by
  obtain ⟨passes, result, -, -⟩ := ChunkPass.prepareChunk_of_alike alike.ledger job.chunk settled
  unfold externsOf
  dsimp only
  rw [passes, result]

/-- What was settled stays settled. -/
theorem Alike.settled (alike : s.Alike t) {job : Job} (settled : job.IsSettled s.ledger) :
    job.IsSettled t.ledger := by
  intro name member
  rw [alike.ledger.issued?_eq]
  exact settled name member

/-- Alike sessions do a job in the same way. -/
theorem view_of_alike (alike : s.Alike t) (ignores : compiler.IgnoresPaths) {texts : List String}
    (cachesS : s.CachesAll texts) (cachesT : t.CachesAll texts) {job : Job}
    (settled : job.IsSettled s.ledger) (covers : CoversJob texts s job) :
    t.view compiler job = s.view compiler job := by
  obtain ⟨passes, result, -, -⟩ := ChunkPass.prepareChunk_of_alike alike.ledger job.chunk settled
  have both : (s.asked job).Alike (t.asked job) :=
    ((alike_asked settled).symm.trans alike).trans (alike_asked (alike.settled settled))
  have seen : (t.render compiler job).call.map Invocation.masked =
        (s.render compiler job).call.map Invocation.masked ∧
      (t.render compiler job).outcome?.map Outcome.masked =
        (s.render compiler job).outcome?.map Outcome.masked := by
    cases prepared : (ChunkPass.prepareChunk s.ledger job.format job.chunk job.code).result with
    | ok code =>
      rw [render_of_accepted prepared, render_of_accepted (result.trans prepared), passes]
      exact compilePrepared_of_alike both ignores (covers.covers prepared) cachesS cachesT ..
    | error refusal =>
      rw [render_of_refused prepared, render_of_refused (result.trans prepared)]
      cases refusal.trace? with
      | none => exact ⟨rfl, rfl⟩
      | some trace =>
        exact compilePrepared_of_alike both ignores (covers_ofFormat texts job.format) cachesS
          cachesT ..
  unfold view
  rw [result, seen.1, seen.2]

/-- A job leaves what it asked for, and the files of a call for its passes if it comes to one. -/
theorem session_render_cases (s : Session) (compiler : Compiler) (job : Job) :
    (s.render compiler job).session = s.asked job ∨
      ∃ passes code, (∀ texts, CoversJob texts s job → Covers texts passes) ∧
        (s.render compiler job).session = ((s.asked job).assemble job.format passes code).2 := by
  rcases s.session_renderChunk job.format job.chunk compiler job.code with
    same | ⟨passes, code, either, same⟩
  · exact .inl same
  · refine .inr ⟨passes, code, fun texts covers => ?_, same⟩
    rcases either with ⟨prepared, rfl⟩ | rfl
    · exact covers.covers prepared
    · exact covers_ofFormat texts job.format

/-- A job leaves a session that cannot be told from the one before. -/
theorem alike_render {job : Job} (settled : job.IsSettled s.ledger) :
    s.Alike (s.render compiler job).session := by
  have first := alike_asked settled
  rcases session_render_cases s compiler job with same | ⟨passes, code, -, same⟩
  · rw [same]
    exact first
  · rw [same]
    exact first.trans (alike_assemble _ _ _ _)

/-- A job leaves all externs in their places. -/
theorem caches_render {texts : List String} (distinct : NoCollision texts)
    (caches : s.CachesAll texts) {job : Job} (covers : CoversJob texts s job) :
    (s.render compiler job).session.CachesAll texts := by
  have first : (s.asked job).CachesAll texts := caches
  rcases session_render_cases s compiler job with same | ⟨passes, code, covered, same⟩
  · rw [same]
    exact first
  · rw [same]
    exact caches_assemble distinct first (covered texts covers) _ _

/-- Jobs that are done one after the other are each done as the first of them would be. -/
theorem views_of_alike (ignores : compiler.IgnoresPaths) {texts : List String}
    (distinct : NoCollision texts) (cachesS : s.CachesAll texts) {jobs : List Job}
    (settled : ∀ job ∈ jobs, job.IsSettled s.ledger) (covers : ∀ job ∈ jobs, CoversJob texts s job)
    (alike : s.Alike t) (cachesT : t.CachesAll texts) :
    t.views compiler jobs = jobs.map (s.view compiler) := by
  induction jobs generalizing t with
  | nil => rfl
  | cons job jobs ih =>
    have settledS := settled job List.mem_cons_self
    have coversS := covers job List.mem_cons_self
    have settledT := alike.settled settledS
    have coversT : CoversJob texts t job := by
      unfold CoversJob
      rwa [externsOf_of_alike alike settledS]
    rw [views, List.map_cons, view_of_alike alike ignores cachesS cachesT settledS coversS]
    congr 1
    refine ih (fun job member => settled job (List.mem_cons_of_mem _ member))
      (fun job member => covers job (List.mem_cons_of_mem _ member)) ?_ ?_
    · exact alike.trans (alike_render settledT)
    · exact caches_render distinct cachesT coversT

end Session

/-! ## Before the first chunk -/

/-- The record that a module has left under a key. -/
def Store.sourceRecord? (store : Store) (key : String) : Option Record :=
  store.records[key]?.filter fun record => record.phase == .source

/-- All records were left by modules, and none of them is a file. -/
structure Store.IsOfModules (store : Store) : Prop where
  phase_eq : ∀ (key : String) (record : Record), store.records[key]? = some record →
    record.phase = .source
  fileless : ∀ key, store.get? ScratchFile key = none

namespace Store.IsOfModules
variable {store : Store}

theorem empty : IsOfModules {} where
  phase_eq key record known := by simp at known
  fileless key := by simp [get?]

/-- A module may leave a record of any other type. -/
theorem set {α : Type} [PayloadType α] (ofModules : store.IsOfModules) (key : String) {value : α}
    (other : (PayloadType.unwrap? (PayloadType.wrap value) : Option ScratchFile) = none) :
    (store.set key value .source).IsOfModules where
  phase_eq name record known := by
    by_cases same : key = name
    · subst same
      simp only [Store.set, Std.TreeMap.getElem?_insert_self, Option.some.injEq] at known
      rw [← known]
    · simp only [Store.set, Std.TreeMap.getElem?_insert, Std.compare_eq_iff_eq, if_neg same] at known
      exact ofModules.phase_eq name record known
  fileless name := by
    by_cases same : key = name
    · subst same
      simp [get?, Store.set, other]
    · rw [get?_set_of_ne store same]
      exact ofModules.fileless name

theorem sourceRecord?_eq (ofModules : store.IsOfModules) (key : String) :
    store.sourceRecord? key = store.records[key]? := by
  unfold sourceRecord?
  cases known : store.records[key]? with
  | none => rfl
  | some record => simp [ofModules.phase_eq key record known]

/-- What is read of such records is known from the records of modules. -/
theorem hashbang?_eq {other : Store} (left : store.IsOfModules) (right : other.IsOfModules)
    (same : ∀ key, store.sourceRecord? key = other.sourceRecord? key) (id : String) :
    store.hashbang? id = other.hashbang? id := by
  have records := same (hashbangKey id)
  rw [left.sourceRecord?_eq, right.sourceRecord?_eq] at records
  rw [Store.hashbang?, Store.hashbang?, get?, get?, records]

end Store.IsOfModules

namespace Session

/-- A build with the given options that has prepared modules and no chunk yet. -/
inductive Loads (options : Options) : Session → Prop where
  | start (input : InputOptions) : Loads options (.start options input)
  | module {session : Session} (before : Loads options session) (id code : String) :
    Loads options (session.prepareModule id code ModulePass.registered).2

variable {options : Options} {s t : Session}

theorem isOfModules_scanExports (unit : ModuleUnit) (ofModules : s.store.IsOfModules) :
    (ModulePass.scanExports unit s).store.IsOfModules := by
  obtain ⟨ledger, names, scanned, either, same⟩ := ModulePass.scanExports_eq unit s
  rw [same]
  refine Store.IsOfModules.set ?_ _ rfl
  rcases either with rfl | rfl
  · exact ofModules
  · exact ofModules.set _ rfl

/-- Modules leave records of their own and no settings. -/
theorem Loads.isOfModules (loads : s.Loads options) :
    s.flags = options.flags ∧ s.store.IsOfModules := by
  induction loads with
  | start input => exact ⟨rfl, .empty⟩
  | @module session before id code ih =>
    obtain ⟨flags, ofModules⟩ := ih
    have prepares := session.prepares_prepareModule id code
    generalize session.prepareModule id code ModulePass.registered = prepared at prepares ⊢
    obtain ⟨outcome, after⟩ := prepared
    dsimp only at prepares ⊢
    cases prepares with
    | unread => exact ⟨flags, ofModules⟩
    | plain =>
      refine ⟨?_, isOfModules_scanExports _ ofModules⟩
      obtain ⟨_, _, _, -, same⟩ := ModulePass.scanExports_eq _ session
      rw [same]
      exact flags
    | stripped =>
      refine ⟨?_, isOfModules_scanExports _ (ofModules.set _ rfl)⟩
      obtain ⟨_, _, _, -, same⟩ := ModulePass.scanExports_eq _ _
      rw [same]
      exact flags

/-- No externs are in the wrong place before the first chunk. -/
theorem Loads.cachesAll (loads : s.Loads options) (texts : List String) : s.CachesAll texts := by
  intro text _ file known
  rw [loads.isOfModules.2.fileless] at known
  cases known

/-- Chunks whose exports were settled before the first of them are rendered independently: whatever
was rendered before, a chunk is seen to be prepared, compiled and repaired as it would be alone, and
as in every build with the same options, names and records of modules. -/
theorem views_eq_map_view {compiler : Compiler} (ignores : compiler.IgnoresPaths)
    (loadsS : s.Loads options) (loadsT : t.Loads options) (names : s.ledger = t.ledger)
    (records : ∀ key, s.store.sourceRecord? key = t.store.sourceRecord? key) {jobs : List Job}
    (settled : ∀ job ∈ jobs, job.IsSettled s.ledger)
    (distinct : NoCollision (s.externTexts jobs)) :
    s.views compiler jobs = jobs.map (t.view compiler) := by
  have alike : t.Alike s := by
    refine ⟨loadsS.isOfModules.1.trans loadsT.isOfModules.1.symm, fun id => ?_, ?_⟩
    · exact loadsS.isOfModules.2.hashbang?_eq loadsT.isOfModules.2 records id
    · rw [names]
      exact .refl t.ledger
  rw [names] at settled
  refine views_of_alike ignores distinct (loadsT.cachesAll _) settled (fun job member some => ?_)
    alike (loadsS.cachesAll _)
  rw [← externsOf_of_alike alike (settled job member)] at some ⊢
  refine List.mem_filter.mpr ⟨List.mem_map_of_mem member, ?_⟩
  simp [some]

/-- A chunk reserves the bridge of another one, and the names are settled already. -/
theorem views_of_two_chunks :
    let s := ((Session.start {} {}).prepareModule "/project/a.js" "export const a = 1;"
      ModulePass.registered).2
    let first : Job :=
      ⟨.esm, { fileName := "a.js" }, "import \x7b x \x7d from './x.js';\nexport const a = x;"⟩
    let second : Job :=
      ⟨.esm, { fileName := "b.js" }, "import \x7b y \x7d from './y.js';\nwindow.a = y;"⟩
    let compiler := ({} : CompilerScript).compiler
    s.externTexts [second, first, second] = ["var y;", "var x;", "var y;"] ∧
    s.views compiler [second, first, second] =
      [s.view compiler second, s.view compiler first, s.view compiler second] := by
  intro s first second compiler
  have texts : s.externTexts [second, first, second] = ["var y;", "var x;", "var y;"] := by
    decide +kernel
  have loads : s.Loads {} := .module (.start {}) _ _
  have settled : ∀ job ∈ [second, first, second], job.IsSettled s.ledger := by
    unfold Job.IsSettled
    decide +kernel
  have distinct : NoCollision (s.externTexts [second, first, second]) := by
    rw [texts]
    unfold NoCollision
    decide +kernel
  exact ⟨texts, views_eq_map_view (CompilerScript.ignoresPaths {}) loads loads rfl (fun _ => rfl)
    settled distinct⟩

end Session
end ChunkBridge
