import ChunkBridge.Build.Outcome
import ChunkBridge.Build.Session
import ChunkBridge.Edit.Mapping
import ChunkBridge.Script.Parse
import ChunkBridge.Text.Fingerprint

/-!
# Module passes

A module is prepared before it is linked: passes run over its outline one after the other and
edit its text. A pass may leave records about the module. When a pass fails the module stays as
it was, and the records that this and the earlier passes keep about the module are dropped; what
is known of its contents and the names that were issued stay.
-/

namespace ChunkBridge
open ChunkBridge.Text ChunkBridge.Script

/-- The key of the hashbang line that was taken from a module. -/
def hashbangKey (id : String) : String := "hashbang:" ++ id

/-- The key of the names that a module exports. -/
def exportsKey (id : String) : String := "exports:" ++ id

/-- The key of the names that a source exports, whatever module it is found in. -/
def scanKey (code : String) : String :=
  "export-scan:" ++ String.ofList (hexDigits 16 (fingerprint code).toNat)

/-- A module with its outline. -/
structure ModuleUnit where
  id : String
  code : String
  outline : Outline

/-- A step in the preparation of a module. -/
inductive ModulePass where
  /-- Takes the hashbang line out and keeps it for the chunk of the module. -/
  | hashbang
  /-- Records what the module exports and settles the names of those exports. -/
  | exportScan
  /-- Puts a text in front. -/
  | banner (text : String)
  /-- Gives up after the first half of its work. -/
  | halfDone
deriving Repr, DecidableEq, Inhabited

namespace ModulePass

/-- The name of a pass. -/
def name : ModulePass → String
  | .hashbang => "HashbangRemoveTransform"
  | .exportScan => "ExportScanTransform"
  | .banner _ => "BannerTransform"
  | .halfDone => "throwing"

/-- The passes that every module goes through. -/
def registered : List ModulePass := [.hashbang, .exportScan]

/-- A build and the text of the module that is being prepared. -/
structure Progress where
  session : Session
  buffer : Buffer

/-- Takes the hashbang line out. Its line break stays, so that lines keep their numbers. -/
def takeHashbang (unit : ModuleUnit) (p : Progress) : Progress :=
  match unit.outline.hashbang with
  | none => p
  | some span =>
    let store := p.session.store.set (hashbangKey unit.id) (slice unit.code span) .source
    { session := { p.session with store }
      buffer := (p.buffer.remove span.start span.stop).getD p.buffer }

/-- Issues a name for each of the exports. -/
def settle (names : List String) (session : Session) : Session :=
  names.foldl (fun session name => (session.resolveExport name).2) session

/-- Records what the module exports. Modules with the same contents are looked at once. -/
def scanExports (unit : ModuleUnit) (session : Session) : Session :=
  let fetched := session.store.getOrInsertWith (scanKey unit.code) .source
    fun store => (unit.outline.exportedNames, store)
  let session := settle fetched.value { session with store := fetched.store }
  { session with store := session.store.set (exportsKey unit.id) fetched.value .source }

/-- Runs a pass over a module. -/
def run (unit : ModuleUnit) (p : Progress) : ModulePass → Except Trace Progress
  | .hashbang => .ok (takeHashbang unit p)
  | .exportScan => .ok { p with session := scanExports unit p.session }
  | .banner text => .ok { p with buffer := p.buffer.prepend text.toList }
  | .halfDone => .error ⟨"boom", []⟩

/-- Drops the record that a pass keeps about a module. -/
def discard (id : String) (store : Store) : ModulePass → Store
  | .hashbang => store.remove (hashbangKey id)
  | .exportScan => store.remove (exportsKey id)
  | .banner _ | .halfDone => store

/-- A preparation that failed, and the build behind it. -/
structure Setback where
  failure : Failure
  session : Session

/-- Runs passes in order. `ran` holds those that ran before, the latest first. -/
def runAll (unit : ModuleUnit) (ran : List ModulePass) (p : Progress) :
    List ModulePass → Except Setback Progress
  | [] => .ok p
  | pass :: rest =>
    match pass.run unit p with
    | .ok p => runAll unit (pass :: ran) p rest
    | .error trace =>
      let store := (pass :: ran).foldl (discard unit.id) p.session.store
      .error ⟨⟨.sourceTransform, trace.within s!"{pass.name} failed"⟩, { p.session with store }⟩

end ModulePass

namespace Session

/-- Prepares a module with the given passes. -/
def prepareModule (session : Session) (id code : String) (passes : List ModulePass) :
    Outcome × Session :=
  if passes.isEmpty then (.unchanged, session)
  else
    match Outline.ofSource (Dialect.ofId id) code with
    | .error e => (.failed ⟨.parse, e.trace⟩, session)
    | .ok outline =>
      match ModulePass.runAll ⟨id, code, outline⟩ [] ⟨session, .ofText code⟩ passes with
      | .error setback => (.failed setback.failure, setback.session)
      | .ok ⟨session, buffer⟩ =>
        if buffer.text = code then (.unchanged, session)
        else (.transformed ⟨buffer.text, some (buffer.sourceMap id)⟩, session)

end Session
end ChunkBridge
