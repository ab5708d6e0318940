import ChunkBridge.Chunk.Fault
import ChunkBridge.Edit.Revision
import ChunkBridge.Ledger.Basic
import ChunkBridge.Script.Parse
import ChunkBridge.Text.Quoted

/-!
# Exports around the compiler

The compiler drops what nobody uses, and it would not know that an export is used. So each export
of a chunk becomes an assignment to a *bridge*, a quoted property of the global object, which the
compiler has to keep. The names of the bridges come from the ledger. In the compiled chunk the
assignments are found again and give way to an export clause.

Properties of the global object that a chunk assigns on its own are never issued as bridges from
then on, and a chunk with such a property that was issued before is refused.
-/

namespace ChunkBridge
open ChunkBridge.Text ChunkBridge.Script

/-- What is known of the exports of a chunk while it is compiled. -/
structure Exports where
  /-- The bridges of the chunk, in the order of its exports. -/
  bridges : List String := []
  /-- Properties of the global object that the chunk assigns on its own. -/
  globals : List String := []
deriving Repr, DecidableEq, Inhabited

namespace Exports

/-- The name that a default export without a name is given. -/
def defaultLocal : String := "__closure_default_export__"

/-- The name for a value that the compiler assigns to a bridge directly. -/
def inlinedLocal (bridge : String) : String := "__closure_export_" ++ bridge

/-- The name of the default export. -/
def defaultName : String := "default"

/-- The target of the assignment to a bridge. -/
def target (bridge : String) : String := bridgeObject ++ "[\"" ++ bridge ++ "\"] = "

/-- The assignment to a bridge. -/
def assignment (bridge value : String) : String := target bridge ++ value ++ ";"

/-! ## Before compilation -/

/-- A chunk on the way through the pass. -/
structure Work where
  memo : Exports := {}
  ledger : Ledger
  edits : List Edit := []
  /-- The lines for the end of the chunk, where every exported name has its value. -/
  lines : List String := []

/-- A step of the pass: it may fail, and what it did until then is known. -/
abbrev Step (α : Type) := ExceptT PassFault (StateM Work) α

/-- The properties of the global object that statements assign on their own. -/
def globalsOf (outline : Outline) : List String :=
  outline.items.flatMap fun item =>
    match item.kind with
    | .bridges bridges => bridges.map Bridge.name
    | _ => []

/-- The work on a chunk before its first statement: what it assigns on its own is kept from being
issued. -/
def Work.start (ledger : Ledger) (outline : Outline) : Work where
  memo := { globals := globalsOf outline }
  ledger := (globalsOf outline).foldl (fun ledger name => ledger.reserve name exportsScope) ledger

/-- Adds a name to names that are all different. -/
def insertNew (names : List String) (name : String) : List String :=
  if names.contains name then names else names ++ [name]

/-- The bridge of an export. -/
def bridge (exported : String) : Step String := do
  let work ← get
  let (name, ledger) := work.ledger.resolve exported exportsScope
  set { work with ledger }
  if work.memo.globals.contains name then throw (.takenBridge name exported)
  set { work with ledger, memo := { work.memo with bridges := insertNew work.memo.bridges name } }
  return name

/-- Plans an edit. -/
def plan (source : List Char) (e : Edit) : Step Unit := do
  unless e.fits source do throw .misplacedEdit
  modify fun work => { work with edits := work.edits ++ [e] }

/-- Plans the assignment of a name to the bridge of an export. -/
def assign (exported value : String) : Step Unit := do
  let name ← bridge exported
  modify fun work => { work with lines := work.lines ++ [assignment name value] }

/-- Revises one statement. -/
def reviseItem (unit : ChunkUnit) (item : Item) : Step Unit := do
  let source := unit.code.toList
  match item.kind with
  | .exportDeclaration declaration names =>
    plan source { span := ⟨item.span.start, declaration.start⟩ }
    names.forM fun name => assign name name
  | .exportNames pairs =>
    plan source { span := item.span }
    pairs.forM fun (name, exported) => assign exported name
  | .exportDefaultDeclaration declaration (some name) =>
    plan source { span := ⟨item.span.start, declaration.start⟩ }
    assign defaultName name
  | .exportDefaultDeclaration declaration none =>
    unless (takeBytes declaration.stop source).getLast? == some '\x7d' do
      throw (.openDefault unit.chunk.fileName)
    plan source ⟨⟨item.span.start, declaration.start⟩, ("const " ++ defaultLocal ++ " = ").toList⟩
    plan source ⟨⟨declaration.stop - 1, declaration.stop⟩, "\x7d;".toList⟩
    assign defaultName defaultLocal
  | .exportDefaultExpression expression =>
    let name ← bridge defaultName
    plan source ⟨⟨item.span.start, expression.start⟩, (target name).toList⟩
  | .imports _ | .reExport _ | .bridges _ | .other => pure ()

/-- The whole pass over a chunk. -/
def reviseAll (unit : ChunkUnit) : Step Revision := do
  unit.outline.items.forM (reviseItem unit)
  let work ← get
  return { edits := work.edits, trailer := work.lines.flatMap fun line => '\n' :: line.toList }

/-- Turns the exports of a chunk into assignments to bridges. -/
def prepare (unit : ChunkUnit) (ledger : Ledger) :
    Exports × Ledger × Except PassFault Revision :=
  let (result, work) := (reviseAll unit).run (.start ledger unit.outline)
  (work.memo, work.ledger, result)

/-! ## After compilation -/

/-- An entry of the export clause. -/
structure Specifier where
  localName : String
  exported : String
deriving Repr, DecidableEq, Inhabited

/-- The text of an entry. -/
def Specifier.text (s : Specifier) : String :=
  if s.localName == s.exported then s.localName
  else s.localName ++ " as " ++ clauseName s.exported

/-- The export clause. -/
def clause (specifiers : List Specifier) : String :=
  "\nexport \x7b " ++ ", ".intercalate (specifiers.map Specifier.text) ++ " \x7d;"

/-- What was found in a compiled chunk. -/
structure Found where
  /-- The bridges, the latest first. -/
  bridges : List String := []
  specifiers : List Specifier := []
  edits : List Edit := []

/-- Takes note of one assignment; the texts of the declarations that its statement gives way to
come after `declarations`. -/
def noteBridge (ledger : Ledger) (file : String) (source : List Char)
    (state : Found × List Char) (b : Bridge) : Except PassFault (Found × List Char) :=
  let (found, declarations) := state
  if found.bridges.contains b.name then .error (.repeatedBridge b.name file)
  else
    match ledger.asked? b.name exportsScope with
    | none => .error (.unissuedBridge b.name)
    | some exported =>
      let note (localName : String) : Found :=
        { found with
          bridges := b.name :: found.bridges
          specifiers := found.specifiers ++ [⟨localName, exported⟩] }
      match b.localName with
      | some localName => .ok (note localName, declarations)
      | none =>
        let localName := inlinedLocal b.name
        .ok (note localName,
          declarations ++ ("var " ++ localName ++ " = ").toList ++ sliceChars source b.value ++ [';'])

/-- Takes note of a statement if it assigns bridges of the chunk and nothing else. -/
def noteItem (memo : Exports) (ledger : Ledger) (file : String) (source : List Char)
    (found : Found) (item : Item) : Except PassFault Found :=
  match item.kind with
  | .bridges bridges =>
    if bridges.all fun b => memo.bridges.contains b.name then do
      let (found, text) ← bridges.foldlM (noteBridge ledger file source) (found, [])
      return { found with edits := found.edits ++ [⟨item.span, text⟩] }
    else .ok found
  | _ => .ok found

/-- The bridges of a chunk in its compiled text. Each has to be there. -/
def find (memo : Exports) (ledger : Ledger) (file code : String) (outline : Outline) :
    Except PassFault Found := do
  let found ← outline.items.foldlM (noteItem memo ledger file code.toList) {}
  match memo.bridges.find? fun bridge => !found.bridges.contains bridge with
  | some bridge => .error (.missingBridge bridge file)
  | none => return found

/-- Turns the assignments in a compiled chunk back into exports. -/
def restore (memo : Exports) (ledger : Ledger) (file code : String) : Except PassFault String :=
  if memo.bridges.isEmpty then .ok code
  else
    match Outline.ofSource {} code with
    | .error e => .error (.unreadable e)
    | .ok outline => do
      let found ← find memo ledger file code outline
      return Revision.apply ⟨found.edits, (clause found.specifiers).toList⟩ code

end Exports
end ChunkBridge
