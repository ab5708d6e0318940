import ChunkBridge.Script.Statement

/-!
# Outlines

The outline of a script: its hashbang line, its directives, and for each statement what it means
to other modules. The only expressions that count are bridges: assignments to a property of the
global object through which a chunk hands out its exports while it is being compiled.
-/

namespace ChunkBridge.Script
open ChunkBridge.Text

/-- The global object that bridges are properties of. -/
def bridgeObject : String := "window"

/-- An assignment to a property of the global object. -/
structure Bridge where
  name : String
  value : Span
  /-- The value, when it is a plain name. -/
  localName : Option String
deriving Repr, DecidableEq, Inhabited

/-- What a statement means to other modules. -/
inductive ItemKind where
  /-- An import, with the names it binds. -/
  | imports (locals : List String)
  /-- An export of another module's names. -/
  | reExport (exported : List String)
  | exportDeclaration (declaration : Span) (names : List String)
  /-- Exports of names of this script, as pairs of local and exported name. -/
  | exportNames (pairs : List (String × String))
  | exportDefaultDeclaration (declaration : Span) (name : Option String)
  | exportDefaultExpression (expression : Span)
  /-- Assignments to bridges and nothing else. -/
  | bridges (bridges : List Bridge)
  | other
deriving Repr, DecidableEq, Inhabited

/-- A statement at the top level of a script. -/
structure Item where
  span : Span
  kind : ItemKind
deriving Repr, DecidableEq, Inhabited

/-- A string at the start of a script that stands alone as a statement; `value` is the text
between its quotes as it is written. -/
structure Directive where
  span : Span
  value : String
deriving Repr, DecidableEq, Inhabited

structure Outline where
  hashbang : Option Span := none
  directives : List Directive := []
  items : List Item := []
deriving Repr, DecidableEq, Inhabited

/-- Why a source has no outline. -/
inductive OutlineError where
  /-- It is no script of its dialect. -/
  | syntaxFault
  /-- An exported declaration takes a value apart. -/
  | destructuringExport
  /-- An exported declaration binds nothing that can be exported. -/
  | unsupportedExport
deriving Repr, DecidableEq, Inhabited

/-- The wording of the fault; what is wrong with the syntax is not told. -/
def OutlineError.message : OutlineError → String
  | .syntaxFault => "<syntax error>"
  | .destructuringExport => "Destructuring exports are not supported"
  | .unsupportedExport => "Unsupported export declaration"

/-! ## Bridges -/

/-- The property of the global object that an assignment has as its target. -/
def Expr.bridgeName? : Expr → Option String
  | .member _ (.name _ text _) key => if text == bridgeObject then key else none
  | .parens _ inner => inner.bridgeName?
  | _ => none

/-- The bridge that an expression assigns to. -/
def Expr.bridge? : Expr → Option Bridge
  | .assign _ _ target value =>
    target.bridgeName?.map fun name => { name, value := value.span, localName := value.name? }
  | _ => none

/-- The bridges that an expression assigns to, if it does nothing else. -/
def Expr.bridges? : Expr → Option (List Bridge)
  | .sequence _ items => items.mapM Expr.bridge?
  | e => e.bridge?.map ([·])

/-! ## Outlines of statements -/

/-- The names that an exported declaration binds. -/
def Declared.names : Declared → Except OutlineError (List String)
  | .bindings patterns => patterns.mapM fun
    | .name text => .ok text
    | .compound _ => .error .destructuringExport
  | .named name => .ok name.toList
  | .types => .error .unsupportedExport

/-- What a statement means to other modules. -/
def Statement.kind (s : Statement) : Except OutlineError ItemKind :=
  match s.form with
  | .imports locals => .ok (.imports locals)
  | .reExport exported => .ok (.reExport exported)
  | .exportDeclaration span declared => return .exportDeclaration span (← declared.names)
  | .exportNames pairs => .ok (.exportNames pairs)
  | .exportDefaultDeclaration span name => .ok (.exportDefaultDeclaration span name)
  | .exportDefaultExpression span => .ok (.exportDefaultExpression span)
  | .expression e => .ok (e.bridges?.elim .other .bridges)
  | .other => .ok .other

/-- The directive that a statement is, if it stands where directives may. -/
def Statement.directive? (source : List Char) (s : Statement) : Option Directive :=
  match s.form with
  | .expression (.string span _) =>
    if span.start == s.span.start then
      some ⟨s.span, String.ofList (sliceChars source ⟨span.start + 1, span.stop - 1⟩)⟩
    else none
  | _ => none

/-- Parts the directives at the start from the statements behind them. -/
def splitDirectives (source : List Char) : List Statement → List Directive × List Statement
  | [] => ([], [])
  | s :: rest =>
    match s.directive? source with
    | some d =>
      let (directives, others) := splitDirectives source rest
      (d :: directives, others)
    | none => ([], s :: rest)

/-- The outline of a list of statements. -/
def Outline.ofStatements (source : List Char) (hashbang : Option Span)
    (statements : List Statement) : Except OutlineError Outline := do
  let (directives, others) := splitDirectives source statements
  let items ← others.mapM fun s => return ⟨s.span, ← s.kind⟩
  return { hashbang, directives, items }

/-! ## Exported names -/

/-- The names that a statement exports. -/
def ItemKind.exportedNames : ItemKind → List String
  | .reExport exported => exported
  | .exportDeclaration _ names => names
  | .exportNames pairs => pairs.map Prod.snd
  | .exportDefaultDeclaration .. | .exportDefaultExpression _ => ["default"]
  | .imports _ | .bridges _ | .other => []

/-- The names that a script exports, in the order of its statements. -/
def Outline.exportedNames (outline : Outline) : List String :=
  outline.items.flatMap fun item => item.kind.exportedNames

end ChunkBridge.Script
