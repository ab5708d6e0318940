import ChunkBridge.Script.Expr

/-!
# Statements

What a statement is to the rest of the library: module syntax with the names it brings in or
gives away, an expression, or something else.
-/

namespace ChunkBridge.Script
open ChunkBridge.Text

/-- What a pattern binds. -/
inductive Pattern where
  | name (text : String)
  /-- A pattern that takes a value apart. -/
  | compound (names : List String)
deriving Repr, DecidableEq, Inhabited

/-- The names that a pattern binds. -/
def Pattern.names : Pattern → List String
  | .name text => [text]
  | .compound names => names

/-- What stands behind `export` in a declaration. -/
inductive Declared where
  /-- A variable declaration with its patterns. -/
  | bindings (patterns : List Pattern)
  /-- A function or class, which may lack a name. -/
  | named (name : Option String)
  /-- A declaration that only types know. -/
  | types
deriving Repr, DecidableEq, Inhabited

inductive Form where
  /-- An import with the names it binds. -/
  | imports (locals : List String)
  /-- An export of another module's names. -/
  | reExport (exported : List String)
  | exportDeclaration (declaration : Span) (declared : Declared)
  /-- Exports of names of this module, as pairs of local and exported name. -/
  | exportNames (pairs : List (String × String))
  | exportDefaultDeclaration (declaration : Span) (name : Option String)
  | exportDefaultExpression (expression : Span)
  | expression (e : Expr)
  | other
deriving Inhabited

/-- A statement and where it stands. -/
structure Statement where
  span : Span
  form : Form
deriving Inhabited

end ChunkBridge.Script
