import ChunkBridge.Script.Grammar.Elements
import ChunkBridge.Script.Grammar.Statements
import ChunkBridge.Script.Outline

/-!
# Reading sources

Ties the grammar together and reads a whole source into its outline. The rules of a grammar of
one level use the grammar one level below it; no source nests deeper than its length allows, so
the levels are bounded by that.
-/

namespace ChunkBridge.Script
open ChunkBridge.Text

namespace Grammar
variable {source : List Char}

/-- What each rule reads, given a grammar for the places where it recurs. -/
def rules (g : Grammar source) : (rule : Rule) → Parser source rule.Result
  | .expression => expressionRule g
  | .assignment => assignmentRule g
  | .binary minimum => binaryRule g minimum
  | .unary => unaryRule g
  | .leftHand => leftHandRule g
  | .statement single => statementRule g single
  | .body => bodyRule g
  | .pattern => patternRule g
  | .type => typeRule g
  | .element => elementRule g

/-- The grammar whose rules nest at most `n` deep. -/
def level (source : List Char) : Nat → Grammar source
  | 0 => { read := fun _ => .fail }
  | n + 1 => { read := fun rule => (level source n).rules rule }

end Grammar

/-- What surrounds the statements of a whole source. -/
def Context.top (dialect : Dialect) (source : List Char) : Context where
  dialect
  budget := source.length + 2
  allowsAwait := dialect.isModule
  isAmbient := dialect.language == .declarations

/-- The statements of a whole source. -/
def program (source : List Char) : Parser source (List Statement) := do
  let statements ← Grammar.statements (Grammar.level source (8 * source.length + 64))
  unless ← Parser.atFinish do .fail
  return statements

/-- The names that a statement exports. -/
def Statement.exportedNames (s : Statement) : List String :=
  match s.form with
  | .exportDeclaration _ (.bindings patterns) => patterns.flatMap Pattern.names
  | .exportDeclaration _ (.named name) => name.toList
  | .reExport exported => exported
  | .exportNames pairs => pairs.map Prod.snd
  | .exportDefaultDeclaration .. | .exportDefaultExpression _ => ["default"]
  | _ => []

/-- Statements may be in one source: only one with types, where a name may stand for several
things, exports a name twice. -/
def isConsistent (dialect : Dialect) (statements : List Statement) : Bool :=
  let names := statements.flatMap Statement.exportedNames
  dialect.isTyped || names.eraseDups.length == names.length

/-- The statements of a source, if there is no fault in it. -/
def statements? (dialect : Dialect) (source : List Char) (skip : Nat) :
    Option (List Statement) :=
  match (program source).run (.initial source (.top dialect source) skip) with
  | none => none
  | some (statements, last) =>
    if last.isFaulty || !last.pending.isEmpty || !isConsistent dialect statements then none
    else some statements

/-- The outline of a source. -/
def Outline.ofSource (dialect : Dialect) (source : String) : Except OutlineError Outline :=
  let cs := source.toList
  let line := (Scan.hashbangLine cs).getD []
  let hashbang : Option Span := if line.isEmpty then none else some ⟨0, byteLength line⟩
  match statements? dialect cs line.length with
  | none => .error .syntaxFault
  | some statements => Outline.ofStatements cs hashbang statements

end ChunkBridge.Script
