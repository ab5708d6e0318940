import ChunkBridge.Script.Parser
import ChunkBridge.Script.Statement

/-!
# Rules

The grammar is recursive in a few places: an expression holds expressions, a block holds
statements. Those places are the rules. Every other piece of syntax is a plain definition that
takes a `Grammar`, an answer for each rule, and uses it where it recurs.
-/

namespace ChunkBridge.Script

inductive Rule where
  /-- Expressions with commas between them. -/
  | expression
  /-- One expression. -/
  | assignment
  /-- Operands joined by operators that bind tighter than `minimum`. -/
  | binary (minimum : Nat)
  /-- An operand with the operators in front of it. -/
  | unary
  /-- An operand with members and calls behind it. -/
  | leftHand
  /-- A statement; `single` when it is the body of another one. -/
  | statement (single : Bool)
  /-- Statements up to a closing brace. -/
  | body
  /-- A name, or a pattern in brackets. -/
  | pattern
  | type
  /-- An element with its children. -/
  | element
deriving DecidableEq

/-- What reading a rule gives. -/
@[reducible] def Rule.Result : Rule → Type
  | .expression | .assignment | .binary _ | .unary | .leftHand | .element => Expr
  | .statement _ => Statement
  | .pattern => Pattern
  | .body | .type => Unit

/-- An answer for each rule. -/
structure Grammar (source : List Char) where
  read : (rule : Rule) → Parser source rule.Result

namespace Grammar
variable {source : List Char} (g : Grammar source)

def expression : Parser source Expr := g.read .expression
def assignment : Parser source Expr := g.read .assignment
def binary (minimum : Nat) : Parser source Expr := g.read (.binary minimum)
def unary : Parser source Expr := g.read .unary
def leftHand : Parser source Expr := g.read .leftHand
def statement (single : Bool) : Parser source Statement := g.read (.statement single)
def body : Parser source Unit := g.read .body
def pattern : Parser source Pattern := g.read .pattern
def type : Parser source Unit := g.read .type
def element : Parser source Expr := g.read .element

/-- An expression in which `in` is an operator. -/
def expressionIn : Parser source Expr :=
  Parser.within ({ · with allowsIn := true }) g.expression

/-- One expression in which `in` is an operator. -/
def assignmentIn : Parser source Expr :=
  Parser.within ({ · with allowsIn := true }) g.assignment

end Grammar
end ChunkBridge.Script
