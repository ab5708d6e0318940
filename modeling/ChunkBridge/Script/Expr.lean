import ChunkBridge.Text.Identifier
import ChunkBridge.Text.Span

/-!
# Expressions

What later stages need to know of an expression: where it stands, whether it is a name, string,
member or assignment, and whether it can be assigned to. All other expressions are `other`.
-/

namespace ChunkBridge.Script
open ChunkBridge.Text

inductive Expr where
  | name (span : Span) (text : String) (isName : isIdentifierName text.toList = true)
  | string (span : Span) (value : String)
  /-- A member; `key` is its name when it is written as a name or a string. -/
  | member (span : Span) (object : Expr) (key : Option String)
  | assign (span : Span) (isPlain : Bool) (target value : Expr)
  | sequence (span : Span) (items : List Expr)
  | parens (span : Span) (inner : Expr)
  /-- An expression with a type, which can be assigned to like the expression it holds. -/
  | typed (span : Span) (inner : Expr)
  /-- An expression with type arguments, which cannot. -/
  | applied (span : Span) (inner : Expr)
  /-- An array; `comma` when a comma stands before its closing bracket. -/
  | array (span : Span) (items : List Expr) (comma : Bool)
  | object (span : Span) (items : List Expr)
  /-- A member of an object that has a value. -/
  | property (span : Span) (value : Expr)
  /-- A member of an object that is only a name, perhaps with a default. -/
  | shorthand (span : Span)
  | spread (span : Span) (inner : Expr)
  /-- A place in an array that holds nothing. -/
  | hole (span : Span)
  /-- A member or call behind a question mark. -/
  | optional (span : Span)
  | importCall (span : Span)
  | other (span : Span)
deriving Inhabited

namespace Expr

/-- Where the expression stands. -/
def span : Expr → Span
  | name s _ _ | string s _ | member s _ _ | assign s _ _ _ | sequence s _ | parens s _
  | typed s _ | applied s _ | array s _ _ | object s _ | property s _ | shorthand s
  | spread s _ | hole s | optional s | importCall s | other s => s

/-- The expression is a name. -/
def name? : Expr → Option String
  | name _ text _ => some text
  | _ => none

/-- Only an identifier is the name that an expression is. -/
theorem isIdentifierName_of_name? {e : Expr} {text : String} (known : e.name? = some text) :
    isIdentifierName text.toList = true := by
  cases e with
  | name span own isName =>
    cases known
    exact isName
  | _ => cases known

/-- The expression is a list or a record, which can only be taken apart by `=`. -/
def isCompound : Expr → Bool
  | array .. | object .. => true
  | _ => false

/-- The expression can stand on the left of any assignment. -/
def isSimpleTarget : Expr → Bool
  | name .. | member .. | typed .. => true
  | parens _ inner => !inner.isCompound && inner.isSimpleTarget
  | _ => false

mutual

/-- The expression can stand on the left of `=`: a simple target, or a list or record of
targets. -/
def isTarget : Expr → Bool
  | array _ items comma => areElements items comma
  | object _ items => areMembers items
  | e => e.isSimpleTarget

/-- A target that may have a default. -/
def isTargetWithDefault : Expr → Bool
  | assign .. => true
  | array _ items comma => areElements items comma
  | object _ items => areMembers items
  | e => e.isSimpleTarget

/-- The items of a list of targets; what takes the rest comes last, with no comma behind it. -/
def areElements : List Expr → Bool → Bool
  | [], _ => true
  | [spread _ inner], comma => !comma && inner.isTarget
  | e :: es, comma =>
    (match e with
      | spread .. => false
      | hole _ => true
      | e => e.isTargetWithDefault) && areElements es comma

/-- The members of a record of targets. -/
def areMembers : List Expr → Bool
  | [] => true
  | [spread _ inner] => inner.isTarget
  | e :: es =>
    (match e with
      | property _ value => value.isTargetWithDefault
      | shorthand _ => true
      | _ => false) && areMembers es

end

mutual

/-- Where the names with defaults begin that become legal once the expression is a target. -/
def defaults : Expr → List Nat
  | array _ items _ | object _ items => defaultsOf items
  | property _ value => value.defaults
  | shorthand s => [s.start]
  | spread _ inner => inner.defaults
  | _ => []

@[inherit_doc defaults] def defaultsOf : List Expr → List Nat
  | [] => []
  | e :: es => e.defaults ++ defaultsOf es

end

end Expr
end ChunkBridge.Script
