import ChunkBridge.Script.Grammar.Arrows

/-!
# Operators

Expressions from operands: operators in front and behind, operators between by how tightly they
bind, conditions, assignments and lists with commas.
-/

namespace ChunkBridge.Script.Grammar
open Script.Parser
open ChunkBridge.Text
variable {source : List Char} (g : Grammar source)

/-- An operator that stands in front of an operand. -/
def atFrontOperator : Parser source Bool := inspect fun s =>
  match s.token with
  | .mark text => text == "+" || text == "-" || text == "!" || text == "~"
  | .word text _ => text == "typeof" || text == "void" || text == "delete"
  | _ => false

/-- An operator that counts up or down. -/
def atCounter : Parser source Bool := inspect fun s =>
  s.token.isMark "++" || s.token.isMark "--"

/-- An operand that is waited for. -/
def atAwait : Parser source Bool := do
  return (← context).allowsAwait && (← atWord "await") && !(← peek).isMark "=>"

/-- An operand with the operators in front of it. -/
def unaryRule : Parser source Expr := do
  let start ← startOffset
  if (← atFrontOperator) || (← atAwait) then
    bump
    discard g.unary
    return .other (← spanFrom start)
  else if ← atCounter then
    bump
    unless (← g.unary).isSimpleTarget do fail
    return .other (← spanFrom start)
  else if ← atMark "<" then
    if (← context).dialect.hasElements then g.element
    else if ← isTyped then
      bump
      conditionType g
      expectMark ">"
      let inner ← g.unary
      return .typed (← spanFrom start) inner
    else fail
  else
    let e ← g.leftHand
    if (← atCounter) && !(← hasBreak) then
      bump
      unless e.isSimpleTarget do fail
      return .other (← spanFrom start)
    return e

/-! ## Operators between operands -/

/-- A private name that is looked for in an object. -/
def privateIn : Parser source Expr := do
  let start ← startOffset
  bump
  expectWord "in"
  discard g.unary
  return .other (← spanFrom start)

/-- Operators with their right operands, as long as they bind tighter than `minimum`. A type
check is no operator of a plain source: it ends the expression there, once its operand is
read. -/
def operatorsFrom (start minimum : Nat) (left : Expr) : Parser source Expr :=
  loop left fun left => do
    joinGreater
    let t ← token
    match precedence? t with
    | none => return .done left
    | some level =>
      let stops := if t.isMark "**" then level < minimum else level ≤ minimum
      if stops || (t.isWord "in" && !(← context).allowsIn) then return .done left
      let isCheck := t.isWord "as" || t.isWord "satisfies"
      if isCheck && (← isTyped) then
        if ← hasBreak then return .done left
        bump
        conditionType g
        return .again (.typed (← spanFrom start) left)
      bump
      discard <| g.binary level
      if isCheck then return .done left
      return .again (.other (← spanFrom start))

/-- Operands joined by operators that bind tighter than `minimum`. -/
def binaryRule (minimum : Nat) : Parser source Expr := do
  let start ← startOffset
  let isPrivate :=
    match ← token with
    | .privateName _ => true
    | _ => false
  let left ← if isPrivate && (← context).allowsIn then privateIn g else g.unary
  operatorsFrom g start minimum left

/-! ## Assignments -/

/-- A value handed out by a generator. -/
def yieldExpression : Parser source Expr := do
  let start ← startOffset
  bump
  unless ← hasBreak do
    let isDelegate ← eatMark "*"
    let t ← token
    let isBare := t == .finish || t.isWord "in" ||
      [";", "\x7d", ")", "]", ":", ","].any t.isMark
    if isDelegate || !isBare then discard g.assignment
  return .other (← spanFrom start)

/-- An operator of an assignment stands here. -/
def atAssignment : Parser source Bool := inspect fun s =>
  match s.token with
  | .mark text => assignmentMarks.contains text
  | _ => false

/-- An assignment behind its target. -/
def assignmentRest (start : Nat) (target : Expr) : Parser source Expr := do
  let isPlain ← atMark "="
  unless (if isPlain then target.isTarget else target.isSimpleTarget) do fail
  if isPlain then settle target
  bump
  let value ← g.assignment
  return .assign (← spanFrom start) isPlain target value

/-- A condition behind what it asks. -/
def conditionRest (start : Nat) : Parser source Expr := do
  expectMark "?"
  discard g.assignmentIn
  expectMark ":"
  discard g.assignment
  return .other (← spanFrom start)

/-- One expression. -/
def assignmentRule : Parser source Expr := do
  let start ← startOffset
  if (← context).allowsYield && (← atWord "yield") then return ← yieldExpression g
  if (← arrow? g).isSome then return .other (← spanFrom start)
  let e ← g.binary 0
  match e.name? with
  | some _ =>
    if ← atMark "=>" then
      arrow
      arrowBody g false
      return .other (← spanFrom start)
  | none => pure ()
  if ← atAssignment then assignmentRest g start e
  else if ← atMark "?" then conditionRest g start
  else return e

/-- Expressions with commas between them. -/
def expressionRule : Parser source Expr := do
  let start ← startOffset
  let inner (c : Context) : Context := { c with inDecorator := false }
  let first ← within inner g.assignment
  unless ← atMark "," do return first
  let items ← loop [first] fun items => do
    if ← eatMark "," then return .again ((← within inner g.assignment) :: items)
    return .done items.reverse
  return .sequence (← spanFrom start) items

end ChunkBridge.Script.Grammar
