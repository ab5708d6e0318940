import ChunkBridge.Script.Grammar.Modules
import ChunkBridge.Script.Grammar.Operators

/-!
# Statements

Blocks, branches, loops, jumps, declarations and expressions. Where a statement is the body of
another one, a declaration that would need a block of its own is a fault.
-/

namespace ChunkBridge.Script.Grammar
open Script.Parser
open ChunkBridge.Text
variable {source : List Char} (g : Grammar source)

/-- The statement that a branch, loop or label holds. -/
def inner : Parser source Unit := discard <| g.statement true

/-- An expression in parentheses. -/
def condition : Parser source Unit := do
  expectMark "("
  discard g.expressionIn
  expectMark ")"

/-! ## Branches and loops -/

def ifStatement : Parser source Unit := do
  expectWord "if"
  condition g
  inner g
  if ← eatWord "else" then inner g

def doStatement : Parser source Unit := do
  expectWord "do"
  inner g
  expectWord "while"
  condition g
  discard <| eatMark ";"

/-- A statement under a condition: `while` and `with`. -/
def whileStatement : Parser source Unit := do
  bump
  condition g
  inner g

/-- The case of a switch with its statements. -/
def switchCase : Parser source Unit := do
  unless ← eatWord "default" do
    expectWord "case"
    discard g.expressionIn
  expectMark ":"
  loop () fun _ => do
    if (← atWord "case") || (← atWord "default") || (← atMark "\x7d") || (← atFinish) then
      return .done ()
    discard <| g.statement false
    return .again ()

def switchStatement : Parser source Unit := do
  expectWord "switch"
  condition g
  expectMark "\x7b"
  loop () fun _ => do
    if (← atMark "\x7d") || (← atFinish) then return .done ()
    switchCase g
    return .again ()
  expectMark "\x7d"

/-- What a loop does at first, behind its parenthesis. -/
inductive LoopStart where
  /-- Nothing, or something that cannot take the items of a list. -/
  | plain
  /-- Names or targets that can take the items of a list. -/
  | target
deriving DecidableEq

/-- The parts of a loop over a counter. -/
def counterLoop (isAwait : Bool) : Parser source Unit := do
  expectMark ";"
  unless (← atMark ";") || (← atMark ")") do discard g.expressionIn
  expectMark ";"
  unless ← atMark ")" do discard g.expressionIn
  expectMark ")"
  faultIf isAwait

/-- The list that a loop goes over, at its word. -/
def listLoop (isAwait : Bool) : Parser source Unit := do
  if ← eatWord "in" then
    faultIf isAwait
    discard g.expression
  else
    expectWord "of"
    discard g.assignment
  expectMark ")"

/-- A word that can follow `let` where a declaration is meant. -/
def followsLet (t : Token) : Bool :=
  match t with
  | .mark text => text == "\x7b" || text == "["
  | .word text _ => text != "in"
  | _ => false

/-- What a loop does at first; `isAwait` when it waits for the items. -/
def loopStart (isAwait : Bool) : Parser source LoopStart := do
  let next ← peek
  let isLet := (← atWord "let") && followsLet next
  if (← atMark ";") || (← atMark ")") then return .plain
  else if (← atWord "var") || (← atWord "const") || isLet then
    discard <| variableList g false
    return .target
  else if ← atUsing then
    discard <| usingRest g true
    return .target
  else
    let isAsyncOf := (← atWord "async") && next.isWord "of"
    let e ← g.expression
    if (← atWord "in") || (← atWord "of") then
      unless e.isTarget do fail
      settle e
      faultIf (isAsyncOf && !isAwait && (← atWord "of"))
      return .target
    return .plain

def forStatement : Parser source Unit := do
  expectWord "for"
  let isAwait ← atWord "await"
  if isAwait then
    faultIf !(← context).allowsAwait
    bump
  expectMark "("
  let first ← within ({ · with allowsIn := false }) (loopStart g isAwait)
  if first == .target && ((← atWord "in") || (← atWord "of")) then listLoop g isAwait
  else counterLoop g isAwait
  inner g

/-! ## Jumps -/

/-- A jump, perhaps to a label. -/
def jumpStatement : Parser source Unit := do
  bump
  unless ← canEndStatement do discard referenceName
  endStatement

def throwStatement : Parser source Unit := do
  expectWord "throw"
  faultIf (← hasBreak)
  discard g.expressionIn
  endStatement

def returnStatement : Parser source Unit := do
  expectWord "return"
  unless ← canEndStatement do discard g.expressionIn
  endStatement
  faultIf !(← context).allowsReturn

def tryStatement : Parser source Unit := do
  expectWord "try"
  block g
  let hasCatch ← eatWord "catch"
  if hasCatch then
    if ← eatMark "(" then
      discard <| g.pattern
      typeAnnotation g
      expectMark ")"
    block g
  let hasFinally ← eatWord "finally"
  if hasFinally then block g
  faultIf !(hasCatch || hasFinally)

/-! ## Expressions and declarations -/

/-- An expression as a statement. -/
def endExpression (e : Expr) : Parser source Form := do
  endStatement
  return .expression e

/-- An expression, or a label with the statement behind it. -/
def expressionStatement : Parser source Form := do
  let e ← g.expression
  match e with
  | .name .. =>
    if ← eatMark ":" then
      inner g
      return .other
  | _ => pure ()
  endExpression e

/-- Variables as a statement; `isLexical` when they are bound in their block alone. -/
def variableStatement (single : Bool) : Parser source Form := do
  let isLexical := !(← atWord "var")
  discard <| variableList g true
  endStatement
  faultIf (single && isLexical)
  return .other

/-- A statement that begins with `let`, which may also be a name. -/
def letStatement (single : Bool) : Parser source Form := do
  let next ← peek
  let isOperator :=
    (match next with
      | .mark text => assignmentMarks.contains text
      | _ => false) ||
    ((precedence? next).any (· ≥ 4) && !next.isWord "as" && !next.isWord "satisfies")
  if isOperator then
    let e ← g.assignment
    endExpression e
  else if next.isMark "." || next.isMark "(" then
    return .expression (← g.expression)
  else if (single && !next.isMark "[") || next.isMark ";" then
    endExpression (← nameOperand)
  else variableStatement g single

/-- Where a statement stands, with what it is. -/
def classStatement (start : Nat) (single : Bool) : Parser source Statement := do
  let (_, span) ← classRule g start
  faultIf single
  return { span, form := .other }

def functionStatement (single : Bool) : Parser source Unit := do
  let isAsync ← atWord "async"
  let next ← peek
  let isGenerator := !isAsync && next.isMark "*"
  discard <| functionRule g false true
  faultIf (single && (isAsync || isGenerator))

/-- The part of a statement that begins with a word, if the word has a role there. -/
def controlStatement? (text : String) : Option (Parser source Unit) :=
  match text with
  | "if" => some (ifStatement g)
  | "do" => some (doStatement g)
  | "while" | "with" => some (whileStatement g)
  | "for" => some (forStatement g)
  | "switch" => some (switchStatement g)
  | "break" | "continue" => some jumpStatement
  | "throw" => some (throwStatement g)
  | "return" => some (returnStatement g)
  | "try" => some (tryStatement g)
  | "debugger" => some do
    bump
    endStatement
  | _ => none

/-- A statement from its word on; `start` is where it begins. -/
def wordStatement (start : Nat) (text : String) (single : Bool) : Parser source Statement := do
  let (next, br) ← peekAt 1
  let isEnum := text == "const" && (← isTyped) && next.isWord "enum"
  let finish (form : Form) : Parser source Statement := do
    return { span := ← spanFrom start, form }
  match controlStatement? g text with
  | some control =>
    control
    finish .other
  | none =>
    if text == "import" && !(next.isMark "." || next.isMark "(") then
      finish (← importRule)
    else if text == "export" then finish (← exportRule g)
    else if text == "class" then classStatement g start single
    else if text == "var" || (text == "const" && !isEnum) then
      finish (← variableStatement g single)
    else if text == "let" && !(← token).isEscaped then finish (← letStatement g single)
    else if ← atUsing then
      discard <| usingRest g false
      let span ← spanFrom start
      endStatement
      return { span, form := .other }
    else if text == "function" || (text == "async" && next.isWord "function" && !br) then
      functionStatement g single
      finish .other
    else if (← isTyped) && (← atTypedDeclaration) then
      let d ← declarationWithWords g true
      return { span := d.span, form := .other }
    else finish (← expressionStatement g)

/-- A statement; `single` when it is the body of another one. -/
def statementRule (single : Bool) : Parser source Statement := do
  eatDecorators g
  let start ← startOffset
  match ← token with
  | .word text _ => wordStatement g start text single
  | t =>
    let form ←
      if t.isMark "\x7b" then do
        block g
        pure Form.other
      else if t.isMark ";" then do
        bump
        pure Form.other
      else expressionStatement g
    return { span := ← spanFrom start, form }

/-- Statements up to a closing brace, or to the end. -/
def statements : Parser source (List Statement) :=
  loop ([] : List Statement) fun acc => do
    eatDecorators g
    if (← atMark "\x7d") || (← atFinish) then return .done acc.reverse
    return .again ((← g.statement false) :: acc)

/-- Statements up to a closing brace. -/
def bodyRule : Parser source Unit := discard <| statements g

end ChunkBridge.Script.Grammar
