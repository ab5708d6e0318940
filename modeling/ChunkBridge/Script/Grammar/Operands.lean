import ChunkBridge.Script.Grammar.Classes
import ChunkBridge.Script.Grammar.Objects

/-!
# Operands

What stands between operators: names, literals, brackets, functions and classes, with the
members, calls and templates behind them. A member or call behind `?.` makes the whole chain
optional, and nothing optional can be assigned to.
-/

namespace ChunkBridge.Script.Grammar
open Script.Parser
open ChunkBridge.Text
variable {source : List Char} (g : Grammar source)

/-! ## Arguments -/

/-- Arguments in parentheses. -/
def callArguments : Parser source Unit := do
  expectMark "("
  let item : Parser source Expr := do
    if ← atMark "..." then spread g else g.assignment
  let inner (c : Context) : Context := { c with allowsIn := true, inDecorator := false }
  discard <| within inner (separated ")" true item)
  expectMark ")"

/-- The operators of an assignment. -/
def assignmentMarks : List String :=
  ["=", "+=", "-=", "*=", "/=", "%=", "**=", "<<=", ">>=", ">>>=", "&=", "|=", "^=", "&&=",
   "||=", "??="]

/-- The operator between two operands, by how tightly it binds. -/
def precedence? : Token → Option Nat
  | .mark text =>
    if text == "??" then some 1
    else if text == "||" then some 2
    else if text == "&&" then some 3
    else if text == "|" then some 4
    else if text == "^" then some 5
    else if text == "&" then some 6
    else if ["==", "!=", "===", "!=="].contains text then some 7
    else if ["<", ">", "<=", ">="].contains text then some 8
    else if ["<<", ">>", ">>>"].contains text then some 9
    else if text == "+" || text == "-" then some 10
    else if ["*", "/", "%"].contains text then some 11
    else if text == "**" then some 12
    else none
  | .word text _ =>
    if ["in", "instanceof", "as", "satisfies"].contains text then some 8 else none
  | _ => none

/-- An expression can begin with this token. -/
def startsExpression (t next : Token) : Bool :=
  match t with
  | .word text _ =>
    isBindingName t || ["null", "true", "false", "this", "super", "function", "class", "new",
      "typeof", "void", "delete", "in", "instanceof"].contains text ||
      (text == "import" && (next.isMark "(" || next.isMark "<" || next.isMark "."))
  | .privateName _ => true
  | .template isFirst _ _ => isFirst
  | .mark text =>
    ["(", "[", "\x7b", "/", "/=", "!", "~", "++", "--", "@"].contains text ||
      (precedence? t).any (· ≥ 7)
  | t => t.isLiteral

/-- A greater-than sign stands for the whole operator that begins with it. -/
def joinGreater : Parser source Unit := do
  if ← atMark ">" then rescan .greaterMark

/-- Type arguments inside an expression. What follows tells them from a comparison. -/
def typeArgumentsInExpression : Parser source Unit := do
  unless ← isTyped do fail
  openAngle
  discard <| separated ">" true (conditionType g)
  joinGreater
  expectMark ">"
  let t ← token
  let next ← peek
  unless t.isMark "(" || t.isTemplateStart do
    if t.isMark "<" || t.isMark ">" || t.isMark "+" || t.isMark "-" then fail
    let allowsIn := (← context).allowsIn
    let joins := (precedence? t).isSome && !(allowsIn && t.isWord "in")
    unless (← hasBreak) || joins || !startsExpression t next do fail

/-! ## Members and calls -/

/-- The name of a member behind its dot. -/
def dottedKey : Parser source (Option String) := do
  bump
  match ← token with
  | .privateName _ =>
    bump
    return none
  | _ => some <$> takeWord

/-- A member in brackets. -/
def bracketKey : Parser source (Option String) := do
  expectMark "["
  let key ← g.expressionIn
  expectMark "]"
  match key with
  | .string _ value => return some value
  | _ => return none

/-- A template behind what it is handed to. -/
def taggedTemplate (start : Nat) (isOptional : Bool) : Parser source Expr := do
  template g true
  faultIf isOptional
  return .other (← spanFrom start)

/-- An operand, and whether a question mark stands in its chain. -/
structure Operand where
  expr : Expr
  isOptional : Bool := false

/-- The members and templates behind an operand that begins at `start`. -/
def members (start : Nat) (operand : Operand) : Parser source Operand := do
  let inBrackets := !(← context).inDecorator
  let typed ← isTyped
  loop operand fun operand => do
    let ⟨object, isOptional⟩ := operand
    let t ← token
    if t.isMark "." then
      let key ← dottedKey
      return .again ⟨.member (← spanFrom start) object key, isOptional⟩
    else if t.isMark "?." then
      let next ← peek
      if next.isMark "[" && inBrackets then
        bump
        discard <| bracketKey g
        return .again ⟨.member (← spanFrom start) object none, true⟩
      else
        match next with
        | .word .. | .privateName _ =>
          discard dottedKey
          return .again ⟨.member (← spanFrom start) object none, true⟩
        | _ => return .done ⟨object, true⟩
    else if t.isMark "[" && inBrackets then
      let key ← bracketKey g
      return .again ⟨.member (← spanFrom start) object key, isOptional⟩
    else if t.isMark "!" && typed && !(← hasBreak) then
      bump
      return .again ⟨.typed (← spanFrom start) object, isOptional⟩
    else if t.isTemplateStart then
      return .again ⟨← taggedTemplate g start isOptional, isOptional⟩
    else if ← atOpenAngle then
      match ← attempt (typeArgumentsInExpression g) with
      | some () => return .again ⟨.applied (← spanFrom start) object, isOptional⟩
      | none => return .done operand
    else return .done operand

/-- The members, templates and calls behind an operand. -/
def calls (start : Nat) (operand : Operand) : Parser source Operand :=
  loop operand fun operand => do
    let operand ← members g start operand
    let isOptional ← eatMark "?."
    let inChain := operand.isOptional || isOptional
    let arguments ← if isOptional then attempt (typeArgumentsInExpression g) else pure none
    if isOptional && (← token).isTemplateStart then
      return .again ⟨← taggedTemplate g start true, inChain⟩
    else if arguments.isSome || (← atMark "(") then
      callArguments g
      return .again ⟨.other (← spanFrom start), inChain⟩
    else return .done { operand with isOptional := inChain }

/-- The expression that a whole chain is. -/
def Operand.close (operand : Operand) (span : Span) : Expr :=
  if operand.isOptional then
    match operand.expr with
    | .applied .. | .name .. => operand.expr
    | _ => .optional span
  else operand.expr

/-! ## Operands without what follows them -/

/-- An import of a module when the script runs. -/
def importCall (start : Nat) : Parser source Expr := do
  let isPhase := (← atMark ".") && ((← peek).isWord "source" || (← peek).isWord "defer")
  if (← atMark ".") && !isPhase then
    bump
    discard takeWord
    return .other (← spanFrom start)
  if isPhase then
    bump
    bump
  expectMark "("
  if ← atMark ")" then fail
  let argument := within ({ · with allowsIn := true }) g.assignment
  discard argument
  if ← eatMark "," then
    unless ← atMark ")" do
      discard argument
      discard <| eatMark ","
  expectMark ")"
  return .importCall (← spanFrom start)

/-- Expressions in parentheses. -/
def parenthesised : Parser source Expr := do
  let start ← startOffset
  expectMark "("
  let inside ← startOffset
  let inner (c : Context) : Context := { c with allowsIn := true, inDecorator := false }
  let items ← within inner (separated ")" false g.assignment)
  let insideSpan ← spanFrom inside
  expectMark ")"
  let span ← spanFrom start
  match items with
  | [] => fail
  | [item] => return .parens span item
  | items => return .parens span (.sequence insideSpan items)

/-- A regular expression at its slash. -/
def regex : Parser source Expr := do
  let start ← startOffset
  rescan .regex
  bump
  return .other (← spanFrom start)

/-- A function that is a value. -/
def functionValue : Parser source Expr := do
  let start ← startOffset
  discard <| functionRule g true false
  return .other (← spanFrom start)

/-- A name that refers to a binding, as an expression. A word that a malformed escape has cut short
is none. -/
def nameOperand : Parser source Expr := do
  let start ← startOffset
  let name ← referenceName
  if isName : isIdentifierName name.toList = true then
    return .name (← spanFrom start) name isName
  else fail

/-- A word that is an operand of its own, or begins one. -/
def wordOperand (text : String) : Parser source Expr := do
  let start ← startOffset
  if text == "class" then
    let (_, span) ← classRule g start
    return .other span
  else if text == "super" then
    bump
    faultIf !((← atMark ".") || (← atMark "[") || (← atMark "("))
    return .other (← spanFrom start)
  else if text == "import" then
    bump
    importCall g start
  else if text == "this" || text == "null" || text == "true" || text == "false" then
    bump
    return .other (← spanFrom start)
  else nameOperand

/-- An object that is made by its constructor, behind the word `new`. -/
def newRest (start : Nat) (operand : Parser source Expr) : Parser source Expr := do
  if ← eatMark "." then
    expectWord "target"
    return .other (← spanFrom start)
  let first ← startOffset
  let callee ← members g first { expr := ← operand }
  if ← atMark "(" then callArguments g
  let isImport :=
    match callee.expr with
    | .importCall _ => true
    | _ => false
  faultIf (isImport || callee.isOptional)
  return .other (← spanFrom start)

/-- An operand that is not made by a constructor. -/
def simpleOperand : Parser source Expr := do
  eatDecorators g
  if ← atFunction then return ← functionValue g
  let start ← startOffset
  match ← token with
  | .string value =>
    bump
    return .string (← spanFrom start) value
  | .number | .bigint =>
    bump
    return .other (← spanFrom start)
  | .template .. =>
    template g false
    return .other (← spanFrom start)
  | .word text _ => wordOperand g text
  | .mark text =>
    if text == "[" then array g
    else if text == "\x7b" then object g
    else if text == "(" then parenthesised g
    else if text == "/" || text == "/=" then regex
    else if text == "<" && (← context).dialect.hasElements then g.element
    else fail
  | _ => fail

/-- An operand without what follows it. The constructor of an object may itself be made so. -/
def operand : Parser source Expr := do
  let made : List Nat ← loop ([] : List Nat) fun starts => do
    if (← atWord "new") && !(← peek).isMark "." then
      let start ← startOffset
      bump
      return .again (start :: starts)
    return .done starts
  let innermost : Parser source Expr := do
    if ← atWord "new" then
      let start ← startOffset
      bump
      newRest g start fail
    else simpleOperand g
  made.foldl (fun inner start => newRest g start inner) innermost

/-- An operand with members and calls behind it. -/
def leftHandRule : Parser source Expr := do
  let start ← startOffset
  let first ← operand g
  let whole ← calls g start { expr := first }
  return whole.close (← spanFrom start)

end ChunkBridge.Script.Grammar
