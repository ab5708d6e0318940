import ChunkBridge.Script.Grammar.Operands

/-!
# Arrow functions

The parameters of an arrow function look like an expression in parentheses until the arrow. The
first few tokens often tell which of the two stands ahead; where they do not, the parameters are
tried first.
-/

namespace ChunkBridge.Script.Grammar
open Script.Parser
open ChunkBridge.Text
variable {source : List Char} (g : Grammar source)

/-- How far the first tokens tell that an arrow function stands ahead. -/
inductive Outlook where
  | never
  | perhaps
  | surely
deriving DecidableEq

/-- Words that may stand before a parameter. -/
def parameterWords : List String :=
  ["abstract", "accessor", "const", "declare", "in", "out", "public", "private", "protected",
   "readonly", "static", "override"]

/-- What the parenthesis or angle bracket `n` tokens ahead opens. -/
def outlookAt (n : Nat) : Parser source Outlook := do
  let dialect := (← context).dialect
  let first := (← peekAt n).1
  let second := (← peekAt (n + 1)).1
  let third := (← peekAt (n + 2)).1
  if first.isMark "(" then
    if second.isMark ")" then
      if third.isMark ":" && dialect.isTyped then return .perhaps
      else if third.isMark "=>" || third.isMark "\x7b" then return .surely
      else return .never
    else if second.isMark "[" || second.isMark "\x7b" then return .perhaps
    else if second.isMark "..." then
      if isBindingName third then return .surely
      else if third.isLiteral then return .never
      else return .perhaps
    else
      let isModifier :=
        match second with
        | .word text _ => parameterWords.contains text
        | _ => false
      if isModifier && isBindingName third then
        return if third.isWord "as" then .never else .surely
      else if !(isBindingName second || second.isWord "this") then return .never
      else if third.isMark ":" then return .surely
      else if third.isMark "?" then
        let fourth := (← peekAt (n + 3)).1
        return if fourth.isMark ":" || fourth.isMark "," || fourth.isMark "=" || fourth.isMark ")"
          then .surely else .never
      else if third.isMark "," || third.isMark "=" || third.isMark ")" then return .perhaps
      else return .never
  else if first.isMark "<" then
    if !(isBindingName second || second.isWord "const") then return .never
    else if !dialect.hasElements then return .perhaps
    else if third.isMark "," || third.isMark "=" then return .surely
    else if third.isWord "extends" then
      let fourth := (← peekAt (n + 3)).1
      return if fourth.isMark "=" || fourth.isMark ">" || fourth.isMark "/" then .never
        else .perhaps
    else return .never
  else return .never

/-- What the current token begins. -/
def outlook : Parser source Outlook := do
  if (← atMark "(") || (← atMark "<") then outlookAt 0
  else if ← atWord "async" then
    let (next, br) ← peekAt 1
    if !br && (next.isMark "(" || next.isMark "<") then outlookAt 1 else return .never
  else return .never

/-- The arrow itself, which stands on the line of the parameters. -/
def arrow : Parser source Unit := do
  faultIf (← hasBreak)
  expectMark "=>"

/-- The parameters in parentheses and the arrow; gives whether the function is asynchronous. -/
def arrowHead : Parser source Bool := do
  let isAsync ← eatWord "async"
  within (fun c => { c with allowsAwait := c.allowsAwait || isAsync }) do
    typeParameters g
    faultIf ((← isTyped) && (← atMark "(") && (← peek).isWord "this")
    parameters g
    returnAnnotation g
  arrow
  return isAsync

/-- The body of an arrow function: a block or one expression. -/
def arrowBody (isAsync : Bool) : Parser source Unit :=
  within ({ · with allowsAwait := isAsync, allowsYield := false }) do
    if ← atMark "\x7b" then functionBody g else discard g.assignment

/-- An arrow function with its parameters in parentheses, if one stands here. -/
def listArrow? : Parser source (Option Unit) := do
  match ← outlook with
  | .never => return none
  | .surely => some <$> (arrowBody g =<< arrowHead g)
  | .perhaps =>
    match ← attempt (arrowHead g) with
    | some isAsync => some <$> arrowBody g isAsync
    | none => return none

/-- An asynchronous arrow function of one bare parameter, if one stands here. -/
def asyncArrow? : Parser source (Option Unit) := do
  let (next, br) ← peekAt 1
  if (← atWord "async") && !br && isBindingName next && (← peekAt 2).1.isMark "=>" then
    bump
    match ← g.binary 0 with
    | .name .. =>
      arrow
      some <$> arrowBody g true
    | _ => fail
  else return none

/-- An arrow function, if one stands here that is told by its first tokens. -/
def arrow? : Parser source (Option Unit) := do
  match ← listArrow? g with
  | some () => return some ()
  | none => asyncArrow? g

end ChunkBridge.Script.Grammar
