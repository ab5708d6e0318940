import ChunkBridge.Script.Grammar.Types

/-!
# Functions

A function's parameters and body. Only a typed source may leave the body out.
-/

namespace ChunkBridge.Script.Grammar
open Script.Parser
variable {source : List Char} (g : Grammar source)

/-- A body in braces, in which `return` may stand. -/
def functionBody : Parser source Unit := do
  expectMark "\x7b"
  within ({ · with allowsReturn := true }) g.body
  expectMark "\x7d"

/-- A function behind its name: gives whether it has a body. -/
def functionRest (isAsync isGenerator : Bool) : Parser source Bool := do
  let inner (c : Context) : Context :=
    { c with allowsIn := true, allowsAwait := isAsync, allowsYield := isGenerator,
             allowsCondition := true }
  let hasBody ← within inner do
    typeParameters g
    parameters g
    returnAnnotation g
    if ← atMark "\x7b" then
      functionBody g
      return true
    return false
  unless hasBody do
    unless ← isTyped do fail
    endStatement
  return hasBody

/-- A function stands here, perhaps an asynchronous one. -/
def atFunction : Parser source Bool := do
  if ← atWord "function" then return true
  let (next, br) ← peekAt 1
  return (← atWord "async") && next.isWord "function" && !br

/-- A function that has been read. -/
structure FunctionHead where
  name : Option String
  hasBody : Bool

/-- A function from its word on. `isAsync` says whether it was already marked so. -/
def functionFrom (isAsync isExpression needsName : Bool) : Parser source FunctionHead := do
  expectWord "function"
  let isGenerator ← eatMark "*"
  let inner (c : Context) : Context :=
    if isExpression then { c with allowsAwait := isAsync, allowsYield := isGenerator } else c
  let name ← within inner do
    if isBindingName (← token) then return some (← bindingName)
    return none
  if needsName && name.isNone then fail
  return { name, hasBody := ← functionRest g isAsync isGenerator }

/-- A function with its words. -/
def functionRule (isExpression needsName : Bool) : Parser source FunctionHead := do
  let isAsync ← eatWord "async"
  functionFrom g isAsync isExpression needsName

end ChunkBridge.Script.Grammar
