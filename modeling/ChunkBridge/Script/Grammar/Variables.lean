import ChunkBridge.Script.Grammar.Operators

/-!
# Variables

Declarations that bind names to values. A constant and a pattern need a value, but only in a
plain statement: a loop brings the value itself, and an export is not asked for one.
-/

namespace ChunkBridge.Script.Grammar
open Script.Parser
variable {source : List Char} (g : Grammar source)

/-- One pattern of a declaration with its type, and whether it has a value. -/
def declarator : Parser source (Pattern × Bool) := do
  let pattern ← g.pattern
  if ← isTyped then
    match pattern with
    | .name _ => if (← atMark "!") && !(← hasBreak) then bump
    | _ => pure ()
    discard <| eatMark "?"
    typeAnnotation g
  if ← eatMark "=" then
    discard g.assignment
    return (pattern, true)
  return (pattern, false)

/-- Patterns with commas between them; `check` sees each pattern and whether it has a value. -/
def declarators (check : Pattern → Bool → Parser source Unit) : Parser source (List Pattern) :=
  loop ([] : List Pattern) fun patterns => do
    let (pattern, hasValue) ← declarator g
    check pattern hasValue
    if ← eatMark "," then return .again (pattern :: patterns)
    return .done (pattern :: patterns).reverse

/-- The word of a variable declaration stands here. -/
def atVariableWord : Parser source Bool := do
  return (← atWord "var") || (← atWord "let") || (← atWord "const")

/-- A variable declaration; gives its patterns. Values are asked for in a plain statement. -/
def variableList (isPlainStatement : Bool) : Parser source (List Pattern) := do
  unless ← atVariableWord do fail
  let isConst ← atWord "const"
  bump
  let isAmbient := (← context).isAmbient
  declarators g fun pattern hasValue => do
    let needsValue :=
      match pattern with
      | .name _ => isConst
      | .compound _ => true
    faultIf (isPlainStatement && !isAmbient && needsValue && !hasValue)

/-- The start of a declaration whose value is disposed of at the end of the block. -/
def atUsing : Parser source Bool := do
  let next ← peek
  if ← atWord "using" then return isBindingName next
  return (← atWord "await") && next.isWord "using" && isBindingName (← peekAt 2).1

/-- A declaration whose value is disposed of: it takes no pattern, and outside of loops it needs
a value. -/
def usingRest (inLoop : Bool) : Parser source (List Pattern) := do
  discard <| eatWord "await"
  expectWord "using"
  faultIf (← hasBreak)
  declarators g fun pattern hasValue => do
    match pattern with
    | .name _ => pure ()
    | .compound _ => fault
    faultIf (!inLoop && !hasValue)

end ChunkBridge.Script.Grammar
