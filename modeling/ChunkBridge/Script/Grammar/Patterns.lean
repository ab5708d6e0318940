import ChunkBridge.Script.Grammar.Names

/-!
# Patterns and parameters

What a declaration or parameter list binds. A pattern in brackets may end in an item that takes
the rest, and nothing may follow that.
-/

namespace ChunkBridge.Script.Grammar
open Script.Parser
variable {source : List Char} (g : Grammar source)

/-- A colon and a type, if types are allowed and a colon stands here. -/
def typeAnnotation : Parser source Unit := do
  if (← isTyped) && (← atMark ":") then
    bump
    g.type

/-- A default value, if an equals sign stands here. -/
def initializer : Parser source Unit := do
  if ← eatMark "=" then discard g.assignmentIn

/-- A pattern, perhaps optional, with its type. -/
def typedPattern (optional : Bool) : Parser source Pattern := do
  let pattern ← g.pattern
  if optional && (← isTyped) then discard <| eatMark "?"
  typeAnnotation g
  return pattern

/-- A pattern with its type and default. -/
def patternWithDefault : Parser source Pattern := do
  let pattern ← typedPattern g true
  initializer g
  return pattern

/-- An item that takes the rest, behind its dots. -/
def restPattern : Parser source Pattern := do
  bump
  let pattern ← g.pattern
  if (← isTyped) && (← atMark "?") then
    fault
    bump
  typeAnnotation g
  if ← atMark "=" then fail
  if ← atMark "," then
    let next ← peek
    if next.isMark ")" || next.isMark "]" || next.isMark "\x7d" then
      fault
      bump
  return pattern

/-- Items between commas up to a closing bracket, of which only the last may take the rest.
Gives the names bound and the item that takes the rest. -/
def patternList (close : String) (item : Parser source Pattern) :
    Parser source (List String × Option Pattern) :=
  loop (([] : List String), true, (none : Option Pattern)) fun (names, isFirst, rest) => do
    if (← atMark close) || (← atFinish) then return .done (names, rest)
    unless isFirst do expectMark ","
    if !isFirst && (← atMark close) then return .done (names, rest)
    faultIf rest.isSome
    if ← atMark "..." then
      let pattern ← restPattern g
      return .again (names ++ pattern.names, false, some pattern)
    let pattern ← item
    return .again (names ++ pattern.names, false, rest)

/-- A member of a record pattern. -/
def propertyPattern : Parser source Pattern := do
  let isName := isBindingName (← token)
  let name ← memberName g
  if isName && !(← atMark ":") then
    initializer g
    return .name (name.text.getD "")
  expectMark ":"
  patternWithDefault g

/-- A record pattern at its opening brace. -/
def recordPattern : Parser source Pattern := do
  expectMark "\x7b"
  let (names, rest) ← patternList g "\x7d" (propertyPattern g)
  match rest with
  | some (.compound _) => fail
  | _ => pure ()
  expectMark "\x7d"
  return .compound names

/-- A list pattern at its opening bracket. -/
def listPattern : Parser source Pattern := do
  expectMark "["
  let item : Parser source Pattern := do
    if ← atMark "," then return .compound []
    patternWithDefault g
  let (names, _) ← patternList g "]" item
  expectMark "]"
  return .compound names

/-- A name, or a pattern in brackets. -/
def patternRule : Parser source Pattern := do
  if ← atMark "\x7b" then recordPattern g
  else if ← atMark "[" then listPattern g
  else return .name (← bindingName)

/-! ## Decorators and modifiers -/

/-- Decorators before a class, member or parameter. The start of the first is kept for the
class that takes them. -/
def eatDecorators : Parser source Unit := do
  if ← atMark "@" then
    decorating do
      loop () fun _ => do
        if ← atMark "@" then
          bump
          discard <| within ({ · with inDecorator := true }) g.leftHand
          return .again ()
        return .done ()

/-- The start of the decorators that wait, which are then taken. -/
def takeDecorators : Parser source (Option (Place source)) := do
  let start ← inspect State.decorators
  remember (fun s => { s with decorators := none, decorators_le_start := nofun }) fun _ => ⟨rfl, rfl⟩
  return start

/-- Words that may stand before a member or parameter in a typed source. -/
def memberModifiers : List String :=
  ["public", "protected", "private", "static", "abstract", "readonly", "declare", "override",
   "export"]

/-- The current word modifies what follows it on the same line. -/
def atMemberModifier (isParameter : Bool) : Parser source Bool := do
  match ← token with
  | .word text _ =>
    if memberModifiers.contains text then
      let (next, br) ← peekAt 1
      let member := next.isMemberNameStart
      let inClass := !isParameter && (next.isMark "\x7b" || next.isMark "*")
      let inList := isParameter &&
        (next.isMark "\x7b" || next.isMark "[" || next.isMark "...")
      return !br && (member || inClass || inList)
    return false
  | _ => return false

/-- The modifiers before a member or parameter, in order. -/
def takeMemberModifiers (isParameter : Bool) : Parser source (List String) := do
  if ← isTyped then
    loop ([] : List String) fun words => do
      if ← atMemberModifier isParameter then
        let word ← takeWord
        return .again (word :: words)
      return .done words.reverse
  else return []

/-! ## Parameters -/

/-- A parameter with its decorators and modifiers. -/
def parameter : Parser source Pattern := do
  eatDecorators g
  discard <| takeMemberModifiers true
  let pattern ← patternWithDefault g
  discard takeDecorators
  return pattern

/-- A parameter list in its parentheses. In a typed source the first parameter may be `this`. -/
def parameters : Parser source Unit := do
  expectMark "("
  if (← isTyped) && (← atWord "this") then
    bump
    typeAnnotation g
    unless ← atMark ")" do expectMark ","
  discard <| patternList g ")" (parameter g)
  expectMark ")"

end ChunkBridge.Script.Grammar
