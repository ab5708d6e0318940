import ChunkBridge.Script.Grammar.Functions

/-!
# Classes

A class with its members. What a member may be called depends on what it is: the constructor is
a plain method, no field has its name, and no static member is the prototype.
-/

namespace ChunkBridge.Script.Grammar
open Script.Parser
open ChunkBridge.Text
variable {source : List Char} (g : Grammar source)

/-- What a class member is marked as. -/
structure MemberMarks where
  isStatic : Bool := false
  isAsync : Bool := false
  isGenerator : Bool := false
  /-- It is a getter or setter. -/
  isAccessor : Bool := false

/-- Faults of a member's name. -/
def checkMember (marks : MemberMarks) (name : MemberName) (isMethod : Bool) :
    Parser source Unit := do
  match name.text with
  | none => pure ()
  | some text =>
    if name.isPrivate then faultIf (text == "constructor")
    else
      faultIf (marks.isStatic && text == "prototype")
      if isMethod then
        faultIf (!marks.isStatic && text == "constructor" &&
          (marks.isAsync || marks.isGenerator || marks.isAccessor))
      else faultIf (text == "constructor")

/-- A field behind its name: its type and value. -/
def fieldRest : Parser source Unit := do
  typeAnnotation g
  if ← eatMark "=" then
    let inner (c : Context) : Context :=
      { c with allowsIn := true, allowsAwait := false, allowsYield := false }
    discard <| within inner g.assignment
  endStatement

/-- The current word marks the member whose name follows it on the same line. -/
def marksMember (word : String) (orStar : Bool) : Parser source Bool := do
  let (next, br) ← peekAt 1
  return (← atWord word) && !br && (next.isMemberNameStart || (orStar && next.isMark "*"))

/-- A class member behind the word `static`. -/
def memberRest (isStatic : Bool) : Parser source Unit := do
  let auto ← marksMember "accessor" false
  if auto then bump
  let isAsync ← marksMember "async" true
  if isAsync then bump
  let isGenerator ← eatMark "*"
  let next ← peek
  let isAccessor := !auto && !isAsync && !isGenerator && next.isMemberNameStart &&
    ((← atWord "get") || (← atWord "set"))
  if isAccessor then bump
  let marks : MemberMarks := { isStatic, isAsync, isGenerator, isAccessor }
  let name ← classMemberName g
  if ← isTyped then
    if ← atMark "?" then bump
    else if (← atMark "!") && !(← hasBreak) then bump
  if (← atMark "(") || (← atMark "<") then
    checkMember marks name true
    discard <| functionRest g isAsync isGenerator
  else
    if isAsync || isGenerator || isAccessor then fail
    checkMember marks name false
    fieldRest g

/-- A block that runs when the class is made. -/
def staticBlock : Parser source Unit := do
  expectMark "\x7b"
  let inner (c : Context) : Context :=
    { c with allowsAwait := true, allowsYield := false, allowsReturn := false }
  within inner g.body
  expectMark "\x7d"

/-- A class member. -/
def classMember : Parser source Unit := do
  eatDecorators g
  discard takeDecorators
  let words ← takeMemberModifiers false
  let isStatic := words.contains "static"
  if (← isTyped) && (← atIndexSignature) then
    indexSignature g
    discard <| eatMark ","
    endStatement
  else if isStatic && (← atMark "\x7b") then staticBlock g
  else if !isStatic && (← atWord "static") then
    let next ← peek
    if next.isMark "\x7b" then
      bump
      staticBlock g
    else if next.isMemberNameStart || next.isMark "*" then
      bump
      memberRest g true
    else memberRest g false
  else memberRest g isStatic

/-- The members of a class in braces. -/
def classBody : Parser source Unit := do
  expectMark "\x7b"
  loop () fun _ => do
    if ← eatMark ";" then return .again ()
    if (← atMark "\x7d") || (← atFinish) then return .done ()
    classMember g
    return .again ()
  expectMark "\x7d"

/-- A superclass with its type arguments. -/
def superclass : Parser source Unit := do
  discard <| g.leftHand
  if (← isTyped) && (← atOpenAngle) then discard <| attempt (typeArguments g)

/-- Interfaces that a class or interface builds on. -/
def interfaceList : Parser source Unit := do
  dottedName
  typeArguments? g
  loop () fun _ => do
    if ← eatMark "," then
      dottedName
      typeArguments? g
      return .again ()
    return .done ()

/-- What a class builds on: superclasses before interfaces, each clause once. -/
def heritage : Parser source Unit :=
  loop (false, false) fun (hasSuper, hasInterfaces) => do
    if ← atWord "extends" then
      if hasSuper || hasInterfaces then fail
      bump
      superclass g
      loop () fun _ => do
        if ← eatMark "," then
          superclass g
          return .again ()
        return .done ()
      return .again (true, hasInterfaces)
    if (← isTyped) && (← atWord "implements") then
      if hasInterfaces then fail
      bump
      interfaceList g
      return .again (hasSuper, true)
    return .done ()

/-- A class from its word on; `start` is where its modifiers begin. Gives its name and span,
which begins with its decorators. -/
def classRule (start : Nat) : Parser source (Option String × Span) := do
  expectWord "class"
  let start := ((← takeDecorators).map Place.offset).getD start
  let named := isBindingName (← token) && !(← atWord "implements")
  let name ← if named then some <$> bindingName else pure none
  typeParameters g
  heritage g
  classBody g
  return (name, ← spanFrom start)

end ChunkBridge.Script.Grammar
