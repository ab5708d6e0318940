import ChunkBridge.Script.Grammar.Functions

/-!
# Arrays, objects and templates

Literals that hold expressions. An object may hold a name with a default, which is only legal
once the object turns out to be a target: its place is kept in `State.pending` until then.
-/

namespace ChunkBridge.Script.Grammar
open Script.Parser
open ChunkBridge.Text
variable {source : List Char} (g : Grammar source)

/-- An item behind three dots. -/
def spread : Parser source Expr := do
  let start ← startOffset
  expectMark "..."
  let inner ← g.assignment
  return .spread (← spanFrom start) inner

/-- An item of an array, which may be left out. -/
def arrayItem : Parser source Expr := do
  if ← atMark "," then
    let start ← startOffset
    return .hole ⟨start, start⟩
  else if ← atMark "..." then spread g
  else g.assignment

/-- An array. -/
def array : Parser source Expr := do
  let start ← startOffset
  expectMark "["
  let items ← within ({ · with allowsIn := true }) (separated "]" false (arrayItem g))
  let comma ← eatMark ","
  expectMark "]"
  return .array (← spanFrom start) items comma

/-- A method behind its words. -/
def method (start : Nat) (isAsync isGenerator : Bool) : Parser source Expr := do
  discard <| functionRest g isAsync isGenerator
  let span ← spanFrom start
  return .property span (.other span)

/-- A member of an object that is only a name, perhaps with a default. -/
def shorthandMember : Parser source Expr := do
  let start ← startOffset
  discard referenceName
  if ← eatMark "=" then
    discard <| g.assignment
    remember (fun s => { s with pending := start :: s.pending }) fun _ => ⟨rfl, rfl⟩
  return .shorthand (← spanFrom start)

/-- A member of an object. -/
def objectMember : Parser source Expr := do
  let start ← startOffset
  let t ← token
  let (next, br) ← peekAt 1
  if t.isMark "..." then spread g
  else if (t.isWord "get" || t.isWord "set") && next.isMemberNameStart then
    bump
    discard <| memberName g
    method g start false false
  else if t.isWord "async" && (next.isMemberNameStart || next.isMark "*") && !br then
    bump
    let isGenerator ← eatMark "*"
    discard <| memberName g
    method g start true isGenerator
  else if t.isMark "*" && next.isMemberNameStart then
    bump
    discard <| memberName g
    method g start false true
  else if isBindingName t && !(next.isMark "(" || next.isMark ":" || next.isMark "<" ||
      next.isMark "<<" || next.isMark ".") then
    shorthandMember g
  else
    discard <| memberName g
    if ← eatMark ":" then
      let value ← g.assignment
      return .property (← spanFrom start) value
    else if (← atMark "(") || (← atMark "<") then method g start false false
    else fail

/-- An object. -/
def object : Parser source Expr := do
  let start ← startOffset
  expectMark "\x7b"
  let items ← within ({ · with allowsIn := true }) (separated "\x7d" true (objectMember g))
  expectMark "\x7d"
  return .object (← spanFrom start) items

/-- The names with defaults inside a target are legal. -/
def settle (target : Expr) : Parser source Unit :=
  remember (fun s => { s with pending := s.pending.filter (!target.defaults.contains ·) })
    fun _ => ⟨rfl, rfl⟩

/-- A template with the expressions in it. -/
def template (tagged : Bool) : Parser source Unit :=
  templatePieces tagged (discard <| g.expressionIn)

end ChunkBridge.Script.Grammar
