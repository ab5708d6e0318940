import ChunkBridge.Script.Grammar.Types

/-!
# Elements

Markup inside a script: tags with attributes, and between two tags text, expressions and further
elements. Between tags blanks are text, so the tokens there are read by rules of their own.
-/

namespace ChunkBridge.Script.Grammar
open Script.Parser
open ChunkBridge.Text
variable {source : List Char} (g : Grammar source)

/-- Goes past a closing mark; behind it stands what may stand between tags if `inside` is
set. -/
def closeMark (mark : String) (inside : Bool) : Parser source Unit := do
  if inside then
    unless ← atMark mark do fail
    skip false .elementChild
  else expectMark mark

/-- A word that may hold dashes. -/
def elementWord : Parser source String := do
  unless (← token).isName do fail
  rescan .elementName
  takeWord

/-- The name of a tag: a word, two words with a colon between, or words with dots between. -/
def tagName : Parser source (List String) := do
  let first ← elementWord
  if ← eatMark ":" then return [first, ":", ← elementWord]
  loop [first] fun words => do
    if ← eatMark "." then return .again ((← elementWord) :: words)
    return .done words.reverse

/-- An expression in braces, without commas. -/
def braced (inside : Bool) : Parser source Unit := do
  let e ← g.expressionIn
  match e with
  | .sequence .. => fail
  | _ => closeMark "\x7d" inside

/-- An attribute with its value. -/
def tagAttribute : Parser source Unit := do
  if ← eatMark "\x7b" then
    expectMark "..."
    braced g false
  else
    discard elementWord
    if ← eatMark ":" then discard elementWord
    if ← atMark "=" then
      skip true .attributeValue
      match ← token with
      | .string _ => bump
      | .mark "\x7b" =>
        bump
        braced g false
      | .mark "<" => discard <| g.element
      | _ => fail

/-- The attributes of a tag. -/
def tagAttributes : Parser source Unit :=
  loop () fun _ => do
    if (← atFinish) || (← atMark "<") || (← atMark ">") || (← atMark "/") then return .done ()
    tagAttribute g
    return .again ()

/-- A closing tag behind its angle bracket. -/
def closingTag (name : List String) (inside : Bool) : Parser source Unit := do
  expectMark "/"
  unless name.isEmpty do faultIf ((← tagName) != name)
  closeMark ">" inside

/-- What an element is to the tag that has just been opened. -/
structure OpenTag where
  name : List String
  /-- The element stands between the tags of another one. -/
  inside : Bool

/-- The tag of an element behind its angle bracket. Gives what has to be closed, if anything. -/
def openingTag (inside : Bool) : Parser source (Option OpenTag) := do
  if ← atMark ">" then
    closeMark ">" true
    return some ⟨[], inside⟩
  let name ← tagName
  if (← isTyped) && (← atOpenAngle) then discard <| attempt (typeArguments g)
  tagAttributes g
  if ← eatMark "/" then
    closeMark ">" inside
    return none
  closeMark ">" true
  return some ⟨name, inside⟩

/-- An element: its tag, and what stands up to the tag that closes it. The tags still open are
kept innermost first. -/
def elementRule : Parser source Expr := do
  let start ← startOffset
  expectMark "<"
  match ← openingTag g false with
  | none => pure ()
  | some tag =>
    loop [tag] fun tags => do
      match tags with
      | [] => return .done ()
      | tag :: outer =>
        match ← token with
        | .elementText =>
          bump
          return .again tags
        | .mark "<" =>
          bump
          if ← atMark "/" then
            closingTag tag.name tag.inside
            return .again outer
          match ← openingTag g true with
          | none => return .again tags
          | some inner => return .again (inner :: tags)
        | .mark "\x7b" =>
          bump
          discard <| eatMark "..."
          if ← atMark "\x7d" then closeMark "\x7d" true
          else braced g true
          return .again tags
        | _ => fail
  return .other (← spanFrom start)

end ChunkBridge.Script.Grammar
