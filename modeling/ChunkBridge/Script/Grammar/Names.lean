import ChunkBridge.Script.Grammar.Rule

/-!
# Names

Names that bind, names that refer, and names of members. A reserved word can only name a member.
-/

namespace ChunkBridge.Script.Grammar
open Script.Parser
variable {source : List Char} (g : Grammar source)

/-- A word that is not reserved. -/
def isPlainName : Token → Bool
  | .word text _ => !isReserved text
  | _ => false

/-- A token that can be bound. -/
def isBindingName (token : Token) : Bool :=
  isPlainName token || token.isWord "await" || token.isWord "yield"

/-- Where `await` or `yield` is an operator it is no name. -/
def checkName (text : String) : Parser source Unit := do
  let c ← context
  faultIf ((c.allowsAwait && text == "await") || (c.allowsYield && text == "yield"))

/-- The text of the current word, which is then behind. -/
def takeWord : Parser source String := do
  match ← token with
  | .word text _ =>
    bumpName
    return text
  | _ => fail

/-- A name that is bound. -/
def bindingName : Parser source String := do
  unless isBindingName (← token) do fail
  let text ← takeWord
  checkName text
  return text

/-- A name that refers to a binding. -/
def referenceName : Parser source String := do
  let c ← context
  let t ← token
  unless isPlainName t || (t.isWord "yield" && !c.allowsYield) ||
      (t.isWord "await" && !c.allowsAwait) do
    fail
  let text ← takeWord
  checkName text
  return text

/-- The text holds a code unit that is no character, as `Scan.loneUnit` writes it. -/
def hasLoneUnit : List Char → Bool
  | '\\' :: 'u' :: cs =>
    (match Scan.hexNumber? 4 0 cs with
      | some n => 0xd800 ≤ n && n ≤ 0xdfff
      | none => false) || hasLoneUnit cs
  | '\\' :: _ :: cs => hasLoneUnit cs
  | _ :: cs => hasLoneUnit cs
  | [] => false

/-- A string that must stand here. -/
def stringText : Parser source String := do
  match ← token with
  | .string value =>
    bump
    return value
  | _ => fail

/-- A name in an import or export clause, and whether it is written as a string. -/
def clauseName : Parser source (String × Bool) := do
  match ← token with
  | .string value =>
    bump
    faultIf (hasLoneUnit value.toList)
    return (value, true)
  | _ => return (← takeWord, false)

/-- The name of an object or class member. -/
structure MemberName where
  /-- Its text, unless it is computed or a number. -/
  text : Option String
  /-- It is a single word. -/
  isWord : Bool := false
  isPrivate : Bool := false

/-- The name of a member. -/
def memberName : Parser source MemberName := do
  match ← token with
  | .string value =>
    bump
    return { text := some value }
  | .number | .bigint =>
    bump
    return { text := none }
  | .mark "[" =>
    bump
    discard g.assignmentIn
    expectMark "]"
    return { text := none }
  | _ => return { text := some (← takeWord), isWord := true }

/-- The name of a class member, which may be private. -/
def classMemberName : Parser source MemberName := do
  match ← token with
  | .privateName text =>
    bump
    return { text := some text, isPrivate := true }
  | _ => memberName g

end ChunkBridge.Script.Grammar
