import ChunkBridge.Script.Grammar.Variables

/-!
# Declarations

Functions, classes and variables with the words in front of them, and the declarations that only
a typed source has: enumerations, interfaces, type names and namespaces.
-/

namespace ChunkBridge.Script.Grammar
open Script.Parser
open ChunkBridge.Text
variable {source : List Char} (g : Grammar source)

/-! ## Declarations of typed sources -/

/-- The name of a member of an enumeration; a computed name must be a literal text. -/
def enumName : Parser source Unit := do
  match ← token with
  | .string _ => bump
  | .mark "[" =>
    bump
    match ← token with
    | .string _ => bump
    | .template true true _ => template g false
    | _ => fail
    expectMark "]"
  | _ => discard takeWord

/-- An enumeration. -/
def enumeration : Parser source Unit := do
  expectWord "enum"
  discard bindingName
  expectMark "\x7b"
  discard <| separated "\x7d" true do
    enumName g
    if ← eatMark "=" then discard g.assignmentIn
  expectMark "\x7d"

/-- An interface. -/
def interfaceRule : Parser source Unit := do
  expectWord "interface"
  discard bindingName
  typeParameters g
  heritage g
  typeMembers g

/-- A name for a type. -/
def typeName : Parser source Unit := do
  expectWord "type"
  discard bindingName
  typeParameters g
  expectMark "="
  conditionType g
  endStatement

/-- Statements in braces. -/
def block : Parser source Unit := do
  expectMark "\x7b"
  g.body
  expectMark "\x7d"

/-- A namespace, or the declaration of a module. -/
def namespaceRule : Parser source Unit := do
  if ← eatWord "global" then block g
  else
    bump
    match ← token with
    | .string _ =>
      bump
      if ← atMark "\x7b" then block g else endStatement
    | _ =>
      discard bindingName
      loop () fun _ => do
        if ← eatMark "." then
          discard takeWord
          return .again ()
        return .done ()
      block g

/-- A name for an imported module or for a member of a namespace, behind the word `import`. -/
def importAlias : Parser source Unit := do
  if (← atWord "type") && !(← peek).isMark "=" then bump
  discard bindingName
  expectMark "="
  if (← atWord "require") && (← peek).isMark "(" then
    bump
    bump
    discard stringText
    expectMark ")"
  else dottedName
  endStatement

/-! ## Words in front of a declaration -/

/-- Words that may stand before a declaration. -/
def declarationWords : List String :=
  ["abstract", "accessor", "async", "declare", "in", "out", "public", "private", "protected",
   "readonly", "static", "override"]

/-- The current word modifies the declaration behind it. -/
def atDeclarationWord : Parser source Bool := do
  let (next, br) ← peekAt 1
  match ← token with
  | .word text _ =>
    if text == "const" then return next.isWord "enum" && !br
    let follows := next.isMemberNameStart || next.isMark "\x7b" || next.isMark "*" ||
      next.isMark "..."
    return declarationWords.contains text && follows &&
      (!br || text == "accessor" || text == "static")
  | _ => return false

/-- The words before a declaration, in order. -/
def takeDeclarationWords : Parser source (List String) :=
  loop ([] : List String) fun words => do
    if ← atDeclarationWord then
      let word ← takeWord
      return .again (word :: words)
    return .done words.reverse

/-- A declaration of a typed source, or one with words in front, stands here. -/
def atTypedDeclaration : Parser source Bool := do
  let found ← lookahead do
    loop () fun _ => do
      match ← token with
      | .word text _ =>
        let (next, br) ← peekAt 1
        if ["var", "let", "const", "function", "class", "enum"].contains text then
          return .done ()
        else if text == "interface" || text == "type" then
          if isBindingName next && !br then return .done () else fail
        else if text == "module" || text == "namespace" then
          let isString :=
            match next with
            | .string _ => true
            | _ => false
          if (isBindingName next || isString) && !br then return .done () else fail
        else if text == "global" then
          if isPlainName next || next.isMark "\x7b" || next.isWord "export" then return .done ()
          else fail
        else if text == "static" then
          bumpName
          return .again ()
        else if ["abstract", "accessor", "async", "declare", "private", "protected", "public",
            "readonly"].contains text then
          bumpName
          if br then fail
          return .again ()
        else fail
      | _ => fail
  return found.isSome

/-! ## Declarations -/

/-- A declaration that has been read. -/
structure Declaration where
  span : Span
  declared : Declared

/-- A declaration behind its words; `start` is where those begin. -/
def declaration (start : Nat) (words : List String) : Parser source Declaration := do
  let types (p : Parser source Unit) : Parser source Declaration := do
    p
    return ⟨← spanFrom start, .types⟩
  if ← atFunction then
    let isAsync ← eatWord "async"
    let head ← functionFrom g (isAsync || words.contains "async") false true
    return ⟨← spanFrom start, .named head.name⟩
  else if ← atVariableWord then
    let patterns ← variableList g false
    endStatement
    return ⟨← spanFrom start, .bindings patterns⟩
  else
    match ← token with
    | .word text _ =>
      if text == "class" then
        let (name, span) ← classRule g start
        return ⟨span, .named name⟩
      else if text == "enum" then types (enumeration g)
      else if text == "interface" then types (interfaceRule g)
      else if text == "type" then types (typeName g)
      else if text == "namespace" || text == "module" || text == "global" then
        types (namespaceRule g)
      else if text == "import" then
        types do
          bump
          importAlias
      else fail
    | _ => fail

/-- A declaration with the words that a typed source may put in front of it. -/
def declarationWithWords (takesWords : Bool) : Parser source Declaration := do
  let start ← startOffset
  let words ← if takesWords then takeDeclarationWords else pure []
  within (fun c => { c with isAmbient := c.isAmbient || words.contains "declare" }) do
    declaration g start words

end ChunkBridge.Script.Grammar
