import ChunkBridge.Script.Grammar.Patterns

/-!
# Types

Type annotations of a typed source. They are read and forgotten: nothing later asks for them.
-/

namespace ChunkBridge.Script.Grammar
open Script.Parser
variable {source : List Char} (g : Grammar source)

/-- A type in which a condition may follow. -/
def conditionType : Parser source Unit :=
  within ({ · with allowsCondition := true }) g.type

/-- A type behind which no condition may follow. -/
def plainType : Parser source Unit :=
  within ({ · with allowsCondition := false }) g.type

/-- Goes past an opening angle bracket. -/
def openAngle : Parser source Unit := do
  if (← token).isMark "<<" then rescan .lessMark
  expectMark "<"

/-- An opening angle bracket stands here, perhaps doubled. -/
def atOpenAngle : Parser source Bool :=
  inspect fun s => s.token.isMark "<" || s.token.isMark "<<"

/-- A list of types in angle brackets. -/
def typeArguments : Parser source Unit := do
  openAngle
  discard <| separated ">" true (conditionType g)
  expectMark ">"

/-- Types in angle brackets, if they follow on the same line. -/
def typeArguments? : Parser source Unit := do
  if !(← hasBreak) && (← atOpenAngle) then typeArguments g

/-- A type parameter with its bound and default. -/
def typeParameter : Parser source Unit := do
  loop () fun _ => do
    let modifier := (← atWord "const") || (← atWord "in") || (← atWord "out")
    if modifier && (← peek).isName then
      bumpName
      return .again ()
    return .done ()
  discard bindingName
  if ← eatWord "extends" then conditionType g
  if ← eatMark "=" then conditionType g

/-- Type parameters in angle brackets, if a typed source has them here. -/
def typeParameters : Parser source Unit := do
  if (← isTyped) && (← atMark "<") then
    bump
    discard <| separated ">" true (typeParameter g)
    expectMark ">"

/-- The start of a predicate such as `x is T`. -/
def predicateStart : Parser source Unit := do
  discard takeWord
  if ← hasBreak then fail
  expectWord "is"

/-- A type where a function says what it returns; it may be a predicate. -/
def returnType : Parser source Unit := do
  if (← token).isName then discard <| attempt predicateStart
  conditionType g

/-- A return type behind its mark, if a typed source has one here. -/
def returnAnnotation : Parser source Unit := do
  if (← isTyped) && (← atMark ":") then
    bump
    returnType g

/-! ## References -/

/-- Names joined by dots. -/
def dottedName : Parser source Unit := do
  discard takeWord
  loop () fun _ => do
    if ← eatMark "." then
      discard takeWord
      return .again ()
    return .done ()

/-- A named type with its arguments. -/
def typeReference : Parser source Unit := do
  dottedName
  typeArguments? g

/-- The type of a module: `import("m").a.b<T>`. -/
def importType : Parser source Unit := do
  expectWord "import"
  expectMark "("
  conditionType g
  if ← eatMark "," then
    unless ← atMark ")" do discard g.assignmentIn
    discard <| eatMark ","
  expectMark ")"
  loop () fun _ => do
    if ← eatMark "." then
      discard takeWord
      return .again ()
    return .done ()
  typeArguments? g

/-- The type of a value. -/
def typeQuery : Parser source Unit := do
  expectWord "typeof"
  if ← atWord "import" then importType g
  else
    discard takeWord
    loop () fun _ => do
      if ← eatMark "." then
        match ← token with
        | .privateName _ => bump
        | _ => discard takeWord
        return .again ()
      return .done ()
    typeArguments? g

/-! ## Members of records -/

/-- An index signature stands here, behind its modifiers: `[k: T]`. -/
def atIndexSignature : Parser source Bool := do
  let found ← lookahead do
    expectMark "["
    discard takeWord
    unless ← atMark ":" do fail
  return found.isSome

/-- The part of an index signature in brackets, and its type. -/
def indexSignature : Parser source Unit := do
  expectMark "["
  discard takeWord
  expectMark ":"
  conditionType g
  discard <| eatMark ","
  expectMark "]"
  typeAnnotation g

/-- The end of a member of a record type. -/
def endMember : Parser source Unit := do
  discard <| eatMark ","
  discard <| eatMark ";"

/-- The parameters and result of a member of a record type. -/
def callSignature : Parser source Unit := do
  typeParameters g
  parameters g
  returnAnnotation g
  endMember

/-- A word that is followed by the name of a member. -/
def atMemberWord (word : String) : Parser source Bool := do
  return (← atWord word) && (← peek).isMemberNameStart

/-- A member of a record type. -/
def typeMember : Parser source Unit := do
  let indexed ← lookahead do
    loop () fun _ => do
      if ← atMemberModifier false then
        bumpName
        return .again ()
      return .done ()
    unless ← atIndexSignature do fail
  if indexed.isSome then
    loop () fun _ => do
      if ← atMemberModifier false then
        bumpName
        return .again ()
      return .done ()
    indexSignature g
    endMember
  else if (← atMark "(") || (← atMark "<") then callSignature g
  else
    let next ← peek
    if (← atWord "new") && (next.isMark "(" || next.isMark "<") then
      bump
      callSignature g
    else
      if (← atMemberWord "get") || (← atMemberWord "set") || (← atMemberWord "readonly") then
        bump
      discard <| memberName g
      discard <| eatMark "?"
      if (← atMark "(") || (← atMark "<") then callSignature g
      else
        typeAnnotation g
        endMember

/-- The members of a record type in braces. -/
def typeMembers : Parser source Unit := do
  expectMark "\x7b"
  loop () fun _ => do
    if (← atMark "\x7d") || (← atFinish) then return .done ()
    typeMember g
    return .again ()
  expectMark "\x7d"

/-- Goes past a sign if one stands here. -/
def eatSign : Parser source Bool := do
  if ← eatMark "-" then return true
  eatMark "+"

/-- A mapped type stands here. -/
def atMappedType : Parser source Bool := do
  let found ← lookahead do
    expectMark "\x7b"
    if ← eatSign then
      unless ← atWord "readonly" do fail
    else
      discard <| eatWord "readonly"
      expectMark "["
      discard takeWord
      unless ← atWord "in" do fail
  return found.isSome

/-- A mapped type. -/
def mappedType : Parser source Unit := do
  expectMark "\x7b"
  if ← eatSign then expectWord "readonly"
  else discard <| eatWord "readonly"
  expectMark "["
  discard takeWord
  expectWord "in"
  conditionType g
  if ← eatWord "as" then conditionType g
  expectMark "]"
  if ← eatSign then expectMark "?"
  else discard <| eatMark "?"
  typeAnnotation g
  endMember
  expectMark "\x7d"

/-! ## Tuples, templates and functions -/

/-- An item of a tuple, perhaps with a label. -/
def tupleItem : Parser source Unit := do
  let labelled ← lookahead do
    discard <| eatMark "..."
    discard takeWord
    discard <| eatMark "?"
    unless ← atMark ":" do fail
  if labelled.isSome then
    discard <| eatMark "..."
    discard takeWord
    discard <| eatMark "?"
    expectMark ":"
  discard <| eatMark "..."
  conditionType g

/-- The pieces of a template with `part` between them. The last piece ends the template; what
follows a part without a closing brace is read as another part. -/
def templatePieces (tagged : Bool) (part : Parser source Unit) : Parser source Unit := do
  match ← token with
  | .template true isLast isValid =>
    faultIf (!tagged && !isValid)
    bump
    unless isLast do
      let partThenPiece : Parser source Unit := do
        part
        if ← atMark "\x7d" then
          rescan .templateRest
      partThenPiece
      loop () fun _ => do
        match ← token with
        | .finish => fail
        | .template false true isValid =>
          faultIf (!tagged && !isValid)
          bump
          return .done ()
        | .template false false isValid =>
          faultIf (!tagged && !isValid)
          bump
          return .again ()
        | _ =>
          partThenPiece
          return .again ()
  | _ => fail

/-- The start of a parameter: a name, or a pattern in brackets. -/
def parameterStart : Parser source Unit := do
  discard <| takeMemberModifiers true
  if (← atMark "\x7b") || (← atMark "[") then discard <| g.pattern
  else if isPlainName (← token) || (← atWord "this") then bump
  else fail

/-- The parenthesis here opens a parameter list for certain. -/
def atFunctionType : Parser source Bool := do
  let found ← lookahead do
    expectMark "("
    unless (← atMark ")") || (← atMark "...") do
      parameterStart g
      unless (← atMark ":") || (← atMark ",") || (← atMark "?") || (← atMark "=") do
        expectMark ")"
        unless ← atMark "=>" do fail
  return found.isSome

/-- The type of a function or constructor. -/
def functionType : Parser source Unit := do
  discard <| eatWord "abstract"
  discard <| eatWord "new"
  typeParameters g
  parameters g
  expectMark "=>"
  returnType g

/-! ## All types -/

/-- Words that are types of their own. -/
def basicTypes : List String :=
  ["any", "unknown", "string", "number", "bigint", "symbol", "boolean", "undefined", "never",
   "object", "null", "void", "true", "false"]

/-- A type can begin with this token. -/
def isTypeStart (t : Token) : Bool :=
  match t with
  | .word text _ =>
    !isReserved text || basicTypes.contains text || text == "this" || text == "typeof" ||
      text == "new" || text == "import" || text == "function"
  | .string _ | .number | .bigint => true
  | .template isFirst _ _ => isFirst
  | .mark text =>
    ["\x7b", "[", "<", "|", "&", "*", "?", "!", "...", "-", "("].contains text
  | _ => false

/-- A type with no operator around it. -/
def atomicType : Parser source Unit := do
  let t ← token
  match t with
  | .string _ | .number | .bigint => bump
  | .template .. => templatePieces false (conditionType g)
  | .mark "-" =>
    bump
    match ← token with
    | .number | .bigint => bump
    | _ => fail
  | .mark "?" =>
    bump
    let next ← token
    let alone := next.isMark "," || next.isMark "\x7d" || next.isMark ")" || next.isMark ">" ||
      next.isMark "=" || next.isMark "|"
    unless alone do conditionType g
  | .mark "!" =>
    bump
    conditionType g
  | .mark "\x7b" => if ← atMappedType then mappedType g else typeMembers g
  | .mark "[" =>
    bump
    discard <| separated "]" true (tupleItem g)
    expectMark "]"
  | .mark "(" =>
    bump
    conditionType g
    expectMark ")"
  | .word text _ =>
    if text == "this" then
      bump
      if !(← hasBreak) && (← atWord "is") then
        bump
        conditionType g
    else if text == "typeof" then typeQuery g
    else if text == "import" then importType g
    else if text == "asserts" then
      let (next, br) ← peekAt 1
      if next.isName && !br then
        bump
        discard takeWord
        if !(← hasBreak) && (← atWord "is") then
          bump
          conditionType g
      else typeReference g
    else if basicTypes.contains text && !(← peek).isMark "." then bump
    else typeReference g
  | _ => fail

/-- A type with what may follow it: brackets, and marks for absent values. -/
def postfixType : Parser source Unit := do
  atomicType g
  loop () fun _ => do
    if ← hasBreak then return .done ()
    if ← atMark "!" then
      bump
      return .again ()
    if ← atMark "?" then
      if isTypeStart (← peek) then return .done ()
      bump
      return .again ()
    if ← atMark "[" then
      bump
      unless ← atMark "]" do conditionType g
      expectMark "]"
      return .again ()
    return .done ()

/-- The bound of an inferred type; a question mark behind it belongs to the condition around. -/
def inferredBound : Parser source Unit := do
  expectWord "extends"
  plainType g
  let c ← context
  if c.allowsCondition && (← atMark "?") then fail

/-- A type with the words that may stand in front of it. -/
def prefixedType : Parser source Unit := do
  loop () fun _ => do
    let word := (← atWord "keyof") || (← atWord "unique") || (← atWord "readonly")
    if word && isTypeStart (← peek) then
      bump
      return .again ()
    return .done ()
  if (← atWord "infer") && (← peek).isName then
    bump
    discard bindingName
    discard <| attempt (inferredBound g)
  else within ({ · with allowsCondition := true }) (postfixType g)

/-- Types joined by an operator, which may also stand in front. -/
def joinedTypes (mark : String) (item : Parser source Unit) : Parser source Unit := do
  discard <| eatMark mark
  item
  loop () fun _ => do
    if ← eatMark mark then
      item
      return .again ()
    return .done ()

/-- A function type stands here. -/
def startsFunctionType : Parser source Bool := do
  if ← atMark "<" then return true
  if ← atWord "new" then return true
  if (← atWord "abstract") && (← peek).isWord "new" then return true
  if ← atMark "(" then atFunctionType g
  else return false

/-- A type, perhaps with a condition. -/
def typeRule : Parser source Unit := do
  if ← startsFunctionType g then functionType g
  else
    joinedTypes "|" (joinedTypes "&" (do
      if ← startsFunctionType g then functionType g else prefixedType g))
    let c ← context
    if c.allowsCondition && !(← hasBreak) && (← atWord "extends") then
      bump
      plainType g
      expectMark "?"
      conditionType g
      expectMark ":"
      conditionType g

end ChunkBridge.Script.Grammar
