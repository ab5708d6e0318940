import ChunkBridge.Script.Grammar.Declarations

/-!
# Imports and exports

The statements that tie modules together, with the names that they bind and give away.
-/

namespace ChunkBridge.Script.Grammar
open Script.Parser
open ChunkBridge.Text
variable {source : List Char} (g : Grammar source)

/-! ## Shared clauses -/

/-- The surroundings of a list of names in braces, where no word is an operator. -/
def nameList (c : Context) : Context :=
  { c with allowsIn := false, allowsAwait := false, allowsYield := false, allowsReturn := false,
           isAmbient := false, inDecorator := false }

/-- Facts about the module that is meant, behind its name; no fact is given twice. -/
def importAttributes : Parser source Unit := do
  let starts := (← atWord "with") || ((← atWord "assert") && !(← hasBreak))
  if starts then
    bumpName
    expectMark "\x7b"
    let item : Parser source String := do
      let key ←
        match ← token with
        | .string _ => stringText
        | _ => takeWord
      expectMark ":"
      discard stringText
      return key
    let keys ← within nameList (separated "\x7d" true item)
    expectMark "\x7d"
    faultIf (keys.eraseDups.length != keys.length)

/-- The name of a module and the facts about it, up to the end of the statement. -/
def fromModule : Parser source Unit := do
  discard stringText
  importAttributes
  endStatement

/-- The word `type` before a name in braces, where it is not the name itself. -/
def takeTypeWord : Parser source Bool := do
  let second ← peek
  let third := (← peekAt 2).1
  let fourth := (← peekAt 3).1
  let isMark :=
    if !(← atWord "type") || !(← isTyped) then false
    else if second.isWord "as" then
      if third.isWord "as" then fourth.isName else !third.isName
    else second.isName
  if isMark then bump
  return isMark

/-! ## Imports -/

/-- A name in braces; gives the name that it binds. -/
def importSpecifier : Parser source String := do
  discard takeTypeWord
  if (← peek).isWord "as" then
    discard clauseName
    expectWord "as"
    bindingName
  else bindingName

/-- A name for the whole module. -/
def namespaceImport : Parser source String := do
  expectMark "*"
  expectWord "as"
  bindingName

/-- Names in braces; gives the names that they bind. -/
def importSpecifiers : Parser source (List String) := do
  expectMark "\x7b"
  let names ← within nameList (separated "\x7d" true importSpecifier)
  expectMark "\x7d"
  return names

/-- What an import binds, up to the word `from`. -/
def importClause : Parser source (List String) := do
  let names ←
    if isBindingName (← token) then
      let first ← bindingName
      if ← eatMark "," then
        if ← atMark "*" then pure [first, ← namespaceImport]
        else if ← atMark "\x7b" then pure (first :: (← importSpecifiers))
        else fail
      else pure [first]
    else if ← atMark "*" then pure [← namespaceImport]
    else if ← atMark "\x7b" then importSpecifiers
    else pure []
  expectWord "from"
  return names

/-- Goes past a word that says how a module is imported. -/
def importPhase : Parser source Unit := do
  let (second, third) := (← peek, (← peekAt 2).1)
  if ← atWord "source" then
    if isBindingName second && third.isWord "from" then bump
  else if ← atWord "defer" then
    if second.isMark "*" then bump
  else if (← atWord "type") && (← isTyped) then
    let isWord :=
      if isBindingName second then !second.isWord "from" || third.isWord "from"
      else second.isMark "*" || second.isMark "\x7b"
    if isWord then bump

/-- An import. -/
def importRule : Parser source Form := do
  expectWord "import"
  let (second, third) := (← peek, (← peekAt 2).1)
  let isAlias := (isBindingName (← token) && second.isMark "=") ||
    ((← atWord "type") && isBindingName second && third.isMark "=")
  if (← isTyped) && isAlias then
    importAlias
    return .other
  importPhase
  let isBare :=
    match ← token with
    | .string _ => true
    | _ => false
  let locals ← if isBare then pure [] else importClause
  fromModule
  return .imports locals

/-! ## Exports -/

/-- A name in braces that is given away. -/
structure ExportSpecifier where
  localName : String
  /-- The local name is written as a string. -/
  isString : Bool
  exported : String

/-- A name in braces, perhaps under another name. -/
def exportSpecifier : Parser source ExportSpecifier := do
  discard takeTypeWord
  let (localName, isString) ← clauseName
  if ← eatWord "as" then
    return { localName, isString, exported := (← clauseName).1 }
  return { localName, isString, exported := localName }

/-- The word by which a typed source exports types alone. -/
def eatTypeWord : Parser source Unit := do
  if ← isTyped then discard (eatWord "type")

/-- Names in braces, of this module or of another one. -/
def exportSpecifiers : Parser source Form := do
  eatTypeWord
  expectMark "\x7b"
  let specifiers ← within nameList (separated "\x7d" true exportSpecifier)
  expectMark "\x7d"
  let hasSource ←
    if ← eatWord "from" then pure (← token).isLiteral else pure false
  if hasSource then
    fromModule
    return .reExport (specifiers.map (·.exported))
  for specifier in specifiers do
    faultIf (specifier.isString || isReserved specifier.localName ||
      strictWords.contains specifier.localName)
  endStatement
  return .exportNames (specifiers.map fun s => (s.localName, s.exported))

/-- All names of another module, perhaps as one. -/
def exportAll : Parser source Form := do
  eatTypeWord
  expectMark "*"
  let exported ← if ← eatWord "as" then some <$> clauseName else pure none
  expectWord "from"
  fromModule
  return .reExport (exported.map (·.1)).toList

/-- The default export behind its words. -/
def exportDefault : Parser source Form := do
  expectWord "default"
  eatDecorators g
  let start ← startOffset
  let typed ← isTyped
  let (next, br) ← peekAt 1
  if ← atFunction then
    let head ← functionRule g false false
    return .exportDefaultDeclaration (← spanFrom start) head.name
  else if ← atWord "class" then
    let (name, span) ← classRule g start
    return .exportDefaultDeclaration span name
  else if typed && (← atWord "abstract") && next.isWord "class" && !br then
    bump
    let (name, span) ← classRule g start
    return .exportDefaultDeclaration span name
  else if typed && (← atWord "interface") && !br then
    interfaceRule g
    return .other
  else
    let e ← g.assignment
    endStatement
    return .exportDefaultExpression e.span

/-- An export. -/
def exportRule : Parser source Form := do
  expectWord "export"
  let typed ← isTyped
  let next ← peek
  if typed && (← atMark "=") then
    bump
    discard g.expression
    endStatement
    return .other
  else if typed && (← atWord "as") && next.isWord "namespace" then
    bump
    bump
    discard takeWord
    endStatement
    return .other
  else if ← atWord "default" then exportDefault g
  else if (← atMark "*") || ((← atWord "type") && next.isMark "*") then exportAll
  else if (← atMark "\x7b") || ((← atWord "type") && next.isMark "\x7b") then exportSpecifiers
  else
    eatDecorators g
    let d ← declarationWithWords g typed
    return .exportDeclaration d.span d.declared

end ChunkBridge.Script.Grammar
