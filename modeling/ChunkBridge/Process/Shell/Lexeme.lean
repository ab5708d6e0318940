import ChunkBridge.Process.Shell.Command

/-!
# Lexemes of shell scripts
-/

namespace ChunkBridge.Shell

/-- The smallest unit of a script. -/
inductive Lexeme where
  | word (w : Word)
  | mark (text : String)
  /-- A redirection mark with the descriptor in front of it. -/
  | redirect (descriptor : Option Nat) (text : String)
deriving Repr, DecidableEq, Inhabited

/-- The character may begin the name of a variable. -/
def isNameStart (c : Char) : Bool := c.isAlpha || c == '_'

/-- The character may stand in the name of a variable. -/
def isNameChar (c : Char) : Bool := c.isAlphanum || c == '_'

/-- The character is the name of a parameter of its own. -/
def isSpecial (c : Char) : Bool := c.isDigit || c ∈ ['#', '@', '*', '$', '?', '!']

/-- The character ends an unquoted word. -/
def endsWord (c : Char) : Bool :=
  c ∈ [' ', '\t', '\n', ';', '&', '|', '<', '>', '(', ')']

/-- The name of a parameter at the start of a text. -/
def parameterName : List Char → Option (String × List Char)
  | c :: cs =>
    if isSpecial c then some (c.toString, cs)
    else if isNameStart c then
      some (String.ofList (c :: cs.takeWhile isNameChar), cs.dropWhile isNameChar)
    else none
  | [] => none

/-- What is cut from a parameter, up to the closing brace. -/
def trimmed : List Char → Option (Option Trim × List Char)
  | '\x7d' :: cs => some (none, cs)
  | c :: cs =>
    let longest := cs.head? == some c
    let cs := if longest then cs.drop 1 else cs
    match cs.span (· != '\x7d') with
    | (pattern, '\x7d' :: rest) =>
      if c == '#' || c == '%' then some (some ⟨c == '#', longest, pattern⟩, rest) else none
    | _ => none
  | [] => none

/-- The parameter behind a dollar sign; none if the sign stands for itself. -/
def parameter? (quoted : Bool) : List Char → Option (Part × List Char)
  | '\x7b' :: cs => do
    let (name, cs) ← parameterName cs
    let (trim, cs) ← trimmed cs
    return (.parameter name trim quoted, cs)
  | cs => (parameterName cs).map fun (name, cs) => (.parameter name none quoted, cs)

/-- Reads a word to its end; none if a quote is left open. Every step but the last takes a
character, so one more than there are is enough `fuel`. -/
def readWord : Nat → Bool → List Char → Option (Word × List Char)
  | 0, _, _ => none
  | fuel + 1, quoted, cs =>
    let go (quoted : Bool) (parts : Word) (cs : List Char) : Option (Word × List Char) :=
      (readWord fuel quoted cs).map fun (w, rest) => (parts ++ w, rest)
    match cs with
    | [] => if quoted then none else some ([], [])
    | '"' :: cs => go (!quoted) [.blank] cs
    | '\\' :: c :: cs =>
      if c == '\n' then go quoted [] cs
      else if quoted && !(c ∈ ['$', '\x60', '"', '\\']) then
        go quoted [.char '\\' true, .char c true] cs
      else go quoted [.char c true] cs
    | '$' :: cs =>
      match parameter? quoted cs with
      | some (part, cs) => go quoted [part] cs
      | none => go quoted [.char '$' quoted] cs
    | c :: cs =>
      if quoted then go true [.char c true] cs
      else if c == '\'' then
        match cs.span (· != '\'') with
        | (text, '\'' :: cs) => go false (.blank :: text.map (.char · true)) cs
        | _ => none
      else if endsWord c then some ([], c :: cs)
      else go false [.char c false] cs

/-- The text of a word that is all unquoted characters. -/
def Word.bare? (w : Word) : Option String :=
  String.ofList <$> w.mapM fun
    | .char c false => some c
    | _ => none

/-- The marks of a script, the longer first. -/
def marks : List String := [";;", "&&", "||", ";", "&", "|", "(", ")", "\n"]

/-- The marks of a redirection, the longer first. -/
def redirectMarks : List String := [">>", ">&", ">", "<"]

/-- The first of some texts that the characters begin with. -/
def firstMark (texts : List String) (cs : List Char) : Option String :=
  texts.find? fun text => text.toList.isPrefixOf cs

/-- The lexemes of a script; none if a quote is left open. Every step takes a character and passes
its `fuel` on to the reader of words, so two more than there are is enough. -/
def lexemes : Nat → List Char → Option (List Lexeme)
  | 0, _ => none
  | fuel + 1, cs =>
    match cs with
    | [] => some []
    | c :: rest =>
      if c == ' ' || c == '\t' then lexemes fuel rest
      else if c == '#' then lexemes fuel (rest.dropWhile (· != '\n'))
      else
        match firstMark redirectMarks cs, firstMark marks cs with
        | some mark, _ =>
          (lexemes fuel (cs.drop mark.length)).map (.redirect none mark :: ·)
        | none, some mark => (lexemes fuel (cs.drop mark.length)).map (.mark mark :: ·)
        | none, none => do
          let (w, rest) ← readWord fuel false cs
          let more ← lexemes fuel rest
          let follows := rest.head? == some '>' || rest.head? == some '<'
          return match w, more with
            | [.char d false], .redirect none mark :: more =>
              if follows && d.isDigit then .redirect (some (d.toNat - 48)) mark :: more
              else .word w :: .redirect none mark :: more
            | w, more => .word w :: more

end ChunkBridge.Shell
