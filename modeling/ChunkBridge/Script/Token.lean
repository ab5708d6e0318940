/-!
# Tokens

What the grammar reads. A token keeps the decoded text of a name or string; where it stands in
the source is the reader's business.
-/

namespace ChunkBridge.Script

inductive Token where
  /-- The end of the source. -/
  | finish
  /-- A name or keyword, and whether it was written with an escape. -/
  | word (text : String) (escaped : Bool)
  /-- A name after a hash. -/
  | privateName (text : String)
  /-- An operator or bracket. -/
  | mark (text : String)
  | number
  | bigint
  | string (value : String)
  /-- A piece of a template: whether it is the first, whether it is the last, and whether its
  escapes are valid. -/
  | template (isFirst isLast isValid : Bool)
  | regex
  /-- The text between two tags of an element. -/
  | elementText
  /-- Characters that begin no token. -/
  | bad
deriving Repr, DecidableEq, Inhabited

namespace Token

/-- The token is this operator or bracket. -/
def isMark (token : Token) (text : String) : Bool :=
  match token with
  | .mark other => other == text
  | _ => false

/-- The token is this word, however it is written. -/
def isWord (token : Token) (text : String) : Bool :=
  match token with
  | .word other _ => other == text
  | _ => false

/-- The token is a name or keyword. -/
def isName (token : Token) : Bool :=
  match token with
  | .word .. => true
  | _ => false

/-- The token is a word with at least one character. -/
def hasText (token : Token) : Bool :=
  match token with
  | .word text _ => text != ""
  | _ => false

/-- The token was written with an escape. -/
def isEscaped (token : Token) : Bool :=
  match token with
  | .word _ escaped => escaped
  | _ => false

/-- The token begins a template. -/
def isTemplateStart (token : Token) : Bool :=
  match token with
  | .template isFirst _ _ => isFirst
  | _ => false

/-- The token is a literal number, string, regular expression or one of the words for a value. -/
def isLiteral (token : Token) : Bool :=
  match token with
  | .number | .bigint | .string _ | .regex => true
  | .word text _ => text == "null" || text == "true" || text == "false"
  | _ => false

/-- The token can be the name of an object or class member. -/
def isMemberNameStart (token : Token) : Bool :=
  match token with
  | .word .. | .privateName _ | .string _ | .number | .bigint => true
  | .mark text => text == "["
  | _ => false

end Token
end ChunkBridge.Script
