/-!
# Keywords

The words with a meaning of their own. Reserved words can never be names; contextual words are
names except where the grammar gives them a role.
-/

namespace ChunkBridge.Script

/-- Words that no binding may use. -/
def reservedWords : List String := [
  "await", "break", "case", "catch", "class", "const", "continue", "debugger", "default",
  "delete", "do", "else", "enum", "export", "extends", "false", "finally", "for", "function",
  "if", "import", "in", "instanceof", "new", "null", "return", "super", "switch", "this",
  "throw", "true", "try", "typeof", "var", "void", "while", "with", "yield"]

/-- Words that strict code keeps for later use. -/
def strictWords : List String := [
  "implements", "interface", "let", "package", "private", "protected", "public", "static"]

/-- Words with a role in certain places only. -/
def contextualWords : List String := [
  "async", "from", "get", "meta", "of", "set", "target", "accessor", "source", "defer",
  "abstract", "as", "asserts", "assert", "any", "boolean", "constructor", "declare", "infer",
  "intrinsic", "is", "keyof", "module", "namespace", "never", "out", "readonly", "require",
  "number", "object", "satisfies", "string", "symbol", "type", "undefined", "unique", "using",
  "unknown", "global", "bigint", "override"]

/-- No binding may use the word. -/
def isReserved (word : String) : Bool := reservedWords.contains word

/-- The word has a role somewhere. -/
def isKeyword (word : String) : Bool :=
  reservedWords.contains word || strictWords.contains word || contextualWords.contains word

end ChunkBridge.Script
