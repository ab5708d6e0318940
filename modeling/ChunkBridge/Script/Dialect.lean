/-!
# Dialects

Which syntax a source may use. A module id decides by its file extension; a chunk is plain
JavaScript and differs only in whether it is a module.
-/

namespace ChunkBridge.Script

/-- The statements and annotations that a source may hold. -/
inductive Language where
  /-- JavaScript. -/
  | plain
  /-- TypeScript. -/
  | typed
  /-- TypeScript declarations, where nothing has a body. -/
  | declarations
deriving Repr, DecidableEq, Inhabited

/-- What a source may use. -/
structure Dialect where
  language : Language := .plain
  /-- Whether `<a/>` is an expression. -/
  hasElements : Bool := false
  /-- Whether `await` is an operator at the top level. -/
  isModule : Bool := true
deriving Repr, DecidableEq, Inhabited

namespace Dialect

/-- Type annotations are allowed. -/
def isTyped (dialect : Dialect) : Bool := dialect.language != .plain

/-- The texts between the occurrences of a character. -/
def splitAt (separator : Char) (text : String) : List String :=
  (text.toList.splitOn separator).map String.ofList

/-- The last name of a slash-separated path; a path that ends in `..` or holds no name has
none. -/
def fileName? (path : String) : Option String :=
  let parts := (splitAt '/' path).filter (fun part => part != "" && part != ".")
  match parts.getLast? with
  | some ".." => none
  | other => other

/-- What follows the last dot of a file name that does not begin with that dot. -/
def extension? (name : String) : Option String :=
  match (splitAt '.' name).reverse with
  | last :: before :: more => if more.isEmpty && before == "" then none else some last
  | _ => none

/-- TypeScript, or declarations if the file name ends with what stands for these. -/
def typedOr (declarations name : String) : Language :=
  if declarations.toList.isSuffixOf name.toList then .declarations else .typed

/-- The dialect of a module id: plain modules unless the extension says otherwise. -/
def ofId (id : String) : Dialect :=
  match fileName? id with
  | none => {}
  | some name =>
    match extension? name with
    | some "js" | some "mjs" | some "jsx" => { hasElements := true }
    | some "cjs" => { hasElements := true, isModule := false }
    | some "tsx" => { language := .typed, hasElements := true }
    | some "ts" => { language := typedOr ".d.ts" name }
    | some "mts" => { language := typedOr ".d.mts" name }
    | some "cts" => { language := typedOr ".d.cts" name, isModule := false }
    | _ => {}

end Dialect
end ChunkBridge.Script
