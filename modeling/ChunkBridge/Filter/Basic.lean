import ChunkBridge.Filter.Glob

/-!
# Filters

Which modules and chunks are touched: those that no pattern excludes and, if there are patterns
that include, one of those includes.
-/

namespace ChunkBridge
open Glob (Verdict)

/-- The patterns of what is included and excluded. -/
structure Filter where
  included : List String := []
  excluded : List String := []
deriving Repr, DecidableEq, Inhabited

namespace Filter

/-- The first verdict that is not `no`. -/
def orElse (first : Verdict) (second : Unit → Verdict) : Verdict :=
  match first with
  | .no => second ()
  | verdict => verdict

/-- The text with slashes for backslashes. -/
def withSlashes (text : String) : String :=
  String.ofList (text.toList.map fun c => if c == '\\' then '/' else c)

/-- What is behind the characters that a text begins with. -/
def behind? (start text : String) : Option String :=
  if start.toList.isPrefixOf text.toList then
    some (String.ofList (text.toList.drop start.length))
  else none

/-- The text begins with the characters of another one. -/
def beginsWith (text start : String) : Bool := start.toList.isPrefixOf text.toList

/-- A path below a directory. -/
def join (directory path : String) : String :=
  if directory.isEmpty || directory.toList.getLast? == some '/' then directory ++ path
  else directory ++ "/" ++ path

/-- A pattern that is relative is meant from a directory, unless it begins with `**`. -/
def anchored (cwd pattern : String) : String :=
  let pattern := withSlashes pattern
  if beginsWith pattern "**" || beginsWith pattern "/" then pattern else join cwd pattern

/-- The filter with patterns meant from a directory. -/
def ofPatterns (included excluded : List String) (cwd : String) : Filter where
  included := included.map (anchored cwd)
  excluded := excluded.map (anchored cwd)

/-- Whether a pattern matches an id, with or without the slash at its start; `**/` may stand for
no directory at all. -/
def matchesPattern (id pattern : String) : Verdict :=
  let relative := (behind? "/" id).getD id
  orElse (Glob.fits pattern id) fun _ =>
    orElse (Glob.fits pattern relative) fun _ =>
      match behind? "**/" pattern with
      | some rest => Glob.fits rest relative
      | none => .no

/-- Whether one of several patterns matches an id. -/
def matchesAny (id : String) : List String → Verdict
  | [] => .no
  | p :: ps => orElse (matchesPattern id p) fun _ => matchesAny id ps

/-- Whether the filter lets an id through. Ids with a NUL stand for no file and never pass. -/
def verdict (filter : Filter) (id : String) : Verdict :=
  if id.toList.contains '\x00' then .no
  else
    let id := withSlashes id
    match matchesAny id filter.excluded with
    | .yes => .no
    | .tooDeep => .tooDeep
    | .no => if filter.included.isEmpty then .yes else matchesAny id filter.included

end Filter
end ChunkBridge
