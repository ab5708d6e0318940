import ChunkBridge.Config.Options
import ChunkBridge.Text.Quoted

/-!
# Options for people to read
-/

namespace ChunkBridge
open ChunkBridge.Text

/-- A value between parentheses behind a word. -/
def shownAs (word value : String) : String := word ++ "(" ++ value ++ ")"

/-- The value of a flag for people to read. -/
def FlagValue.shown : FlagValue → String
  | .bool value => shownAs "Bool" (toString value)
  | .number value => shownAs "Number" (toString value)
  | .text value => shownAs "String" (Text.shown value)
  | .list values => shownAs "List" (shownList values)

/-- Flags for people to read. -/
def Flags.shown (flags : Flags) : String :=
  let entries := flags.entries.map fun (key, value) => Text.shown key ++ ": " ++ value.shown
  shownAs "CompileOptions" ("\x7b" ++ ", ".intercalate entries ++ "\x7d")

/-- Patterns for people to read. -/
def Patterns.shown : Patterns → String
  | .one pattern => shownAs "One" (Text.shown pattern)
  | .many patterns => shownAs "Many" (shownList patterns)

/-- Patterns that may be missing, for people to read. -/
def shownPatterns : Option Patterns → String
  | some patterns => shownAs "Some" patterns.shown
  | none => "None"

/-- Options for people to read. -/
def Options.shown (options : Options) : String :=
  "ClosureCompilerOptions \x7b include: " ++ shownPatterns options.include? ++ ", exclude: " ++
    shownPatterns options.exclude? ++ ", compile: " ++ Flags.shown options.flags ++ " \x7d"

end ChunkBridge
