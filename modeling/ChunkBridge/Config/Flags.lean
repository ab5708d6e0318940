import ChunkBridge.Config.Table

/-!
# Compiler flags

The flags of one compiler run, by name, in the order in which they were first given, and what
some of them mean.
-/

namespace ChunkBridge

/-- The value of a flag. -/
inductive FlagValue where
  | bool (value : Bool)
  | number (value : Int)
  | text (value : String)
  /-- A flag that is given once for each value. -/
  | list (values : List String)
deriving Repr, DecidableEq, Inhabited

namespace FlagValue

/-- The text of a flag that is a text. -/
def text? : FlagValue → Option String
  | .text value => some value
  | _ => none

/-- Every value of the flag, one for each time it is given on the command line. -/
def values : FlagValue → List String
  | .bool value => [toString value]
  | .number value => [toString value]
  | .text value => [value]
  | .list values => values

/-- The values for people to read. -/
def display (value : FlagValue) : String := ",".intercalate value.values

end FlagValue

/-- The flags of a run by name. -/
abbrev Flags := Table FlagValue

namespace Flags

/-- The text of a flag, if it is one. -/
def text? (flags : Flags) (key : String) : Option String := (flags.get? key).bind FlagValue.text?

/-- The command line. A flag that is true stands alone. -/
def arguments (flags : Flags) : List String :=
  flags.entries.flatMap fun (key, value) =>
    match value with
    | .bool true => ["--" ++ key]
    | value => value.values.map fun v => "--" ++ key ++ "=" ++ v

/-! ## Flags with a meaning -/

def compilationLevel : String := "compilation_level"
def warningLevel : String := "warning_level"
def languageOut : String := "language_out"
def externsFlag : String := "externs"
def advancedOptimizations : String := "ADVANCED_OPTIMIZATIONS"
def verbose : String := "VERBOSE"
def noTranspile : String := "NO_TRANSPILE"

/-- The strongest optimizations are asked for. -/
def isAdvanced (flags : Flags) : Bool := flags.text? compilationLevel == some advancedOptimizations

/-- Every warning is asked for. -/
def isVerbose (flags : Flags) : Bool := flags.text? warningLevel == some verbose

/-- The files with externs. -/
def externs (flags : Flags) : List String := ((flags.get? externsFlag).map FlagValue.values).getD []

/-- Why flags cannot be used. -/
inductive Conflict where
  /-- All warnings are errors, so the language they are about has to be given. -/
  | verboseWithoutLanguage
  /-- All warnings are errors, and no language is checked. -/
  | verboseWithoutTranspiling
deriving Repr, DecidableEq

/-- The wording of a conflict. -/
def Conflict.message : Conflict → String
  | .verboseWithoutLanguage =>
    "\x60warning_level: VERBOSE\x60 requires \x60language_out\x60 to be set"
  | .verboseWithoutTranspiling =>
    "\x60warning_level: VERBOSE\x60 can't be combined with \x60language_out: NO_TRANSPILE\x60"

/-- What keeps the flags from being used, if anything. -/
def conflict? (flags : Flags) : Option Conflict :=
  if !flags.isVerbose then none
  else
    match flags.text? languageOut with
    | none => some .verboseWithoutLanguage
    | some language => if language == noTranspile then some .verboseWithoutTranspiling else none

end Flags
end ChunkBridge
