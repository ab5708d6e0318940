/-!
# Shell commands

The commands of the shell that may stand in for a compiler: words with parameters in them, simple
commands, lists, loops, choices and redirections.
-/

namespace ChunkBridge.Shell

/-- What is cut from the value of a parameter: the shortest or longest match of a pattern at one
of its ends. -/
structure Trim where
  fromFront : Bool
  longest : Bool
  pattern : List Char
deriving Repr, DecidableEq, Inhabited

/-- A part of a word. -/
inductive Part where
  | char (c : Char) (quoted : Bool)
  /-- An empty quoted text, which still makes a word. -/
  | blank
  | parameter (name : String) (trim : Option Trim) (quoted : Bool)
deriving Repr, DecidableEq, Inhabited

abbrev Word := List Part

/-- Where the output of a command goes. -/
inductive Redirection where
  /-- To a file, which may keep what it holds. -/
  | toFile (descriptor : Nat) (appends : Bool) (target : Word)
  /-- Where another output goes. -/
  | copy (descriptor source : Nat)
  /-- Input from a file. -/
  | fromFile (source : Word)
deriving Repr, DecidableEq, Inhabited

/-- A command. -/
inductive Command where
  | skip
  /-- Variables that are set, or else the words of a call. -/
  | simple (assignments : List (String × Word)) (words : List Word)
  | sequence (first second : Command)
  | both (first second : Command)
  | either (first second : Command)
  | negation (command : Command)
  /-- A loop over words, or over the arguments. -/
  | loop (name : String) (words : Option (List Word)) (body : Command)
  /-- If the word matches one of the patterns, the body, else the rest. -/
  | choice (subject : Word) (patterns : List Word) (body rest : Command)
  | conditional (condition yes no : Command)
  | redirected (command : Command) (redirections : List Redirection)
deriving Repr, Inhabited

end ChunkBridge.Shell
