import ChunkBridge.Compile.Compiler
import ChunkBridge.Text.Search

/-!
# Scripted compilers

A compiler that follows a script instead of optimizing, to rehearse what a build does with the
answers of a compiler.
-/

namespace ChunkBridge

/-- What a scripted compiler does. -/
structure CompilerScript where
  /-- The error that it ends with. -/
  failure : Option String := none
  /-- What it leaves where its source map belongs. -/
  map : MapFile :=
    .text "\x7b\"version\":3,\"sources\":[\"input.js\"],\"names\":[],\"mappings\":\"AAAA\"\x7d"
  /-- The text that it starts from; the script it is given if there is none. -/
  code : Option String := none
  /-- Texts that it replaces, in order. -/
  replacements : List (String × String) := []
  /-- What it puts in front and behind. -/
  front : String := ""
  back : String := ""
deriving Repr, DecidableEq, Inhabited

namespace CompilerScript

/-- The text that a scripted compiler makes of another one. -/
def revise (script : CompilerScript) (code : String) : String :=
  let replaced := script.replacements.foldl
    (fun cs (sought, text) => Text.replaceAll sought.toList text.toList cs) code.toList
  script.front ++ String.ofList replaced ++ script.back

/-- The compiler that follows a script. -/
def compiler (script : CompilerScript) : Compiler := fun invocation =>
  match script.failure with
  | some message => { code := .error ⟨message, []⟩ }
  | none =>
    { code := .ok (script.revise (script.code.getD invocation.code))
      map := script.map }

end CompilerScript
end ChunkBridge
