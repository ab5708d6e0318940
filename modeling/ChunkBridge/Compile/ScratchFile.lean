/-!
# Scratch files

Files that a build makes for its compiler. A build numbers them, so two of them are one file
exactly when they have the same number.
-/

namespace ChunkBridge

/-- A script that was written for the compiler. -/
structure ScratchFile where
  number : Nat
  contents : String
deriving Repr, DecidableEq, Inhabited

namespace ScratchFile

/-- The directory of scratch files and the start of their names. -/
def stem : String := "/tmp/closure-compiler-"

/-- Where the file is. -/
def path (file : ScratchFile) : String := stem ++ toString file.number ++ ".js"

/-- Where the source map with a number is. -/
def mapPath (number : Nat) : String := stem ++ toString number ++ ".map"

end ScratchFile
end ChunkBridge
