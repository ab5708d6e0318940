/-!
# Finding texts in texts
-/

namespace ChunkBridge.Text

/-- The text holds another one. -/
def hasInfix (sought : List Char) : List Char → Bool
  | [] => sought.isEmpty
  | c :: cs => sought.isPrefixOf (c :: cs) || hasInfix sought cs

/-- Puts a text in the place of each occurrence of another, from the left; `skip` characters
belong to an occurrence that was found before. -/
def replaceFrom (sought replacement : List Char) : Nat → List Char → List Char
  | _, [] => []
  | skip + 1, _ :: cs => replaceFrom sought replacement skip cs
  | 0, c :: cs =>
    if sought.isPrefixOf (c :: cs) then
      replacement ++ replaceFrom sought replacement (sought.length - 1) cs
    else c :: replaceFrom sought replacement 0 cs

/-- Puts a text in the place of each occurrence of another. The empty text occurs between all
characters and at both ends. -/
def replaceAll (sought replacement cs : List Char) : List Char :=
  if sought.isEmpty then replacement ++ cs.flatMap fun c => c :: replacement
  else replaceFrom sought replacement 0 cs

end ChunkBridge.Text
