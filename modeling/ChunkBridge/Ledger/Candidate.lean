/-!
# Candidate names

Every identifier over a small alphabet, in order of length: a first character that is no digit,
then characters that may be. `candidate n` is the name with index `n`.
-/

namespace ChunkBridge.Ledger

/-- Characters that a candidate may begin with. -/
def firstChars : List Char :=
  "abcdefghijklmnopqrstuvwxyzABCDEFGHIJKLMNOPQRSTUVWXYZ_$".toList

/-- Characters that a candidate may go on with. -/
def restChars : List Char :=
  "abcdefghijklmnopqrstuvwxyzABCDEFGHIJKLMNOPQRSTUVWXYZ0123456789_$".toList

/-- The first character of the candidate with index `n`. -/
def firstChar (n : Nat) : Char := firstChars.getD (n % 54) 'a'

/-- The further characters: the texts over `restChars` in order of length, where the first
character changes fastest. -/
def restOf : Nat → List Char
  | 0 => []
  | n + 1 => restChars.getD (n % 64) 'a' :: restOf (n / 64)
decreasing_by exact Nat.lt_succ_of_le (Nat.div_le_self n 64)

/-- The candidate with index `n`: `a`, `b`, … `$`, `aa`, `ba`, …. -/
def candidate (n : Nat) : String := String.ofList (firstChar n :: restOf (n / 54))

end ChunkBridge.Ledger
