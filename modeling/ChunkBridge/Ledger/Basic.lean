import ChunkBridge.Ledger.Candidate
import ChunkBridge.Script.Keyword
import Std.Data.TreeMap

/-!
# The ledger of names

Chunks are compiled one by one, so a name that several chunks share is decided here. Within a
scope the first request for a name issues the shortest candidate that is still free, and every
later request gives the same one back.
-/

namespace ChunkBridge

/-- The scope that all chunks of a build share. -/
def exportsScope : String := "exports"

/-- Global values whose names are never issued. -/
def globalNames : List String := ["Infinity", "NaN", "globalThis", "undefined"]

/-- Names that no scope issues. -/
def forbiddenNames : List String :=
  Script.reservedWords ++ Script.strictWords ++ globalNames

namespace Ledger

/-- The names of one scope. -/
structure Scope where
  /-- The issued name of each name asked for. -/
  issued : Std.TreeMap String String := {}
  /-- The name asked for, of each issued name. -/
  asked : Std.TreeMap String String := {}
  /-- Names that are kept from being issued. -/
  reserved : Std.TreeMap String Unit := {}
  /-- The index of the next candidate to look at. -/
  next : Nat := 0

namespace Scope

/-- The scope may issue the name. -/
def isFree (s : Scope) (name : String) : Bool :=
  !forbiddenNames.contains name && !s.reserved.contains name && !s.asked.contains name

/-- The index of the first free candidate from `n` on, looking at no more than `fuel`. -/
def search (s : Scope) : Nat → Nat → Nat
  | 0, n => n
  | fuel + 1, n => if s.isFree (candidate n) then n else search s fuel (n + 1)

/-- The index of the next free candidate. Only so many names can be taken that one more look
finds it. -/
def nextFree (s : Scope) : Nat :=
  s.search (forbiddenNames.length + s.reserved.size + s.asked.size) s.next

/-- The scope after it has issued its next free candidate for `name`. -/
def issue (s : Scope) (name : String) : Scope where
  issued := s.issued.insert name (candidate s.nextFree)
  asked := s.asked.insert (candidate s.nextFree) name
  reserved := s.reserved
  next := s.nextFree + 1

end Scope

/-- One decision: in `scope`, `name` is called `mangled`. -/
structure Entry where
  name : String
  mangled : String
  scope : String
deriving Repr, DecidableEq

end Ledger

/-- The names of a build. -/
structure Ledger where
  scopes : Std.TreeMap String Ledger.Scope := {}
  /-- Every decision, the latest first. -/
  latest : List Ledger.Entry := []

namespace Ledger

/-- The names of a scope; one that was never touched is empty. -/
def scope (ledger : Ledger) (name : String) : Scope := ledger.scopes.getD name {}

/-- The name issued for `name`, if any. -/
def issued? (ledger : Ledger) (name scope : String) : Option String :=
  (ledger.scope scope).issued[name]?

/-- The name that is called `name` in a scope, and the ledger that knows it. -/
def resolve (ledger : Ledger) (name scope : String) : String × Ledger :=
  match ledger.issued? name scope with
  | some mangled => (mangled, ledger)
  | none =>
    let names := ledger.scope scope
    let mangled := candidate names.nextFree
    (mangled,
      { scopes := ledger.scopes.insert scope (names.issue name)
        latest := ⟨name, mangled, scope⟩ :: ledger.latest })

/-- Keeps a name from being issued in a scope from now on. -/
def reserve (ledger : Ledger) (name scope : String) : Ledger :=
  let names := ledger.scope scope
  let names := { names with reserved := names.reserved.insert name () }
  { ledger with scopes := ledger.scopes.insert scope names }

/-- The name that an issued name stands for. -/
def asked? (ledger : Ledger) (mangled scope : String) : Option String :=
  (ledger.scope scope).asked[mangled]?

/-- Every decision, in the order they were made. -/
def entries (ledger : Ledger) : List Entry := ledger.latest.reverse

end Ledger
end ChunkBridge
