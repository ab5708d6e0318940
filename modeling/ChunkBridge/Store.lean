import ChunkBridge.Compile.ScratchFile
import ChunkBridge.Text.Quoted
import Std.Data.TreeMap

/-!
# The store of records

What one stage of a build leaves for another, under a key that names it. A record has one of a
few types, and a reader that asks for another type finds nothing. `get?_set` and `get?_remove` say
what a write does to what is read, `record?_set` and `record?_remove` what it does to the records.
-/

namespace ChunkBridge

/-- The part of a build that writes a record. -/
inductive Phase where
  | source
  | chunk
deriving Repr, DecidableEq, Inhabited

/-- What a record holds. -/
inductive Payload where
  | text (value : String)
  | number (value : Int)
  | names (value : List String)
  /-- A file that holds externs. -/
  | externsFile (value : ScratchFile)
deriving Repr, DecidableEq, Inhabited

/-- A type of payload, with the way to find a value of it. -/
class PayloadType (α : Type) where
  wrap : α → Payload
  unwrap? : Payload → Option α
  unwrap?_wrap : ∀ value, unwrap? (wrap value) = some value

instance : PayloadType String where
  wrap := .text
  unwrap?
    | .text value => some value
    | _ => none
  unwrap?_wrap _ := rfl

instance : PayloadType Int where
  wrap := .number
  unwrap?
    | .number value => some value
    | _ => none
  unwrap?_wrap _ := rfl

instance : PayloadType (List String) where
  wrap := .names
  unwrap?
    | .names value => some value
    | _ => none
  unwrap?_wrap _ := rfl

instance : PayloadType ScratchFile where
  wrap := .externsFile
  unwrap?
    | .externsFile value => some value
    | _ => none
  unwrap?_wrap _ := rfl

structure Record where
  payload : Payload
  phase : Phase
deriving Repr, DecidableEq, Inhabited

/-- The records of a build. -/
structure Store where
  records : Std.TreeMap String Record := {}

namespace Store
variable {α : Type} [PayloadType α]

/-- The value under a key, if it has the type asked for. -/
def get? (store : Store) (α : Type) [PayloadType α] (key : String) : Option α :=
  store.records[key]?.bind fun record => PayloadType.unwrap? record.payload

/-- Writes a record; what was under the key is gone. -/
def set (store : Store) (key : String) (value : α) (phase : Phase) : Store :=
  { records := store.records.insert key ⟨PayloadType.wrap value, phase⟩ }

theorem get?_set (store : Store) (key name : String) (value : α) (phase : Phase) :
    (store.set key value phase).get? α name =
      if key = name then some value else store.get? α name := by
  by_cases h : key = name
  · subst h
    simp [get?, set, PayloadType.unwrap?_wrap]
  · simp [get?, set, Std.TreeMap.getElem?_insert, h]

/-- A write leaves every other key alone, whatever type is asked for there. -/
theorem get?_set_of_ne {β : Type} [PayloadType β] (store : Store) {key name : String}
    (h : key ≠ name) (value : β) (phase : Phase) :
    (store.set key value phase).get? α name = store.get? α name := by
  simp [get?, set, Std.TreeMap.getElem?_insert, h]

/-- A value under a key, and whether it had to be computed. -/
structure Fetched (α : Type) where
  value : α
  computed : Bool
  store : Store

/-- The value under a key. If there is none of its type, `compute` makes one; it may use the
store itself, and a value that it leaves under the key wins over the one it gives. -/
def getOrInsertWith (store : Store) (key : String) (phase : Phase)
    (compute : Store → α × Store) : Fetched α :=
  match store.get? α key with
  | some value => ⟨value, false, store⟩
  | none =>
    let (value, store) := compute store
    match store.get? α key with
    | some existing => ⟨existing, true, store⟩
    | none => ⟨value, true, store.set key value phase⟩

/-- What is computed without a look at the store is written if there was nothing of its type. -/
theorem getOrInsertWith_of_idle (store : Store) (key : String) (phase : Phase) (value : α) :
    store.getOrInsertWith key phase (fun store => (value, store)) =
      match store.get? α key with
      | some known => ⟨known, false, store⟩
      | none => ⟨value, true, store.set key value phase⟩ := by
  unfold getOrInsertWith
  cases known : store.get? α key with
  | some known => rfl
  | none => simp only [known]

/-- Drops the record under a key. -/
def remove (store : Store) (key : String) : Store :=
  { records := store.records.erase key }

theorem get?_remove (store : Store) (key name : String) :
    (store.remove key).get? α name = if key = name then none else store.get? α name := by
  by_cases h : key = name
  · simp [get?, remove, h]
  · simp [get?, remove, Std.TreeMap.getElem?_erase, h]

/-- The record under a key, whatever it holds. -/
def record? (store : Store) (key : String) : Option Record := store.records[key]?

theorem record?_set (store : Store) (key name : String) (value : α) (phase : Phase) :
    (store.set key value phase).record? name =
      if key = name then some ⟨PayloadType.wrap value, phase⟩ else store.record? name := by
  simp [record?, set, Std.TreeMap.getElem?_insert]

theorem record?_remove (store : Store) (key name : String) :
    (store.remove key).record? name = if key = name then none else store.record? name := by
  simp [record?, remove, Std.TreeMap.getElem?_erase]

/-- What is read under a key is told by the record there. -/
theorem get?_of_record? {before after : Store} {key : String}
    (same : after.record? key = before.record? key) : after.get? α key = before.get? α key := by
  unfold record? at same
  rw [get?, get?, same]

/-- The part of the build that wrote the record under a key. -/
def phase? (store : Store) (key : String) : Option Phase :=
  store.records[key]?.map Record.phase

/-- There is a record under the key, of whatever type. -/
def contains (store : Store) (key : String) : Bool := store.records.contains key

def size (store : Store) : Nat := store.records.size

/-- The keys of the store in order, for people to read. -/
def shown (store : Store) : String :=
  "Memory \x7b keys: " ++ Text.shownList store.records.keys ++ " \x7d"

end Store
end ChunkBridge
