/-!
# Ordered tables

Named values in the order in which their names were first given. Setting a value again keeps its
place, so no name is there twice. `get?_set` and `keys_set` say what a write does to the values
and to the order of the names, `get?_setDefault` and `keys_setDefault` what a default does, and
`get?_ofList` and `keys_ofList` what comes of a list in which names are repeated.
-/

namespace ChunkBridge

/-- Named values in the order of their first mention. -/
structure Table (α : Type) where
  entries : List (String × α) := []
  /-- No name is there twice. -/
  distinct : (entries.map Prod.fst).Nodup := by simp
deriving Repr, DecidableEq

namespace Table
variable {α β : Type}

instance : Inhabited (Table α) := ⟨{}⟩

/-- The names in order. -/
def keys (t : Table α) : List String := t.entries.map Prod.fst

/-- The value with a name. -/
def get? (t : Table α) (key : String) : Option α := t.entries.lookup key

def contains (t : Table α) (key : String) : Bool := (t.get? key).isSome

def size (t : Table α) : Nat := t.entries.length

/-- Puts a value in the place of the one with the same name, or last. -/
def put (key : String) (value : α) : List (String × α) → List (String × α)
  | [] => [(key, value)]
  | (k, v) :: rest => if k == key then (key, value) :: rest else (k, v) :: put key value rest

theorem map_fst_put (key : String) (value : α) (entries : List (String × α)) :
    (put key value entries).map Prod.fst =
      if key ∈ entries.map Prod.fst then entries.map Prod.fst
      else entries.map Prod.fst ++ [key] := by
  induction entries with
  | nil => simp [put]
  | cons e es ih =>
    obtain ⟨k, v⟩ := e
    by_cases h : k = key
    · simp [put, h]
    · have h' : key ≠ k := fun e => h e.symm
      rw [put, if_neg (by simpa using h)]
      simp only [List.map_cons, ih, List.mem_cons, h', false_or]
      split <;> rfl

theorem nodup_put {key : String} (value : α) {entries : List (String × α)}
    (h : (entries.map Prod.fst).Nodup) : ((put key value entries).map Prod.fst).Nodup := by
  rw [map_fst_put]
  split
  · exact h
  · next hk => simpa [List.nodup_append, h] using fun a b hab e => hk (by simpa using ⟨b, e ▸ hab⟩)

/-- Sets a value. -/
def set (t : Table α) (key : String) (value : α) : Table α :=
  ⟨put key value t.entries, nodup_put value t.distinct⟩

/-- Sets a value unless there is one. -/
def setDefault (t : Table α) (key : String) (value : α) : Table α :=
  if t.contains key then t else t.set key value

/-- Drops a value. -/
def remove (t : Table α) (key : String) : Table α where
  entries := t.entries.filter fun entry => entry.1 != key
  distinct := t.distinct.sublist (List.filter_sublist.map _)

/-- The table of a list in which a name may be repeated: the last value counts. -/
def ofList (entries : List (String × α)) : Table α :=
  entries.foldl (fun t entry => t.set entry.1 entry.2) {}

/-- The table with other values under the same names. -/
def map (f : α → β) (t : Table α) : Table β where
  entries := t.entries.map fun entry => (entry.1, f entry.2)
  distinct := by simpa [List.map_map, Function.comp_def] using t.distinct

theorem keys_set (t : Table α) (key : String) (value : α) :
    (t.set key value).keys = if key ∈ t.keys then t.keys else t.keys ++ [key] :=
  map_fst_put key value t.entries

theorem lookup_put (key name : String) (value : α) (entries : List (String × α)) :
    (put key value entries).lookup name =
      if name = key then some value else entries.lookup name := by
  induction entries with
  | nil =>
    by_cases h : name = key
    · simp [put, h]
    · have hb : (name == key) = false := by simpa using h
      simp [put, List.lookup_cons, h, hb]
  | cons e es ih =>
    obtain ⟨k, v⟩ := e
    by_cases hk : k = key
    · subst hk
      by_cases h : name = k
      · simp [put, h]
      · have hb : (name == k) = false := by simpa using h
        simp [put, List.lookup_cons, h, hb]
    · rw [put, if_neg (by simpa using hk)]
      by_cases h : name = k
      · subst h
        simp [hk]
      · have hb : (name == k) = false := by simpa using h
        simp [List.lookup_cons, hb, ih]

theorem get?_set (t : Table α) (key name : String) (value : α) :
    (t.set key value).get? name = if name = key then some value else t.get? name :=
  lookup_put key name value t.entries

/-- One more entry is set last. -/
theorem ofList_concat (entries : List (String × α)) (key : String) (value : α) :
    ofList (entries ++ [(key, value)]) = (ofList entries).set key value := by
  simp [ofList]

/-- The names of a list stand in the order of their first mention. -/
theorem keys_ofList (entries : List (String × α)) :
    (ofList entries).keys = (entries.map Prod.fst).eraseDups := by
  suffices reversed : ∀ back : List (String × α),
      (ofList back.reverse).keys = (back.reverse.map Prod.fst).eraseDups by
    simpa using reversed entries.reverse
  intro back
  induction back with
  | nil => rfl
  | cons entry back ih =>
    rw [List.reverse_cons, ofList_concat, keys_set, ih, List.map_append, List.eraseDups_append]
    by_cases known : entry.1 ∈ back.reverse.map Prod.fst <;>
      simp_all [List.removeAll, List.eraseDups_cons]

/-- The last value counts. -/
theorem get?_ofList (entries : List (String × α)) (name : String) :
    (ofList entries).get? name = entries.reverse.lookup name := by
  suffices reversed : ∀ back : List (String × α),
      (ofList back.reverse).get? name = back.lookup name by
    simpa using reversed entries.reverse
  intro back
  induction back with
  | nil => rfl
  | cons entry back ih =>
    obtain ⟨key, value⟩ := entry
    rw [List.reverse_cons, ofList_concat, get?_set, ih, List.lookup_cons]
    by_cases same : name = key
    · simp [same]
    · have differ : (name == key) = false := by simpa using same
      simp [same, differ]

/-- A value is found under a name exactly when it stands there. -/
theorem get?_eq_some_iff {t : Table α} {key : String} {value : α} :
    t.get? key = some value ↔ (key, value) ∈ t.entries := by
  rw [get?, List.lookup_eq_some_iff]
  constructor
  · rintro ⟨front, back, split, -⟩
    simp [split]
  · intro member
    obtain ⟨front, back, split⟩ := List.append_of_mem member
    have distinct := t.distinct
    rw [split, List.map_append, List.nodup_append] at distinct
    refine ⟨front, back, split, fun entry before => ?_⟩
    have other := distinct.2.2 entry.1 (List.mem_map_of_mem before) key (by simp)
    simpa using Ne.symm other

theorem get?_remove_eq_some_iff {t : Table α} {key name : String} {value : α} :
    (t.remove key).get? name = some value ↔ t.get? name = some value ∧ name ≠ key := by
  rw [get?_eq_some_iff, get?_eq_some_iff]
  simp [remove]

theorem contains_iff {t : Table α} {key : String} : t.contains key = true ↔ key ∈ t.keys := by
  rw [contains, Option.isSome_iff_exists]
  simp [get?_eq_some_iff, keys]

theorem keys_setDefault (t : Table α) (key : String) (value : α) :
    (t.setDefault key value).keys = if key ∈ t.keys then t.keys else t.keys ++ [key] := by
  by_cases member : key ∈ t.keys
  · rw [setDefault, if_pos (contains_iff.mpr member), if_pos member]
  · rw [setDefault, if_neg (mt contains_iff.mp member), keys_set]

theorem get?_setDefault (t : Table α) (key name : String) (value : α) :
    (t.setDefault key value).get? name =
      (t.get? name).or (if name = key then some value else none) := by
  by_cases same : name = key
  · subst same
    cases known : t.get? name with
    | some own => simp [setDefault, contains, known]
    | none => simp [setDefault, contains, known, get?_set]
  · rw [setDefault]
    split <;> simp [get?_set, same]

/-- Of several defaults for a name the first one counts. -/
theorem get?_foldl_setDefault (f : β → α) (defaults : List (String × β)) (t : Table α)
    (name : String) :
    (defaults.foldl (fun t entry => t.setDefault entry.1 (f entry.2)) t).get? name =
      (t.get? name).or ((defaults.lookup name).map f) := by
  induction defaults generalizing t with
  | nil => simp
  | cons entry defaults ih =>
    obtain ⟨key, value⟩ := entry
    rw [List.foldl_cons, ih, get?_setDefault, Option.or_assoc]
    by_cases same : name = key
    · simp [same]
    · have differ : (name == key) = false := by simpa using same
      simp [List.lookup_cons, same, differ]

theorem map_put (f : α → β) (key : String) (value : α) (entries : List (String × α)) :
    (put key value entries).map (fun entry => (entry.1, f entry.2)) =
      put key (f value) (entries.map fun entry => (entry.1, f entry.2)) := by
  induction entries with
  | nil => rfl
  | cons e es ih =>
    obtain ⟨k, v⟩ := e
    by_cases h : (k == key) = true
    · simp [put, h]
    · simp [put, h, ih]

theorem keys_map (f : α → β) (t : Table α) : (t.map f).keys = t.keys := by
  simp [keys, map]

theorem map_set (f : α → β) (t : Table α) (key : String) (value : α) :
    (t.set key value).map f = (t.map f).set key (f value) := by
  simp only [map, set, mk.injEq]
  exact map_put f key value t.entries

theorem map_ofList (f : α → β) (entries : List (String × α)) :
    (ofList entries).map f = ofList (entries.map fun entry => (entry.1, f entry.2)) := by
  suffices general : ∀ t : Table α, (entries.foldl (fun t entry => t.set entry.1 entry.2) t).map f =
      (entries.map fun entry => (entry.1, f entry.2)).foldl (fun t entry => t.set entry.1 entry.2)
        (t.map f) from general {}
  induction entries with
  | nil => exact fun _ => rfl
  | cons entry entries ih =>
    intro t
    rw [List.foldl_cons, ih, List.map_cons, List.foldl_cons, map_set]

theorem get?_map (f : α → β) (t : Table α) (key : String) :
    (t.map f).get? key = (t.get? key).map f := by
  obtain ⟨entries, distinct⟩ := t
  simp only [get?, map]
  induction entries with
  | nil => rfl
  | cons e es ih =>
    obtain ⟨k, v⟩ := e
    have tail := ih (List.nodup_cons.mp distinct).2
    by_cases h : (key == k) = true
    · simp [List.lookup_cons, h]
    · simp [List.lookup_cons, h, tail]

theorem map_setDefault (f : α → β) (t : Table α) (key : String) (value : α) :
    (t.setDefault key value).map f = (t.map f).setDefault key (f value) := by
  have same : (t.map f).contains key = t.contains key := by
    rw [contains, contains, get?_map, Option.isSome_map]
  rw [setDefault, setDefault, same]
  split
  · rfl
  · exact map_set f t key value

theorem map_map {γ : Type} (f : α → β) (g : β → γ) (t : Table α) :
    (t.map f).map g = t.map (g ∘ f) := by
  simp [map]

end Table
end ChunkBridge
