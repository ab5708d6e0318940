import ChunkBridge.Proofs.Script.Targets
import Mathlib.Data.List.Basic

/-!
# What expressions store

An expression may assign properties of the global object wherever it is evaluated (`Expr.stores`). A
statement is known to assign such properties and nothing else if each of its parts is an assignment
to one (`Expr.map_bridge?_parts`), and then a plain name that it assigns is an identifier. What else
such a statement stores it stores in the values of its parts (`Expr.mem_stores_iff`).
-/

namespace ChunkBridge.Script
open ChunkBridge.Text

namespace Expr

/-- The expressions between the commas of an expression. -/
def parts : Expr → List Expr
  | sequence _ items => items
  | e => [e]

mutual

/-- The properties of the global object that an expression assigns, wherever in it that is, as far
as its inside is known. -/
def stores : Expr → List String
  | assign _ _ target value => target.bridgeName?.toList ++ target.stores ++ value.stores
  | sequence _ items | array _ items _ | object _ items => storesOf items
  | member _ inner _ | parens _ inner | typed _ inner | applied _ inner | property _ inner
  | spread _ inner => inner.stores
  | name .. | string .. | shorthand _ | hole _ | optional _ | importCall _ | other _ => []

@[inherit_doc stores] def storesOf : List Expr → List String
  | [] => []
  | e :: es => e.stores ++ storesOf es

end

variable {e : Expr} {bs : List Bridge} {property : String}

theorem mem_storesOf {items : List Expr} :
    property ∈ storesOf items ↔ ∃ item ∈ items, property ∈ item.stores := by
  induction items with
  | nil => simp [storesOf]
  | cons item items ih => simp [storesOf, ih]

/-- What an expression stores its parts store. -/
theorem mem_stores_parts : property ∈ e.stores ↔ ∃ part ∈ e.parts, property ∈ part.stores := by
  unfold parts
  split
  next span items => simp only [stores, mem_storesOf]
  next => simp

/-- The name of a property stores nothing. -/
theorem stores_of_bridgeName? (known : e.bridgeName? = some property) : e.stores = [] := by
  fun_induction bridgeName? e with
  | case1 span inner text key isGlobal => simp only [stores]
  | case2 => cases known
  | case3 span inner ih =>
    simp only [stores]
    exact ih known
  | case4 => cases known

/-- An assignment to a property has a target that names it. -/
theorem eq_assign_of_bridge? {b : Bridge} (known : e.bridge? = some b) :
    ∃ span isPlain target value, e = assign span isPlain target value ∧
      target.bridgeName? = some b.name ∧ b.value = value.span ∧ b.localName = value.name? := by
  unfold bridge? at known
  split at known
  next span isPlain target value =>
    obtain ⟨name, named, rfl⟩ := Option.map_eq_some_iff.mp known
    exact ⟨span, isPlain, target, value, rfl, named, rfl, rfl⟩
  next => cases known

/-- What is found for each element. -/
theorem map_eq_of_mapM_eq_some {α β : Type} {f : α → Option β} {as : List α} {found : List β}
    (h : as.mapM f = some found) : as.map f = found.map some := by
  induction as generalizing found with
  | nil =>
    cases h
    rfl
  | cons a as ih =>
    rw [List.mapM_cons] at h
    obtain ⟨b, first, h⟩ := Option.bind_eq_some_iff.mp h
    obtain ⟨rest, later, h⟩ := Option.bind_eq_some_iff.mp h
    cases h
    rw [List.map_cons, List.map_cons, first, ih later]

/-- A statement that is known to assign properties and nothing else is made of such assignments. -/
theorem map_bridge?_parts (known : e.bridges? = some bs) : e.parts.map bridge? = bs.map some := by
  unfold bridges? at known
  unfold parts
  split
  next span items => exact map_eq_of_mapM_eq_some known
  next other =>
    split at known
    next span items => exact absurd rfl (other span items)
    next =>
      obtain ⟨b, assigns, rfl⟩ := Option.map_eq_some_iff.mp known
      rw [List.map_singleton, List.map_singleton, assigns]

/-- A plain name that a statement of assignments assigns is an identifier. -/
theorem isIdentifierName_of_bridges? (known : e.bridges? = some bs) {b : Bridge} (member : b ∈ bs)
    {text : String} (plain : b.localName = some text) : isIdentifierName text.toList = true := by
  have among : some b ∈ e.parts.map bridge? := map_bridge?_parts known ▸ List.mem_map_of_mem member
  obtain ⟨part, -, assigns⟩ := List.mem_map.mp among
  obtain ⟨span, isPlain, target, value, -, -, -, named⟩ := eq_assign_of_bridge? assigns
  exact isIdentifierName_of_name? (named.symm.trans plain)

/-- What a statement of assignments stores: the properties that they assign, and what their values
store. -/
theorem mem_stores_iff (known : e.bridges? = some bs) :
    property ∈ e.stores ↔ (∃ b ∈ bs, b.name = property) ∨
      ∃ span isPlain target value, assign span isPlain target value ∈ e.parts ∧
        property ∈ value.stores := by
  have each := map_bridge?_parts known
  rw [mem_stores_parts]
  constructor
  · rintro ⟨part, member, stored⟩
    have found : part.bridge? ∈ bs.map some := each ▸ List.mem_map_of_mem member
    obtain ⟨b, among, assigns⟩ := List.mem_map.mp found
    obtain ⟨span, isPlain, target, value, rfl, named, -⟩ := eq_assign_of_bridge? assigns.symm
    simp only [stores, named, stores_of_bridgeName? named, Option.toList_some, List.append_nil,
      List.mem_append, List.mem_singleton] at stored
    rcases stored with rfl | inside
    · exact .inl ⟨b, among, rfl⟩
    · exact .inr ⟨span, isPlain, target, value, member, inside⟩
  · rintro (⟨b, among, rfl⟩ | ⟨span, isPlain, target, value, member, inside⟩)
    · have found : some b ∈ e.parts.map bridge? := each ▸ List.mem_map_of_mem among
      obtain ⟨part, member, assigns⟩ := List.mem_map.mp found
      obtain ⟨span, isPlain, target, value, rfl, named, -⟩ := eq_assign_of_bridge? assigns
      exact ⟨_, member, by simp [stores, named]⟩
    · exact ⟨_, member, by simp [stores, inside]⟩

end Expr

/-- A statement that assigns bridges is an expression. -/
theorem Statement.form_of_bridges {st : Statement} {bs : List Bridge}
    (told : st.kind = .ok (.bridges bs)) :
    ∃ e, st.form = .expression e ∧ e.bridges? = some bs := by
  unfold Statement.kind at told
  cases form : st.form with
  | expression e =>
    rw [form] at told
    refine ⟨e, rfl, ?_⟩
    cases known : e.bridges? with
    | none => simp [known] at told
    | some found =>
      simp only [known, Option.elim_some, Except.ok.injEq, ItemKind.bridges.injEq] at told
      rw [told]
  | exportDeclaration span declared =>
    rw [form] at told
    cases names : declared.names with
    | error e => simp [names] at told
    | ok names => simp [names] at told
  | imports | reExport | exportNames | exportDefaultDeclaration | exportDefaultExpression
  | other =>
    rw [form] at told
    cases told

end ChunkBridge.Script
