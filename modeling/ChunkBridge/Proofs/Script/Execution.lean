import ChunkBridge.Proofs.Script.Stores
import ChunkBridge.Text.Span

/-!
# What statements of assignments do

A statement that is made of assignments to properties does them one after the other. On whatever
machine it is executed, it assigns the listed values to the listed properties in that order, each
with the operator that is written there, and does nothing else (`Expr.execute_of_bridges?`). The
operator is not listed: only where it is `=`, the value is what is stored
(`Expr.execute_of_isPlain`).
-/

namespace ChunkBridge.Script
open ChunkBridge.Text

/-- What executes statements in steps of its own. How values come about is left to it. -/
structure Machine (m : Type → Type) (V : Type) where
  /-- The value of a text. -/
  evaluate : List Char → m V
  /-- Stores a value in a property of the global object. -/
  store : String → V → m Unit
  /-- Stores what an operator makes of a property and a value, which it may leave unevaluated. -/
  update : String → m V → m Unit

section
variable {m : Type → Type} {V : Type} [Monad m] (M : Machine m V) (source : List Char)

/-- Assigns the value of a text to a property, by the operator `=` or by another one. -/
def Machine.assign (isPlain : Bool) (property : String) (text : List Char) : m Unit :=
  if isPlain then do M.store property (← M.evaluate text)
  else M.update property (M.evaluate text)

/-- Executes a part of an expression. -/
def Expr.executePart (part : Expr) : m Unit :=
  match part with
  | .assign span isPlain target value =>
    match target.bridgeName? with
    | some key => M.assign isPlain key (sliceChars source value.span)
    | none => discard (M.evaluate (sliceChars source span))
  | e => discard (M.evaluate (sliceChars source e.span))

/-- Executes an expression as a statement: its parts one after the other. -/
def Expr.execute (e : Expr) : m Unit := e.parts.forM (Expr.executePart M source)

/-- Executes a statement. -/
def Statement.execute (st : Statement) : m Unit :=
  match st.form with
  | .expression e => e.execute M source
  | _ => discard (M.evaluate (sliceChars source st.span))

/-- Assigns the values of some texts to bridges, each with an operator. -/
def Machine.assignEach (bs : List (Bridge × Bool)) : m Unit :=
  bs.forM fun b => M.assign b.2 b.1.name (sliceChars source b.1.value)

/-- Stores the values of some texts in bridges. -/
def Machine.storeEach (bs : List Bridge) : m Unit :=
  bs.forM fun b => do M.store b.name (← M.evaluate (sliceChars source b.value))

/-- To assign by the operator `=` is to store. -/
theorem Machine.assignEach_zip {bs : List Bridge} {operators : List Bool}
    (plain : ∀ isPlain ∈ operators, isPlain = true) (each : bs.length = operators.length) :
    M.assignEach source (bs.zip operators) = M.storeEach source bs := by
  unfold assignEach storeEach
  induction bs generalizing operators with
  | nil => rfl
  | cons b bs ih =>
    cases operators with
    | nil => cases each
    | cons isPlain operators =>
      rw [List.zip_cons_cons, List.forM, List.forM, plain isPlain List.mem_cons_self, assign,
        if_pos rfl, ih (fun other member => plain other (List.mem_cons_of_mem _ member))
          (Nat.succ.inj each)]

end

namespace Expr

/-- The expression is an assignment by the operator `=`. -/
def isPlain : Expr → Bool
  | assign _ isPlain _ _ => isPlain
  | _ => false

variable {m : Type → Type} {V : Type} [Monad m] (M : Machine m V) (source : List Char)
variable {e part : Expr} {b : Bridge} {bs : List Bridge}

theorem executePart_of_bridge? (known : part.bridge? = some b) :
    part.executePart M source = M.assign part.isPlain b.name (sliceChars source b.value) := by
  obtain ⟨span, isPlain, target, value, rfl, named, same, -⟩ := eq_assign_of_bridge? known
  simp only [executePart, named, same, Expr.isPlain]

/-- A statement of assignments does them in order, each with its operator, and nothing else. -/
theorem execute_of_bridges? (known : e.bridges? = some bs) :
    e.execute M source = M.assignEach source (bs.zip (e.parts.map isPlain)) := by
  have each := map_bridge?_parts known
  clear known
  unfold execute Machine.assignEach
  generalize e.parts = parts at each
  induction parts generalizing bs with
  | nil =>
    obtain rfl := List.map_eq_nil_iff.mp each.symm
    rfl
  | cons part parts ih =>
    cases bs with
    | nil => cases each
    | cons b bs =>
      obtain ⟨first, rest⟩ := List.cons.inj each
      rw [List.map_cons, List.zip_cons_cons, List.forM, List.forM,
        executePart_of_bridge? M source first, ih rest]

/-- Where all operators are `=`, the values are stored and nothing else is done. -/
theorem execute_of_isPlain (known : e.bridges? = some bs)
    (plain : ∀ part ∈ e.parts, part.isPlain = true) :
    e.execute M source = M.storeEach source bs := by
  have length := congrArg List.length (map_bridge?_parts known)
  rw [List.length_map, List.length_map] at length
  rw [execute_of_bridges? M source known]
  refine M.assignEach_zip source (fun isPlain member => ?_) (by rw [List.length_map, length])
  obtain ⟨part, among, rfl⟩ := List.mem_map.mp member
  exact plain part among

end Expr

/-- Each part of the statement, as far as it is an expression, is an assignment by `=`. -/
def Statement.isPlain (st : Statement) : Bool :=
  match st.form with
  | .expression e => e.parts.all Expr.isPlain
  | _ => true

section
variable {m : Type → Type} {V : Type} [Monad m] (M : Machine m V) (source : List Char)
variable {st : Statement} {e : Expr} {bs : List Bridge}

/-- The statement assigns what its expression assigns. -/
theorem Statement.execute_of_bridges? (form : st.form = .expression e)
    (known : e.bridges? = some bs) :
    st.execute M source = M.assignEach source (bs.zip (e.parts.map Expr.isPlain)) := by
  unfold execute
  rw [form]
  exact Expr.execute_of_bridges? M source known

theorem Statement.execute_of_isPlain (form : st.form = .expression e)
    (known : e.bridges? = some bs) (plain : st.isPlain = true) :
    st.execute M source = M.storeEach source bs := by
  unfold execute
  unfold isPlain at plain
  rw [form] at plain ⊢
  exact Expr.execute_of_isPlain M source known fun part member =>
    List.all_eq_true.mp plain part member

end
end ChunkBridge.Script
