import ChunkBridge.Proofs.Script.Expressions

/-!
# Expressions that begin with a name

A target that is a property of the global object begins with the name of that object, and so does
the assignment to it and a list that begins with such an assignment. Where an expression begins with
a name or is a string in quotes, a character of it has been read (`Onset`), so that the expression
is not empty. No other expression is known to take a character.
-/

namespace ChunkBridge.Script
open ChunkBridge.Text
variable {source : List Char}

/-- The expression begins with a name, as far as its targets tell, or with a string. -/
inductive Expr.IsNamed : Expr → Prop where
  | name {span : Span} {text : String} (isName : isIdentifierName text.toList = true) :
    IsNamed (.name span text isName)
  | string {span : Span} {value : String} (nonempty : span.start < span.stop) :
    IsNamed (.string span value)
  | member {span : Span} {object : Expr} {key : Option String} (first : IsNamed object) :
    IsNamed (.member span object key)
  | parens {span : Span} {inner : Expr} (first : IsNamed inner) : IsNamed (.parens span inner)
  | assign {span : Span} {isPlain : Bool} {target value : Expr} (first : IsNamed target) :
    IsNamed (.assign span isPlain target value)
  /-- Nothing is said of a list without expressions, which no source has. -/
  | sequence {span : Span} {items : List Expr} (first : ∀ e, items.head? = some e → IsNamed e) :
    IsNamed (.sequence span items)

theorem Expr.isNamed_of_bridgeName? {e : Expr} {name : String} (known : e.bridgeName? = some name) :
    e.IsNamed := by
  fun_induction Expr.bridgeName? e with
  | case1 => exact .member (.name _)
  | case2 => cases known
  | case3 span inner ih => exact .parens (ih known)
  | case4 => cases known

theorem Expr.isNamed_of_bridge? {e : Expr} {b : Bridge} (known : e.bridge? = some b) :
    e.IsNamed := by
  unfold Expr.bridge? at known
  split at known
  next target value =>
    obtain ⟨name, target, -⟩ := Option.map_eq_some_iff.mp known
    exact .assign (isNamed_of_bridgeName? target)
  next => cases known

/-- A statement that assigns properties of the global object begins with a name. -/
theorem Expr.isNamed_of_bridges? {e : Expr} {bs : List Bridge} (known : e.bridges? = some bs) :
    e.IsNamed := by
  unfold Expr.bridges? at known
  split at known
  next span items =>
    refine .sequence fun first head => ?_
    obtain ⟨rest, rfl⟩ := List.head?_eq_some_iff.mp head
    rw [List.mapM_cons] at known
    obtain ⟨b, assigned, -⟩ := Option.bind_eq_some_iff.mp known
    exact isNamed_of_bridge? assigned
  next =>
    obtain ⟨b, assigned, -⟩ := Option.map_eq_some_iff.mp known
    exact isNamed_of_bridge? assigned

/-- Reading has gone past a character behind `lo`, if the expression begins with a name. -/
def Onset (lo : Nat) (e : Expr) (s : State source) : Prop := e.IsNamed → lo < s.last.offset

theorem onset_of_unnamed {lo : Nat} {e : Expr} (unnamed : ¬e.IsNamed) (s : State source) :
    Onset lo e s := fun named => absurd named unnamed

theorem not_isNamed_other (span : Span) : ¬(Expr.other span).IsNamed := by
  intro named
  cases named

namespace Parser
variable {α β σ : Type} {lo : Nat} {P : State source → Prop}

theorem onward_onset (lo : Nat) (e : Expr) : Onward (Onset lo e : State source → Prop) :=
  fun _ _ last _ onset named => Nat.lt_of_lt_of_le (onset named) last

/-- The parser reads an expression from some place on, past the name that it begins with. -/
def Begins (p : Parser source Expr) : Prop := ∀ lo, Leaves (Reached lo) p (Onset lo)

/-- The parser gives an expression that does not begin with a name. -/
def Unnamed (p : Parser source Expr) : Prop := Leaves (fun _ => True) p fun e _ => ¬e.IsNamed

theorem Unnamed.onset {p : Parser source Expr} (unnamed : Unnamed p) : Leaves P p (Onset lo) :=
  fun _ _ t _ run => onset_of_unnamed (unnamed trivial run) t

theorem Unnamed.begins {p : Parser source Expr} (unnamed : Unnamed p) : Begins p :=
  fun _ => unnamed.onset

theorem Unnamed.bind {p : Parser source β} {f : β → Parser source Expr}
    (rest : ∀ b, Unnamed (f b)) : Unnamed (p >>= f) := .pass onward_true rest

theorem Unnamed.ite {c : Prop} [Decidable c] {p q : Parser source Expr} (yes : Unnamed p)
    (no : Unnamed q) : Unnamed (if c then p else q) := Leaves.ite (fun _ => yes) fun _ => no

theorem unnamed_pure {e : Expr} (unnamed : ¬e.IsNamed) : Unnamed (pure e : Parser source Expr) :=
  .pure fun _ _ => unnamed

theorem unnamed_span {make : Span → Expr} (unnamed : ∀ span, ¬(make span).IsNamed) (start : Nat) :
    Unnamed (do return make (← spanFrom start) : Parser source Expr) :=
  .bind fun span => unnamed_pure (unnamed span)

/-- What is read is an expression of no further interest. -/
theorem unnamed_other (start : Nat) :
    Unnamed (do return .other (← spanFrom start) : Parser source Expr) :=
  unnamed_span not_isNamed_other start

/-- A place that is asked for does not matter. -/
theorem begins_of_start {f : Nat → Parser source Expr}
    (rest : ∀ start lo, Leaves (Reached lo) (f start) (Onset lo)) : Begins (startOffset >>= f) :=
  fun lo => .pass (onward_reached lo) fun start => rest start lo

/-- The first of some items between commas has been read past the name that it begins with. -/
theorem leaves_separated {close : String} {trailing : Bool} {item : Parser source Expr}
    (begins : Begins item) (lo : Nat) :
    Leaves (Reached lo) (separated close trailing item) fun items s =>
      ∀ e, items.head? = some e → Onset lo e s := by
  -- The items are kept in reverse, so the first of them stays at the end of the list.
  let Kept (acc : List Expr) (s : State source) : Prop :=
    Reached lo s ∧ ∀ e, acc.getLast? = some e → Onset lo e s
  have onward (acc : List Expr) : Onward (Kept acc) := fun s t last moved kept =>
    ⟨onward_reached lo last moved kept.1,
      fun e first => onward_onset lo e last moved (kept.2 e first)⟩
  have done (acc : List Expr) : Leaves (Kept acc)
      (pure (.done acc.reverse) : Parser source (Round (List Expr) (List Expr)))
      (Round.Holds Kept fun items s => ∀ e, items.head? = some e → Onset lo e s) :=
    .pure fun s kept e first => kept.2 e (by rwa [List.head?_reverse] at first)
  have next (acc : List Expr) : Leaves (Kept acc)
      (do return .again ((← item) :: acc) : Parser source (Round (List Expr) (List Expr)))
      (Round.Holds Kept fun items s => ∀ e, items.head? = some e → Onset lo e s) := by
    refine .bind (.and (.keep (onward acc) item)
      (.weaken (begins lo) fun _ kept => kept.1)) fun e => .pure fun s read => ?_
    refine ⟨read.1.1, fun first last => ?_⟩
    cases acc with
    | nil =>
      cases last
      exact read.2
    | cons other acc => exact read.1.2 first (List.getLast?_cons_cons ▸ last)
  have rest (acc : List Expr) : Leaves (Kept acc) (do
      if !acc.isEmpty && (← atMark close) then return .done acc.reverse
      return .again ((← item) :: acc) : Parser source (Round (List Expr) (List Expr)))
      (Round.Holds Kept fun items s => ∀ e, items.head? = some e → Onset lo e s) :=
    .pass (onward acc) fun _ => .ite (fun _ => done acc) fun _ => next acc
  refine .weaken (.loop (I := Kept) (fun acc => ?_) []) fun s reached => ⟨reached, ?_⟩
  · refine .pass (onward acc) fun _ => .pass (onward acc) fun _ =>
      .ite (fun _ => done acc) fun _ => ?_
    refine .ite (fun _ => rest acc) fun _ => ?_
    refine .pass (onward acc) fun _ => .pass (onward acc) fun _ =>
      .ite (fun _ => done acc) fun _ => ?_
    exact .pass (onward acc) fun _ => rest acc
  · intro e none
    cases none

end Parser

namespace Grammar
open ChunkBridge.Script.Parser
variable {g : Grammar source} {lo start : Nat}

/-! ## Operands -/

/-- A name takes a character. -/
theorem leaves_referenceName :
    Leaves (Reached lo) (referenceName : Parser source String) fun text s =>
      text ≠ "" → lo < s.last.offset := by
  have word : Leaves (Reached lo) (takeWord : Parser source String) fun text s =>
      text ≠ "" → lo < s.last.offset := by
    refine .ask fun t => ?_
    split
    next text escaped =>
      intro s result u here run
      obtain ⟨_, v, past, last⟩ := run_bind run
      obtain ⟨rfl, rfl⟩ := run_pure last
      cases past
      intro nonempty
      refine Nat.lt_of_le_of_lt here.1 (s.start_lt_after ?_)
      rw [here.2]
      simpa [Token.hasText] using nonempty
    next => exact .fail
  have onward (text : String) : Onward fun s : State source => text ≠ "" → lo < s.last.offset :=
    fun _ _ last _ holds nonempty => Nat.lt_of_lt_of_le (holds nonempty) last
  refine .pass (onward_reached lo) fun _ => .pass (onward_reached lo) fun _ =>
    .ite (fun _ => ?_) fun _ => .fail_bind
  exact .bind word fun text => .pass (onward text) fun _ => .pure fun _ holds => holds

theorem unnamed_importCall : Unnamed (importCall g start) := by
  have done : Unnamed (do
      expectMark ")"
      return .importCall (← spanFrom start) : Parser source Expr) :=
    .bind fun _ => unnamed_span (fun span named => by cases named) start
  have rest : Unnamed (do
      expectMark "("
      if ← atMark ")" then fail
      let argument := within ({ · with allowsIn := true }) g.assignment
      discard argument
      if ← eatMark "," then
        unless ← atMark ")" do
          discard argument
          discard <| eatMark ","
      expectMark ")"
      return .importCall (← spanFrom start) : Parser source Expr) := by
    refine .bind fun _ => .bind fun _ => .ite Leaves.fail_bind ?_
    refine .bind (p := discard (within _ g.assignment)) fun _ => .bind fun _ => .ite ?_ done
    refine .bind fun _ => .ite done ?_
    exact .bind fun _ => .bind fun _ => done
  refine .bind fun _ => .bind fun _ => .bind fun _ => .bind fun _ => .ite ?_ ?_
  · exact .bind fun _ => .bind fun _ => unnamed_other start
  · exact .ite (.bind fun _ => .bind fun _ => rest) rest

theorem begins_nameOperand : Begins (nameOperand : Parser source Expr) := by
  refine begins_of_start fun start lo => .bind leaves_referenceName fun text => ?_
  split
  next isName =>
    refine .look (.inspect _) fun span => .pure fun s read _ => read fun empty => ?_
    rw [empty] at isName
    cases isName
  next => exact .fail

theorem begins_wordOperand (text : String) : Begins (wordOperand g text) := by
  refine begins_of_start fun start lo => .ite (fun _ => ?_) fun _ => .ite (fun _ => ?_) fun _ => ?_
  · exact Unnamed.onset <| .bind fun _ => unnamed_pure (not_isNamed_other _)
  · exact Unnamed.onset <| .bind fun _ => .bind fun _ => .bind fun _ => .bind fun _ =>
      .bind fun _ => unnamed_other start
  refine .ite (fun _ => ?_) fun _ => .ite (fun _ => ?_) fun _ => ?_
  · exact Unnamed.onset <| .bind fun _ => unnamed_importCall
  · exact Unnamed.onset <| .bind fun _ => unnamed_other start
  exact begins_nameOperand lo

theorem begins_parenthesised (assignment : Begins g.assignment) : Begins (parenthesised g) := by
  refine begins_of_start fun start lo => .pass (onward_reached lo) fun _ =>
    .pass (onward_reached lo) fun inside => ?_
  refine .bind (.within (leaves_separated assignment lo) (fun _ _ reached => reached)
    fun _ _ _ first => first) fun items => ?_
  have onward : Onward fun s : State source => ∀ e, items.head? = some e → Onset lo e s :=
    fun _ _ last moved first e head => onward_onset lo e last moved (first e head)
  refine .pass onward fun _ => .pass onward fun _ => .pass onward fun _ => ?_
  split
  next => exact .fail
  next item =>
    refine .pure fun s first named => ?_
    cases named with
    | parens inner => exact first item rfl inner
  next items none more =>
    obtain ⟨item, rest, rfl⟩ := List.exists_cons_of_ne_nil none
    refine .pure fun s first named => ?_
    cases named with
    | parens inner =>
      cases inner with
      | sequence head => exact first item rfl (head item rfl)

/-- An array, an object and a function are no names. -/
theorem unnamed_array : Unnamed (array g) :=
  .bind fun _ => .bind fun _ => .bind fun _ => .bind fun _ => .bind fun _ => .bind fun _ =>
    unnamed_pure (by intro named; cases named)

theorem unnamed_object : Unnamed (object g) :=
  .bind fun _ => .bind fun _ => .bind fun _ => .bind fun _ => .bind fun _ =>
    unnamed_pure (by intro named; cases named)

theorem unnamed_functionValue : Unnamed (functionValue g) :=
  .bind fun _ => .bind fun _ => unnamed_other _

theorem unnamed_regex : Unnamed (regex : Parser source Expr) :=
  .bind fun _ => .bind fun _ => .bind fun _ => unnamed_other _

theorem unnamed_elementRule : Unnamed (elementRule g) := by
  refine .bind fun start => .bind fun _ => .bind fun tag => ?_
  dsimp only
  split
  · exact unnamed_other start
  · exact .bind fun _ => unnamed_other start

theorem unnamed_taggedTemplate (isOptional : Bool) :
    Unnamed (taggedTemplate g start isOptional) :=
  .bind fun _ => .bind fun _ => unnamed_other start

theorem unnamed_newRest (operand : Parser source Expr) : Unnamed (newRest g start operand) := by
  have done (isFaulty : Bool) : Unnamed (do
      faultIf isFaulty
      return .other (← spanFrom start) : Parser source Expr) := .bind fun _ => unnamed_other start
  refine .bind fun _ => .ite (.bind fun _ => unnamed_other start) ?_
  refine .bind fun _ => .bind fun _ => .bind fun callee => .bind fun _ => ?_
  exact .ite (.bind fun _ => done _) (done _)

/-- The expressions that may stand first in another one go past the names that they begin with. -/
structure BeginsAll (g : Grammar source) : Prop where
  expression : Begins g.expression
  assignment : Begins g.assignment
  binary : ∀ minimum, Begins (g.binary minimum)
  unary : Begins g.unary
  leftHand : Begins g.leftHand
  element : Unnamed g.element

theorem begins_simpleOperand (all : BeginsAll g) : Begins (simpleOperand g) := by
  intro lo
  have reached : Onward (Reached lo : State source → Prop) := onward_reached lo
  refine .pass reached fun _ => .pass reached fun _ => ?_
  refine .ite (fun _ => unnamed_functionValue.onset) fun _ => .ask fun start => ?_
  refine .given (F := lo ≤ start) (fun s here => here.2 ▸ here.1) fun behind => ?_
  refine .weaken (.pass reached fun t => ?_) fun _ here => here.1
  have literal {p : Parser source Unit} {make : Span → Expr}
      (unnamed : ∀ span, ¬(make span).IsNamed) : Leaves (Reached lo) (do
        p
        return make (← spanFrom start)) (Onset lo) :=
    Unnamed.onset <| .bind fun _ => unnamed_span unnamed start
  split
  next =>
    let ends (span : Span) (s : State source) : Prop := span = ⟨start, s.last.offset⟩
    refine .pass reached fun _ => .bind (R := ends) (.inspect fun _ _ => rfl) fun span => ?_
    refine .pure fun s read named => ?_
    cases named with
    | string nonempty =>
      rw [read] at nonempty
      exact Nat.lt_of_le_of_lt behind nonempty
  next => exact literal not_isNamed_other
  next => exact literal not_isNamed_other
  next => exact literal not_isNamed_other
  next text escaped => exact begins_wordOperand text lo
  next text =>
    refine .ite (fun _ => unnamed_array.onset) fun _ =>
      .ite (fun _ => unnamed_object.onset) fun _ => ?_
    refine .ite (fun _ => begins_parenthesised all.assignment lo) fun _ => ?_
    refine .ite (fun _ => unnamed_regex.onset) fun _ => .pass reached fun _ => ?_
    exact .ite (fun _ => all.element.onset) fun _ => .fail
  next => exact .fail

/-! ## Members and calls -/

/-- A chain still begins with its operand, or it does not begin with a name any more. -/
theorem leaves_onset_again {make : Span → Expr} {isOptional : Bool} {expr : Expr}
    {Q : Operand → State source → Prop} (keeps : ∀ span, (make span).IsNamed → expr.IsNamed) :
    Leaves (Onset lo expr) (do return .again ⟨make (← spanFrom start), isOptional⟩)
      (Round.Holds (fun operand : Operand => Onset lo operand.expr) Q) :=
  .pass (onward_onset lo expr) fun span => .pure fun _ onset named => onset (keeps span named)

/-- Tells of a member what is told of the expression in front of it. -/
theorem isNamed_of_member {span : Span} {object : Expr} {key : Option String}
    (named : (Expr.member span object key).IsNamed) : object.IsNamed := by
  cases named with
  | member first => exact first

theorem leaves_onset_members (operand : Operand) :
    Leaves (Onset lo operand.expr) (members g start operand) fun whole => Onset lo whole.expr := by
  have onward (e : Expr) : Onward (Onset lo e : State source → Prop) := onward_onset lo e
  refine .pass (onward _) fun _ => .pass (onward _) fun typed => ?_
  refine .loop (I := fun operand => Onset lo operand.expr) (fun operand => ?_) operand
  obtain ⟨object, isOptional⟩ := operand
  have member {isOptional : Bool} {key : Option String} :
      Leaves (Onset lo object) (do
          return .again ⟨.member (← spanFrom start) object key, isOptional⟩
          : Parser source (Round Operand Operand))
        (Round.Holds (fun operand : Operand => Onset lo operand.expr)
          fun whole : Operand => Onset lo whole.expr) :=
    leaves_onset_again fun _ => isNamed_of_member
  have stays {operand : Operand} (same : operand.expr = object) :
      Leaves (Onset lo object) (pure (.done operand) : Parser source (Round Operand Operand))
        (Round.Holds (fun operand : Operand => Onset lo operand.expr)
          fun whole : Operand => Onset lo whole.expr) :=
    .pure fun s onset => (congrArg (Onset lo · s) same).mpr onset
  refine .pass (onward _) fun t => .ite (fun _ => ?_) fun _ => .ite (fun _ => ?_) fun _ => ?_
  · exact .pass (onward _) fun key => member
  · refine .pass (onward _) fun next => .ite (fun _ => ?_) fun _ => ?_
    · exact .pass (onward _) fun _ => .pass (onward _) fun _ => member
    · split
      · exact .pass (onward _) fun key => member
      · exact .pass (onward _) fun key => member
      · exact stays rfl
  refine .ite (fun _ => .pass (onward _) fun key => member) fun _ =>
    .pass (onward _) fun _ => .ite (fun _ => ?_) fun _ => ?_
  · refine .pass (onward _) fun _ => leaves_onset_again fun _ named => ?_
    cases named
  refine .ite (fun _ => ?_) fun _ => .pass (onward _) fun _ => .ite (fun _ => ?_) fun _ => stays rfl
  · exact .bind (unnamed_taggedTemplate isOptional).onset fun e => .pure fun _ onset => onset
  · refine .pass (onward _) fun result => ?_
    split
    · refine leaves_onset_again fun _ named => ?_
      cases named
    · exact stays rfl

theorem leaves_onset_calls (operand : Operand) :
    Leaves (Onset lo operand.expr) (calls g start operand) fun whole => Onset lo whole.expr := by
  have onward (e : Expr) : Onward (Onset lo e : State source → Prop) := onward_onset lo e
  refine .loop (I := fun operand => Onset lo operand.expr) (fun operand => ?_) operand
  refine .bind (leaves_onset_members operand) fun operand => .pass (onward _) fun isOptional => ?_
  have rest (arguments : Option Unit) : Leaves (Onset lo operand.expr) (do
      if isOptional && (← token).isTemplateStart then
        return .again ⟨← taggedTemplate g start true, operand.isOptional || isOptional⟩
      else if arguments.isSome || (← atMark "(") then
        callArguments g
        return .again ⟨.other (← spanFrom start), operand.isOptional || isOptional⟩
      else return .done { operand with isOptional := operand.isOptional || isOptional })
      (Round.Holds (fun operand : Operand => Onset lo operand.expr)
        fun whole : Operand => Onset lo whole.expr) := by
    refine .pass (onward _) fun t => .ite (fun _ => ?_) fun _ => .pass (onward _) fun _ => ?_
    · exact .bind (unnamed_taggedTemplate true).onset fun e => .pure fun _ onset => onset
    refine .ite (fun _ => .pass (onward _) fun _ => ?_) fun _ => .pure fun _ onset => onset
    exact leaves_onset_again fun span named => absurd named (not_isNamed_other span)
  exact .ite (fun _ => .pass (onward _) rest) fun _ => .pass (onward _) rest

theorem begins_operand (all : BeginsAll g) : Begins (operand g) := by
  intro lo
  have reached : Onward (Reached lo : State source → Prop) := onward_reached lo
  refine .pass reached fun made => ?_
  -- An object that is made by its constructor begins with no name, however its constructor does.
  have constructed (starts : List Nat) {inner : Parser source Expr}
      (innermost : Leaves (Reached lo) inner (Onset lo)) :
      Leaves (Reached lo) (starts.foldl (fun inner start => newRest g start inner) inner)
        (Onset lo) := by
    induction starts generalizing inner with
    | nil => exact innermost
    | cons start starts ih => exact ih (unnamed_newRest inner).onset
  refine constructed made (.pass reached fun _ => .ite (fun _ => ?_) fun _ =>
    begins_simpleOperand all lo)
  exact Unnamed.onset <| .bind fun start => .bind fun _ => unnamed_newRest _

theorem begins_leftHandRule (all : BeginsAll g) : Begins (leftHandRule g) := by
  refine begins_of_start fun start lo => .bind (begins_operand all lo) fun first => ?_
  refine .bind (leaves_onset_calls { expr := first }) fun whole => ?_
  refine .pass (onward_onset lo whole.expr) fun span => .pure fun s onset => ?_
  unfold Operand.close
  split
  · split
    · exact onset
    · exact onset
    · exact fun named => by cases named
  · exact onset

/-! ## Operators -/

theorem begins_unaryRule (all : BeginsAll g) : Begins (unaryRule g) := by
  refine begins_of_start fun start lo => ?_
  have reached : Onward (Reached lo : State source → Prop) := onward_reached lo
  refine .pass reached fun _ => .pass reached fun _ => .ite (fun _ => ?_) fun _ => ?_
  · exact Unnamed.onset <| .bind fun _ => .bind fun _ => unnamed_other start
  refine .pass reached fun _ => .ite (fun _ => ?_) fun _ => ?_
  · exact Unnamed.onset <| .bind fun _ => .bind fun _ => .ite (unnamed_other start) Leaves.fail_bind
  refine .pass reached fun _ => .ite (fun _ => ?_) fun _ => ?_
  · refine .pass reached fun _ => .ite (fun _ => all.element.onset) fun _ => ?_
    refine .pass reached fun _ => .ite (fun _ => ?_) fun _ => .fail
    exact Unnamed.onset <| .bind fun _ => .bind fun _ => .bind fun _ => .bind fun _ =>
      unnamed_span (fun span named => by cases named) start
  refine .bind (all.leftHand lo) fun e => ?_
  have onward : Onward (Onset lo e : State source → Prop) := onward_onset lo e
  refine .pass onward fun _ => .pass onward fun _ => .ite (fun _ => ?_) fun _ =>
    .pure fun _ onset => onset
  exact Unnamed.onset <| .bind fun _ => .ite (unnamed_other start) Leaves.fail_bind

theorem unnamed_privateIn : Unnamed (privateIn g) :=
  .bind fun start => .bind fun _ => .bind fun _ => .bind fun _ => unnamed_other start

theorem leaves_onset_operatorsFrom (minimum : Nat) (left : Expr) :
    Leaves (Onset lo left) (operatorsFrom g start minimum left) (Onset lo) := by
  have onward (e : Expr) : Onward (Onset lo e : State source → Prop) := onward_onset lo e
  have unnamed {left : Expr} {make : Span → Expr} (unnamed : ∀ span, ¬(make span).IsNamed) :
      Leaves (Onset lo left)
        (do return .again (make (← spanFrom start)) : Parser source (Round Expr Expr))
        (Round.Holds (Onset lo) (Onset lo)) :=
    .pass (onward left) fun span => .pure fun _ _ named => absurd named (unnamed span)
  refine .loop (I := Onset lo) (fun left => ?_) left
  refine .pass (onward left) fun _ => .pass (onward left) fun t => ?_
  dsimp only
  split
  next => exact .pure fun _ onset => onset
  next level known =>
    refine .pass (onward left) fun _ => .ite (fun _ => .pure fun _ onset => onset) fun _ => ?_
    refine .pass (onward left) fun _ => .ite (fun _ => ?_) fun _ => ?_
    · refine .pass (onward left) fun _ => .ite (fun _ => .pure fun _ onset => onset) fun _ => ?_
      refine .pass (onward left) fun _ => .pass (onward left) fun _ => unnamed fun _ named => ?_
      cases named
    · refine .pass (onward left) fun _ => .pass (onward left) fun _ => ?_
      exact .ite (fun _ => .pure fun _ onset => onset) fun _ => unnamed not_isNamed_other

theorem begins_binaryRule (all : BeginsAll g) (minimum : Nat) : Begins (binaryRule g minimum) := by
  refine begins_of_start fun start lo => ?_
  have reached : Onward (Reached lo : State source → Prop) := onward_reached lo
  refine .pass reached fun t => .pass reached fun c => ?_
  refine .ite (fun _ => .bind (unnamed_privateIn.begins lo) fun left => ?_) fun _ =>
    .bind (all.unary lo) fun left => ?_
  · exact leaves_onset_operatorsFrom minimum left
  · exact leaves_onset_operatorsFrom minimum left

/-! ## Assignments and lists -/

theorem unnamed_yieldExpression : Unnamed (yieldExpression g) := by
  refine .bind fun start => .bind fun _ => .bind fun _ => .ite (unnamed_other start) ?_
  refine .bind fun _ => .bind fun _ => ?_
  exact .ite (.bind fun _ => unnamed_other start) (unnamed_other start)

theorem unnamed_conditionRest : Unnamed (conditionRest g start) :=
  .bind fun _ => .bind fun _ => .bind fun _ => .bind fun _ => unnamed_other start

/-- An assignment begins with its target. -/
theorem leaves_onset_assignmentRest (target : Expr) :
    Leaves (Onset lo target) (assignmentRest g start target) (Onset lo) := by
  have onward : Onward (Onset lo target : State source → Prop) := onward_onset lo target
  have done (isPlain : Bool) : Leaves (Onset lo target) (do
      bump
      let value ← g.assignment
      return .assign (← spanFrom start) isPlain target value : Parser source Expr) (Onset lo) := by
    refine .pass onward fun _ => .pass onward fun _ => .pass onward fun _ => .pure fun s onset => ?_
    intro named
    cases named with
    | assign first => exact onset first
  refine .pass onward fun isPlain => .ite (fun _ => ?_) fun _ => .fail_bind
  exact .ite (fun _ => .pass onward fun _ => done isPlain) fun _ => done isPlain

theorem begins_assignmentRule (all : BeginsAll g) : Begins (assignmentRule g) := by
  refine begins_of_start fun start lo => ?_
  have reached : Onward (Reached lo : State source → Prop) := onward_reached lo
  refine .pass reached fun _ => .pass reached fun _ => ?_
  refine .ite (fun _ => unnamed_yieldExpression.onset) fun _ => .pass reached fun found => ?_
  refine .ite (fun _ => (unnamed_other start).onset) fun _ => .bind (all.binary 0 lo) fun e => ?_
  have onward : Onward (Onset lo e : State source → Prop) := onward_onset lo e
  have rest : Leaves (Onset lo e) (do
      if ← atAssignment then assignmentRest g start e
      else if ← atMark "?" then conditionRest g start
      else return e) (Onset lo) := by
    refine .pass onward fun _ => .ite (fun _ => leaves_onset_assignmentRest e) fun _ => ?_
    refine .pass onward fun _ => .ite (fun _ => unnamed_conditionRest.onset) fun _ => ?_
    exact .pure fun _ onset => onset
  dsimp only
  split
  next name _ =>
    refine .pass onward fun _ => .ite (fun _ => ?_) fun _ => rest
    exact Unnamed.onset <| .bind fun _ => .bind fun _ => unnamed_other start
  next => exact rest

/-- A list begins with the first of its expressions. -/
theorem begins_expressionRule (assignment : Begins g.assignment) : Begins (expressionRule g) := by
  refine begins_of_start fun start lo => ?_
  refine .bind (.within (assignment lo) (fun _ _ reached => reached) fun _ _ _ onset => onset)
    fun first => ?_
  have onward : Onward (Onset lo first : State source → Prop) := onward_onset lo first
  refine .pass onward fun _ => .ite (fun _ => ?_) fun _ => .pure fun _ onset => onset
  -- The items are kept in reverse.
  let Kept (items : List Expr) (s : State source) : Prop :=
    Onset lo first s ∧ items.getLast? = some first
  let Led (items : List Expr) (s : State source) : Prop :=
    Onset lo first s ∧ items.head? = some first
  have kept (items : List Expr) : Onward (Kept items) := fun _ _ last moved kept =>
    ⟨onward last moved kept.1, kept.2⟩
  have led (items : List Expr) : Onward (Led items) := fun _ _ last moved led =>
    ⟨onward last moved led.1, led.2⟩
  refine .bind (R := Led) (.weaken (.loop (I := Kept) (fun items => ?_) [first])
    fun _ onset => ⟨onset, rfl⟩) fun items => ?_
  · refine .pass (kept items) fun _ => .ite (fun _ => ?_) fun _ => .pure fun s kept => ?_
    · refine .pass (kept items) fun e => .pure fun s kept => ⟨kept.1, ?_⟩
      rw [List.getLast?_cons, kept.2, Option.getD_some]
    · exact ⟨kept.1, by rw [List.head?_reverse]; exact kept.2⟩
  · refine .pass (led items) fun span => .pure fun s led named => ?_
    cases named with
    | sequence head => exact led.1 (head first led.2)

/-- The rules of a grammar go past the names that expressions begin with, however deep they nest. -/
theorem beginsAll_level (source : List Char) (n : Nat) : BeginsAll (level source n) := by
  induction n with
  | zero =>
    exact ⟨fun _ => .fail, fun _ => .fail, fun _ _ => .fail, fun _ => .fail, fun _ => .fail, .fail⟩
  | succ n ih =>
    exact ⟨begins_expressionRule ih.assignment, begins_assignmentRule ih, begins_binaryRule ih,
      begins_unaryRule ih, begins_leftHandRule ih, unnamed_elementRule⟩

end Grammar
end ChunkBridge.Script
