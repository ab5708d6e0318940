import ChunkBridge.Proofs.Script.Reading
import ChunkBridge.Script.Parse

/-!
# Where expressions stand

An expression begins at the token in front of which it was looked for, and ends where reading has
come to or earlier (`Covers`). The one exception is a class, which begins with its decorators.
-/

namespace ChunkBridge.Script
open ChunkBridge.Text
variable {source : List Char}

/-- The span begins at `start`, and everything in it has been read. -/
structure Covers (start : Nat) (span : Span) (s : State source) : Prop where
  start_eq : span.start = start
  start_le : start ≤ span.stop
  stop_le : span.stop ≤ s.last.offset

theorem Covers.behind {start : Nat} {span : Span} {s : State source}
    (covers : Covers start span s) : Parser.Behind start s := Nat.le_trans covers.start_le covers.stop_le

/-- Reading has come to `start`, where neither a class nor a decorator stands. -/
structure Ahead (start : Nat) (s : State source) : Prop where
  start_eq : s.start.offset = start
  noClass : s.token.isWord "class" = false
  noDecorator : s.token.isMark "@" = false

theorem Ahead.reached {start : Nat} {s : State source} (ahead : Ahead start s) :
    Parser.Reached start s := Nat.le_of_eq ahead.start_eq.symm

namespace Parser
variable {α β σ : Type} {start : Nat} {span : Span}

theorem onward_covers : Onward (Covers start span : State source → Prop) :=
  fun _ _ last _ covers => ⟨covers.start_eq, covers.start_le, Nat.le_trans covers.stop_le last⟩

/-- An expression that is read from its first token on. -/
def Opens (p : Parser source Expr) : Prop :=
  ∀ start, Leaves (Ahead start) p fun e t => Covers start e.span t

/-- An expression that is read to its end; part of it is read. -/
def Completes (start : Nat) (p : Parser source Expr) : Prop :=
  Leaves (Behind start) p fun e t => Covers start e.span t

/-- What is read in the end is told by the place where it began. -/
theorem leaves_span (start : Nat) :
    Leaves (Behind start) (spanFrom start : Parser source Span) (Covers start) :=
  .inspect fun _ behind => ⟨rfl, behind, Nat.le_refl _⟩

theorem completes_span {make : Span → Expr} (h : ∀ span, (make span).span = span) :
    Completes start (do return make (← spanFrom start) : Parser source Expr) :=
  .bind (leaves_span start) fun span => .pure fun _ covers => (h span).symm ▸ covers

/-- Whatever is read on the way, it is completed in the end. -/
theorem completes_bind {p : Parser source β} {f : β → Parser source Expr}
    (rest : ∀ b, Completes start (f b)) : Completes start (p >>= f) :=
  .pass (onward_behind start) rest

/-- Behind one token the expression only has to be completed. -/
theorem opens_of_reads {p : Parser source β} {f : β → Parser source Expr} (reads : Reads p)
    (rest : ∀ b, Completes start (f b)) :
    Leaves (Ahead start) (p >>= f) fun e t => Covers start e.span t :=
  .read reads (fun _ => Ahead.reached) rest

theorem opens_of_start {f : Nat → Parser source Expr}
    (rest : ∀ start, Leaves (Ahead start) (f start) fun e t => Covers start e.span t) :
    Opens (startOffset >>= f) := fun start => .here (fun _ ahead => ahead.start_eq) (rest start)

/-- A round of a loop that has read some more of the expression. -/
theorem leaves_again (spanOf : σ → Span) {make : Span → σ} (h : ∀ span, spanOf (make span) = span)
    {Q : α → State source → Prop} :
    Leaves (Covers start span)
      (do return .again (make (← spanFrom start)) : Parser source (Round σ α))
      (Round.Holds (fun x t => Covers start (spanOf x) t) Q) := by
  refine .weaken (.bind (leaves_span start) fun read => .pure fun s covers => ?_)
    fun _ => Covers.behind
  show Covers start (spanOf (make read)) s
  rw [h read]
  exact covers

end Parser

namespace Grammar
open ChunkBridge.Script.Parser
variable (g : Grammar source) {start : Nat}

/-- The expressions that may stand first in another one are read from their first tokens on. -/
structure OpensAll (g : Grammar source) : Prop where
  assignment : Opens g.assignment
  binary : ∀ minimum, Opens (g.binary minimum)
  unary : Opens g.unary
  leftHand : Opens g.leftHand
  element : Opens g.element

variable {g}

/-! ## Operands -/

theorem idle_atFunction : Idle (atFunction : Parser source Bool) :=
  .bind (.inspect _) fun _ =>
    .ite (.pure _) (.bind (.inspect _) fun _ => .bind (.inspect _) fun _ => .pure _)

theorem reads_takeWord : Reads (takeWord : Parser source String) := by
  refine .right fun t => ?_
  split
  · exact .left reads_bumpName
  · exact .fail

theorem reads_referenceName : Reads (referenceName : Parser source String) := by
  refine .right fun c => .right fun t => .ite (.left reads_takeWord) (.left .fail)

theorem reads_functionRule (isExpression needsName : Bool) :
    Reads (functionRule g isExpression needsName) :=
  .right fun _ => .left <| reads_expectWord "function"

theorem reads_template (tagged : Bool) : Reads (template g tagged) := by
  unfold template templatePieces
  refine .right fun t => ?_
  split
  · exact .right fun _ => .left reads_bump
  · exact .fail

theorem opens_functionValue : Opens (functionValue g) :=
  opens_of_start fun _ => opens_of_reads (.left <| reads_functionRule true false) fun _ =>
    completes_span fun _ => rfl

theorem opens_array : Opens (array g) :=
  opens_of_start fun _ => opens_of_reads (reads_expectMark "[") fun _ => completes_bind fun _ =>
    completes_bind fun _ => completes_bind fun _ => completes_span fun _ => rfl

theorem opens_object : Opens (object g) :=
  opens_of_start fun _ => opens_of_reads (reads_expectMark "\x7b") fun _ => completes_bind fun _ =>
    completes_bind fun _ => completes_span fun _ => rfl

theorem opens_parenthesised : Opens (parenthesised g) := by
  refine opens_of_start fun start => opens_of_reads (reads_expectMark "(") fun _ => ?_
  refine completes_bind fun _ => completes_bind fun items => completes_bind fun _ =>
    completes_bind fun _ => ?_
  refine .bind (leaves_span start) fun span => ?_
  split
  · exact .fail
  · exact .pure fun _ covers => covers
  · exact .pure fun _ covers => covers

theorem opens_regex : Opens (regex : Parser source Expr) := by
  refine opens_of_start fun start => ?_
  -- The slash is read again, so that another token stands at the same place.
  refine .weaken (.pass (onward_reached start) fun _ => ?_) fun _ ahead => ahead.reached
  exact .read reads_bump (fun _ reached => reached) fun _ => completes_span fun _ => rfl

theorem completes_importCall : Completes start (importCall g start) := by
  have done : Completes start (do
      expectMark ")"
      return .importCall (← spanFrom start) : Parser source Expr) :=
    completes_bind fun _ => completes_span fun _ => rfl
  have arguments : Completes start (do
      expectMark "("
      if ← atMark ")" then fail
      let argument := within ({ · with allowsIn := true }) g.assignment
      discard argument
      if ← eatMark "," then
        unless ← atMark ")" do
          discard argument
          discard <| eatMark ","
      expectMark ")"
      return .importCall (← spanFrom start) : Parser source Expr) := by
    refine completes_bind fun _ => completes_bind fun _ => .ite (fun _ => .fail_bind) fun _ => ?_
    refine completes_bind fun _ => completes_bind fun _ => .ite (fun _ => ?_) fun _ => done
    refine completes_bind fun _ => .ite (fun _ => done) fun _ => ?_
    exact completes_bind fun _ => completes_bind fun _ => done
  refine completes_bind fun _ => completes_bind fun _ => completes_bind fun _ =>
    completes_bind fun _ => ?_
  refine .ite (fun _ => ?_) fun _ => ?_
  · exact completes_bind fun _ => completes_bind fun _ => completes_span fun _ => rfl
  exact .ite (fun _ => completes_bind fun _ => completes_bind fun _ => arguments) fun _ => arguments

theorem opens_nameOperand : Opens (nameOperand : Parser source Expr) := by
  refine opens_of_start fun start => opens_of_reads reads_referenceName fun name => ?_
  split
  · exact completes_span fun _ => rfl
  · exact .fail

/-- No class stands here, so what a word begins with is the word. -/
theorem opens_wordOperand {text : String} (noClass : (text == "class") = false) :
    Opens (wordOperand g text) := by
  refine opens_of_start fun start => .ite (fun isClass => ?_) fun _ =>
    .ite (fun _ => ?_) fun _ => ?_
  · rw [noClass] at isClass
    cases isClass
  · refine opens_of_reads reads_bump fun _ => completes_bind fun _ => completes_bind fun _ => ?_
    exact completes_bind fun _ => completes_bind fun _ => completes_span fun _ => rfl
  refine .ite (fun _ => opens_of_reads reads_bump fun _ => completes_importCall) fun _ => ?_
  refine .ite (fun _ => opens_of_reads reads_bump fun _ => completes_span fun _ => rfl) fun _ => ?_
  exact opens_nameOperand start

/-- Where no decorator stands none is read. -/
theorem leaves_eatDecorators : Leaves (Ahead start) (eatDecorators g) fun _ => Ahead start := by
  refine .ask fun here => .ite (fun stands => ?_) fun _ => .pure fun _ ahead => ahead.1
  intro s _ t ahead
  have contrary := ahead.1.noDecorator.symm.trans (ahead.2.trans stands)
  cases contrary

theorem opens_simpleOperand (opens : OpensAll g) : Opens (simpleOperand g) := by
  intro start
  refine .bind leaves_eatDecorators fun _ => .look idle_atFunction fun _ => ?_
  refine .ite (fun _ => opens_functionValue start) fun _ => .here (fun _ ahead => ahead.start_eq) ?_
  refine .ask fun t => ?_
  have forget {p : Parser source Expr} (opens : Opens p) :
      Leaves (fun s => Ahead start s ∧ s.token = t) p fun e t => Covers start e.span t :=
    .weaken (opens start) fun _ => And.left
  have reads {p : Parser source Unit} {make : Span → Expr} (reads : Reads p)
      (same : ∀ span, (make span).span = span) :
      Leaves (fun s => Ahead start s ∧ s.token = t) (do
        p
        return make (← spanFrom start)) fun e t => Covers start e.span t :=
    .weaken (opens_of_reads reads fun _ => completes_span same) fun _ => And.left
  split
  next => exact reads reads_bump fun _ => rfl
  next => exact reads reads_bump fun _ => rfl
  next => exact reads reads_bump fun _ => rfl
  next => exact reads (reads_template false) fun _ => rfl
  next text escaped =>
    intro s e t ahead run
    have noClass := ahead.1.noClass
    rw [ahead.2] at noClass
    exact opens_wordOperand noClass start ahead.1 run
  next text =>
    refine .ite (fun _ => forget opens_array) fun _ =>
      .ite (fun _ => forget opens_object) fun _ => ?_
    refine .ite (fun _ => forget opens_parenthesised) fun _ => ?_
    refine .ite (fun _ => forget opens_regex) fun _ => .look (.inspect _) fun _ => ?_
    exact .ite (fun _ => forget opens.element) fun _ => .fail
  next => exact .fail

/-! ## Members and calls -/

theorem completes_taggedTemplate (isOptional : Bool) :
    Completes start (taggedTemplate g start isOptional) :=
  completes_bind fun _ => completes_bind fun _ => completes_span fun _ => rfl

/-- Where a chain stands that has been read so far. -/
def Operand.span (operand : Operand) : Span := operand.expr.span

/-- A chain stays where it is with the members behind it. -/
theorem leaves_members (operand : Operand) :
    Leaves (Covers start operand.span) (members g start operand)
      fun whole t => Covers start whole.span t := by
  refine .pass onward_covers fun _ => .pass onward_covers fun typed => ?_
  refine .loop (I := fun operand s => Covers start operand.span s) (fun operand => ?_) operand
  obtain ⟨object, isOptional⟩ := operand
  refine .pass onward_covers fun t => .ite (fun _ => ?_) fun _ => .ite (fun _ => ?_) fun _ => ?_
  · refine .pass onward_covers fun key => leaves_again Operand.span fun _ => rfl
  · refine .pass onward_covers fun next => .ite (fun _ => ?_) fun _ => ?_
    · refine .pass onward_covers fun _ => .pass onward_covers fun _ => ?_
      exact leaves_again Operand.span fun _ => rfl
    · split
      · exact .pass onward_covers fun key => leaves_again Operand.span fun _ => rfl
      · exact .pass onward_covers fun key => leaves_again Operand.span fun _ => rfl
      · exact .pure fun _ covers => covers
  refine .ite (fun _ => ?_) fun _ => .pass onward_covers fun _ => .ite (fun _ => ?_) fun _ => ?_
  · exact .pass onward_covers fun key => leaves_again Operand.span fun _ => rfl
  · exact .pass onward_covers fun _ => leaves_again Operand.span fun _ => rfl
  refine .ite (fun _ => ?_) fun _ => .pass onward_covers fun _ => .ite (fun _ => ?_) fun _ => ?_
  · refine .weaken (.bind (completes_taggedTemplate isOptional) fun e => ?_) fun _ => Covers.behind
    exact .pure fun _ covers => covers
  · refine .pass onward_covers fun result => ?_
    split
    · exact leaves_again Operand.span fun _ => rfl
    · exact .pure fun _ covers => covers
  · exact .pure fun _ covers => covers

/-- So it does with the calls. -/
theorem leaves_calls (operand : Operand) :
    Leaves (Covers start operand.span) (calls g start operand)
      fun whole t => Covers start whole.span t := by
  refine .loop (I := fun operand s => Covers start operand.span s) (fun operand => ?_) operand
  refine .bind (leaves_members operand) fun operand => .pass onward_covers fun isOptional => ?_
  have rest (arguments : Option Unit) : Leaves (Covers start operand.span) (do
      if isOptional && (← token).isTemplateStart then
        return .again ⟨← taggedTemplate g start true, operand.isOptional || isOptional⟩
      else if arguments.isSome || (← atMark "(") then
        callArguments g
        return .again ⟨.other (← spanFrom start), operand.isOptional || isOptional⟩
      else return .done { operand with isOptional := operand.isOptional || isOptional })
      (Round.Holds (fun operand s => Covers start (Operand.span operand) s)
        fun operand s => Covers start (Operand.span operand) s) := by
    refine .pass onward_covers fun t => .ite (fun _ => ?_) fun _ => .pass onward_covers fun _ => ?_
    · refine .weaken (.bind (completes_taggedTemplate true) fun e => ?_) fun _ => Covers.behind
      exact .pure fun _ covers => covers
    refine .ite (fun _ => .pass onward_covers fun _ => ?_) fun _ => .pure fun _ covers => covers
    exact leaves_again Operand.span fun _ => rfl
  exact .ite (fun _ => .pass onward_covers rest) fun _ => .pass onward_covers rest

theorem completes_newRest (operand : Parser source Expr) :
    Completes start (newRest g start operand) := by
  have done (isFaulty : Bool) : Completes start (do
      faultIf isFaulty
      return .other (← spanFrom start) : Parser source Expr) :=
    completes_bind fun _ => completes_span fun _ => rfl
  refine completes_bind fun _ =>
    .ite (fun _ => completes_bind fun _ => completes_span fun _ => rfl) fun _ => ?_
  refine completes_bind fun _ => completes_bind fun _ => completes_bind fun callee =>
    completes_bind fun _ => ?_
  exact .ite (fun _ => completes_bind fun _ => done _) fun _ => done _

/-- What is remembered of the words `new` in front of an operand: the first of them stands where the
operand begins. -/
def Made (start : Nat) : List Nat → State source → Prop
  | [], s => Ahead start s
  | starts, s => starts.getLast? = some start ∧ Behind start s

theorem leaves_made (starts : List Nat) :
    Leaves (Made start starts) (do
      if (← atWord "new") && !(← peek).isMark "." then
        let start ← startOffset
        bump
        return .again (start :: starts)
      return .done starts : Parser source (Round (List Nat) (List Nat)))
      (Round.Holds (Made start) (Made start)) := by
  refine .look (.inspect _) fun _ => .look idle_peek fun _ => ?_
  refine .ite (fun _ => ?_) fun _ => .pure fun _ made => made
  cases starts with
  | nil =>
    refine .here (fun _ ahead => Ahead.start_eq ahead) ?_
    refine .read reads_bump (fun _ => Ahead.reached) fun _ => ?_
    exact .pure fun _ behind => ⟨rfl, behind⟩
  | cons last starts =>
    have onward : Onward (Made start (last :: starts) : State source → Prop) :=
      fun _ _ moved _ made => ⟨made.1, Nat.le_trans made.2 moved⟩
    refine .look (.inspect _) fun place => .pass onward fun _ => .pure fun s made => ?_
    exact ⟨List.getLast?_cons_cons.trans made.1, made.2⟩

theorem opens_operand (opens : OpensAll g) : Opens (operand g) := by
  intro start
  refine .bind (.loop leaves_made []) fun made => ?_
  cases made with
  | nil =>
    refine .look (.inspect _) fun _ => .ite (fun _ => ?_) fun _ => opens_simpleOperand opens start
    exact .here (fun _ ahead => Ahead.start_eq ahead) <|
      opens_of_reads reads_bump fun _ => completes_newRest _
  | cons last starts =>
    intro s e t made run
    obtain ⟨inner, split⟩ := List.getLast?_eq_some_iff.mp made.1
    rw [split, List.foldl_append] at run
    exact completes_newRest _ made.2 run

/-- An operand with everything behind it. -/
theorem opens_leftHandRule (opens : OpensAll g) : Opens (leftHandRule g) := by
  refine opens_of_start fun start => .bind (opens_operand opens start) fun first => ?_
  refine .bind (leaves_calls { expr := first }) fun whole => ?_
  have both : Leaves (Covers start whole.span) (spanFrom start : Parser source Span)
      fun span s => Covers start whole.span s ∧ Covers start span s :=
    .inspect fun s covers => ⟨covers, rfl, covers.behind, Nat.le_refl _⟩
  refine .bind both fun span => .pure fun s covers => ?_
  unfold Operand.close
  split
  · split
    · exact covers.1
    · exact covers.1
    · exact covers.2
  · exact covers.1

/-! ## Elements -/

theorem opens_elementRule : Opens (elementRule g) := by
  refine opens_of_start fun start => opens_of_reads (reads_expectMark "<") fun _ =>
    completes_bind fun tag => ?_
  have done : Completes start (do return .other (← spanFrom start) : Parser source Expr) :=
    completes_span fun _ => rfl
  dsimp only
  split
  · exact done
  · exact completes_bind fun _ => done

/-! ## Operators -/

theorem idle_atFrontOperator : Idle (atFrontOperator : Parser source Bool) := .inspect _

theorem idle_atCounter : Idle (atCounter : Parser source Bool) := .inspect _

theorem idle_atAwait : Idle (atAwait : Parser source Bool) :=
  .bind (.inspect _) fun _ => .bind (.inspect _) fun _ => .bind idle_peek fun _ => .pure _

theorem opens_unaryRule (opens : OpensAll g) : Opens (unaryRule g) := by
  refine opens_of_start fun start => ?_
  refine .look idle_atFrontOperator fun _ => .look idle_atAwait fun _ =>
    .ite (fun _ => ?_) fun _ => ?_
  · exact opens_of_reads reads_bump fun _ => completes_bind fun _ => completes_span fun _ => rfl
  refine .look idle_atCounter fun _ => .ite (fun _ => ?_) fun _ => ?_
  · refine opens_of_reads reads_bump fun _ => completes_bind fun _ => .ite (fun _ => ?_) fun _ => ?_
    · exact completes_span fun _ => rfl
    · exact .fail_bind
  refine .look (.inspect _) fun _ => .ite (fun _ => ?_) fun _ => ?_
  · refine .look (.inspect _) fun _ => .ite (fun _ => opens.element start) fun _ => ?_
    refine .look (.inspect _) fun _ => .ite (fun _ => ?_) fun _ => .fail
    refine opens_of_reads reads_bump fun _ => completes_bind fun _ => completes_bind fun _ => ?_
    exact completes_bind fun _ => completes_span fun _ => rfl
  refine .bind (opens.leftHand start) fun e => .pass onward_covers fun _ =>
    .pass onward_covers fun _ => ?_
  refine .ite (fun _ => .weaken ?_ fun _ => Covers.behind) fun _ => .pure fun _ covers => covers
  refine completes_bind fun _ => .ite (fun _ => ?_) fun _ => .fail_bind
  exact completes_span fun _ => rfl

theorem opens_privateIn : Opens (privateIn g) := by
  refine opens_of_start fun start => ?_
  refine opens_of_reads reads_bump fun _ => completes_bind fun _ => completes_bind fun _ => ?_
  exact completes_span fun _ => rfl

/-- The operand on the left stays what the expression begins with. -/
theorem leaves_operatorsFrom (minimum : Nat) (left : Expr) :
    Leaves (Covers start left.span) (operatorsFrom g start minimum left)
      fun e t => Covers start e.span t := by
  refine .loop (I := fun left s => Covers start left.span s) (fun left => ?_) left
  refine .pass onward_covers fun _ => .pass onward_covers fun t => ?_
  dsimp only
  split
  next => exact .pure fun _ covers => covers
  next level known =>
    refine .pass onward_covers fun _ => .ite (fun _ => .pure fun _ covers => covers) fun _ => ?_
    refine .pass onward_covers fun _ => .ite (fun _ => ?_) fun _ => ?_
    · refine .pass onward_covers fun _ => .ite (fun _ => .pure fun _ covers => covers) fun _ => ?_
      refine .pass onward_covers fun _ => .pass onward_covers fun _ => ?_
      exact leaves_again Expr.span fun _ => rfl
    · refine .pass onward_covers fun _ => .pass onward_covers fun _ => ?_
      refine .ite (fun _ => .pure fun _ covers => covers) fun _ => ?_
      exact leaves_again Expr.span fun _ => rfl

theorem opens_binaryRule (opens : OpensAll g) (minimum : Nat) : Opens (binaryRule g minimum) := by
  refine opens_of_start fun start => .look (.inspect _) fun t => .look (.inspect _) fun c => ?_
  refine .ite (fun _ => .bind (opens_privateIn start) fun left => ?_) fun _ =>
    .bind (opens.unary start) fun left => ?_
  · exact leaves_operatorsFrom minimum left
  · exact leaves_operatorsFrom minimum left

/-! ## Assignments -/

theorem opens_yieldExpression : Opens (yieldExpression g) := by
  refine opens_of_start fun start => opens_of_reads reads_bump fun _ => completes_bind fun _ => ?_
  have done : Completes start (do return .other (← spanFrom start) : Parser source Expr) :=
    completes_span fun _ => rfl
  refine .ite (fun _ => done) fun _ => completes_bind fun _ => completes_bind fun _ => ?_
  exact .ite (fun _ => completes_bind fun _ => done) fun _ => done

theorem reads_arrowHead : Reads (arrowHead g) := by
  unfold arrowHead parameters
  exact .right fun _ => .left <| .within (.right fun _ => .right fun _ => .right fun _ =>
    .right fun _ => .right fun _ => .left <| .left <| reads_expectMark "(") _

theorem idle_outlookAt (n : Nat) : Idle (outlookAt n : Parser source Outlook) := by
  unfold outlookAt
  repeat' first
    | exact .pure _
    | exact .inspect _
    | refine .ite ?_ ?_
    | refine .bind ?_ fun _ => ?_

theorem idle_outlook : Idle (outlook : Parser source Outlook) := by
  unfold outlook
  refine .bind (.inspect _) fun _ => .bind (.inspect _) fun _ => .ite (idle_outlookAt 0) ?_
  refine .bind (.inspect _) fun _ => .ite (.bind (.inspect _) fun _ => ?_) (.pure _)
  exact .ite (idle_outlookAt 1) (.pure _)

/-- An arrow function may have been read; if not, nothing was. -/
def ArrowOrNot (start : Nat) (found : Option Unit) (s : State source) : Prop :=
  match found with
  | some _ => Behind start s
  | none => Ahead start s

theorem leaves_listArrow? : Leaves (Ahead start) (listArrow? g) (ArrowOrNot start) := by
  have head : Leaves (Ahead start) (arrowHead g) fun _ => Behind start := fun s _ _ ahead run =>
    ahead.start_eq ▸ reads_arrowHead run
  have body (isAsync : Bool) :
      Leaves (Behind start) (do return some (← arrowBody g isAsync)) (ArrowOrNot start) :=
    .pass (onward_behind start) fun _ => .pure fun _ behind => behind
  refine .look idle_outlook fun o => ?_
  cases o with
  | never => exact .pure fun _ ahead => ahead
  | surely =>
    show Leaves _ ((arrowHead g >>= arrowBody g) >>= fun u => pure (some u)) _
    exact .bind (.bind head fun _ => .keep (onward_behind start) _) fun _ => .pure fun _ behind =>
      behind
  | perhaps =>
    refine .bind head.attempt fun result => ?_
    cases result with
    | some isAsync => exact body isAsync
    | none => exact .pure fun _ ahead => ahead

theorem leaves_asyncArrow? : Leaves (Ahead start) (asyncArrow? g) (ArrowOrNot start) := by
  refine .look (.inspect _) fun (next, br) => .look (.inspect _) fun _ =>
    .look (.inspect _) fun _ => ?_
  refine .ite (fun _ => ?_) fun _ => .pure fun _ ahead => ahead
  refine .read reads_bump (fun _ => Ahead.reached) fun _ => ?_
  refine .pass (onward_behind start) fun e => ?_
  split
  · exact .pass (onward_behind start) fun _ => .pass (onward_behind start) fun _ =>
      .pure fun _ behind => behind
  · exact .fail

/-- Where no arrow function stands nothing is read. -/
theorem leaves_arrow? : Leaves (Ahead start) (arrow? g) (ArrowOrNot start) := by
  refine .bind leaves_listArrow? fun found => ?_
  cases found with
  | some _ => exact .pure fun _ behind => behind
  | none => exact leaves_asyncArrow?

theorem completes_assignmentRest (target : Expr) :
    Completes start (assignmentRest g start target) := by
  have done (isPlain : Bool) : Completes start (do
      bump
      let value ← g.assignment
      return .assign (← spanFrom start) isPlain target value : Parser source Expr) :=
    completes_bind fun _ => completes_bind fun _ => completes_span fun _ => rfl
  refine completes_bind fun isPlain => .ite (fun _ => ?_) fun _ => .fail_bind
  exact .ite (fun _ => completes_bind fun _ => done isPlain) fun _ => done isPlain

theorem completes_conditionRest : Completes start (conditionRest g start) :=
  completes_bind fun _ => completes_bind fun _ => completes_bind fun _ => completes_bind fun _ =>
    completes_span fun _ => rfl

theorem opens_assignmentRule (opens : OpensAll g) : Opens (assignmentRule g) := by
  refine opens_of_start fun start => .look (.inspect _) fun _ => .look (.inspect _) fun _ => ?_
  refine .ite (fun _ => opens_yieldExpression start) fun _ => .bind leaves_arrow? fun found => ?_
  cases found with
  | some arrow => exact completes_span fun _ => rfl
  | none =>
    refine .bind (opens.binary 0 start) fun e => ?_
    have rest : Leaves (Covers start e.span) (do
        if ← atAssignment then assignmentRest g start e
        else if ← atMark "?" then conditionRest g start
        else return e) fun e t => Covers start e.span t := by
      refine .pass onward_covers fun _ => .ite (fun _ => ?_) fun _ => ?_
      · exact .weaken (completes_assignmentRest e) fun _ => Covers.behind
      refine .pass onward_covers fun _ => .ite (fun _ => ?_) fun _ => .pure fun _ covers => covers
      exact .weaken completes_conditionRest fun _ => Covers.behind
    dsimp only
    split
    next name _ =>
      refine .pass onward_covers fun _ => .ite (fun _ => ?_) fun _ => rest
      refine .weaken ?_ fun _ => Covers.behind
      exact completes_bind fun _ => completes_bind fun _ => completes_span fun _ => rfl
    next => exact rest

/-! ## Grammars -/

/-- The rules of a grammar read expressions from their first tokens on, however deep they nest. -/
theorem opensAll_level (source : List Char) (n : Nat) : OpensAll (level source n) := by
  induction n with
  | zero =>
    have fails (start : Nat) : Leaves (Ahead start) (Parser.fail : Parser source Expr)
        fun e t => Covers start e.span t := .fail
    exact ⟨fails, fun _ => fails, fails, fails, fails⟩
  | succ n ih =>
    exact ⟨opens_assignmentRule ih, opens_binaryRule ih, opens_unaryRule ih, opens_leftHandRule ih,
      opens_elementRule⟩

end Grammar
end ChunkBridge.Script
