import ChunkBridge.Proofs.Script.Targets

/-!
# Where statements stand

Statements come one after the other, and what a statement exports stands inside it. Only a class may
reach out of its statement, since it takes the decorators that wait for it wherever they are; but it
begins between two characters and ends inside all the same.
-/

namespace ChunkBridge.Script
open ChunkBridge.Text
variable {source : List Char}

/-- The declaration or expression that a statement exports. -/
def Form.part? : Form → Option Span
  | .exportDeclaration declaration _ | .exportDefaultDeclaration declaration _ => some declaration
  | .exportDefaultExpression e => some e
  | .imports .. | .reExport .. | .exportNames .. | .expression .. | .other => none

/-- The statement is an import or an export. -/
def Form.isModuleSyntax : Form → Bool
  | .expression _ | .other => false
  | .imports _ | .reExport _ | .exportNames _ | .exportDeclaration .. | .exportDefaultDeclaration ..
  | .exportDefaultExpression _ => true

/-- A part of the source begins between two characters and has just been read. -/
structure IsRead (span : Span) (s : State source) : Prop where
  isCut : IsCut source span.start
  forward : span.start ≤ span.stop
  stop_eq : span.stop = s.last.offset

/-- A statement of the form can stand in the span. -/
structure Form.StandsIn (source : List Char) (span : Span) (form : Form) : Prop where
  nonempty : form.isModuleSyntax = true → span.start < span.stop
  named : ∀ e, form = .expression e → e.IsNamed → span.start < span.stop
  part : ∀ part, form.part? = some part →
    IsCut source part.start ∧ part.start ≤ part.stop ∧ part.stop ≤ span.stop
  expression : ∀ e, form = .exportDefaultExpression e → span.start < e.start
  declaration : ∀ d name, form = .exportDefaultDeclaration d name →
    d.start < d.stop ∧ IsCut source d.stop

/-- The form says nothing about parts. -/
theorem Form.standsIn_of_part? {span : Span} {form : Form} (none : form.part? = none)
    (nonempty : form.isModuleSyntax = true → span.start < span.stop)
    (named : ∀ e, form = .expression e → e.IsNamed → span.start < span.stop) :
    form.StandsIn source span where
  nonempty
  named
  part _ some := by rw [none] at some; cases some
  expression _ same := by rw [same] at none; cases none
  declaration _ _ same := by rw [same] at none; cases none

namespace Grammar
open ChunkBridge.Script.Parser
variable {g : Grammar source} {α : Type} {start place : Nat}

/-! ## Declarations -/

theorem leaves_isRead (cut : IsCut source place) :
    Leaves (Behind place) (spanFrom place : Parser source Span) IsRead :=
  .inspect fun _ behind => ⟨cut, behind, rfl⟩

/-- Behind its first character a part is not empty. -/
theorem leaves_nonempty (cut : IsCut source place) :
    Leaves (Behind (place + 1)) (spanFrom place : Parser source Span) fun span s =>
      IsRead span s ∧ span.start < span.stop ∧ span.start = place :=
  .inspect fun _ behind => ⟨⟨cut, Nat.le_of_lt behind, rfl⟩, behind, rfl⟩

/-- Behind the word `class` only the place is missing at which the class begins. -/
theorem leaves_classRest (cut : IsCut source place) :
    Leaves (Behind (place + 1)) (do
      let named := isBindingName (← token) && !(← atWord "implements")
      let name ← if named then some <$> bindingName else pure none
      typeParameters g
      heritage g
      classBody g
      return (name, ← spanFrom place) : Parser source (Option String × Span)) fun result t =>
        IsRead result.2 t ∧ result.2.start < result.2.stop := by
  have onward : Onward (Behind (place + 1) : State source → Prop) := onward_behind _
  have finish (name : Option String) : Leaves (Behind (place + 1)) (do
      typeParameters g
      heritage g
      classBody g
      return (name, ← spanFrom place) : Parser source (Option String × Span)) fun result t =>
        IsRead result.2 t ∧ result.2.start < result.2.stop := by
    refine .pass onward fun _ => .pass onward fun _ => .pass onward fun _ => ?_
    exact .bind (leaves_nonempty cut) fun _ => .pure fun _ read => ⟨read.1, read.2.1⟩
  refine .pass onward fun _ => .pass onward fun _ => ?_
  exact .ite (fun _ => .pass onward finish) fun _ => .pass onward finish

/-- A class begins with the decorators that wait for it, or else where it is looked for. -/
theorem leaves_classRule (cut : IsCut source place) :
    Leaves (Reached place) (classRule g place) fun result t =>
      IsRead result.2 t ∧ result.2.start < result.2.stop := by
  intro s result t reached run
  obtain ⟨_, u, word, run⟩ := run_bind run
  obtain ⟨-, last, kept⟩ := run_expectWord word
  have moved : s.start.offset < u.last.offset := readsText_expectWord (by decide) word
  obtain ⟨decorators, v, take, run⟩ := run_bind run
  obtain ⟨waiting, _, look, take⟩ := run_bind take
  obtain ⟨rfl, rfl⟩ := run_inspect look
  cases take
  have first : IsCut source ((u.decorators.map Place.offset).getD place) ∧
      (u.decorators.map Place.offset).getD place < u.last.offset := by
    rw [kept]
    cases waits : s.decorators with
    | none => exact ⟨cut, Nat.lt_of_le_of_lt reached moved⟩
    | some d => exact ⟨d.isCut_offset, Nat.lt_of_le_of_lt (s.decorators_le_start d waits) moved⟩
  refine leaves_classRest first.1 ?_ run
  exact first.2

/-- A declaration is read from the place where it is looked for. -/
theorem leaves_declaration (cut : IsCut source place) (words : List String) :
    Leaves (Reached place) (declaration g place words) fun d t =>
      IsRead d.span t := by
  have onward : Onward (Reached place : State source → Prop) := onward_reached _
  have done (declared : Declared) : Leaves (Behind place) (do
      return ⟨← spanFrom place, declared⟩ : Parser source Declaration) fun d t => IsRead d.span t :=
    .bind (leaves_isRead cut) fun _ => .pure fun _ read => read
  have types {p : Parser source Unit} (reads : Reads p) :
      Leaves (Reached place) (do
        p
        return ⟨← spanFrom place, .types⟩ : Parser source Declaration) fun d t => IsRead d.span t :=
    .read reads (fun _ => id) fun _ => done .types
  refine .look idle_atFunction fun _ => .ite (fun _ => ?_) fun _ => ?_
  · refine .pass onward fun isAsync => .read ?_ (fun _ => id) fun head => done _
    exact .left <| reads_expectWord "function"
  refine .pass onward fun _ => .ite (fun _ => ?_) fun _ => .pass onward fun t => ?_
  · refine .read ?_ (fun _ => id) fun patterns => .pass (onward_behind _) fun _ => done _
    exact .right fun _ => .ite (.right fun _ => .left reads_bump) (.left .fail)
  split
  next text _ =>
    refine .ite (fun _ => .bind (leaves_classRule cut) fun _ => .pure fun _ read => read.1)
      fun _ => ?_
    refine .ite (fun _ => types (.left <| reads_expectWord "enum")) fun _ => ?_
    refine .ite (fun _ => types (.left <| reads_expectWord "interface")) fun _ => ?_
    refine .ite (fun _ => types (.left <| reads_expectWord "type")) fun _ => ?_
    refine .ite (fun _ => types ?_) fun _ => .ite (fun _ => types (.left reads_bump)) fun _ => .fail
    exact .right fun _ => .ite (.left <| reads_expectMark "\x7b") (.left reads_bump)
  next => exact .fail

/-- So is one with words in front of it. -/
theorem leaves_declarationWithWords (takesWords : Bool) (P : State source → Prop) :
    Leaves P (declarationWithWords g takesWords) fun d t => IsRead d.span t := by
  refine .ask fun place => .given (fun s holds => holds.2 ▸ s.start.isCut_offset) fun cut => ?_
  refine .weaken (I := Reached place) ?_ fun s holds => Nat.le_of_eq holds.2.symm
  have onward : Onward (Reached place : State source → Prop) := onward_reached _
  have inner (words : List String) : Leaves (Reached place)
      (within (fun c => { c with isAmbient := c.isAmbient || words.contains "declare" })
        (declaration g place words)) fun d t => IsRead d.span t :=
    .within (leaves_declaration cut words) (fun _ _ reached => reached)
      fun _ _ _ read => ⟨read.isCut, read.forward, read.stop_eq⟩
  exact .ite (fun _ => .pass onward inner) fun _ => .pass onward inner

/-! ## Imports and exports -/

/-- A form that has been read, in a statement that began at `start`. -/
def Stands (start : Nat) (form : Form) (s : State source) : Prop :=
  form.StandsIn source ⟨start, s.last.offset⟩

/-- Behind the first character a form without parts stands. -/
theorem leaves_form {form : Form} (none : form.part? = none) :
    Leaves (Behind (start + 1)) (pure form : Parser source Form) (Stands start) :=
  .pure fun _ behind => Form.standsIn_of_part? none (fun _ => behind) fun _ _ _ => behind

theorem leaves_importRule :
    Leaves (fun s => s.start.offset = start) (importRule : Parser source Form) (Stands start) := by
  have onward : Onward (Behind (start + 1) : State source → Prop) := onward_behind _
  refine .readText (readsText_expectWord (by decide)) (fun _ here => Nat.le_of_eq here.symm)
    fun _ => ?_
  refine .pass onward fun second => .pass onward fun third => .pass onward fun _ => ?_
  refine .pass onward fun _ => .pass onward fun _ => .ite (fun _ => ?_) fun _ => ?_
  · exact .pass onward fun _ => leaves_form rfl
  have finish (locals : List String) : Leaves (Behind (start + 1)) (do
      fromModule
      return .imports locals : Parser source Form) (Stands start) :=
    .pass onward fun _ => leaves_form rfl
  refine .pass onward fun _ => .pass onward fun _ => ?_
  exact .ite (fun _ => .pass onward finish) fun _ => .pass onward finish

theorem leaves_exportSpecifiers :
    Leaves (Behind (start + 1)) (exportSpecifiers : Parser source Form) (Stands start) := by
  have onward : Onward (Behind (start + 1) : State source → Prop) := onward_behind _
  refine .pass onward fun _ => .pass onward fun _ => .pass onward fun specifiers => ?_
  have rest (hasSource : Bool) : Leaves (Behind (start + 1)) (do
      if hasSource then
        fromModule
        return .reExport (specifiers.map (·.exported))
      for specifier in specifiers do
        faultIf (specifier.isString || isReserved specifier.localName ||
          strictWords.contains specifier.localName)
      endStatement
      return .exportNames (specifiers.map fun s => (s.localName, s.exported)) : Parser source Form)
      (Stands start) := by
    refine .ite (fun _ => .pass onward fun _ => leaves_form rfl) fun _ => ?_
    exact .pass onward fun _ => .pass onward fun _ => leaves_form rfl
  refine .pass onward fun _ => .pass onward fun _ => .ite (fun _ => ?_) fun _ => .pass onward rest
  exact .pass onward fun _ => .pass onward rest

theorem leaves_exportAll :
    Leaves (Behind (start + 1)) (exportAll : Parser source Form) (Stands start) := by
  have onward : Onward (Behind (start + 1) : State source → Prop) := onward_behind _
  have rest (exported : Option (String × Bool)) : Leaves (Behind (start + 1)) (do
      expectWord "from"
      fromModule
      return .reExport (exported.map (·.1)).toList : Parser source Form) (Stands start) :=
    .pass onward fun _ => .pass onward fun _ => leaves_form rfl
  refine .pass onward fun _ => .pass onward fun _ => .pass onward fun _ => ?_
  exact .ite (fun _ => .pass onward rest) fun _ => .pass onward rest

theorem stands_exportDeclaration {d : Span} {declared : Declared} {s : State source}
    (behind : Behind (start + 1) s) (read : IsRead d s) :
    Stands start (.exportDeclaration d declared) s where
  nonempty _ := behind
  named _ _ _ := behind
  part _ same := by
    cases same
    exact ⟨read.isCut, read.forward, Nat.le_of_eq read.stop_eq⟩
  expression _ same := nomatch same
  declaration _ _ same := nomatch same

theorem stands_exportDefaultDeclaration {d : Span} {name : Option String} {s : State source}
    (behind : Behind (start + 1) s) (read : IsRead d s) (nonempty : d.start < d.stop) :
    Stands start (.exportDefaultDeclaration d name) s where
  nonempty _ := behind
  named _ _ _ := behind
  part _ same := by
    cases same
    exact ⟨read.isCut, read.forward, Nat.le_of_eq read.stop_eq⟩
  expression _ same := nomatch same
  declaration _ _ same := by
    cases same
    exact ⟨nonempty, read.stop_eq ▸ s.last.isCut_offset⟩

theorem stands_exportDefaultExpression {e : Span} {s : State source} (cut : IsCut source place)
    (beyond : start < place) (covers : Covers place e s) :
    Stands start (.exportDefaultExpression e) s where
  nonempty _ := Nat.lt_of_lt_of_le beyond covers.behind
  named _ _ _ := Nat.lt_of_lt_of_le beyond covers.behind
  part _ same := by
    cases same
    rw [covers.start_eq]
    exact ⟨cut, covers.start_le, covers.stop_le⟩
  expression _ same := by
    cases same
    exact covers.start_eq ▸ beyond
  declaration _ _ same := nomatch same

/-- Behind decorators no further one stands. -/
theorem noDecorator_eatDecorators :
    Leaves (fun _ => True) (eatDecorators g) fun _ s => s.token.isMark "@" = false := by
  refine .ask fun here => .ite (fun _ => ?_) fun none => .pure fun s ask => ?_
  · refine .anywhere (.decorating (.loop (I := fun _ _ => True) (fun _ => ?_) ())
      fun _ _ _ _ none => none)
    refine .ask fun another => .ite (fun _ => ?_) fun none => .pure fun s ask => ?_
    · exact .weaken (.pass onward_true fun _ => .pass onward_true fun _ => .pure fun _ _ => trivial)
        fun _ => And.left
    · exact ask.2.trans (eq_false_of_ne_true none)
  · exact ask.2.trans (eq_false_of_ne_true none)

/-- A class behind `export default` begins where it is looked for, or with decorators that wait. -/
theorem leaves_exportedClass (cut : IsCut source place) :
    Leaves (fun s => Behind (start + 1) s ∧ Reached place s) (do
      let (name, span) ← classRule g place
      return .exportDefaultDeclaration span name : Parser source Form) (Stands start) := by
  refine .bind (.and (.weaken (.keep (onward_behind _) _) fun _ => And.left)
    (.weaken (leaves_classRule cut) fun _ => And.right)) fun result => ?_
  exact .pure fun _ read => stands_exportDefaultDeclaration read.1 read.2.1 read.2.2

theorem leaves_exportedFunction (cut : IsCut source place) (beyond : start < place) :
    Leaves (Reached place) (do
      let head ← functionRule g false false
      return .exportDefaultDeclaration (← spanFrom place) head.name : Parser source Form)
      (Stands start) := by
  have function : ReadsText (functionRule g false false) :=
    .right fun _ => .left <| readsText_expectWord (by decide)
  refine .readText function (fun _ => id) fun head => ?_
  refine .bind (leaves_nonempty cut) fun span => .pure fun s ⟨read, nonempty, first⟩ => ?_
  refine stands_exportDefaultDeclaration ?_ read nonempty
  calc start < span.start := first ▸ beyond
    _ < span.stop := nonempty
    _ = s.last.offset := read.stop_eq

theorem leaves_exportDefault (assignment : Opens g.assignment) :
    Leaves (Behind (start + 1)) (exportDefault g) (Stands start) := by
  have onward : Onward (Behind (start + 1) : State source → Prop) := onward_behind _
  refine .pass onward fun _ => .bind (.and (.keep onward _)
    (.anywhere noDecorator_eatDecorators)) fun _ => ?_
  refine .ask fun place => ?_
  refine .given (F := IsCut source place ∧ start < place) (fun s here => ?_) fun ⟨cut, beyond⟩ => ?_
  · exact ⟨here.2 ▸ s.start.isCut_offset, here.2 ▸ Nat.le_trans here.1.1 s.last_le_start⟩
  refine .look (.inspect _) fun typed => .look (.inspect _) fun (next, br) => ?_
  refine .look idle_atFunction fun _ => .ite (fun _ => ?_) fun _ => ?_
  · exact .weaken (leaves_exportedFunction cut beyond) fun _ here => Nat.le_of_eq here.2.symm
  refine .ask fun isClass => .ite (fun _ => ?_) fun noClass => ?_
  · exact .weaken (leaves_exportedClass cut) fun _ here => ⟨here.1.1.1, Nat.le_of_eq here.1.2.symm⟩
  refine .look (.inspect _) fun _ => .ite (fun _ => ?_) fun _ => ?_
  · refine .weaken (.pass ?_ fun _ => leaves_exportedClass cut) fun _ here =>
      ⟨here.1.1.1, Nat.le_of_eq here.1.2.symm⟩
    exact fun _ _ last first here => ⟨Nat.le_trans here.1 last, Nat.le_trans here.2 first⟩
  refine .look (.inspect _) fun _ => .ite (fun _ => ?_) fun _ => ?_
  · exact .weaken (.pass onward fun _ => leaves_form rfl) fun _ here => here.1.1.1
  refine .weaken (.bind (assignment place) fun e => ?_) fun s here =>
    ⟨here.1.2, here.2.trans (eq_false_of_ne_true noClass), here.1.1.2⟩
  refine .pass onward_covers fun _ => .pure fun s covers => ?_
  exact stands_exportDefaultExpression cut beyond covers

theorem leaves_exportRule (assignment : Opens g.assignment) :
    Leaves (fun s => s.start.offset = start) (exportRule g) (Stands start) := by
  have onward : Onward (Behind (start + 1) : State source → Prop) := onward_behind _
  refine .readText (readsText_expectWord (by decide)) (fun _ here => Nat.le_of_eq here.symm)
    fun _ => ?_
  refine .pass onward fun typed => .pass onward fun next => .pass onward fun _ => ?_
  refine .ite (fun _ => ?_) fun _ => .pass onward fun _ => .ite (fun _ => ?_) fun _ => ?_
  · exact .pass onward fun _ => .pass onward fun _ => .pass onward fun _ => leaves_form rfl
  · refine .pass onward fun _ => .pass onward fun _ => .pass onward fun _ => ?_
    exact .pass onward fun _ => leaves_form rfl
  refine .pass onward fun _ => .ite (fun _ => leaves_exportDefault assignment) fun _ => ?_
  refine .pass onward fun _ => .pass onward fun _ => .ite (fun _ => leaves_exportAll) fun _ => ?_
  refine .pass onward fun _ => .pass onward fun _ =>
    .ite (fun _ => leaves_exportSpecifiers) fun _ => ?_
  refine .pass onward fun _ => ?_
  refine .bind (.and (.keep onward _) (leaves_declarationWithWords typed _)) fun d => ?_
  exact .pure fun _ read => stands_exportDeclaration read.1 read.2

/-! ## Statements -/

/-- What means nothing to the rest of the library stands anywhere. -/
theorem stands_other (s : State source) : Stands start .other s := by
  refine Form.standsIn_of_part? rfl (fun module => ?_) fun _ same => ?_
  · cases module
  · cases same

theorem leaves_other {P : State source → Prop} :
    Leaves P (pure .other : Parser source Form) (Stands start) := .pure fun s _ => stands_other s

/-- An expression stands where it began, past the name that it begins with. -/
theorem leaves_expressionForm (e : Expr) :
    Leaves (Onset start e) (pure (.expression e) : Parser source Form) (Stands start) := by
  refine .pure fun s onset => Form.standsIn_of_part? rfl (fun module => ?_) fun _ same => ?_
  · cases module
  · cases same
    exact onset

theorem leaves_endExpression (e : Expr) :
    Leaves (Onset start e) (endExpression e : Parser source Form) (Stands start) :=
  .pass (onward_onset start e) fun _ => leaves_expressionForm e

theorem leaves_expressionStatement (expression : Begins g.expression) :
    Leaves (Reached start) (expressionStatement g) (Stands start) := by
  refine .bind (expression start) fun e => ?_
  dsimp only
  split
  · refine .pass (onward_onset start _) fun _ => .ite (fun _ => ?_) fun _ => leaves_endExpression _
    exact .pass (onward_onset start _) fun _ => leaves_other
  · exact leaves_endExpression _

theorem leaves_variableStatement (single : Bool) :
    Leaves (Reached start) (variableStatement g single) (Stands start) := by
  have onward : Onward (Reached start : State source → Prop) := onward_reached _
  exact .pass onward fun _ => .pass onward fun _ => .pass onward fun _ => .pass onward fun _ =>
    leaves_other

theorem leaves_letStatement (begins : BeginsAll g) (single : Bool) :
    Leaves (Reached start) (letStatement g single) (Stands start) := by
  have onward : Onward (Reached start : State source → Prop) := onward_reached _
  refine .pass onward fun next =>
    .ite (fun _ => .bind (begins.assignment start) leaves_endExpression) fun _ => ?_
  refine .ite (fun _ => .bind (begins.expression start) leaves_expressionForm) fun _ => ?_
  refine .ite (fun _ => ?_) fun _ => leaves_variableStatement single
  exact .bind (begins_nameOperand start) leaves_endExpression

/-- A statement stands from `start` on up to where reading has come, or it is nothing to the rest of
the library. -/
def Covered (start : Nat) (st : Statement) (s : State source) : Prop :=
  st.form = .other ∨ st.span = ⟨start, s.last.offset⟩ ∧ st.form.StandsIn source st.span

/-- A statement is finished with its form. -/
theorem leaves_finished (form : Form) :
    Leaves (Stands start form)
      (do return { span := ← spanFrom start, form } : Parser source Statement) (Covered start) :=
  .bind (.inspect (Q := fun span s => span = ⟨start, s.last.offset⟩ ∧ Stands start form s)
    fun _ stands => ⟨rfl, stands⟩) fun _ => .pure fun _ read => .inr ⟨read.1, read.1 ▸ read.2⟩

/-- A statement that is finished with what has been read of it. -/
theorem leaves_whole {P : State source → Prop} {p : Parser source Form}
    (form : Leaves P p (Stands start)) :
    Leaves P (do
      let form ← p
      return { span := ← spanFrom start, form }) (Covered start) := .bind form leaves_finished

/-- Nothing is asked of a statement that means nothing to the rest of the library. -/
theorem leaves_finishedOther {P : State source → Prop} :
    Leaves P (do return { span := ← spanFrom start, form := .other } : Parser source Statement)
      (Covered start) := .weaken (leaves_finished .other) fun s _ => stands_other s

theorem leaves_wordStatement (assignment : Opens g.assignment) (begins : BeginsAll g)
    (text : String) (single : Bool) :
    Leaves (fun s => s.start.offset = start) (wordStatement g start text single)
      (Covered start) := by
  have other {p : Parser source Unit} : Leaves (fun s : State source => s.start.offset = start) (do
      p
      return { span := ← spanFrom start, form := .other }) (Covered start) :=
    .anywhere <| .pass onward_true fun _ => leaves_finishedOther
  have reached (s : State source) (here : s.start.offset = start) : Reached start s :=
    Nat.le_of_eq here.symm
  refine .look (.inspect _) fun (next, br) => .look (.inspect _) fun typed => ?_
  cases controlStatement? g text with
  | some control => exact other
  | none =>
    -- The branches in the order of the words: `import`, `export`, `class`, variables and so on.
    refine .ite (fun _ => leaves_whole leaves_importRule) fun _ => ?_
    refine .ite (fun _ => leaves_whole (leaves_exportRule assignment)) fun _ => ?_
    refine .ite (fun _ => ?_) fun _ => .weaken ?_ reached
    · exact .anywhere <| .pass onward_true fun _ => .pass onward_true fun _ => .pure fun _ _ =>
        .inl rfl
    refine .ite (fun _ => leaves_whole (leaves_variableStatement single)) fun _ => ?_
    refine .look (.inspect _) fun t => .ite (fun _ => ?_) fun _ => ?_
    · exact leaves_whole (leaves_letStatement begins single)
    have onward : Onward (Reached start : State source → Prop) := onward_reached _
    refine .pass onward fun isUsing => .ite (fun _ => ?_) fun _ => ?_
    · exact .pass onward fun _ => .pass onward fun _ => .pass onward fun _ => .pure fun _ _ =>
        .inl rfl
    refine .ite (fun _ => .pass onward fun _ => leaves_finishedOther) fun _ => ?_
    refine .pass onward fun _ => .pass onward fun _ => .ite (fun _ => ?_) fun _ => ?_
    · exact .pass onward fun _ => .pure fun _ _ => .inl rfl
    · exact leaves_whole (leaves_expressionStatement begins.expression)

/-- A statement that begins with a word, and one that does not. -/
theorem leaves_statementAt (assignment : Opens g.assignment) (begins : BeginsAll g)
    (single : Bool) :
    Leaves (fun s => s.start.offset = start) (do
      match ← token with
      | .word text _ => wordStatement g start text single
      | t =>
        let form ←
          if t.isMark "\x7b" then do
            block g
            pure Form.other
          else if t.isMark ";" then do
            bump
            pure Form.other
          else expressionStatement g
        return { span := ← spanFrom start, form }) (Covered start) := by
  refine .look (.inspect _) fun t => ?_
  dsimp only
  split
  next text _ => exact leaves_wordStatement assignment begins text single
  next =>
    refine .weaken (I := Reached start) ?_ fun s here => Nat.le_of_eq here.symm
    have onward : Onward (Reached start : State source → Prop) := onward_reached _
    refine .ite (fun _ => ?_) fun _ => .ite (fun _ => ?_) fun _ => ?_
    · exact .pass onward fun _ => leaves_whole leaves_other
    · exact .pass onward fun _ => leaves_whole leaves_other
    · exact leaves_whole (leaves_expressionStatement begins.expression)

end Grammar

/-- A statement begins and ends between two characters, with what it exports inside it. -/
structure Statement.IsPlaced (source : List Char) (st : Statement) : Prop where
  startCut : IsCut source st.span.start
  stopCut : IsCut source st.span.stop
  form : st.form.StandsIn source st.span

namespace Grammar
open ChunkBridge.Script.Parser
variable {g : Grammar source} {lo : Nat}

/-- A statement stands between two places, or it is nothing to the rest of the library. -/
def Between (lo : Nat) (st : Statement) (s : State source) : Prop :=
  st.form = .other ∨ st.IsPlaced source ∧ lo ≤ st.span.start ∧ st.span.stop ≤ s.last.offset

theorem leaves_statementRule (assignment : Opens g.assignment) (begins : BeginsAll g)
    (single : Bool) : Leaves (Reached lo) (statementRule g single) (Between lo) := by
  have onward : Onward (Reached lo : State source → Prop) := onward_reached _
  refine .pass onward fun _ => .ask fun start => ?_
  refine .given (F := IsCut source start ∧ lo ≤ start) (fun s here => ?_) fun ⟨cut, reached⟩ => ?_
  · exact here.2 ▸ ⟨s.start.isCut_offset, here.1⟩
  intro s st t here run
  refine (leaves_statementAt assignment begins single here.2 run).imp id fun ⟨span, form⟩ => ?_
  refine ⟨⟨?_, ?_, form⟩, ?_, Nat.le_of_eq (congrArg Span.stop span)⟩ <;> rw [span]
  · exact cut
  · exact t.last.isCut_offset
  · exact reached

/-- Of two statements that mean something the first ends before the second begins. -/
def InOrder (a b : Statement) : Prop :=
  a.form = .other ∨ b.form = .other ∨ a.span.stop ≤ b.span.start

/-- Statements from a place on, the last one first. -/
structure ReadFrom (lo : Nat) (acc : List Statement) (s : State source) : Prop where
  reached : lo ≤ s.start.offset
  between : ∀ st ∈ acc, Between lo st s
  inOrder : acc.Pairwise fun later earlier => InOrder earlier later

theorem onward_readFrom (lo : Nat) (acc : List Statement) :
    Onward (ReadFrom lo acc : State source → Prop) := by
  intro s t last first read
  refine ⟨Nat.le_trans read.reached first, fun st member => ?_, read.inOrder⟩
  exact (read.between st member).imp id fun ⟨placed, from_lo, behind⟩ =>
    ⟨placed, from_lo, Nat.le_trans behind last⟩

/-- One more statement. -/
theorem ReadFrom.cons {acc : List Statement} {s t : State source} {st : Statement}
    (read : ReadFrom lo acc s)
    (moved : s.last.offset ≤ t.last.offset ∧ s.start.offset ≤ t.start.offset)
    (next : Between s.start.offset st t) : ReadFrom lo (st :: acc) t := by
  have kept := onward_readFrom lo acc moved.1 moved.2 read
  refine ⟨kept.reached, fun other member => ?_,
    List.pairwise_cons.mpr ⟨fun earlier member => ?_, kept.inOrder⟩⟩
  · rcases List.mem_cons.mp member with rfl | older
    · exact next.imp id fun ⟨placed, from_s, behind⟩ =>
        ⟨placed, Nat.le_trans read.reached from_s, behind⟩
    · exact kept.between other older
  · rcases read.between earlier member with other | ⟨-, -, behind⟩
    · exact .inl other
    · rcases next with other | ⟨-, from_s, -⟩
      · exact .inr (.inl other)
      · exact .inr (.inr (Nat.le_trans behind (Nat.le_trans s.last_le_start from_s)))

/-- Statements one after the other. -/
theorem leaves_statements
    (each : ∀ lo, Leaves (Reached lo) (g.statement false) (Between lo)) :
    Leaves (Reached lo) (statements g) fun sts _ =>
      (∀ st ∈ sts, st.form = .other ∨ st.IsPlaced source ∧ lo ≤ st.span.start) ∧
        sts.Pairwise InOrder := by
  refine .weaken (.loop (I := ReadFrom lo) (fun acc => ?_) []) fun s reached => ?_
  · refine .pass (onward_readFrom lo acc) fun _ => .look (.inspect _) fun _ =>
      .look (.inspect _) fun _ => ?_
    refine .ite (fun _ => .pure fun s read => ?_) fun _ => ?_
    · refine ⟨fun st member => ?_, List.pairwise_reverse.mpr read.inOrder⟩
      exact (read.between st (List.mem_reverse.mp member)).imp id fun placed =>
        ⟨placed.1, placed.2.1⟩
    · refine .bind (fun s st t read run => ?_) fun st => .pure fun _ read => read
      exact read.cons ((g.statement false).advances run) (each _ (Nat.le_refl _) run)
  · exact ⟨reached, nofun, .nil⟩

/-- The statements of a source come one after the other from the place on where reading began. -/
theorem leaves_program :
    Leaves (Reached lo) (program source) fun sts _ =>
      (∀ st ∈ sts, st.form = .other ∨ st.IsPlaced source ∧ lo ≤ st.span.start) ∧
        sts.Pairwise InOrder := by
  have each (lo : Nat) : Leaves (Reached lo)
      ((level source (8 * source.length + 64)).statement false) (Between lo) :=
    leaves_statementRule (opensAll_level source (8 * source.length + 63)).assignment
      (beginsAll_level source (8 * source.length + 63)) false
  refine .bind (leaves_statements each) fun sts => .look (.inspect _) fun finished => ?_
  exact .ite (fun _ => .pure fun _ read => read) fun _ => .fail_bind

end Grammar
end ChunkBridge.Script
