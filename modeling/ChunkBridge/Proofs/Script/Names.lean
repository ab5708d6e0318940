import ChunkBridge.Proofs.Script.Positions

/-!
# Names in a source

A name that can be read anywhere in a source is written out there, unless names are written with
escapes in it. So a name that the source does not have is none that the source declares, without a
look at the declarations. And a plain source gives away no name twice.
-/

namespace ChunkBridge.Script
open ChunkBridge.Text

/-! ## Names that are read -/

/-- There is a place in the source where this name is read. Names of tags, which nothing declares,
have a scanner of their own. -/
def Mentions (source : List Char) (name : String) : Prop :=
  ∃ place : Place source, (Scan.token place.rest).token.isWord name = true

/-- What introduces an escape in a name. -/
def escapeMark : List Char := ['\\', 'u']

namespace Scan

/-- The characters of a name stand in the text as they are, or the text has an escape. -/
theorem exists_taken_name (acc : List Char) (n : Nat) (escaped : Bool) (cs : List Char) :
    (∃ taken, taken <+: cs ∧ (name 0 acc n escaped cs).text = acc.reverse ++ taken) ∨
      escapeMark <:+: cs := by
  have nothing (acc cs : List Char) :
      ∃ taken, taken <+: cs ∧ acc.reverse = acc.reverse ++ taken :=
    ⟨[], List.nil_prefix, (List.append_nil _).symm⟩
  induction cs generalizing acc n escaped with
  | nil => exact .inl (nothing acc [])
  | cons c cs ih =>
    unfold name
    rw [if_neg (Nat.lt_irrefl 0)]
    by_cases backslash : c == '\\'
    · rw [if_pos backslash, beq_iff_eq.mp backslash]
      split
      next rest => exact .inr ⟨[], rest, rfl⟩
      next => exact .inl (nothing acc _)
    · rw [if_neg backslash]
      generalize (if acc.isEmpty then isIdentifierStart c else isIdentifierPart c) = goesOn
      cases goesOn with
      | true =>
        rw [if_pos rfl]
        rcases ih (c :: acc) (n + 1) escaped with ⟨taken, stands, text⟩ | escape
        · refine .inl ⟨c :: taken, List.cons_prefix_cons.mpr ⟨rfl, stands⟩, ?_⟩
          rw [text, List.reverse_cons, List.append_assoc, List.singleton_append]
        · exact .inr (List.infix_cons escape)
      | false =>
        rw [if_neg Bool.false_ne_true]
        exact .inl (nothing acc _)

/-- A name that is read stands at the start of the text, or the text has an escape. -/
theorem isPrefix_of_isWord {cs : List Char} {text : String}
    (read : (token cs).token.isWord text = true) :
    text.toList <+: cs ∨ escapeMark <:+: cs := by
  rcases token_cases cs with wordless | ⟨scan, rfl, word⟩
  · -- What is no word may still be read as the empty name, which stands everywhere.
    unfold Token.isWord at read
    split at read
    next other escaped known =>
      rw [known] at wordless
      obtain rfl : other = "" := by simpa [Token.hasText] using wordless
      rw [← beq_iff_eq.mp read]
      exact .inl List.nil_prefix
    next => cases read
  · rw [word] at read
    refine (exists_taken_name [] 0 false cs).imp_left ?_
    rintro ⟨taken, stands, known⟩
    rw [← beq_iff_eq.mp read, known, String.toList_ofList]
    exact stands

end Scan

/-- A name that can be read in a source is written out there, or names are written with escapes. -/
theorem isInfix_of_mentions {source : List Char} {name : String} (mentions : Mentions source name) :
    name.toList <:+: source ∨ escapeMark <:+: source := by
  obtain ⟨place, read⟩ := mentions
  obtain ⟨before, whole, -⟩ := place.isCut
  have later : place.rest <:+: source := List.IsSuffix.isInfix ⟨before, whole.symm⟩
  exact (Scan.isPrefix_of_isWord read).imp (fun stands => stands.isInfix.trans later)
    fun escape => escape.trans later

/-! ## Names that are exported -/

theorem length_eraseDups_le (names : List String) : names.eraseDups.length ≤ names.length := by
  cases names with
  | nil => exact Nat.le_refl 0
  | cons name names =>
    rw [List.eraseDups_cons]
    exact Nat.succ_le_succ (Nat.le_trans (length_eraseDups_le _) (List.length_filter_le _ _))
termination_by names.length
decreasing_by exact Nat.lt_succ_of_le (List.length_filter_le _ _)

/-- Names are all different if none of them is dropped as a duplicate. -/
theorem nodup_of_length_eraseDups {names : List String}
    (same : names.eraseDups.length = names.length) : names.Nodup := by
  induction names with
  | nil => exact .nil
  | cons name names ih =>
    rw [List.eraseDups_cons, List.length_cons, List.length_cons, Nat.succ_inj] at same
    have fewer := List.length_filter_le (fun other => !other == name) names
    have all : (names.filter fun other => !other == name) = names :=
      List.filter_eq_self.mpr <| List.length_filter_eq_length_iff.mp <|
        Nat.le_antisymm fewer (same ▸ length_eraseDups_le _)
    rw [all] at same
    refine List.nodup_cons.mpr ⟨fun again => ?_, ih same⟩
    simpa using List.filter_eq_self.mp all name again

/-- An exported declaration exports the names that it binds. -/
theorem Declared.exportedNames_of_ok {span : Span} {declared : Declared} {names : List String}
    (bound : declared.names = .ok names) (whole : Span) :
    (⟨whole, .exportDeclaration span declared⟩ : Statement).exportedNames = names := by
  cases declared with
  | bindings patterns =>
    have same : (names.flatMap fun name => [name]) = patterns.flatMap Pattern.names := by
      refine flatMap_of_mapM_ok (fun p name plain => ?_) bound
      cases p with
      | name text =>
        cases plain
        rfl
      | compound names => cases plain
    rw [List.flatMap_singleton'] at same
    exact same.symm
  | named name =>
    cases bound
    rfl
  | types => cases bound

/-- What a statement means to other modules keeps the names that it exports. -/
theorem Statement.exportedNames_of_kind {st : Statement} {kind : ItemKind}
    (told : st.kind = .ok kind) : kind.exportedNames = st.exportedNames := by
  obtain ⟨whole, form⟩ := st
  unfold Statement.kind at told
  cases form with
  | exportDeclaration span declared =>
    dsimp only at told
    cases bound : declared.names with
    | error e =>
      rw [bound] at told
      cases told
    | ok names =>
      rw [bound] at told
      cases told
      exact (Declared.exportedNames_of_ok bound whole).symm
  | expression e =>
    cases told
    cases e.bridges? <;> rfl
  | imports | reExport | exportNames | exportDefaultDeclaration | exportDefaultExpression
  | other =>
    cases told
    rfl

/-- The names of an outline are those of its statements. -/
theorem exportedNames_sublist {source : List Char} {hashbang : Option Span}
    {statements : List Statement} {outline : Outline}
    (h : Outline.ofStatements source hashbang statements = .ok outline) :
    outline.exportedNames.Sublist (statements.flatMap Statement.exportedNames) := by
  obtain ⟨-, -, items⟩ := Outline.ofStatements_ok h
  have each (st : Statement) (item : Item)
      (known : (do return ⟨st.span, ← st.kind⟩ : Except OutlineError Item) = .ok item) :
      item.kind.exportedNames = st.exportedNames :=
    Statement.exportedNames_of_kind (Item.isOf_of_ok known).2
  obtain ⟨directives, split⟩ := isSuffix_splitDirectives source statements
  unfold Outline.exportedNames
  rw [flatMap_of_mapM_ok each items]
  conv => rhs; rw [← split, List.flatMap_append]
  exact List.sublist_append_right _ _

/-- A plain source exports no name twice. -/
theorem nodup_exportedNames {dialect : Dialect} {source : String} {outline : Outline}
    (plain : dialect.isTyped = false) (h : Outline.ofSource dialect source = .ok outline) :
    outline.exportedNames.Nodup := by
  obtain ⟨statements, hashbang, read, h⟩ := exists_statements h
  refine List.Nodup.sublist (exportedNames_sublist h) (nodup_of_length_eraseDups ?_)
  unfold sourceStatements? statements? at read
  split at read
  next => cases read
  next all last run =>
    split at read
    next => cases read
    next sound =>
      cases read
      simp only [Bool.or_eq_true, Bool.not_eq_true', not_or, Bool.not_eq_false] at sound
      simpa [isConsistent, plain] using sound.2

end ChunkBridge.Script
