import ChunkBridge.Proofs.Script.Tokens
import ChunkBridge.Script.Parse

/-!
# Reading export clauses

What the grammar makes of the tokens of an export clause: a name in it gives the name, the names
in braces give the pairs of local and exported names, and a source that is such a clause is this
one statement.
-/

namespace ChunkBridge.Script.Grammar
open Script.Parser
open ChunkBridge.Text
variable {source : List Char} {c : Context} {token next : Token} {ahead : List Token}

/-! ## Names -/

theorem gives_takeWord (text : String) (escaped : Bool) :
    Gives c (takeWord : Parser source String) [.word text escaped] (next :: ahead) text false := by
  unfold takeWord
  exact .look gives_token (.step gives_bumpName (.pure text))

/-- An identifier spells no part of a surrogate pair: it has no backslash. -/
theorem hasLoneUnit_of_isIdentifierName {cs : List Char} (identifier : isIdentifierName cs = true) :
    hasLoneUnit cs = false := by
  have clear (cs : List Char) (parts : cs.all isIdentifierPart = true) :
      hasLoneUnit cs = false := by
    fun_induction hasLoneUnit cs with
    | case1 => simp [isIdentifierPart] at parts
    | case2 => simp [isIdentifierPart] at parts
    | case3 d ds _ _ ih =>
      rw [List.all_cons, Bool.and_eq_true] at parts
      exact ih parts.2
    | case4 => rfl
  refine clear cs ?_
  cases cs with
  | nil => rfl
  | cons d ds =>
    rw [isIdentifierName, Bool.and_eq_true] at identifier
    rw [List.all_cons, isIdentifierPart_of_isIdentifierStart identifier.1, identifier.2]
    rfl

/-- A name in a clause gives the name back. It is a fault if it spells part of a surrogate pair. -/
theorem gives_clauseName (name : String) :
    Gives c (Grammar.clauseName : Parser source (String × Bool)) [Scan.nameToken name]
      (next :: ahead) (name, !isIdentifierName name.toList) (hasLoneUnit name.toList) := by
  unfold Grammar.clauseName
  refine .look gives_token ?_
  unfold Scan.nameToken
  cases identifier : isIdentifierName name.toList with
  | true =>
    rw [hasLoneUnit_of_isIdentifierName identifier]
    exact .step (gives_takeWord name false) (.pure _)
  | false =>
    exact .step (gives_bump rfl) (.check (gives_faultIf _) (.pure _))

/-! ## Pairs of names -/

/-- In a source without types `type` is a name like others. -/
theorem gives_takeTypeWord (plain : c.dialect.isTyped = false) :
    Gives c (takeTypeWord : Parser source Bool) [] (token :: ahead) false false := by
  unfold takeTypeWord
  refine .peek fun second => .glance fun third => .glance fun fourth => ?_
  refine .look (gives_atWord "type") (.look gives_isTyped ?_)
  have untyped : (!token.isWord "type" || !c.dialect.isTyped) = true := by
    rw [plain]
    exact Bool.or_true _
  simp only [untyped, if_true]
  exact .no Bool.false_ne_true (.pure false)

/-- The tokens of a pair of a local and an exported name; names that are the same stand once. -/
def specifierTokens (pair : String × String) : List Token :=
  .word pair.1 false ::
    if pair.1 == pair.2 then [] else [.word "as" false, Scan.nameToken pair.2]

theorem gives_exportSpecifier (plain : c.dialect.isTyped = false) {pair : String × String}
    (identifier : isIdentifierName pair.1.toList = true) (text : String) :
    Gives c (exportSpecifier : Parser source ExportSpecifier) (specifierTokens pair)
      (.mark text :: ahead) ⟨pair.1, false, pair.2⟩ (hasLoneUnit pair.2.toList) := by
  obtain ⟨localName, exported⟩ := pair
  have clear : hasLoneUnit localName.toList = false := hasLoneUnit_of_isIdentifierName identifier
  have first (t : Token) (more : List Token) :
      Gives c (Grammar.clauseName : Parser source (String × Bool)) [.word localName false]
        (t :: more) (localName, false) false := by
    have name : Gives c (Grammar.clauseName : Parser source (String × Bool)) _ (t :: more) _ _ :=
      gives_clauseName localName
    rwa [Scan.nameToken, if_pos identifier, identifier, clear] at name
  unfold exportSpecifier specifierTokens
  dsimp only at identifier ⊢
  refine .look (gives_takeTypeWord plain).discard ?_
  split
  next same =>
    obtain rfl := beq_iff_eq.mp same
    rw [clear]
    refine .step (first _ _) ?_
    exact .look (gives_eatWord_of_not rfl) (.no Bool.false_ne_true (.pure _))
  next =>
    refine .step (first _ _) (.step (gives_eatWord "as") (.yes rfl ?_))
    exact .last (gives_clauseName exported) (.pure _)

/-! ## Clauses -/

/-- The tokens of the pairs in braces, up to the end of the statement. -/
def bracedTokens (pairs : List (String × String)) : List Token :=
  .mark "\x7b" :: (commaList specifierTokens pairs ++ [.mark "\x7d", .mark ";"])

/-- No script has such a name of its own to give away. -/
def isForbiddenLocal (text : String) : Bool := isReserved text || strictWords.contains text

/-- The pair is a fault in a clause. -/
def isFaultyPair (pair : String × String) : Bool :=
  hasLoneUnit pair.2.toList || isForbiddenLocal pair.1

/-- What is a fault for one reason or another. -/
theorem any_or {α : Type} (xs : List α) (p q : α → Bool) :
    xs.any (fun x => p x || q x) = (xs.any p || xs.any q) := by
  induction xs with
  | nil => rfl
  | cons x xs ih =>
    simp only [List.any_cons, ih]
    ac_rfl

section
variable {pairs : List (String × String)}
variable (plain : c.dialect.isTyped = false)
variable (identifiers : ∀ pair ∈ pairs, isIdentifierName pair.1.toList = true)
variable (enough : pairs.length < c.budget)
include plain identifiers enough

theorem gives_exportSpecifiers :
    Gives c (exportSpecifiers : Parser source Form) (bracedTokens pairs) (next :: ahead)
      (.exportNames pairs) (pairs.any isFaultyPair) := by
  let specifiers := pairs.map fun pair => (⟨pair.1, false, pair.2⟩ : ExportSpecifier)
  have read : Gives c
      (within nameList (separated "\x7d" true exportSpecifier) :
        Parser source (List ExportSpecifier))
      (commaList specifierTokens pairs) (.mark "\x7d" :: .mark ";" :: next :: ahead) specifiers
      (pairs.any fun pair => hasLoneUnit pair.2.toList) :=
    .within (gives_separated pairs (by decide) (fun pair _ => ⟨_, _, rfl, rfl, nofun⟩)
      (fun pair member text more =>
        gives_exportSpecifier (c := nameList c) plain (identifiers pair member) text) enough)
  have untyped : Gives c (eatTypeWord : Parser source Unit) []
      (bracedTokens pairs ++ next :: ahead) () false :=
    .look gives_isTyped (.no (Bool.eq_false_iff.mp plain) (.pure ()))
  have brace : Gives c (expectMark "\x7b" : Parser source Unit) [.mark "\x7b"]
      (commaList specifierTokens pairs ++ [.mark "\x7d", .mark ";"] ++ next :: ahead) () false := by
    obtain ⟨first, more, behind⟩ := List.exists_cons_of_ne_nil (List.append_ne_nil_of_right_ne_nil
      (commaList specifierTokens pairs ++ [.mark "\x7d", .mark ";"]) (List.cons_ne_nil next ahead))
    rw [behind]
    exact gives_expectMark "\x7b"
  have ending : Gives c (do
      for specifier in specifiers do
        faultIf (specifier.isString || isReserved specifier.localName ||
          strictWords.contains specifier.localName)
      endStatement
      return .exportNames (specifiers.map fun s => (s.localName, s.exported)) : Parser source Form)
      [.mark ";"] (next :: ahead) (.exportNames pairs)
      (specifiers.any fun s => s.isString || isReserved s.localName ||
        strictWords.contains s.localName) := by
    have same : specifiers.map (fun s => (s.localName, s.exported)) = pairs := by
      rw [List.map_map]
      exact List.map_id pairs
    rw [same]
    exact .check (gives_forIn_faultIf specifiers _) (.step gives_endStatement (.pure _))
  have faults : pairs.any isFaultyPair = ((pairs.any fun pair => hasLoneUnit pair.2.toList) ||
      specifiers.any fun s => s.isString || isReserved s.localName ||
        strictWords.contains s.localName) := by
    rw [List.any_map]
    exact any_or pairs _ _
  rw [faults]
  unfold exportSpecifiers bracedTokens
  refine .look untyped (.step brace (.bind read ?_))
  refine .step (gives_expectMark "\x7d") (.look (gives_eatWord_of_not rfl) ?_)
  exact .no Bool.false_ne_true (.look (.pure false) (.no Bool.false_ne_true ending))

theorem gives_exportRule (g : Grammar source) :
    Gives c (exportRule g) (.word "export" false :: bracedTokens pairs) (next :: ahead)
      (.exportNames pairs) (pairs.any isFaultyPair) := by
  unfold exportRule
  refine .step (gives_expectWord "export") (.look gives_isTyped (.peek fun second => ?_))
  refine .look (gives_atMark "=") (.no (by simp [plain]) ?_)
  refine .look (gives_atWord "as") (.no (by simp [plain]) ?_)
  refine .look (gives_atWord "default") (.no (by simp [Token.isWord]) ?_)
  refine .look (gives_atMark "*") (.look (gives_atWord "type") (.no ?_ ?_))
  · simp [Token.isWord, Token.isMark]
  refine .look (gives_atMark "\x7b") (.look (gives_atWord "type") (.yes ?_ ?_))
  · simp [Token.isMark]
  exact gives_exportSpecifiers plain identifiers enough

end

/-! ## Statements -/

section
variable {g : Grammar source} {s t : State source} {tokens : List Token} {faulty : Bool}

theorem gives_eatDecorators (other : token.isMark "@" = false) :
    Gives c (eatDecorators g) [] (token :: ahead) () false :=
  .look (gives_atMark "@") (.no (Bool.eq_false_iff.mp other) (.pure ()))

/-- Where no decorator stands nothing is read. -/
theorem run_eatDecorators (other : s.token.isMark "@" = false) :
    (eatDecorators g).run s = some ((), s) := by
  have tested : (atMark "@" : Parser source Bool).run s = some (false, s) := by
    rw [← other]
    rfl
  exact run_bind_of tested

/-- A statement that begins with the word `export` is an export. -/
theorem run_statementRule_export {form : Form} (word : s.token = .word "export" false)
    (read : (exportRule g).run s = some (form, t)) (single : Bool) :
    (statementRule g single).run s = some (⟨⟨s.start.offset, t.last.offset⟩, form⟩, t) := by
  have seen : (Parser.token : Parser source Token).run s = some (.word "export" false, s) := by
    rw [← word]
    rfl
  unfold statementRule
  rw [run_bind_of (run_eatDecorators (by rw [word]; rfl)), run_bind_of rfl, run_bind_of seen]
  exact (run_bind_of read).trans rfl

/-- Where one statement is all that is left, it is read and nothing else. -/
theorem run_statements_single {statement : Statement} {n : Nat}
    (unadorned : s.token.isMark "@" = false) (unclosed : s.token.isMark "\x7d" = false)
    (unfinished : s.token ≠ .finish) (budget : s.context.budget = n + 2)
    (read : (g.statement false).run s = some (statement, t))
    (follows : s.Follows t [.finish] faulty) :
    ∃ u, (statements g).run s = some ([statement], u) ∧ s.Follows u [.finish] faulty := by
  unfold statements Parser.loop
  rw [run_bind_of (rfl : (context : Parser source Context).run s = some (s.context, s)), budget]
  generalize withRound : (fun acc : List Statement => _) = round
  have first : (round []).run s = some (.again [statement], t) := by
    have brace : (atMark "\x7d" : Parser source Bool).run s = some (false, s) := by
      rw [← unclosed]
      rfl
    have finish : (atFinish : Parser source Bool).run s = some (false, s) := by
      rw [← beq_eq_false_iff_ne.mpr unfinished]
      rfl
    subst withRound
    rw [run_bind_of (run_eatDecorators unadorned), run_bind_of brace, run_bind_of finish]
    exact (run_bind_of read).trans rfl
  have last : Gives s.context (round [statement]) [] [.finish] (.done [statement]) false := by
    subst withRound
    refine .look (gives_eatDecorators rfl) (.look (gives_atMark "\x7d") (.look gives_atFinish ?_))
    exact .yes rfl (.pure _)
  obtain ⟨u, run, further⟩ :=
    gives_rounds_done (n := n) last follows.context_eq follows.faces
  have whole := follows.trans further
  rw [Bool.or_false] at whole
  exact ⟨u, (run_bind_of first).trans run, whole⟩

end

/-! ## Sources -/

/-- A source that is an export clause and no more is read as this one statement. -/
theorem program_bracedTokens {dialect : Dialect} (plain : dialect.isTyped = false)
    {pairs : List (String × String)}
    (identifiers : ∀ pair ∈ pairs, isIdentifierName pair.1.toList = true)
    (enough : pairs.length < source.length + 2)
    (spells : Spells source (.word "export" false :: (bracedTokens pairs ++ [.finish]))) :
    ∃ span last, (program source).run (.initial source (.top dialect source) 0) =
        some ([⟨span, .exportNames pairs⟩], last) ∧
      last.pending = [] ∧ last.isFaulty = pairs.any isFaultyPair := by
  obtain ⟨here, empty, clear, faces⟩ := State.faces_initial (.top dialect source) spells
  generalize State.initial source (.top dialect source) 0 = s at *
  have exports : Gives (.top dialect source)
      (exportRule (level source (8 * source.length + 63)))
      (.word "export" false :: bracedTokens pairs) [.finish] (.exportNames pairs)
      (pairs.any isFaultyPair) := gives_exportRule plain identifiers enough _
  obtain ⟨t, read, follows⟩ := exports here faces
  have word : s.token = .word "export" false := faces.1
  have statement := run_statementRule_export word read false
  obtain ⟨u, run, further⟩ := run_statements_single
    (g := level source (8 * source.length + 64)) (n := source.length)
    (by rw [word]; rfl) (by rw [word]; rfl) (by rw [word]; nofun) (by rw [here]; rfl)
    statement follows
  refine ⟨⟨s.start.offset, t.last.offset⟩, u, ?_, ?_, ?_⟩
  · have finish : (atFinish : Parser source Bool).run u = some (true, u) := by
      rw [← beq_iff_eq.mpr further.faces.1]
      rfl
    unfold program
    rw [run_bind_of run]
    exact (run_bind_of finish).trans rfl
  · rw [further.pending_eq, empty]
  · rw [further.isFaulty_eq, clear, Bool.false_or]

/-- Of different names none is dropped as a duplicate. -/
theorem eraseDups_of_nodup {names : List String} (distinct : names.Nodup) :
    names.eraseDups = names := by
  induction names with
  | nil => rfl
  | cons name names ih =>
    obtain ⟨absent, distinct⟩ := List.nodup_cons.mp distinct
    have all : (names.filter fun other => !other == name) = names := by
      refine List.filter_eq_self.mpr fun other member => ?_
      simpa using fun same : other = name => absent (same ▸ member)
    rw [List.eraseDups_cons, all, ih distinct]

/-- Statements that are read without a fault are those of the source, if they export different
names. -/
theorem statements?_of_run {dialect : Dialect} {skip : Nat} {statements : List Statement}
    {last : State source}
    (run : (program source).run (.initial source (.top dialect source) skip) =
      some (statements, last))
    (clear : last.isFaulty = false) (empty : last.pending = [])
    (distinct : (statements.flatMap Statement.exportedNames).Nodup) :
    statements? dialect source skip = some statements := by
  have consistent : isConsistent dialect statements = true := by
    simp [isConsistent, eraseDups_of_nodup distinct]
  simp [statements?, run, clear, empty, consistent]

/-- Without a hashbang line the outline is that of the statements. -/
theorem ofSource_of_statements? {dialect : Dialect} {text : String} {statements : List Statement}
    (unmarked : Scan.hashbangLine text.toList = none)
    (read : statements? dialect text.toList 0 = some statements) :
    Outline.ofSource dialect text = Outline.ofStatements text.toList none statements := by
  unfold Outline.ofSource
  simp only [unmarked, Option.getD_none, List.length_nil, read, List.isEmpty_nil, if_true]

end ChunkBridge.Script.Grammar
