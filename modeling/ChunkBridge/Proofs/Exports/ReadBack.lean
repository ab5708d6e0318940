import ChunkBridge.Chunk.Exports
import ChunkBridge.Proofs.Script.ExportClauses

/-!
# Export clauses read back

The text of an export clause against what a reader makes of it. A name is quoted when it is no
identifier, and what is quoted is escaped, so no name is taken for another one or for a piece of
the clause, and the entries come back as the pairs they were made of.
-/

namespace ChunkBridge.Exports
open ChunkBridge.Text ChunkBridge.Script

/-! ## Names -/

/-- What ends a name in the text of a clause. -/
theorem endsName_of_head {c : Char} (cs : List Char)
    (ends : c ≠ '\\' ∧ isIdentifierPart c = false) : Scan.EndsName (c :: cs) :=
  fun _ first => Option.some.inj first ▸ ends

/-- The text of a name by itself is read as this name. -/
theorem run_clauseName (c : Context) (name : String) :
    ∃ last, (Grammar.clauseName : Parser (clauseName name).toList (String × Bool)).run
        (.initial (clauseName name).toList c 0) =
          some ((name, !isIdentifierName name.toList), last) ∧
      last.token = .finish ∧ last.isFaulty = Grammar.hasLoneUnit name.toList := by
  have spells : Spells ([] ++ ((clauseName name).toList ++ [])) [Scan.nameToken name, .finish] :=
    .name (List.forall_mem_nil _) name (fun _ first => by cases first) .finish
  rw [List.nil_append, List.append_nil] at spells
  obtain ⟨here, -, clear, faces⟩ := State.faces_initial c spells
  obtain ⟨last, run, follows⟩ := Grammar.gives_clauseName name here faces
  refine ⟨last, run, follows.faces.1, ?_⟩
  rw [follows.isFaulty_eq, clear, Bool.false_or]

example : clauseName "foo" = "foo" ∧ clauseName "foo-bar" = "\"foo-bar\"" := by decide +kernel

/-- Different names have different texts. -/
theorem injective_clauseName : Function.Injective clauseName := by
  let reading (text : String) : Option String :=
    ((Grammar.clauseName : Parser text.toList (String × Bool)).run
      (.initial text.toList (.top {} []) 0)).map fun result => result.1.1
  have back (name : String) : reading (clauseName name) = some name := by
    obtain ⟨last, run, -⟩ := run_clauseName (.top {} []) name
    show Option.map _ _ = some name
    rw [run]
    rfl
  intro name other same
  have read : reading (clauseName name) = reading (clauseName other) := congrArg reading same
  rw [back, back] at read
  exact Option.some.inj read

/-! ## Entries -/

/-- The local and the exported name of an entry. -/
def pair (s : Specifier) : String × String := (s.localName, s.exported)

theorem separates_blank : ∀ c ∈ [' '], Scan.Separates c := Scan.separates_of_all rfl

/-- The marks of a clause begin tokens. -/
theorem opens_mark {c : Char} (mark : c = '\x7b' ∨ c = '\x7d' ∨ c = ',' ∨ c = ';') :
    Scan.Opens c := by
  rcases mark with rfl | rfl | rfl | rfl <;> exact ⟨rfl, rfl, by decide, by decide, by decide⟩

section
variable {gap behind : List Char} {tokens : List Token}

/-- The text of an entry is the tokens of its pair. -/
theorem spells_text {s : Specifier} (identifier : isIdentifierName s.localName.toList = true)
    (separates : ∀ c ∈ gap, Scan.Separates c) (ends : Scan.EndsName behind)
    (rest : Spells behind tokens) :
    Spells (gap ++ (s.text.toList ++ behind)) (Grammar.specifierTokens (pair s) ++ tokens) := by
  unfold Specifier.text Grammar.specifierTokens pair
  dsimp only
  split
  next => exact .word separates identifier ends rest
  next =>
    have exported : Spells (' ' :: ((clauseName s.exported).toList ++ behind))
        (Scan.nameToken s.exported :: tokens) := .name separates_blank s.exported ends rest
    have isWord : isIdentifierName "as".toList = true := by decide
    have role : Spells (' ' :: ("as".toList ++ ' ' :: ((clauseName s.exported).toList ++ behind)))
        (.word "as" false :: Scan.nameToken s.exported :: tokens) :=
      .word separates_blank isWord (endsName_of_head _ (by decide)) exported
    have whole := Spells.word separates identifier (endsName_of_head _ (by decide)) role
    rw [String.toList_append, String.toList_append, List.append_assoc, List.append_assoc]
    exact whole

/-- The texts of entries that have others in front of them. -/
def followingText (specifiers : List Specifier) : List Char :=
  specifiers.flatMap fun s => ',' :: ' ' :: s.text.toList

theorem endsName_followingText (specifiers : List Specifier) (ends : Scan.EndsName behind) :
    Scan.EndsName (followingText specifiers ++ behind) := by
  cases specifiers with
  | nil => exact ends
  | cons s ss => exact endsName_of_head _ (by decide)

theorem spells_followingText {specifiers : List Specifier}
    (identifiers : ∀ s ∈ specifiers, isIdentifierName s.localName.toList = true)
    (ends : Scan.EndsName behind) (rest : Spells behind tokens) :
    Spells (followingText specifiers ++ behind)
      ((specifiers.map pair).flatMap (fun p => .mark "," :: Grammar.specifierTokens p) ++
        tokens) := by
  induction specifiers with
  | nil => exact rest
  | cons s ss ih =>
    have more := ih fun t member => identifiers t (List.mem_cons_of_mem s member)
    have entry : Spells (' ' :: (s.text.toList ++ (followingText ss ++ behind))) _ :=
      spells_text (identifiers s List.mem_cons_self) separates_blank
        (endsName_followingText ss ends) more
    have comma : Scan.Opens ',' := opens_mark (by decide)
    have whole := Spells.mark (List.forall_mem_nil _) comma rfl entry
    rw [followingText, List.flatMap_cons, List.map_cons, List.flatMap_cons, List.append_assoc,
      List.append_assoc]
    exact whole

end

/-- What stands between the blanks of a clause. -/
theorem toList_intercalate (s : Specifier) (ss : List Specifier) :
    (", ".intercalate ((s :: ss).map Specifier.text)).toList =
      s.text.toList ++ followingText ss := by
  induction ss generalizing s with
  | nil => simp [followingText]
  | cons t ts ih =>
    rw [List.map_cons, List.map_cons, String.intercalate_cons_cons, String.toList_append,
      String.toList_append, ← List.map_cons, ih t]
    simp [followingText]

/-! ## Clauses -/

/-- The text of a clause is the tokens of its pairs in braces. -/
theorem spells_clause {specifiers : List Specifier}
    (identifiers : ∀ s ∈ specifiers, isIdentifierName s.localName.toList = true) :
    Spells (clause specifiers).toList
      (.word "export" false :: (Grammar.bracedTokens (specifiers.map pair) ++ [.finish])) := by
  have semicolon : Spells [';'] [.mark ";", .finish] :=
    .mark (List.forall_mem_nil _) (opens_mark (by decide)) rfl .finish
  have closing : Spells [' ', '\x7d', ';'] [.mark "\x7d", .mark ";", .finish] :=
    .mark separates_blank (opens_mark (by decide)) rfl semicolon
  have entries : Spells (' ' :: ((", ".intercalate (specifiers.map Specifier.text)).toList ++
      [' ', '\x7d', ';'])) (Parser.commaList Grammar.specifierTokens (specifiers.map pair) ++
        [.mark "\x7d", .mark ";", .finish]) := by
    cases specifiers with
    | nil =>
      have blanks : ∀ c ∈ [' ', ' '], Scan.Separates c := Scan.separates_of_all rfl
      exact .mark blanks (opens_mark (by decide)) rfl semicolon
    | cons s ss =>
      have ends : Scan.EndsName [' ', '\x7d', ';'] := endsName_of_head _ (by decide)
      have more := spells_followingText
        (fun t member => identifiers t (List.mem_cons_of_mem s member)) ends closing
      have whole : Spells (' ' :: (s.text.toList ++ (followingText ss ++ [' ', '\x7d', ';']))) _ :=
        spells_text (identifiers s List.mem_cons_self) separates_blank
          (endsName_followingText ss ends) more
      rw [toList_intercalate, List.map_cons, Parser.commaList, List.append_assoc,
        List.append_assoc]
      exact whole
  have braced : Spells (' ' :: '\x7b' :: ' ' ::
      ((", ".intercalate (specifiers.map Specifier.text)).toList ++ [' ', '\x7d', ';'])) _ :=
    .mark separates_blank (opens_mark (by decide)) rfl entries
  have newline : ∀ c ∈ ['\n'], Scan.Separates c := Scan.separates_of_all rfl
  have isWord : isIdentifierName "export".toList = true := by decide
  have whole := Spells.word newline isWord (endsName_of_head _ (by decide)) braced
  rw [clause, String.toList_append, String.toList_append, Grammar.bracedTokens, List.append_assoc]
  rw [List.cons_append, List.append_assoc]
  exact whole

theorem length_le_followingText (specifiers : List Specifier) :
    specifiers.length ≤ (followingText specifiers).length := by
  induction specifiers with
  | nil => exact Nat.le_refl 0
  | cons s ss ih =>
    rw [followingText, List.flatMap_cons, List.length_append, List.length_cons, Nat.add_comm]
    exact Nat.add_le_add (Nat.le_add_left 1 _) ih

/-- A clause is longer than its list of entries, so the reader has rounds enough for them. -/
theorem length_lt_clause (specifiers : List Specifier) :
    specifiers.length < (clause specifiers).toList.length := by
  rw [clause, String.toList_append, String.toList_append, List.length_append, List.length_append]
  have opening : 10 = "\nexport \x7b ".toList.length := rfl
  cases specifiers with
  | nil => rw [← opening]; exact Nat.lt_of_lt_of_le (by decide) (Nat.le_add_right _ _)
  | cons s ss =>
    have more := length_le_followingText ss
    rw [toList_intercalate, List.length_append, ← opening, List.length_cons]
    omega

/-- The text of a clause is read as an export of the pairs that its entries are. -/
theorem read_clause {dialect : Dialect} (plain : dialect.isTyped = false)
    {specifiers : List Specifier}
    (identifiers : ∀ s ∈ specifiers, isIdentifierName s.localName.toList = true) :
    ∃ span last,
      (program (clause specifiers).toList).run
          (.initial (clause specifiers).toList (.top dialect (clause specifiers).toList) 0) =
        some ([⟨span, .exportNames (specifiers.map pair)⟩], last) ∧
      last.isFaulty = (specifiers.map pair).any Grammar.isFaultyPair ∧
      (last.isFaulty = false → (specifiers.map Specifier.exported).Nodup →
        Outline.ofSource dialect (clause specifiers) =
          .ok { items := [⟨span, .exportNames (specifiers.map pair)⟩] }) := by
  have locals : ∀ p ∈ specifiers.map pair, isIdentifierName p.1.toList = true :=
    List.forall_mem_map.mpr identifiers
  have enough : (specifiers.map pair).length < (clause specifiers).toList.length + 2 := by
    rw [List.length_map]
    exact Nat.lt_add_right 2 (length_lt_clause specifiers)
  obtain ⟨span, last, run, empty, faults⟩ :=
    Grammar.program_bracedTokens plain locals enough (spells_clause identifiers)
  refine ⟨span, last, run, faults, fun clear distinct => ?_⟩
  have names : ([⟨span, .exportNames (specifiers.map pair)⟩] : List Statement).flatMap
      Statement.exportedNames = specifiers.map Specifier.exported := by
    simp [Statement.exportedNames, pair]
  have read : statements? dialect (clause specifiers).toList 0 =
      some [⟨span, .exportNames (specifiers.map pair)⟩] :=
    Grammar.statements?_of_run run clear empty (names ▸ distinct)
  have unmarked : Scan.hashbangLine (clause specifiers).toList = none := by
    have first : (clause specifiers).toList = '\n' :: (clause specifiers).toList.tail := by
      simp [clause]
    rw [first]
    rfl
  rw [Grammar.ofSource_of_statements? unmarked read]
  rfl

/-- The name of an export and the text of it in a clause: reading the text gives the name, and
different names have different texts. An export clause is read as the pairs of local and exported
names that it was made of, whatever the names are. The reader calls it a fault if a local name is
reserved or an exported name spells part of a surrogate pair; without a fault the clause is the
outline of its text. -/
theorem clause_reads_back {dialect : Dialect} (plain : dialect.isTyped = false) :
    (∀ name : String,
      let text := (clauseName name).toList
      ∃ last, (Grammar.clauseName : Parser text (String × Bool)).run
          (.initial text (.top dialect text) 0) =
            some ((name, !isIdentifierName name.toList), last) ∧
        last.token = .finish ∧ last.isFaulty = Grammar.hasLoneUnit name.toList) ∧
    Function.Injective clauseName ∧
    ∀ specifiers : List Specifier,
      (∀ s ∈ specifiers, isIdentifierName s.localName.toList = true) →
      let text := (clause specifiers).toList
      let pairs := specifiers.map fun s => (s.localName, s.exported)
      ∃ span last,
        (program text).run (.initial text (.top dialect text) 0) =
          some ([⟨span, .exportNames pairs⟩], last) ∧
        last.isFaulty = pairs.any Grammar.isFaultyPair ∧
        (last.isFaulty = false → (specifiers.map Specifier.exported).Nodup →
          Outline.ofSource dialect (clause specifiers) =
            .ok { items := [⟨span, .exportNames pairs⟩] }) :=
  ⟨fun name => run_clauseName _ name, injective_clauseName,
    fun _ identifiers => read_clause plain identifiers⟩

/-- Names that look like pieces of a clause. -/
theorem clause_of_hard_names :
    let name := "b\", c as d \x7d;\\\n\u2028"
    let specifiers : List Specifier := [⟨"a", name⟩, ⟨"c", "c"⟩, ⟨"as", "default"⟩, ⟨"e", ""⟩]
    clause specifiers =
      "\nexport \x7b a as \"b\\\", c as d \x7d;\\\\\\n\u2028\", c, as as default, e as \"\" \x7d;" ∧
    ∃ span, Outline.ofSource {} (clause specifiers) = .ok
      { items :=
          [⟨span, .exportNames [("a", name), ("c", "c"), ("as", "default"), ("e", "")]⟩] } := by
  intro name specifiers
  obtain ⟨-, -, read⟩ := clause_reads_back (rfl : ({} : Dialect).isTyped = false)
  obtain ⟨span, last, -, faults, outline⟩ := read specifiers (by decide +kernel)
  have clear : last.isFaulty = false := faults.trans (by decide +kernel)
  exact ⟨by decide +kernel, span, outline clear (by decide +kernel)⟩

end ChunkBridge.Exports
