import ChunkBridge.Proofs.Chunk.Stages
import ChunkBridge.Proofs.Ledger.Search
import ChunkBridge.Proofs.Script.Positions
import ChunkBridge.Proofs.Script.Stores

/-!
# What is found in a compiled chunk

The search of a compiled chunk is told in full by the assignments to the bridges of the chunk
(`grows_find`): which statements give way to what, and what the clause has for each of them. An entry
of the clause stands for a plain name that was assigned or for a variable that is named after the
bridge, so its local name is an identifier (`isIdentifierName_of_entry`).
-/

namespace ChunkBridge.Exports
open ChunkBridge.Text ChunkBridge.Script

/-! ## What assignments are to a chunk -/

/-- The name in the clause that stands for what was assigned to a bridge. -/
def localOf (b : Bridge) : String := b.localName.getD (inlinedLocal b.name)

/-- The declaration that takes the place of an assignment: a plain name needs none. -/
def declaration (source : List Char) (b : Bridge) : List Char :=
  match b.localName with
  | some _ => []
  | none => ("var " ++ inlinedLocal b.name ++ " = ").toList ++ sliceChars source b.value ++ [';']

/-- The entry of the clause for an assignment to a bridge that was issued. -/
def specifier? (ledger : Ledger) (b : Bridge) : Option Specifier :=
  (ledger.asked? b.name exportsScope).map fun exported => ⟨localOf b, exported⟩

/-- The assignments of a statement that assigns bridges of the chunk and nothing else. -/
def ownBridges? (memo : Exports) : ItemKind → Option (List Bridge)
  | .bridges bs => if bs.all fun b => memo.bridges.contains b.name then some bs else none
  | _ => none

/-- The assignments to bridges of the chunk in a compiled text, in order. -/
def assigned (memo : Exports) (outline : Outline) : List Bridge :=
  outline.items.flatMap fun item => (ownBridges? memo item.kind).getD []

/-- A statement that assigns bridges of the chunk gives way to what has to be declared for it. -/
def declaring? (memo : Exports) (source : List Char) (item : Item) : Option Edit :=
  (ownBridges? memo item.kind).map fun bs => ⟨item.span, bs.flatMap (declaration source)⟩

/-- What the clause gets for an assignment is a plain name that was assigned, or it is declared. -/
theorem localOf_cases (source : List Char) (b : Bridge) :
    b.localName = some (localOf b) ∨
      ∃ value, declaration source b = ("var " ++ localOf b ++ " = ").toList ++ value ++ [';'] := by
  unfold localOf declaration
  cases b.localName with
  | some name => exact .inl rfl
  | none => exact .inr ⟨_, rfl⟩

/-! ## The search -/

/-- What was found before and after some assignments were noted and some statements given up. -/
structure Found.Grows (ledger : Ledger) (before after : Found) (bs : List Bridge)
    (edits : List Edit) : Prop where
  specifiers_eq :
    after.specifiers.map some = before.specifiers.map some ++ bs.map (specifier? ledger)
  edits_eq : after.edits = before.edits ++ edits

namespace Found.Grows
variable {ledger : Ledger} {first second third : Found} {bs more : List Bridge}
variable {edits others : List Edit}

theorem refl (ledger : Ledger) (found : Found) : found.Grows ledger found [] [] where
  specifiers_eq := (List.append_nil _).symm
  edits_eq := (List.append_nil _).symm

theorem trans (left : first.Grows ledger second bs edits)
    (right : second.Grows ledger third more others) :
    first.Grows ledger third (bs ++ more) (edits ++ others) where
  specifiers_eq := by
    rw [right.specifiers_eq, left.specifiers_eq, List.map_append, List.append_assoc]
  edits_eq := by rw [right.edits_eq, left.edits_eq, List.append_assoc]

end Found.Grows

section
variable {memo : Exports} {ledger : Ledger} {file : String} {source : List Char}

/-- An assignment is noted with the name that stands for it, and declared if need be. -/
theorem grows_noteBridge {state next : Found × List Char} {b : Bridge}
    (h : noteBridge ledger file source state b = .ok next) :
    state.1.Grows ledger next.1 [b] [] ∧ next.2 = state.2 ++ declaration source b := by
  obtain ⟨found, declarations⟩ := state
  unfold noteBridge at h
  dsimp only at h
  split at h
  · cases h
  · split at h
    next => cases h
    next exported known =>
      have entry : specifier? ledger b = some ⟨localOf b, exported⟩ := by
        rw [specifier?, known, Option.map_some]
      split at h
      next name plain =>
        cases h
        refine ⟨⟨?_, (List.append_nil _).symm⟩, by simp [declaration, plain]⟩
        simp [entry, localOf, plain]
      next value =>
        cases h
        refine ⟨⟨?_, (List.append_nil _).symm⟩, by simp [declaration, value]⟩
        simp [entry, localOf, value]

/-- So is each assignment of a statement. -/
theorem grows_noteBridges {bs : List Bridge} {state next : Found × List Char}
    (h : bs.foldlM (noteBridge ledger file source) state = .ok next) :
    state.1.Grows ledger next.1 bs [] ∧ next.2 = state.2 ++ bs.flatMap (declaration source) := by
  induction bs generalizing state with
  | nil =>
    cases h
    exact ⟨.refl ledger _, (List.append_nil _).symm⟩
  | cons b bs ih =>
    rw [List.foldlM_cons] at h
    obtain ⟨middle, first, rest⟩ := exists_ok_of_bind h
    obtain ⟨one, declared⟩ := grows_noteBridge first
    obtain ⟨others, declareds⟩ := ih rest
    refine ⟨one.trans others, ?_⟩
    rw [declareds, declared, List.flatMap_cons, List.append_assoc]

/-- Only statements that assign bridges of the chunk and nothing else are taken note of. -/
theorem noteItem_eq (found : Found) (item : Item) :
    noteItem memo ledger file source found item =
      match ownBridges? memo item.kind with
      | some bs => do
        let (found, text) ← bs.foldlM (noteBridge ledger file source) (found, [])
        return { found with edits := found.edits ++ [⟨item.span, text⟩] }
      | none => .ok found := by
  unfold noteItem ownBridges?
  cases item.kind with
  | bridges bs =>
    dsimp only
    split <;> rfl
  | imports | reExport | exportDeclaration | exportNames | exportDefaultDeclaration
  | exportDefaultExpression | other => rfl

/-- Such a statement gives way to its declarations, and any other one stays. -/
theorem grows_noteItem {found next : Found} {item : Item}
    (h : noteItem memo ledger file source found item = .ok next) :
    found.Grows ledger next ((ownBridges? memo item.kind).getD [])
      (declaring? memo source item).toList := by
  rw [noteItem_eq] at h
  unfold declaring?
  cases own : ownBridges? memo item.kind with
  | none =>
    rw [own] at h
    cases h
    exact .refl ledger _
  | some bs =>
    rw [own] at h
    obtain ⟨state, noted, last⟩ := exists_ok_of_bind h
    cases last
    obtain ⟨grows, declared⟩ := grows_noteBridges noted
    refine ⟨grows.specifiers_eq, ?_⟩
    show state.1.edits ++ [⟨item.span, state.2⟩] = _
    rw [grows.edits_eq, List.append_nil, declared]
    rfl

/-- What is noted statement by statement. -/
theorem grows_noteItems {items : List Item} {found next : Found}
    (h : items.foldlM (noteItem memo ledger file source) found = .ok next) :
    found.Grows ledger next (items.flatMap fun item => (ownBridges? memo item.kind).getD [])
      (items.flatMap fun item => (declaring? memo source item).toList) := by
  induction items generalizing found with
  | nil =>
    cases h
    exact .refl ledger _
  | cons item items ih =>
    rw [List.foldlM_cons] at h
    obtain ⟨middle, first, rest⟩ := exists_ok_of_bind h
    exact (grows_noteItem first).trans (ih rest)

/-- What is found in a compiled text: an entry for each assignment to a bridge of the chunk, and
each statement that makes them gives way. -/
theorem grows_find {code : String} {outline : Outline} {found : Found}
    (h : find memo ledger file code outline = .ok found) :
    found.specifiers.map some = (assigned memo outline).map (specifier? ledger) ∧
      found.edits = outline.items.filterMap (declaring? memo code.toList) := by
  obtain ⟨last, noted, complete⟩ := exists_ok_of_bind h
  have same : last = found := by
    split at complete
    · cases complete
    · exact Except.ok.inj complete
  subst same
  have grows := grows_noteItems noted
  refine ⟨grows.specifiers_eq, ?_⟩
  rw [grows.edits_eq, List.filterMap_eq_flatMap_toList]
  rfl

end

/-! ## Entries -/

section
variable {memo : Exports} {ledger : Ledger} {read : Outline}

/-- A statement that gives way assigns bridges, and all of them are bridges of the chunk. -/
theorem ownBridges?_eq_some_iff {kind : ItemKind} {bs : List Bridge} :
    ownBridges? memo kind = some bs ↔
      kind = .bridges bs ∧ ∀ b ∈ bs, b.name ∈ memo.bridges := by
  cases kind with
  | bridges found =>
    simp only [ownBridges?, List.all_eq_true, List.contains_iff_mem, Option.ite_none_right_eq_some,
      Option.some.injEq, ItemKind.bridges.injEq]
    constructor
    · rintro ⟨own, rfl⟩
      exact ⟨rfl, own⟩
    · rintro ⟨rfl, own⟩
      exact ⟨own, rfl⟩
  | imports | reExport | exportDeclaration | exportNames | exportDefaultDeclaration
  | exportDefaultExpression | other => simp [ownBridges?]

/-- What is assigned is assigned by one of the statements that give way. -/
theorem mem_assigned_iff {b : Bridge} :
    b ∈ assigned memo read ↔
      ∃ item ∈ read.items, ∃ bs, ownBridges? memo item.kind = some bs ∧ b ∈ bs := by
  simp only [assigned, List.mem_flatMap]
  refine exists_congr fun item => and_congr_right fun _ => ?_
  cases ownBridges? memo item.kind <;> simp

theorem own_of_assigned {b : Bridge} (within : b ∈ assigned memo read) :
    b.name ∈ memo.bridges := by
  obtain ⟨item, -, bs, known, own⟩ := mem_assigned_iff.mp within
  exact (ownBridges?_eq_some_iff.mp known).2 b own

/-- An entry of the clause comes from an assignment to what stands for its export. -/
theorem exists_assigned
    {specifiers : List Specifier}
    (told : specifiers.map some = (assigned memo read).map (specifier? ledger))
    {entry : Specifier} (member : entry ∈ specifiers) :
    ∃ b ∈ assigned memo read, entry.localName = localOf b ∧
      ledger.asked? b.name exportsScope = some entry.exported := by
  have among : some entry ∈ (assigned memo read).map (specifier? ledger) :=
    told ▸ List.mem_map_of_mem member
  obtain ⟨b, within, known⟩ := List.mem_map.mp among
  obtain ⟨exported, asked, rfl⟩ := Option.map_eq_some_iff.mp known
  exact ⟨b, within, rfl, asked⟩

/-- Behind assignments in an outline stands a statement that is made of them. -/
theorem exists_expression {source : List Char} {hashbang : Option Span}
    {statements : List Statement}
    (told : Outline.ofStatements source hashbang statements = .ok read) {item : Item}
    (member : item ∈ read.items) {bs : List Bridge} (kind : item.kind = .bridges bs) :
    ∃ st ∈ statements, ∃ e, st.span = item.span ∧ st.form = .expression e ∧
      e.bridges? = some bs := by
  obtain ⟨st, among, of⟩ := exists_isOf told item member
  obtain ⟨e, form, assigns⟩ := Statement.form_of_bridges (kind ▸ of.2)
  exact ⟨st, among, e, of.1.symm, form, assigns⟩

end

/-! ## Local names -/

/-- A variable that is named after a bridge of ASCII characters is an identifier. -/
theorem isIdentifierName_inlinedLocal {b : String} (name : Ledger.IsAsciiName b.toList) :
    isIdentifierName (inlinedLocal b).toList = true := by
  have first : isIdentifierStart '_' = true := by decide
  have front : "_closure_export_".toList.all isIdentifierPart = true := by decide
  have behind : b.toList.all isIdentifierPart = true :=
    List.all_eq_true.mpr (Ledger.isIdentifierPart_of_isAsciiName name)
  show isIdentifierName ("__closure_export_" ++ b).toList = true
  rw [String.toList_append]
  show (isIdentifierStart '_' &&
    ("_closure_export_".toList ++ b.toList).all isIdentifierPart) = true
  rw [List.all_append, first, front, behind]
  rfl

/-- A plain name that is assigned to a bridge of the chunk is an identifier. -/
theorem isIdentifierName_of_assigned {dialect : Dialect} {source : String} {read : Outline}
    (readable : Outline.ofSource dialect source = .ok read) {memo : Exports} {b : Bridge}
    (within : b ∈ assigned memo read) {name : String} (plain : b.localName = some name) :
    isIdentifierName name.toList = true := by
  obtain ⟨statements, hashbang, -, told⟩ := exists_statements readable
  obtain ⟨item, member, bs, known, own⟩ := mem_assigned_iff.mp within
  obtain ⟨st, -, e, -, -, assigns⟩ :=
    exists_expression told member (ownBridges?_eq_some_iff.mp known).1
  exact Expr.isIdentifierName_of_bridges? assigns own plain

/-- The local name of an entry of the clause is an identifier. -/
theorem isIdentifierName_of_entry {dialect : Dialect} {source : String} {read : Outline}
    (readable : Outline.ofSource dialect source = .ok read) {memo : Exports}
    {calls : List Ledger.Call} {specifiers : List Specifier}
    (told : specifiers.map some =
      (assigned memo read).map (specifier? (Ledger.after {} calls)))
    {entry : Specifier} (member : entry ∈ specifiers) :
    isIdentifierName entry.localName.toList = true := by
  obtain ⟨b, within, named, asked⟩ := exists_assigned told member
  rw [named, localOf]
  cases plain : b.localName with
  | some name => exact isIdentifierName_of_assigned readable within plain
  | none =>
    obtain ⟨n, candidate⟩ := Ledger.exists_candidate_of_asked? asked
    exact isIdentifierName_inlinedLocal (candidate ▸ Ledger.isAsciiName_candidate n)

end ChunkBridge.Exports
