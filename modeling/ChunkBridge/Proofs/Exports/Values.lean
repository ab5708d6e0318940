import ChunkBridge.Proofs.Exports.Assignments
import ChunkBridge.Proofs.Script.Execution

/-!
# What bridges are assigned

A statement is taken for assignments to bridges by its targets. What it does is to assign the listed
values to them, and the operator decides what is stored (`values_of_bridges`). The clause of a
restored chunk trusts that it is `=`: what it exports is the value that stands on the right of the
only assignment to a bridge.
-/

namespace ChunkBridge.Exports
open ChunkBridge.Text ChunkBridge.Script

section
variable {source : List Char} {hashbang : Option Span} {statements : List Statement}
variable {read : Outline}

/-- An assignment that is found is a part of a statement, which gives way to what is declared. -/
theorem exists_part (told : Outline.ofStatements source hashbang statements = .ok read)
    {memo : Exports} {b : Bridge} (within : b ∈ assigned memo read) :
    ∃ st ∈ statements, ∃ e, st.form = .expression e ∧ (∃ part ∈ e.parts, part.bridge? = some b) ∧
      ∃ front back, ⟨st.span, front ++ declaration source b ++ back⟩ ∈
        read.items.filterMap (declaring? memo source) := by
  obtain ⟨item, member, bs, known, own⟩ := mem_assigned_iff.mp within
  obtain ⟨st, among, e, span, form, assigns⟩ :=
    exists_expression told member (ownBridges?_eq_some_iff.mp known).1
  have part : some b ∈ e.parts.map Expr.bridge? :=
    Expr.map_bridge?_parts assigns ▸ List.mem_map_of_mem own
  obtain ⟨before, after, rfl⟩ := List.append_of_mem own
  refine ⟨st, among, e, form, List.mem_map.mp part, before.flatMap (declaration source),
    after.flatMap (declaration source), List.mem_filterMap.mpr ⟨item, member, ?_⟩⟩
  rw [declaring?, known, Option.map_some, List.flatMap_append, List.flatMap_cons,
    List.append_assoc, span]

end

/-- What a clause has for an export: the value of the only assignment to its bridge, as the plain
name that it is or as a variable that is declared with its text in the place of the statement. The
assignment may have any operator. -/
structure Holds (ledger : Ledger) (memo : Exports) (source : List Char)
    (statements : List Statement) (read : Outline) (entry : Specifier) (b : Bridge) : Prop where
  asked : ledger.asked? b.name exportsScope = some entry.exported
  only : ((assigned memo read).filter fun other => other.name == b.name) = [b]
  part : ∃ st ∈ statements, ∃ e, st.form = .expression e ∧
    (∃ part ∈ e.parts, part.bridge? = some b ∧
      ∀ (m : Type → Type) (V : Type) [Monad m] (M : Machine m V), part.executePart M source =
        M.assign part.isPlain b.name (sliceChars source b.value)) ∧
    (b.localName = some entry.localName ∨ entry.localName = inlinedLocal b.name ∧
      ∃ front back, ⟨st.span, front ++ (("var " ++ entry.localName ++ " = ").toList ++
          sliceChars source b.value ++ [';']) ++ back⟩ ∈
        read.items.filterMap (declaring? memo source))

/-- An entry of the clause holds the value that was assigned. -/
theorem exists_holds {ledger : Ledger} {memo : Exports} {source : List Char}
    {hashbang : Option Span} {statements : List Statement} {read : Outline}
    {specifiers : List Specifier}
    (told : Outline.ofStatements source hashbang statements = .ok read)
    (entries : specifiers.map some = (assigned memo read).map (specifier? ledger))
    (nodup : ((assigned memo read).map Bridge.name).Nodup) {entry : Specifier}
    (member : entry ∈ specifiers) :
    ∃ b, Holds ledger memo source statements read entry b := by
  obtain ⟨b, within, named, asked⟩ := exists_assigned entries member
  obtain ⟨st, among, e, form, ⟨part, own, assigns⟩, front, back, edited⟩ := exists_part told within
  refine ⟨b, asked, filter_key_eq nodup within, st, among, e, form,
    ⟨part, own, assigns, fun m V _ M => Expr.executePart_of_bridge? M source assigns⟩, ?_⟩
  unfold localOf at named
  unfold declaration at edited
  cases value : b.localName with
  | some name =>
    rw [value, Option.getD_some] at named
    exact .inl (congrArg some named.symm)
  | none =>
    rw [value, Option.getD_none] at named
    rw [value] at edited
    exact .inr ⟨named, front, back, named ▸ edited⟩

/-- In a source that parses, a statement is taken for assignments to bridges only if each of its
parts is an assignment to a property of the global object. On whatever machine it is executed, it
assigns the listed values to the listed properties, each with its operator, and does nothing else;
and it stores those values if all operators are `=`. In a compiled chunk that is restored each entry
of the clause holds the value on the right of the only assignment to its bridge. -/
theorem values_of_bridges {dialect : Dialect} {source : String} {read : Outline}
    (readable : Outline.ofSource dialect source = .ok read) :
    ∃ statements, sourceStatements? dialect source = some statements ∧
      (∀ item ∈ read.items, ∀ bs, item.kind = .bridges bs →
        ∃ st ∈ statements, ∃ e, st.span = item.span ∧ st.form = .expression e ∧
          e.parts.map Expr.bridge? = bs.map some ∧
          ∀ (m : Type → Type) (V : Type) [Monad m] (M : Machine m V),
            st.execute M source.toList =
              M.assignEach source.toList (bs.zip (e.parts.map Expr.isPlain)) ∧
            (st.isPlain = true → st.execute M source.toList = M.storeEach source.toList bs)) ∧
      ∀ (start between : List Ledger.Call) (unit : ChunkUnit) (memo : Exports) (after : Ledger)
        (revision : Revision), dialect = {} →
        prepare unit (Ledger.after {} start) = (memo, after, .ok revision) → memo.bridges ≠ [] →
        ∀ file text, restore memo (after.after between) file source = .ok text →
          ∃ specifiers : List Specifier,
            text.toList = splice source.toList 0
              (read.items.filterMap (declaring? memo source.toList)) ++
                (clause specifiers).toList ∧
            ∀ entry ∈ specifiers, ∃ b,
              Holds (after.after between) memo source.toList statements read entry b := by
  obtain ⟨statements, hashbang, parsed, told⟩ := exists_statements readable
  refine ⟨statements, parsed, fun item member bs kind => ?_, ?_⟩
  · obtain ⟨st, among, e, span, form, assigns⟩ := exists_expression told member kind
    exact ⟨st, among, e, span, form, Expr.map_bridge?_parts assigns, fun m V _ M =>
      ⟨st.execute_of_bridges? M _ form assigns, st.execute_of_isPlain M _ form assigns⟩⟩
  · rintro start between unit memo after revision rfl prepared some file text restored
    obtain ⟨specifiers, entries, split⟩ := splice_of_restore readable restored some
    have meets := meets_clause prepared between file source
    rw [restored] at meets
    obtain ⟨again, found, same, search, -, exported, -⟩ :=
      meets.2 (mt (bridges_eq_nil_iff prepared).mpr some)
    obtain rfl := Except.ok.inj (readable.symm.trans same)
    have nodup := nodup_assigned (grows_find search).1 exported
    exact ⟨specifiers, split, fun entry member => exists_holds told entries nodup member⟩

/-- The value of the first assignment is a text, and that of the second one a plain name: the one is
declared, and both are what the compiled chunk stores. -/
theorem values_of_joined_bridges :
    let code := "export const f = 1;\nexport default f + 1;"
    let outline : Outline := { items := [
      ⟨⟨0, 19⟩, .exportDeclaration ⟨7, 19⟩ ["f"]⟩, ⟨⟨20, 41⟩, .exportDefaultExpression ⟨35, 40⟩⟩] }
    let compiled := "var c=1;window.b=2,window.a=c;"
    let bs : List Bridge := [⟨"b", ⟨17, 18⟩, none⟩, ⟨"a", ⟨28, 29⟩, some "c"⟩]
    let read : Outline := { items := [⟨⟨0, 8⟩, .other⟩, ⟨⟨8, 30⟩, .bridges bs⟩] }
    let memo : Exports := ⟨["a", "b"], []⟩
    let ledger := (prepare ⟨{}, code, outline⟩ (Ledger.after {} [])).2.1.after []
    let restored := "var c=1;var __closure_export_b = 2;\n" ++
      "export \x7b __closure_export_b as default, c as f \x7d;"
    Outline.ofSource {} compiled = .ok read ∧
    restore memo ledger "main.js" compiled = .ok restored ∧
    ∃ statements, sourceStatements? {} compiled = some statements ∧
      (∃ st ∈ statements, ∀ (m : Type → Type) (V : Type) [Monad m] (M : Machine m V),
        st.execute M compiled.toList = M.storeEach compiled.toList bs) ∧
      ∃ specifiers : List Specifier,
        restored.toList =
          splice compiled.toList 0 [⟨⟨8, 30⟩, "var __closure_export_b = 2;".toList⟩] ++
            (clause specifiers).toList ∧
        ∀ entry ∈ specifiers, ∃ b,
          Holds ledger memo compiled.toList statements read entry b := by
  intro code outline compiled bs read memo ledger restored
  have readable : Outline.ofSource {} compiled = .ok read := eq_ok_of_toOption (by decide +kernel)
  obtain ⟨revision, prepared⟩ : ∃ revision, prepare ⟨{}, code, outline⟩ (Ledger.after {} []) =
      (memo, (prepare ⟨{}, code, outline⟩ (Ledger.after {} [])).2.1, .ok revision) :=
    exists_revision (by decide +kernel) (by decide +kernel)
  have result : restore memo ledger "main.js" compiled = .ok restored :=
    eq_ok_of_toOption (by decide +kernel)
  have edits : read.items.filterMap (declaring? memo compiled.toList) =
      [⟨⟨8, 30⟩, "var __closure_export_b = 2;".toList⟩] := by decide +kernel
  obtain ⟨statements, parsed, executed, clauses⟩ := values_of_bridges readable
  have plain : (sourceStatements? {} compiled).map (List.all · Statement.isPlain) = some true := by
    decide +kernel
  rw [parsed, Option.map_some, Option.some.injEq, List.all_eq_true] at plain
  obtain ⟨st, member, e, -, -, -, runs⟩ := executed ⟨⟨8, 30⟩, .bridges bs⟩ (by simp [read]) bs rfl
  obtain ⟨specifiers, split, holds⟩ :=
    clauses [] [] _ memo _ revision rfl prepared (by decide) "main.js" restored result
  exact ⟨readable, result, statements, parsed,
    ⟨st, member, fun m V _ M => (runs m V M).2 (plain st member)⟩, specifiers, edits ▸ split, holds⟩

/-- Another operator is taken for `=`. A machine that adds stores another value than the listed one,
and the clause has the listed one all the same. -/
theorem value_of_another_operator :
    let source := "window.a += c;"
    let bs : List Bridge := [⟨"a", ⟨12, 13⟩, some "c"⟩]
    let adding : Machine (StateM Nat) Nat := {
      evaluate := fun _ => pure 1
      store := fun _ value => set value
      update := fun _ value => do
        let before ← get
        set (before + (← value)) }
    let prepared := ChunkPass.prepareChunk {} .esm {} "export const foo = 1;"
    (Outline.ofSource {} source).toOption.map Outline.items = some [⟨⟨0, 14⟩, .bridges bs⟩] ∧
    (sourceStatements? {} source).map (List.map fun st =>
      ((st.execute adding source.toList).run 1).2) = some [2] ∧
    ((adding.storeEach source.toList bs).run 1).2 = 1 ∧
    prepared.result = .ok "const foo = 1;\nwindow[\"a\"] = foo;" ∧
    ChunkPass.restoreChunk { ledger := prepared.ledger } .esm {} prepared.passes
      "var c = 1;\nwindow.a += c;" = .ok "var c = 1;\n\nexport \x7b c as foo \x7d;" :=
  ⟨by decide +kernel, by decide +kernel, by decide +kernel, eq_ok_of_toOption (by decide +kernel),
    eq_ok_of_toOption (by decide +kernel)⟩

end ChunkBridge.Exports
