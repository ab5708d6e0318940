import ChunkBridge.Proofs.Chunk.Stages
import ChunkBridge.Proofs.Module.Preparation

/-!
# Line numbers of prepared modules

A module loses its hashbang line but not the line break behind it, so what is left of the module
stands on the lines that it had. The source map says so: it leads from each line to the same line
(`Session.line_numbers_of_prepared`). Only the rest of the first line has moved to the left.
-/

namespace ChunkBridge
open ChunkBridge.Text ChunkBridge.Script
open SourceMap (Position)

/-! ## Places that keep their lines -/

namespace SourceMap.Position

/-- A place of a text and the one in its source: the line is the same, and below the first line the
column is as well. -/
structure Aligned (generated origin : Position) : Prop where
  line_eq : generated.line = origin.line
  column_eq : 0 < generated.line → generated.column = origin.column

/-- A further character moves both places alike. A line break even makes the columns the same. -/
theorem Aligned.step {generated origin : Position} (aligned : Aligned generated origin) (c : Char) :
    Aligned (generated.step c) (origin.step c) := by
  obtain ⟨line_eq, column_eq⟩ := aligned
  unfold Position.step
  split
  · exact ⟨congrArg (· + 1) line_eq, fun _ => rfl⟩
  · exact ⟨line_eq, fun below => congrArg (· + _) (column_eq below)⟩

theorem Aligned.advance {generated origin : Position} (aligned : Aligned generated origin)
    (cs : List Char) : Aligned (generated.advance cs) (origin.advance cs) := by
  induction cs generalizing generated origin with
  | nil => exact aligned
  | cons c cs ih => exact ih (aligned.step c)

theorem advance_append (p : Position) (xs ys : List Char) :
    p.advance (xs ++ ys) = (p.advance xs).advance ys :=
  List.foldl_append

/-- Without a line break the place stays on its line. -/
theorem line_advance {cs : List Char} (unbroken : '\n' ∉ cs) (p : Position) :
    (p.advance cs).line = p.line := by
  induction cs generalizing p with
  | nil => rfl
  | cons c cs ih =>
    rw [List.mem_cons, not_or] at unbroken
    have stays : (p.step c).line = p.line := by simp [step, Ne.symm unbroken.1]
    exact (ih unbroken.2 _).trans stays

end SourceMap.Position

/-! ## Tokens of kept text -/

namespace Piece

/-- A line begins behind this text; `fresh` when one begins in front of it. -/
def beginsLine (fresh : Bool) (before : List Char) : Bool :=
  before.foldl (fun _ c => c == '\n') fresh

theorem beginsLine_true {before : List Char} :
    beginsLine true before = true ↔ before = [] ∨ before.getLast? = some '\n' := by
  induction before using List.reverseRecOn with
  | nil => simp [beginsLine]
  | append_singleton before c _ => simp [beginsLine, List.foldl_append]

/-- The token that leads from a place to the one it comes from. -/
def token (generated origin : Position) : SourceMap.Token := ⟨generated, some ⟨0, origin, none⟩⟩

/-- A character has a token if it begins a line. -/
theorem keptTokens_cons (fresh : Bool) (generated origin : Position) (c : Char) (cs : List Char) :
    keptTokens fresh generated origin (c :: cs) =
      (if fresh = true ∧ c ≠ '\n' then [token generated origin] else []) ++
        keptTokens (c == '\n') (generated.step c) (origin.step c) cs := by
  rw [keptTokens.eq_def]
  dsimp only
  by_cases ends : c = '\n'
  · simp [ends]
  · have inside : (c == '\n') = false := beq_eq_false_iff_ne.mpr ends
    cases fresh <;> simp [ends, inside, token]

/-- Kept text has a token at the first character of each line and no other one, and it leads to
that very character. -/
theorem mem_keptTokens_iff {fresh : Bool} {generated origin : Position} {cs : List Char}
    {t : SourceMap.Token} :
    t ∈ keptTokens fresh generated origin cs ↔
      ∃ before c after, cs = before ++ c :: after ∧ c ≠ '\n' ∧ beginsLine fresh before = true ∧
        t = token (generated.advance before) (origin.advance before) := by
  induction cs generalizing fresh generated origin with
  | nil => simp [keptTokens]
  | cons d cs ih =>
    rw [keptTokens_cons, List.mem_append, ih]
    constructor
    · rintro (first | ⟨before, c, after, rfl, inside, begins, rfl⟩)
      · split at first
        next both => exact ⟨[], d, cs, rfl, both.2, both.1, List.mem_singleton.mp first⟩
        next => cases first
      · exact ⟨d :: before, c, after, rfl, inside, begins, rfl⟩
    · rintro ⟨before, c, after, split, inside, begins, rfl⟩
      cases before with
      | nil =>
        obtain ⟨rfl, rfl⟩ := List.cons.inj split
        rw [if_pos ⟨begins, inside⟩]
        exact .inl (List.mem_singleton.mpr rfl)
      | cons e before =>
        obtain ⟨rfl, rfl⟩ := List.cons.inj split
        exact .inr ⟨before, c, after, rfl, inside, begins, rfl⟩

end Piece

namespace Buffer

/-- The tokens of what is left without the front lead behind the front. -/
theorem tokens_withoutFront (front rest : List Char) (name : String) :
    ((withoutFront front rest).sourceMap name).tokens =
      Piece.keptTokens true {} (Position.advance {} front) rest := by
  by_cases behind : rest = []
  · simp [sourceMap, withoutFront, behind, Piece.tokensFrom, Piece.tokens, Piece.keptTokens]
  · simp [sourceMap, withoutFront, behind, Piece.tokensFrom, Piece.tokens, Piece.text,
      Position.advance]

theorem mem_tokens_withoutFront_iff {front rest : List Char} {name : String}
    {t : SourceMap.Token} :
    t ∈ ((withoutFront front rest).sourceMap name).tokens ↔
      ∃ before c after, rest = before ++ c :: after ∧ c ≠ '\n' ∧
        (before = [] ∨ before.getLast? = some '\n') ∧
        t = Piece.token (Position.advance {} before) (Position.advance {} (front ++ before)) := by
  rw [tokens_withoutFront, Piece.mem_keptTokens_iff]
  simp only [Piece.beginsLine_true, Position.advance_append]

/-- A front without a line break is part of the first line, so the lines of the rest keep their
numbers. -/
theorem aligned_withoutFront {front : List Char} (unbroken : '\n' ∉ front)
    (before : List Char) :
    Position.Aligned (Position.advance {} before) (Position.advance {} (front ++ before)) := by
  have start : Position.Aligned {} (Position.advance {} front) :=
    ⟨(Position.line_advance unbroken {}).symm, nofun⟩
  rw [Position.advance_append]
  exact start.advance before

end Buffer

/-! ## Prepared modules -/

namespace Session

/-- A module without a hashbang line is left alone by the registered passes. One with such a line
loses it up to the line break, and the line is kept for its chunk. In the source map of what is
left, each line with a text has a token at its first character, which leads to that very character
in the source, and there are no other tokens. So no token changes the line, nor the column below the
first line. -/
theorem line_numbers_of_prepared (session : Session) {id code : String} {outline : Outline}
    (outlined : Outline.ofSource (.ofId id) code = .ok outline) :
    let prepared := session.prepareModule id code ModulePass.registered
    match outline.hashbang with
    | none => ¬ ['#', '!'] <+: code.toList ∧ prepared.1 = .unchanged
    | some span =>
      ∃ (line text : String) (map : SourceMap),
        slice code span = line ∧ span.start = 0 ∧ ['#', '!'] <+: line.toList ∧
        (∀ c ∈ line.toList, Scan.isLineBreak c = false) ∧
        code = line ++ text ∧ (∀ c ∈ text.toList.head?, Scan.isLineBreak c = true) ∧
        prepared.1 = .transformed ⟨text, some map⟩ ∧
        prepared.2.store.get? String ("hashbang:" ++ id) = some line ∧
        map.sources = [id] ∧ map.contents = some [code] ∧
        (∀ token, token ∈ map.tokens ↔
          ∃ before c after, text.toList = before ++ c :: after ∧ c ≠ '\n' ∧
            (before = [] ∨ before.getLast? = some '\n') ∧
            token = ⟨Position.advance {} before,
              some ⟨0, Position.advance {} (line.toList ++ before), none⟩⟩) ∧
        ∀ token ∈ map.tokens, ∃ position, token.origin = some ⟨0, position, none⟩ ∧
          token.generated.line = position.line ∧
          (0 < token.generated.line → token.generated.column = position.column) := by
  intro prepared
  rw [Outline.hashbang_ofSource outlined]
  cases found : Scan.hashbangLine code.toList with
  | none =>
    refine ⟨Scan.hashbangLine_eq_none_iff.mp found, ?_⟩
    rw [show prepared = _ from prepareModule_of_no_hashbangLine session outlined found]
  | some line =>
    obtain ⟨⟨more, begins, plain⟩, rest, split, ends⟩ := Scan.hashbangLine_eq_some_iff.mp found
    have unbroken : ∀ c ∈ line, Scan.isLineBreak c = false := by
      subst begins
      simpa [Scan.isLineBreak] using plain
    have noBreak : '\n' ∉ line := fun member => nomatch unbroken _ member
    have taken : prepared = _ := prepareModule_of_hashbangLine session outlined found split
    rw [taken]
    refine ⟨String.ofList line, String.ofList rest, _, slice_front split, rfl, ?_, ?_, ?_, ?_, rfl,
      ?_, rfl, ?_, ?_, ?_⟩
    · exact ⟨more, by simp [begins]⟩
    · simpa using unbroken
    · rw [← String.toList_inj]
      simp [split]
    · simpa using ends
    · show Store.hashbang? _ id = _
      rw [ModulePass.hashbang?_scanExports, Store.hashbang?_set_hashbangKey, if_pos rfl]
    · show some [String.ofList (line ++ rest)] = some [code]
      rw [← split, String.ofList_toList]
    · intro token
      rw [Buffer.mem_tokens_withoutFront_iff]
      simp [Piece.token]
    · intro token member
      obtain ⟨before, -, -, -, -, -, rfl⟩ := Buffer.mem_tokens_withoutFront_iff.mp member
      have aligned := Buffer.aligned_withoutFront noBreak before
      exact ⟨_, rfl, aligned.line_eq, aligned.column_eq⟩

/-- The second line of a program is still its second line, and the map leads there. -/
theorem line_numbers_of_program :
    let prepared := ({} : Session).prepareModule "/src/cli.js" "#!/usr/bin/env node\nrun();"
      ModulePass.registered
    ∃ map, prepared.1 = .transformed ⟨"\nrun();", some map⟩ ∧
      prepared.2.store.get? String "hashbang:/src/cli.js" = some "#!/usr/bin/env node" ∧
      ⟨⟨1, 0⟩, some ⟨0, ⟨1, 0⟩, none⟩⟩ ∈ map.tokens := by
  intro prepared
  obtain ⟨outline, outlined⟩ : ∃ outline, Outline.ofSource (.ofId "/src/cli.js")
      "#!/usr/bin/env node\nrun();" = .ok outline :=
    exists_ok_of_isSome (by decide +kernel)
  have kept := line_numbers_of_prepared {} outlined
  have found : Scan.hashbangLine "#!/usr/bin/env node\nrun();".toList =
      some "#!/usr/bin/env node".toList := by decide +kernel
  rw [Outline.hashbang_ofSource outlined, found] at kept
  obtain ⟨line, text, map, sliced, -, -, -, split, -, outcome, record, -, -, tokens, -⟩ := kept
  obtain rfl : line = "#!/usr/bin/env node" := sliced.symm.trans (by decide +kernel)
  obtain rfl : text = "\nrun();" := by
    have chars : "#!/usr/bin/env node".toList ++ "\nrun();".toList =
        "#!/usr/bin/env node".toList ++ text.toList := by
      rw [← String.toList_append, ← String.toList_append, ← split]
      rfl
    exact String.toList_inj.mp (List.append_cancel_left chars).symm
  refine ⟨map, outcome, record, (tokens _).mpr ⟨['\n'], 'r', _, rfl, by decide, by decide, ?_⟩⟩
  decide +kernel

end Session
end ChunkBridge
