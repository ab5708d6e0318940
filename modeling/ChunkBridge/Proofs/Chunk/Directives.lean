import ChunkBridge.Proofs.Chunk.Ranges
import Mathlib.Data.List.Infix

/-!
# Directives taken out

A compiled module loses its directives that ask for strict mode, and nothing else. Directives are
statements, so their ranges come one after the other; and one that asks for strict mode is not empty,
because it is written with the words it is known by. To cut such ranges out of a text is to keep each
character that stands in none of them (`without`).

The text is searched for those words before it is parsed. A directive has them between its quotes as
they stand in the text, so a text that lacks them has no such directive (`hasInfix_of_asksForStrict`).
-/

namespace ChunkBridge
open ChunkBridge.Text ChunkBridge.Script

namespace Text

/-! ## Finding texts -/

theorem hasInfix_iff {sought cs : List Char} : hasInfix sought cs = true ↔ sought <:+: cs := by
  induction cs with
  | nil => simp [hasInfix]
  | cons c cs ih => simp [hasInfix, ih, List.infix_cons_iff]

/-- What stands in a range of a text stands in the text. -/
theorem sliceChars_isInfix (cs : List Char) (span : Span) : sliceChars cs span <:+: cs := by
  have front : sliceChars cs span <+: dropBytes span.start cs :=
    ⟨_, takeBytes_append_dropBytes _ _⟩
  have back : dropBytes span.start cs <:+ cs := ⟨_, takeBytes_append_dropBytes _ _⟩
  exact front.isInfix.trans back.isInfix

/-- In a range that stops where it starts there is nothing. -/
theorem sliceChars_of_stop_le {cs : List Char} {span : Span} (le : span.stop ≤ span.start) :
    sliceChars cs span = [] := by
  rw [sliceChars, Nat.sub_eq_zero_of_le le, takeBytes_zero]

/-! ## Characters outside of ranges -/

/-- The characters of a text that stand in none of the ranges; the text begins at a position. -/
def without (spans : List Span) : Nat → List Char → List Char
  | _, [] => []
  | pos, c :: cs =>
    let rest := without spans (pos + c.utf8Size) cs
    if spans.any fun s => s.start ≤ pos && pos < s.stop then rest else c :: rest

variable {spans : List Span} {pos : Nat} {cs : List Char}

theorem without_append (spans : List Span) (pos : Nat) (xs ys : List Char) :
    without spans pos (xs ++ ys) = without spans pos xs ++ without spans (pos + byteLength xs) ys := by
  induction xs generalizing pos with
  | nil => simp [without]
  | cons x xs ih =>
    simp only [List.cons_append, without, byteLength_cons, ih, Nat.add_assoc]
    split <;> rfl

/-- Nothing is missing from a text that no range reaches. -/
theorem without_of_clear (clear : ∀ s ∈ spans, s.stop ≤ pos ∨ pos + byteLength cs ≤ s.start) :
    without spans pos cs = cs := by
  induction cs generalizing pos with
  | nil => rfl
  | cons c cs ih =>
    simp only [byteLength_cons] at clear
    have size := c.utf8Size_pos
    have outside : (spans.any fun s => s.start ≤ pos && pos < s.stop) = false := by
      simp only [List.any_eq_false, Bool.and_eq_true, decide_eq_true_eq]
      intro s member
      have := clear s member
      omega
    have rest : without spans (pos + c.utf8Size) cs = cs := by
      refine ih fun s member => ?_
      have := clear s member
      omega
    simp only [without, outside, rest, Bool.false_eq_true, if_false]

/-- Nothing is left of a text that lies in one of the ranges. -/
theorem without_of_inside {s : Span} (member : s ∈ spans) (start : s.start ≤ pos)
    (stop : pos + byteLength cs ≤ s.stop) : without spans pos cs = [] := by
  induction cs generalizing pos with
  | nil => rfl
  | cons c cs ih =>
    simp only [byteLength_cons] at stop
    have size := c.utf8Size_pos
    have inside : (spans.any fun s => s.start ≤ pos && pos < s.stop) = true := by
      simp only [List.any_eq_true, Bool.and_eq_true, decide_eq_true_eq]
      exact ⟨s, member, start, by omega⟩
    simp only [without, inside, if_true]
    exact ih (by omega) (by omega)

end Text

/-- To leave ranges out from left to right is to keep what stands in none of them. Of all ranges those
in front of the position have been left out already. -/
theorem splice_eq_without {source : List Char} {all spans : List Span} {front rest : List Char}
    (split : source = front ++ rest) (among : ∀ s ∈ spans, s ∈ all)
    (others : ∀ s ∈ all, s ∈ spans ∨ s.stop ≤ byteLength front)
    (ahead : ∀ s ∈ spans, byteLength front ≤ s.start)
    (fits : ∀ s ∈ spans, Buffer.isRange source s = true)
    (inOrder : spans.Pairwise fun a b => a.stop ≤ b.start) :
    splice source (byteLength front) (spans.map fun span => { span }) =
      without all (byteLength front) rest := by
  induction spans generalizing front rest with
  | nil =>
    have behind (s : Span) (member : s ∈ all) : s.stop ≤ byteLength front :=
      (others s member).resolve_left List.not_mem_nil
    rw [without_of_clear fun s member => .inl (behind s member), split, List.map_nil, splice,
      dropBytes_byteLength_append]
  | cons s spans ih =>
    obtain ⟨next, inOrder⟩ := List.pairwise_cons.mp inOrder
    obtain ⟨before, inside, after, whole, -, start, stop⟩ :=
      Edit.exists_split (e := { span := s }) (fits s List.mem_cons_self)
    dsimp only at start stop
    have here := ahead s List.mem_cons_self
    obtain ⟨gap, rfl, rfl⟩ := exists_append_of_byteLength_le (split.symm.trans whole) (start ▸ here)
    rw [byteLength_append] at start
    have reach : byteLength (front ++ gap ++ inside) = s.stop := by
      simp only [byteLength_append]
      omega
    have later : splice source (byteLength (front ++ gap ++ inside)) (spans.map fun span => { span }) =
        without all (byteLength (front ++ gap ++ inside)) after := by
      refine ih (by simp [split]) (fun t member => among t (List.mem_cons_of_mem s member))
        (fun t member => ?_) (fun t member => reach ▸ next t member)
        (fun t member => fits t (List.mem_cons_of_mem s member)) inOrder
      rw [reach]
      rcases others t member with mem | done
      · rcases List.mem_cons.mp mem with rfl | later
        · exact .inr (Nat.le_refl _)
        · exact .inl later
      · exact .inr (by omega)
    have kept : without all (byteLength front) gap = gap := by
      refine without_of_clear fun t member => ?_
      rcases others t member with mem | done
      · refine .inr ?_
        rcases List.mem_cons.mp mem with rfl | later
        · omega
        · have := next t later
          omega
      · exact .inl done
    have gone : without all (byteLength front + byteLength gap) inside = [] :=
      without_of_inside (among s List.mem_cons_self) (by omega) (by omega)
    have between : sliceChars source ⟨byteLength front, s.start⟩ = gap := by
      rw [split, start, sliceChars_append]
    rw [List.map_cons, splice, between, ← reach, later, without_append, without_append, kept, gone]
    simp [byteLength_append, Nat.add_assoc]

namespace Script
variable {source : List Char} {statements : List Statement}

/-! ## Where directives stand -/

/-- A directive between whose quotes something is written is not empty. -/
theorem Statement.IsPlaced.isRange_of_directive {st : Statement} {d : Directive}
    (placed : st.IsPlaced source) (told : st.directive? source = some d) (some : d.value ≠ "") :
    Buffer.isRange source d.span = true := by
  obtain ⟨same, -⟩ := Statement.of_directive? told
  rw [same]
  refine Buffer.isRange_iff.mpr ⟨?_, placed.startCut, placed.stopCut⟩
  unfold Statement.directive? at told
  split at told
  next span value form =>
    split at told
    · cases told
      refine placed.form.named _ form (.string ?_)
      by_contra empty
      exact some (String.ofList_eq_empty_iff.mpr (sliceChars_of_stop_le (by dsimp only; omega)))
    · cases told
  next => cases told

/-- Directives come one after the other. -/
theorem pairwise_splitDirectives (inOrder : statements.Pairwise Grammar.InOrder) :
    (splitDirectives source statements).1.Pairwise fun a b => a.span.stop ≤ b.span.start := by
  induction statements with
  | nil => exact .nil
  | cons st rest ih =>
    obtain ⟨first, inOrder⟩ := List.pairwise_cons.mp inOrder
    unfold splitDirectives
    split
    next d told =>
      refine .cons (fun later member => ?_) (ih inOrder)
      obtain ⟨other, old, known⟩ := mem_of_splitDirectives member
      obtain ⟨dSpan, dForm⟩ := Statement.of_directive? told
      obtain ⟨span, form⟩ := Statement.of_directive? known
      rw [dSpan, span]
      exact ((first other old).resolve_left dForm).resolve_left form
    next => exact .nil

variable {dialect : Dialect} {code : String} {outline : Outline}

/-- The directives of a source come one after the other, and each one with a text can be edited. -/
theorem Outline.directives_ofSource (outlined : Outline.ofSource dialect code = .ok outline) :
    outline.directives.Pairwise (fun a b => a.span.stop ≤ b.span.start) ∧
      ∀ d ∈ outline.directives, d.value ≠ "" → Buffer.isRange code.toList d.span = true := by
  obtain ⟨statements, hashbang, read, made⟩ := exists_statements outlined
  obtain ⟨-, directives, -⟩ := Outline.ofStatements_ok made
  have stand := standFrom_statements? read
  rw [directives]
  refine ⟨pairwise_splitDirectives stand.inOrder, fun d member some => ?_⟩
  obtain ⟨st, old, told⟩ := mem_of_splitDirectives member
  have placed := (stand.isPlaced st old).resolve_left (Statement.of_directive? told).2
  exact placed.1.isRange_of_directive told some

/-- The text of a directive stands in its source. -/
theorem Outline.value_isInfix_ofSource (outlined : Outline.ofSource dialect code = .ok outline)
    {d : Directive} (member : d ∈ outline.directives) : d.value.toList <:+: code.toList := by
  obtain ⟨statements, hashbang, -, made⟩ := exists_statements outlined
  rw [(Outline.ofStatements_ok made).2.1] at member
  obtain ⟨st, -, told⟩ := mem_of_splitDirectives member
  unfold Statement.directive? at told
  split at told
  · split at told
    · cases told
      rw [String.toList_ofList]
      exact sliceChars_isInfix _ _
    · cases told
  · cases told

end Script

namespace Strict

/-- Where a module asks for strict mode. -/
def spans (outline : Outline) : List Span :=
  (outline.directives.filter fun d => d.value == directive).map Directive.span

theorem edits_eq_map_spans (outline : Outline) :
    edits outline = (spans outline).map fun span => { span } := by
  simp [edits, spans]

variable {dialect : Dialect} {code : String} {outline : Outline}

/-- Where a module asks for strict mode, the words stand in its text. -/
theorem hasInfix_of_asksForStrict (outlined : Outline.ofSource dialect code = .ok outline)
    (asks : spans outline ≠ []) : hasInfix directive.toList code.toList = true := by
  obtain ⟨span, member⟩ := List.exists_mem_of_ne_nil _ asks
  obtain ⟨d, among, -⟩ := List.mem_map.mp member
  obtain ⟨inSource, words⟩ := List.mem_filter.mp among
  rw [hasInfix_iff, ← beq_iff_eq.mp words]
  exact Outline.value_isInfix_ofSource outlined inSource

/-- The ranges come one after the other, and all of them can be edited. -/
theorem spans_ofSource (outlined : Outline.ofSource dialect code = .ok outline) :
    (spans outline).Pairwise (fun a b => a.stop ≤ b.start) ∧
      ∀ span ∈ spans outline, Buffer.isRange code.toList span = true := by
  obtain ⟨inOrder, ranges⟩ := Outline.directives_ofSource outlined
  refine ⟨List.pairwise_map.mpr (inOrder.filter _), fun span member => ?_⟩
  obtain ⟨d, among, rfl⟩ := List.mem_map.mp member
  obtain ⟨inSource, words⟩ := List.mem_filter.mp among
  refine ranges d inSource ?_
  rw [beq_iff_eq.mp words]
  decide

/-- To edit a module is to keep what stands in none of the ranges. -/
theorem apply_edits (outlined : Outline.ofSource dialect code = .ok outline) :
    Revision.apply { edits := edits outline } code =
      String.ofList (without (spans outline) 0 code.toList) := by
  obtain ⟨inOrder, ranges⟩ := spans_ofSource outlined
  have ordered : (edits outline).Pairwise Edit.Before := by
    rw [edits_eq_map_spans]
    exact List.pairwise_map.mpr inOrder
  have fits (e : Edit) (member : e ∈ edits outline) : e.fits code.toList = true := by
    rw [edits_eq_map_spans] at member
    obtain ⟨span, among, rfl⟩ := List.mem_map.mp member
    exact ranges span among
  have applied : (Revision.apply { edits := edits outline } code).toList =
      splice code.toList 0 (edits outline) ++ [] := Revision.apply_of_disjoint (.refl _) ordered fits
  have left : splice code.toList (byteLength []) ((spans outline).map fun span => { span }) =
      without (spans outline) (byteLength []) code.toList :=
    splice_eq_without (List.nil_append _).symm (fun _ member => member) (fun _ member => .inl member)
      (fun _ _ => Nat.zero_le _) ranges inOrder
  rw [List.append_nil, edits_eq_map_spans] at applied
  rw [← String.ofList_toList (s := Revision.apply _ _), edits_eq_map_spans, applied]
  exact congrArg String.ofList left

/-- Whether the text is searched for the words first or not, what stands in the ranges goes. -/
theorem restore_of_ofSource (outlined : Outline.ofSource (chunkDialect .esm) code = .ok outline) :
    restore .esm code = .ok (String.ofList (without (spans outline) 0 code.toList)) := by
  have esm : OutputFormat.isEsm .esm = true := rfl
  unfold restore
  rw [outlined, esm]
  cases found : hasInfix directive.toList code.toList with
  | true => simp [apply_edits outlined]
  | false =>
    have none : spans outline = [] := by
      by_contra asks
      rw [hasInfix_of_asksForStrict outlined asks] at found
      cases found
    have whole : without [] 0 code.toList = code.toList := without_of_clear (by simp)
    simp [none, whole]

/-- A compiled module loses the ranges of its directives that ask for strict mode, and each character
that stands in none of them is kept in its place, whether the text is searched for their words first
or parsed and edited at once. The ranges are not empty, begin and end between characters and do not
overlap. In any other format the chunk is left as it is. -/
theorem restore_eq_without :
    (∀ format code, format ≠ .esm → restore format code = .ok code) ∧
    ∀ code outline, Outline.ofSource (chunkDialect .esm) code = .ok outline →
      let asked := spans outline
      let left := String.ofList (without asked 0 code.toList)
      restore .esm code = .ok left ∧
      Revision.apply { edits := edits outline } code = left ∧
      asked.Pairwise (fun a b => a.stop ≤ b.start) ∧
      ∀ s ∈ asked, s.start < s.stop ∧ IsCut code.toList s.start ∧ IsCut code.toList s.stop := by
  refine ⟨fun format code other => ?_, fun code outline outlined => ?_⟩
  · have lax : format.isEsm = false := by simpa [OutputFormat.isEsm] using other
    simp [restore, lax]
  · obtain ⟨inOrder, ranges⟩ := spans_ofSource outlined
    exact ⟨restore_of_ofSource outlined, apply_edits outlined, inOrder,
      fun s member => Buffer.isRange_iff.mp (ranges s member)⟩

/-- Two directives go; the same words in a string further on and in a function stay. -/
theorem restore_of_two_directives :
    let code := "'use strict';\"use strict\"; f('use strict', function () \x7b'use strict'\x7d);"
    let left := " f('use strict', function () \x7b'use strict'\x7d);"
    ∃ outline, Outline.ofSource (chunkDialect .esm) code = .ok outline ∧
      spans outline = [⟨0, 13⟩, ⟨13, 26⟩] ∧ restore .esm code = .ok left ∧
      restore .cjs code = .ok code := by
  intro code left
  obtain ⟨outline, outlined⟩ : ∃ outline, Outline.ofSource (chunkDialect .esm) code = .ok outline :=
    exists_ok_of_isSome (by decide +kernel)
  have asked : spans outline = [⟨0, 13⟩, ⟨13, 26⟩] := by
    have told : (Outline.ofSource (chunkDialect .esm) code).toOption.map spans =
        some [⟨0, 13⟩, ⟨13, 26⟩] := by decide +kernel
    rw [outlined] at told
    exact Option.some.inj told
  refine ⟨outline, outlined, asked, ?_, restore_eq_without.1 .cjs code (by decide)⟩
  have result := (restore_eq_without.2 code outline outlined).1
  rw [asked] at result
  exact result.trans (congrArg Except.ok (by decide +kernel))

end Strict
end ChunkBridge
