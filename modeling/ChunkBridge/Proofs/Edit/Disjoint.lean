import ChunkBridge.Proofs.Edit.Untouched
import Mathlib.Data.List.Induction

/-!
# Edits that keep apart

Edits that have no character in common may be made in any order: what comes out is told by one pass
over the source from left to right (`Revision.apply_of_disjoint`). Cut at the ends of such edits the
pieces show them in the order of the source, whatever order they were made in (`Piece.Shows`), and a
further edit falls into one of the gaps that are left (`Shows.insert`).
-/

namespace ChunkBridge
open ChunkBridge.Text

/-! ## Texts that begin alike -/

namespace Text

/-- Of two ways to split a text, the first part of the one is continued by the other. -/
theorem exists_append_of_byteLength_le {xs ys us vs : List Char} (same : xs ++ ys = us ++ vs)
    (shorter : byteLength xs ≤ byteLength us) : ∃ ws, us = xs ++ ws ∧ ys = ws ++ vs := by
  rcases List.append_eq_append_iff.mp same with ⟨ws, split, rest⟩ | ⟨ws, split, rest⟩
  · exact ⟨ws, split, rest⟩
  · have none : ws = [] := by
      rw [split, byteLength_append] at shorter
      exact byteLength_eq_zero.mp (by omega)
    subst none
    exact ⟨[], by simpa using split.symm, by simpa using rest.symm⟩

/-- What stands between two positions. -/
theorem sliceChars_append (before between after : List Char) :
    sliceChars (before ++ (between ++ after))
      ⟨byteLength before, byteLength before + byteLength between⟩ = between := by
  rw [sliceChars, dropBytes_byteLength_append, Nat.add_sub_cancel_left, takeBytes_byteLength_append]

end Text

namespace Edit

/-- The range of an edit ends before that of another one begins. -/
def Before (a b : Edit) : Prop := a.span.stop ≤ b.span.start

/-- The ranges of two edits have no character in common. -/
def Apart (a b : Edit) : Prop := a.Before b ∨ b.Before a

/-- An edit that fits has a text in its range. -/
theorem exists_split {source : List Char} {e : Edit} (fits : e.fits source = true) :
    ∃ before between after, source = before ++ (between ++ after) ∧ between ≠ [] ∧
      e.span.start = byteLength before ∧ e.span.stop = e.span.start + byteLength between := by
  simp only [Edit.fits, Buffer.isRange, Buffer.isCut, Bool.and_eq_true, decide_eq_true_eq,
    beq_iff_eq] at fits
  obtain ⟨⟨lt, startCut⟩, stopCut⟩ := fits
  have whole := (takeBytes_append_dropBytes e.span.start source).trans
    (takeBytes_append_dropBytes e.span.stop source).symm
  obtain ⟨between, upTo, -⟩ := exists_append_of_byteLength_le whole (by omega)
  have length := congrArg byteLength upTo
  rw [byteLength_append] at length
  refine ⟨takeBytes e.span.start source, between, dropBytes e.span.stop source, ?_, ?_,
    startCut.symm, by omega⟩
  · rw [← List.append_assoc, ← upTo, takeBytes_append_dropBytes]
  · rintro rfl
    rw [byteLength_nil] at length
    omega

theorem start_lt_stop {source : List Char} {e : Edit} (fits : e.fits source = true) :
    e.span.start < e.span.stop := (Revision.stop_le_of_isRange fits).1

end Edit

/-- A source with edits in the order of their ranges, read from left to right. -/
def splice (source : List Char) : Nat → List Edit → List Char
  | pos, [] => dropBytes pos source
  | pos, e :: edits =>
    sliceChars source ⟨pos, e.span.start⟩ ++ e.text ++ splice source e.span.stop edits

/-! ## Pieces -/

namespace Piece

@[simp] theorem cut_zero (ps : List Piece) : cut 0 ps = ps := by
  cases ps <;> rfl

/-- Pieces with an edit. -/
def patch (new : List Char) (start stop : Nat) (ps : List Piece) : List Piece :=
  replace new start stop (cut stop (cut start ps))

/-- Pieces that none of the text is missing from; the piece of an empty source is no such piece. -/
def Solid (ps : List Piece) : Prop := ∀ p ∈ ps, p.base ≠ []

variable {front ps : List Piece} {new before between after : List Char} {start stop : Nat}

/-- Pieces in front of a cut stay whole. -/
theorem cut_append (solid : Solid front) (behind : byteLength (front.flatMap base) ≤ start) :
    cut start (front ++ ps) = front ++ cut (start - byteLength (front.flatMap base)) ps := by
  induction front generalizing start with
  | nil => rfl
  | cons p front ih =>
    have positive := byteLength_pos (solid p List.mem_cons_self)
    rw [List.flatMap_cons, byteLength_append] at behind ⊢
    have nonzero : (start == 0) = false := beq_eq_false_iff_ne.mpr (by omega)
    have fits : byteLength p.base ≤ start := by omega
    simp only [List.cons_append, cut, nonzero, Bool.false_eq_true, if_false, if_pos fits]
    rw [ih (fun q member => solid q (List.mem_cons_of_mem _ member)) (by omega), Nat.sub_add_eq]

/-- Pieces in front of a range keep their texts. -/
theorem replace_append (solid : Solid front) (behind : byteLength (front.flatMap base) ≤ start) :
    replace new start stop (front ++ ps) =
      front ++ replace new (start - byteLength (front.flatMap base))
        (stop - byteLength (front.flatMap base)) ps := by
  induction front generalizing start stop with
  | nil => rfl
  | cons p front ih =>
    have positive := byteLength_pos (solid p List.mem_cons_self)
    rw [List.flatMap_cons, byteLength_append] at behind ⊢
    have nonzero : (start == 0) = false := beq_eq_false_iff_ne.mpr (by omega)
    simp only [List.cons_append, replace, nonzero, Bool.false_eq_true, if_false]
    rw [ih (fun q member => solid q (List.mem_cons_of_mem _ member)) (by omega), Nat.sub_add_eq,
      Nat.sub_add_eq]

theorem patch_append (solid : Solid front) (behind : byteLength (front.flatMap base) ≤ start)
    (le : start ≤ stop) :
    patch new start stop (front ++ ps) =
      front ++ patch new (start - byteLength (front.flatMap base))
        (stop - byteLength (front.flatMap base)) ps := by
  rw [patch, cut_append solid behind, cut_append solid (Nat.le_trans behind le),
    replace_append solid behind, patch]

/-- A text that was not edited, in one piece. -/
def gap (cs : List Char) : List Piece := if cs.isEmpty then [] else [{ base := cs }]

@[simp] theorem gap_nil : gap [] = [] := rfl

theorem gap_of_ne_nil {cs : List Char} (nonempty : cs ≠ []) : gap cs = [{ base := cs }] :=
  if_neg (by simpa using nonempty)

@[simp] theorem flatMap_base_gap (cs : List Char) : (gap cs).flatMap base = cs := by
  cases cs <;> simp [gap]

@[simp] theorem flatMap_text_gap (cs : List Char) : (gap cs).flatMap text = cs := by
  cases cs <;> simp [gap, text]

theorem solid_gap (cs : List Char) : Solid (gap cs) := by
  cases cs <;> simp [gap, Solid]

/-- A text that was not edited is cut in two. -/
theorem cut_gap_append (before after : List Char) (ps : List Piece) :
    cut (byteLength before) (gap (before ++ after) ++ ps) = gap before ++ (gap after ++ ps) := by
  by_cases first : before = []
  · subst first
    simp
  by_cases last : after = []
  · subst last
    rw [List.append_nil, cut_append (solid_gap before) (by simp)]
    simp
  · have positive := byteLength_pos first
    have longer := byteLength_pos last
    have nonzero : (byteLength before == 0) = false := beq_eq_false_iff_ne.mpr (by omega)
    have inside : ¬ byteLength (before ++ after) ≤ byteLength before := by
      rw [byteLength_append]
      omega
    have joined : before ++ after ≠ [] := by simp [first]
    rw [gap_of_ne_nil joined, gap_of_ne_nil first, gap_of_ne_nil last]
    simp only [List.singleton_append, cut, nonzero, Bool.false_eq_true, if_false, if_neg inside,
      takeBytes_byteLength_append, dropBytes_byteLength_append, Option.map_none]

/-- An edit in a text that was not edited leaves a gap on either side of it. -/
theorem patch_gap_append (nonempty : between ≠ []) (new before after : List Char)
    (ps : List Piece) :
    patch new (byteLength before) (byteLength before + byteLength between)
        (gap (before ++ (between ++ after)) ++ ps) =
      gap before ++ ⟨between, some new⟩ :: (gap after ++ ps) := by
  have cuts : cut (byteLength before + byteLength between)
      (cut (byteLength before) (gap (before ++ (between ++ after)) ++ ps)) =
        gap before ++ (gap between ++ (gap after ++ ps)) := by
    rw [cut_gap_append, cut_append (solid_gap before) (by simp), flatMap_base_gap,
      Nat.add_sub_cancel_left, cut_gap_append]
  rw [patch, cuts, replace_append (solid_gap before) (by simp), flatMap_base_gap,
    Nat.add_sub_cancel_left, Nat.sub_self, gap_of_ne_nil nonempty]
  simp [replace, edit]

/-- A piece and the gap in front of it stay as they are if an edit is made behind them. -/
theorem patch_gap_append_of_le {p : Piece} {cs : List Char} (nonempty : p.base ≠ [])
    (behind : byteLength cs + byteLength p.base ≤ start) (le : start ≤ stop) :
    patch new start stop (gap cs ++ p :: ps) =
      gap cs ++ p :: patch new (start - (byteLength cs + byteLength p.base))
        (stop - (byteLength cs + byteLength p.base)) ps := by
  have solid : Solid (gap cs ++ [p]) := by
    intro q member
    rcases List.mem_append.mp member with inGap | last
    · exact solid_gap cs q inGap
    · rwa [List.mem_singleton.mp last]
  have size : byteLength ((gap cs ++ [p]).flatMap base) = byteLength cs + byteLength p.base := by
    rw [List.flatMap_append, flatMap_base_gap, List.flatMap_singleton, byteLength_append]
  rw [List.append_cons, patch_append solid (size ▸ behind) le, size, List.append_assoc]
  rfl

/-! ## Edits in the order of the source -/

/-- The pieces of a text that begins at a position show some edits, from left to right. -/
inductive Shows : Nat → List Char → List Edit → List Piece → Prop where
  | rest (pos : Nat) (cs : List Char) : Shows pos cs [] (gap cs)
  | edited {pos : Nat} {front base cs : List Char} {edits : List Edit} {ps : List Piece} (e : Edit)
    (nonempty : base ≠ []) (start : e.span.start = pos + byteLength front)
    (stop : e.span.stop = e.span.start + byteLength base) (more : Shows e.span.stop cs edits ps) :
    Shows pos (front ++ (base ++ cs)) (e :: edits) (gap front ++ ⟨base, some e.text⟩ :: ps)

namespace Shows
variable {pos : Nat} {cs : List Char} {edits : List Edit}

/-- A further edit that keeps apart from the others is shown in its place. -/
theorem insert (shows : Shows pos cs edits ps) (split : cs = before ++ (between ++ after))
    (nonempty : between ≠ []) {e : Edit} (start : e.span.start = pos + byteLength before)
    (stop : e.span.stop = e.span.start + byteLength between) (apart : ∀ f ∈ edits, e.Apart f) :
    ∃ made : List Edit, made.Perm (e :: edits) ∧
      Shows pos cs made (patch e.text (e.span.start - pos) (e.span.stop - pos) ps) := by
  induction shows generalizing before with
  | rest pos cs =>
    subst split
    have placed := patch_gap_append nonempty e.text before after []
    rw [List.append_nil] at placed
    have first : e.span.start - pos = byteLength before := by omega
    have last : e.span.stop - pos = byteLength before + byteLength between := by omega
    rw [first, last, placed, List.append_nil]
    exact ⟨[e], .refl _, .edited e nonempty start stop (.rest _ after)⟩
  | @edited pos front base cs edits ps f someBase fStart fStop more ih =>
    rcases apart f List.mem_cons_self with left | right
    · -- The range lies in the gap in front of the first edit.
      unfold Edit.Before at left
      have within : byteLength (before ++ between) ≤ byteLength front := by
        rw [byteLength_append]
        omega
      rw [← List.append_assoc before] at split
      obtain ⟨cs', rfl, -⟩ := exists_append_of_byteLength_le split.symm within
      simp only [byteLength_append] at fStart
      have later : Shows e.span.stop (cs' ++ (base ++ cs)) (f :: edits)
          (gap cs' ++ ⟨base, some f.text⟩ :: ps) := .edited f someBase (by omega) fStop more
      have first : e.span.start - pos = byteLength before := by omega
      have last : e.span.stop - pos = byteLength before + byteLength between := by omega
      refine ⟨e :: f :: edits, .refl _, ?_⟩
      rw [first, last, List.append_assoc before, patch_gap_append nonempty]
      simp only [List.append_assoc]
      exact .edited e nonempty start stop later
    · -- The range lies behind the first edit.
      unfold Edit.Before at right
      have behind : byteLength (front ++ base) ≤ byteLength before := by
        rw [byteLength_append]
        omega
      rw [← List.append_assoc front] at split
      obtain ⟨cs', rfl, rest⟩ := exists_append_of_byteLength_le split behind
      simp only [byteLength_append] at start
      obtain ⟨made, perm, shown⟩ := ih rest (by omega) fun g member =>
        apart g (List.mem_cons_of_mem _ member)
      have first : e.span.start - f.span.stop =
          e.span.start - pos - (byteLength front + byteLength base) := by omega
      have last : e.span.stop - f.span.stop =
          e.span.stop - pos - (byteLength front + byteLength base) := by omega
      have patched : patch e.text (e.span.start - pos) (e.span.stop - pos)
          (gap front ++ ⟨base, some f.text⟩ :: ps) = gap front ++ ⟨base, some f.text⟩ ::
            patch e.text (e.span.start - f.span.stop) (e.span.stop - f.span.stop) ps := by
        rw [first, last]
        exact patch_gap_append_of_le someBase (by dsimp only; omega) (by omega)
      refine ⟨f :: made, (perm.cons f).trans (.swap e f edits), ?_⟩
      rw [patched]
      exact .edited f someBase fStart fStop shown

theorem pos_le_start (shows : Shows pos cs edits ps) : ∀ e ∈ edits, pos ≤ e.span.start := by
  induction shows with
  | rest => intro e member; cases member
  | edited e nonempty start stop more ih =>
    intro f member
    rcases List.mem_cons.mp member with rfl | later
    · omega
    · have := ih f later
      omega

/-- The edits are in order. -/
theorem pairwise (shows : Shows pos cs edits ps) : edits.Pairwise Edit.Before := by
  induction shows with
  | rest => exact .nil
  | edited e nonempty start stop more ih => exact .cons more.pos_le_start ih

/-- What is shown is the source, read from left to right with the edits in it. -/
theorem text_eq {source front : List Char} (shows : Shows pos cs edits ps)
    (split : source = front ++ cs) (length : byteLength front = pos) :
    ps.flatMap text = splice source pos edits := by
  induction shows generalizing front with
  | rest pos cs =>
    subst split length
    rw [flatMap_text_gap, splice, dropBytes_byteLength_append]
  | @edited pos gapped base cs edits ps e nonempty start stop more ih =>
    have behind : source = (front ++ (gapped ++ base)) ++ cs := by simp [split]
    have reach : byteLength (front ++ (gapped ++ base)) = e.span.stop := by
      rw [byteLength_append, byteLength_append]
      omega
    have later := ih behind reach
    have between : sliceChars source ⟨pos, e.span.start⟩ = gapped := by
      rw [split, start, ← length, sliceChars_append]
    rw [List.flatMap_append, List.flatMap_cons, flatMap_text_gap, later, splice, between,
      List.append_assoc]
    rfl

end Shows
end Piece

/-! ## Edits in any order -/

namespace Buffer

/-- Edits that keep apart are shown in the order of the source. -/
theorem exists_shows {source : String} {edits : List Edit} (some : source.toList ≠ [])
    (fits : ∀ e ∈ edits, e.fits source.toList = true) (apart : edits.Pairwise Edit.Apart) :
    ∃ made : List Edit, made.Perm edits ∧ ∃ pieces, Piece.Shows 0 source.toList made pieces ∧
      edits.foldl edit (.ofText source) = { source := source.toList, pieces } := by
  induction edits using List.reverseRecOn with
  | nil =>
    refine ⟨[], .refl _, _, .rest 0 source.toList, ?_⟩
    rw [Piece.gap_of_ne_nil some]
    rfl
  | append_singleton edits e ih =>
    obtain ⟨apart, -, last⟩ := List.pairwise_append.mp apart
    obtain ⟨made, perm, pieces, shows, same⟩ :=
      ih (fun f member => fits f (List.mem_append_left _ member)) apart
    have own := fits e (by simp)
    obtain ⟨before, between, after, split, nonempty, start, stop⟩ := Edit.exists_split own
    obtain ⟨more, morePerm, shown⟩ := shows.insert split nonempty (start.trans (Nat.zero_add _).symm)
      stop fun f member => (last f (perm.mem_iff.mp member) e (by simp)).symm
    refine ⟨more, morePerm.trans ((perm.cons e).trans (List.perm_append_singleton e edits).symm),
      _, shown, ?_⟩
    rw [List.foldl_append, same]
    exact congrArg (Option.getD · _) (if_pos own)

end Buffer

namespace Revision

/-- Edits that fit and keep apart: whatever order they are made in, the source is read from left to
right with each of them in its place. -/
theorem apply_of_disjoint {r : Revision} {source : String} {ordered : List Edit}
    (perm : r.edits.Perm ordered) (inOrder : ordered.Pairwise Edit.Before)
    (fits : ∀ e ∈ r.edits, e.fits source.toList = true) :
    (r.apply source).toList = splice source.toList 0 ordered ++ r.trailer := by
  obtain ⟨edits, trailer⟩ := r
  suffices same : (edits.foldl Buffer.edit (.ofText source)).chars =
      splice source.toList 0 ordered by
    simp [apply, Buffer.text, Buffer.revise, Buffer.chars_append, same]
  by_cases nothing : edits = []
  · subst nothing
    have none : ordered = [] := List.nil_perm.mp perm
    rw [none, List.foldl_nil, Buffer.chars_ofText, splice, dropBytes_zero]
  · have some : source.toList ≠ [] := by
      obtain ⟨e, member⟩ := List.exists_mem_of_ne_nil edits nothing
      obtain ⟨before, between, after, split, nonempty, -⟩ := Edit.exists_split (fits e member)
      simp [split, nonempty]
    have symm {a b : Edit} (apart : a.Apart b) : b.Apart a := Or.symm apart
    have apart : edits.Pairwise Edit.Apart := (perm.pairwise_iff symm).mpr (inOrder.imp .inl)
    obtain ⟨made, madePerm, pieces, shows, same⟩ := Buffer.exists_shows some fits apart
    have equal : made = ordered := by
      refine List.Perm.eq_of_pairwise (fun a b left right before after => ?_) shows.pairwise inOrder
        (madePerm.trans perm)
      -- Ranges that fit are not empty, so none of them is on both sides of another one.
      have first := Edit.start_lt_stop (fits a (madePerm.mem_iff.mp left))
      have second := Edit.start_lt_stop (fits b (perm.mem_iff.mpr right))
      unfold Edit.Before at before after
      omega
    rw [same, Buffer.chars, List.nil_append, List.append_nil,
      shows.text_eq (List.nil_append _).symm rfl, equal]

end Revision
end ChunkBridge
