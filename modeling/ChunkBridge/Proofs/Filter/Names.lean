import ChunkBridge.Proofs.Filter.Shift

/-!
# Names that match themselves

A pattern and a path that begin with the same name of a directory, and a slash behind it, come past it
together: each byte of the name stands for itself, and so do question marks and stars among other
things. A star takes as few bytes as it can, so the match is never further in the path than in the
pattern (`Within`); where the two come level, every byte fits. Only what opens brackets or braces, a
backslash and a name of just two stars are something else.
-/

namespace ChunkBridge.Glob
variable {glob path : Array UInt8} {start room n : Nat} {s : State}

/-! ## Bytes that fit or do not -/

/-- The byte stands for itself wherever it stands, if perhaps for others as well. -/
def IsPlain (b : UInt8) : Prop := b ≠ byte '[' ∧ b ≠ byte '\x7b' ∧ b ≠ byte '\\'

/-- What is neither a star nor special is compared to the byte ahead. -/
theorem step_of_plain {b c : UInt8} (inGlob : glob[s.glob]? = some b) (inPath : path[s.path]? = some c)
    (plain : IsPlain b) (noStar : b ≠ star) (depth : s.depth = 0) (opened : List Branch)
    (tryBranch : State → Nat → Verdict) :
    step glob path opened start tryBranch s =
      if b = c ∨ b = byte '?' ∧ c ≠ slash then
        .go { s with
          glob := s.glob + 1, path := s.path + 1
          wildcard := if b = slash then s.globstar else s.wildcard }
      else .miss s := by
  obtain ⟨noBracket, noBrace, noBackslash⟩ := plain
  have read : unescaped glob s.glob = some (b, s.glob) := by
    rw [unescaped, inGlob]
    exact if_neg (by simpa using noBackslash)
  have isStar : (b == star) = false := beq_eq_false_iff_ne.mpr noStar
  have isBrace : (b == byte '\x7b') = false := beq_eq_false_iff_ne.mpr noBrace
  have isBracket : (b == byte '[') = false := beq_eq_false_iff_ne.mpr noBracket
  have shallow : decide (s.depth > 0) = false := decide_eq_false (by omega)
  simp only [step, inGlob, inPath, isStar, isBrace, isBracket, read, shallow, Bool.and_false,
    Bool.false_eq_true, if_false, beq_iff_eq]
  by_cases question : b = byte '?'
  · have noSlash : byte '?' ≠ slash := by decide
    subst question
    by_cases isSlash : c = slash
    · subst isSlash
      rw [if_pos rfl, if_pos rfl, if_neg (by decide)]
    · rw [if_pos rfl, if_neg isSlash, if_pos (.inr ⟨rfl, isSlash⟩), if_neg noSlash]
  · by_cases same : b = c
    · subst same
      rw [if_neg question, if_pos rfl, if_pos (Or.inl rfl)]
      split <;> rfl
    · have misfit : ¬(b = c ∨ b = byte '?' ∧ c ≠ slash) := fun fits =>
        fits.elim same fun other => question other.1
      rw [if_neg question, if_neg (Ne.symm same), if_neg misfit]

/-- Where a byte fits, the match goes past it. -/
theorem turn_of_fit {b c : UInt8} (inGlob : glob[s.glob]? = some b) (inPath : path[s.path]? = some c)
    (plain : IsPlain b) (noStar : b ≠ star) (depth : s.depth = 0)
    (fits : b = c ∨ b = byte '?' ∧ c ≠ slash) (opened : List Branch)
    (tryBranch : State → Nat → Verdict) :
    turn glob path opened start tryBranch s = .inr { s with
      glob := s.glob + 1, path := s.path + 1
      wildcard := if b = slash then s.globstar else s.wildcard } := by
  have within := lt_size_of_getElem? inGlob
  rw [turn, step_of_plain inGlob inPath plain noStar depth, if_pos fits]
  exact if_neg (by simp; omega)

/-- Where it does not, the match goes back to the last star. -/
theorem turn_of_misfit {b c : UInt8} (inGlob : glob[s.glob]? = some b)
    (inPath : path[s.path]? = some c) (plain : IsPlain b) (noStar : b ≠ star) (depth : s.depth = 0)
    (misfit : b ≠ c) (misfit' : b = byte '?' → c = slash) (opened : List Branch)
    (tryBranch : State → Nat → Verdict) :
    turn glob path opened start tryBranch s =
      if 0 < s.wildcard.path && s.wildcard.path ≤ path.size then
        .inr { s with
          glob := s.wildcard.glob, path := s.wildcard.path, depth := s.wildcard.depth }
      else .inl .no := by
  have within := lt_size_of_getElem? inGlob
  have none : ¬(b = c ∨ b = byte '?' ∧ c ≠ slash) := fun fits =>
    fits.elim misfit fun other => other.2 (misfit' other.1)
  rw [turn, step_of_plain inGlob inPath plain noStar depth, if_neg none]
  exact if_neg (by simp; omega)

/-! ## Stars in names -/

/-- Both begin with the same name of so many bytes and a slash behind it. Neither the name nor what
comes behind it is a `**` in the pattern. -/
structure ShareName (glob path : Array UInt8) (n : Nat) : Prop where
  same : ∀ i < n, ∃ b, glob[i]? = some b ∧ path[i]? = some b ∧ b ≠ slash ∧ IsPlain b
  slash : glob[n]? = some slash ∧ path[n]? = some slash
  name : ¬IsComponent glob 0 0
  rest : ¬IsComponent glob 0 (n + 1)

/-- The position behind one star or two. -/
def behindStar (glob : Array UInt8) (i : Nat) : Nat :=
  if glob[i + 1]? = some star then i + 2 else i + 1

namespace ShareName

/-- Stars in a name are in no component of their own. -/
theorem not_isComponent (shared : ShareName glob path n) {i : Nat} (lt : i < n) :
    ¬IsComponent glob 0 i := by
  intro component
  cases i with
  | zero => exact shared.name component
  | succ i =>
    obtain ⟨b, here, -, noSlash, -⟩ := shared.same i (Nat.lt_of_succ_lt lt)
    have isSlash := component.front.resolve_left (by omega)
    rw [Nat.add_sub_cancel, here] at isSlash
    exact noSlash (Option.some.inj isSlash)

theorem bounds_behindStar (shared : ShareName glob path n) {i : Nat} (lt : i < n) :
    i < behindStar glob i ∧ behindStar glob i ≤ n := by
  unfold behindStar
  split
  next next =>
    have inside : i + 1 ≠ n := fun last => by
      rw [last, shared.slash.1] at next
      exact absurd (Option.some.inj next) (by decide)
    omega
  next => omega

/-- No `**` follows behind stars in a name. -/
theorem lastGlobstar_eq (shared : ShareName glob path n) {i : Nat} (lt : i < n)
    (stars : IsGlobstar glob i) (fuel : Nat) : lastGlobstar glob fuel i = i := by
  have inside : i + 2 ≤ n := by
    have := (shared.bounds_behindStar lt).2
    rwa [behindStar, if_pos stars.2] at this
  -- Behind a slash the name has ended, and what follows is known not to begin with a `**`.
  have last (isSlash : glob[i + 2]? = some Glob.slash) : i + 2 = n := by
    refine Nat.le_antisymm inside (Nat.not_lt.mp fun within => ?_)
    obtain ⟨b, here, -, noSlash, -⟩ := shared.same (i + 2) within
    rw [here] at isSlash
    exact noSlash (Option.some.inj isSlash)
  have noMore {b : List UInt8} (more : hasAt glob (i + 2) (Glob.slash :: star :: star :: b) = true)
      (back : i + 5 = glob.size ∨ glob[i + 5]? = some Glob.slash) : False := by
    have isLast := last (getElem?_of_hasAt (k := 0) more rfl)
    refine shared.rest ⟨⟨?_, ?_⟩, .inr ?_, ?_⟩
    · rw [← isLast]
      exact getElem?_of_hasAt (k := 1) more rfl
    · rw [← isLast]
      exact getElem?_of_hasAt (k := 2) more rfl
    · exact shared.slash.1
    · rw [← isLast]
      exact back
  cases fuel with
  | zero => rfl
  | succ fuel =>
    have noneAhead : ¬hasAt glob (i + 2) (byte '/' :: star :: star :: [Glob.slash]) = true :=
      fun more => noMore (b := [Glob.slash]) more (.inr (getElem?_of_hasAt (k := 3) more rfl))
    have noneLast : ¬(i + 5 == glob.size && hasAt glob (i + 2) [Glob.slash, star, star]) = true := by
      rw [Bool.and_eq_true, beq_iff_eq]
      exact fun ⟨atEnd, more⟩ => noMore more (.inl atEnd)
    rw [lastGlobstar, if_neg noneAhead, if_neg noneLast]

/-- A star in a name is given nothing yet, and nothing at all at the end of the path's name. -/
theorem atStar_eq (shared : ShareName glob path n) (lt : s.glob < n)
    (here : glob[s.glob]? = some star) :
    s.atStar glob path 0 =
      if path[s.path]? = some Glob.slash then
        { s with glob := behindStar glob s.glob, wildcard := s.globstar }
      else
        { s with glob := behindStar glob s.glob, wildcard := ⟨s.glob, s.path + 1, s.depth⟩ } := by
  by_cases next : glob[s.glob + 1]? = some star
  · have whole := shared.not_isComponent lt
    have part : ¬((decide (s.glob + 2 - 0 < 3) || glob[s.glob - 1]? == some Glob.slash) &&
        (!(s.glob + 2 != glob.size) || glob[s.glob + 2]? == some Glob.slash)) = true := by
      simp only [Bool.and_eq_true, Bool.or_eq_true, decide_eq_true_eq, beq_iff_eq,
        Bool.not_eq_true', bne_eq_false_iff_eq]
      exact fun ⟨front, back⟩ => whole ⟨⟨here, next⟩, front, back⟩
    rw [atStar_of_globstar next, shared.lastGlobstar_eq lt ⟨here, next⟩, behindStar, if_pos next]
    dsimp only
    rw [if_neg part]
    simp only [beq_iff_eq]
  · rw [atStar_of_single next, behindStar, if_neg next]
    simp only [beq_iff_eq]

/-- Up to the slash both have the same bytes. -/
theorem exists_byte (shared : ShareName glob path n) {i : Nat} (le : i ≤ n) :
    ∃ b, glob[i]? = some b ∧ path[i]? = some b ∧ IsPlain b ∧ (b = Glob.slash ↔ i = n) := by
  rcases Nat.lt_or_eq_of_le le with lt | rfl
  · obtain ⟨b, inGlob, inPath, noSlash, plain⟩ := shared.same i lt
    exact ⟨b, inGlob, inPath, plain, fun isSlash => absurd isSlash noSlash,
      fun last => absurd last (Nat.ne_of_lt lt)⟩
  · exact ⟨_, shared.slash.1, shared.slash.2, by simp [IsPlain]; decide, fun _ => rfl, fun _ => rfl⟩

end ShareName

/-! ## Matches in names -/

/-- Where a match stands in a name. -/
inductive Within (glob : Array UInt8) (n : Nat) : State → Prop
  /-- Equally far in both, with no star to go back to. -/
  | level {i : Nat} (le : i ≤ n) : Within glob n { glob := i, path := i }
  /-- Behind a star that has been given the bytes up to `a`, which is not more than what it is
  written with. -/
  | behind {k a x : Nat} (lt : k < n) (isStar : glob[k]? = some star)
    (given : a ≤ behindStar glob k) (le : behindStar glob k + x ≤ n) :
    Within glob n { glob := behindStar glob k + x, path := a + x, wildcard := ⟨k, a + 1, 0⟩ }
  /-- Back at a star, which will be given one byte more. -/
  | back {k a : Nat} (lt : k < n) (isStar : glob[k]? = some star) (given : a < behindStar glob k) :
    Within glob n { glob := k, path := a + 1, wildcard := ⟨k, a + 1, 0⟩ }

theorem turn_of_star (here : glob[s.glob]? = some star) (opened : List Branch)
    (tryBranch : State → Nat → Verdict) :
    turn glob path opened start tryBranch s = .inr (s.atStar glob path start) := by
  have within := lt_size_of_getElem? here
  have stepped : step glob path opened start tryBranch s = .go (s.atStar glob path start) := by
    rw [step, here]
    rfl
  rw [turn, stepped]
  exact if_neg (by simp; omega)

namespace ShareName

theorem lt_of_isStar (shared : ShareName glob path n) {i : Nat} (le : i ≤ n)
    (isStar : glob[i]? = some star) : i < n := by
  refine Nat.lt_of_le_of_ne le fun last => ?_
  rw [last, shared.slash.1] at isStar
  exact absurd (Option.some.inj isStar) (by decide)

/-- A star in a name is gone past. -/
theorem turn_star (shared : ShareName glob path n) {i j : Nat} {w : Retry} (lt : i < n)
    (isStar : glob[i]? = some star) (le : j ≤ behindStar glob i) (opened : List Branch)
    (tryBranch : State → Nat → Verdict) :
    ∃ t, turn glob path opened 0 tryBranch { glob := i, path := j, wildcard := w } = .inr t ∧
      Within glob n t := by
  obtain ⟨ahead, inside⟩ := shared.bounds_behindStar lt
  refine ⟨_, turn_of_star isStar opened tryBranch, ?_⟩
  rw [shared.atStar_eq lt isStar]
  dsimp only
  split
  next isSlash =>
    obtain ⟨b, -, inPath, -, last⟩ := shared.exists_byte (Nat.le_trans le inside)
    have atEnd : j = n := last.mp (Option.some.inj (inPath.symm.trans isSlash))
    have level : behindStar glob i = j := by omega
    rw [level]
    exact .level (Nat.le_of_eq atEnd)
  next => exact .behind (x := 0) lt isStar le inside

/-- In a name the match goes on, until it has come past the slash in both at once. -/
theorem turn_within (shared : ShareName glob path n) (within : Within glob n s)
    (opened : List Branch) (tryBranch : State → Nat → Verdict) :
    ∃ t, turn glob path opened 0 tryBranch s = .inr t ∧
      (Within glob n t ∨ t = { glob := n + 1, path := n + 1 }) := by
  have beyond := lt_size_of_getElem? shared.slash.2
  cases within with
  | @level i le =>
    obtain ⟨b, inGlob, inPath, plain, last⟩ := shared.exists_byte le
    by_cases isStar : b = star
    · subst isStar
      have lt := shared.lt_of_isStar le inGlob
      obtain ⟨t, next, still⟩ :=
        shared.turn_star (w := {}) lt inGlob (Nat.le_of_lt (shared.bounds_behindStar lt).1) opened tryBranch
      exact ⟨t, next, .inl still⟩
    · refine ⟨_, turn_of_fit inGlob inPath plain isStar rfl (.inl rfl) opened tryBranch, ?_⟩
      rw [ite_self]
      rcases Nat.lt_or_eq_of_le le with lt | rfl
      · exact .inl (.level lt)
      · exact .inr rfl
  | @behind k a x lt isStar given le =>
    have least : a + x ≤ behindStar glob k + x := Nat.add_le_add_right given x
    obtain ⟨b, inGlob, inPath', plain, last⟩ := shared.exists_byte le
    obtain ⟨c, inGlob', inPath, -, last'⟩ := shared.exists_byte (Nat.le_trans least le)
    by_cases isStar' : b = star
    · subst isStar'
      have lt' := shared.lt_of_isStar le inGlob
      have most := Nat.le_trans least (Nat.le_of_lt (shared.bounds_behindStar lt').1)
      obtain ⟨t, next, still⟩ := shared.turn_star lt' inGlob most opened tryBranch
      exact ⟨t, next, .inl still⟩
    · by_cases fits : b = c ∨ b = byte '?' ∧ c ≠ Glob.slash
      · refine ⟨_, turn_of_fit inGlob inPath plain isStar' rfl fits opened tryBranch, ?_⟩
        rcases Nat.lt_or_eq_of_le le with more | atEnd
        · have noSlash : b ≠ Glob.slash := fun isSlash => absurd (last.mp isSlash) (Nat.ne_of_lt more)
          rw [if_neg noSlash]
          exact .inl (.behind (x := x + 1) lt isStar given more)
        · have isSlash := last.mpr atEnd
          have atEnd' : a + x = n := by
            refine last'.mp (fits.elim (fun same => same ▸ isSlash) fun question => ?_)
            exact absurd (question.1.symm.trans isSlash) (by decide)
          rw [if_pos isSlash]
          dsimp only
          rw [atEnd, atEnd']
          exact .inr rfl
      · -- Where both have come equally far every byte fits, so the star has not been given all.
        have less : a < behindStar glob k := by
          refine Nat.lt_of_le_of_ne given fun same => fits (.inl ?_)
          rw [same] at inPath
          exact Option.some.inj (inPath'.symm.trans inPath)
        have misfit' (question : b = byte '?') : c = Glob.slash :=
          Decidable.byContradiction fun other => fits (.inr ⟨question, other⟩)
        refine ⟨_, (turn_of_misfit inGlob inPath plain isStar' rfl (fun same => fits (.inl same)) misfit'
          opened tryBranch).trans (if_pos ?_), .inl (.back lt isStar less)⟩
        simp only [Bool.and_eq_true, decide_eq_true_eq]
        omega
  | @back k a lt isStar given =>
    obtain ⟨t, next, still⟩ := shared.turn_star lt isStar given opened tryBranch
    exact ⟨t, next, .inl still⟩

/-- A name is gone past: what decides is what comes behind it. -/
theorem matchFrom_eq (shared : ShareName glob path n) :
    matchFrom glob path room [] 0 {} =
      matchFrom glob path room [] 0 { glob := n + 1, path := n + 1 } := by
  exact matchFrom_of_leaving nofun (fun s within => shared.turn_within within _ _)
    (.first glob path 0) (.level (Nat.zero_le n))

end ShareName
end ChunkBridge.Glob
