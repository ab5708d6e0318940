import ChunkBridge.Filter.Glob
import Mathlib.Tactic.SplitIfs

/-!
# Moves of a match

A match reads a byte of its pattern, goes past it or goes back to a star, and tries the branches of a
brace as matches of their own. What it can do from where it stands is a `Move`, and every move keeps
what holds of its places in the pattern and in the path (`State.Sound`).
-/

namespace ChunkBridge.Glob
variable {glob path : Array UInt8}

/-! ## Where the parts of a pattern end -/

theorem lt_size_of_getElem? {a : Array UInt8} {i : Nat} {b : UInt8} (h : a[i]? = some b) :
    i < a.size := by
  obtain ⟨lt, -⟩ := Array.getElem?_eq_some_iff.mp h
  exact lt

/-- What the tests of a step for a star come to. -/
theorem ne_star_of_getElem? {i : Nat} {b : UInt8} (here : glob[i]? = some b)
    (other : ¬(b == star) = true) : glob[i]? ≠ some star := by
  rw [here]
  exact fun same => other (beq_iff_eq.mpr (Option.some.inj same))

theorem bounds_unescaped {i j : Nat} {d : UInt8} (h : unescaped glob i = some (d, j)) :
    i ≤ j ∧ j < glob.size := by
  unfold unescaped at h
  split at h
  next => cases h
  next c here =>
    split at h
    · split at h
      next => cases h
      next e next =>
        cases h
        exact ⟨Nat.le_succ i, lt_size_of_getElem? next⟩
    · cases h
      exact ⟨Nat.le_refl i, lt_size_of_getElem? here⟩

theorem bounds_inRanges {c : UInt8} {fuel i close : Nat} {first found result : Bool}
    (h : inRanges glob c fuel i first found = some (result, close)) :
    i ≤ close ∧ close < glob.size := by
  induction fuel generalizing i first found with
  | zero => cases h
  | succ fuel ih =>
    unfold inRanges at h
    split at h
    next => cases h
    next b here =>
      split at h
      · cases h
        exact ⟨Nat.le_refl _, lt_size_of_getElem? here⟩
      · obtain ⟨⟨low, j⟩, read, h⟩ := Option.bind_eq_some_iff.mp h
        have first := bounds_unescaped read
        dsimp only at h
        split at h
        · obtain ⟨⟨high, k⟩, read, h⟩ := Option.bind_eq_some_iff.mp h
          have second := bounds_unescaped read
          have rest := ih h
          omega
        · have rest := ih h
          omega

theorem bounds_bracket {c : UInt8} {i behind : Nat} {result : Bool}
    (h : bracket glob c i = some (result, behind)) : i < behind ∧ behind ≤ glob.size := by
  unfold bracket at h
  dsimp only at h
  obtain ⟨⟨found, close⟩, read, h⟩ := Option.bind_eq_some_iff.mp h
  cases h
  have inside := bounds_inRanges read
  split at inside <;> omega

theorem bounds_skipBranch (fuel depth : Nat) (inBrackets : Bool) {i : Nat} (le : i ≤ glob.size + 1) :
    i ≤ skipBranch glob fuel i depth inBrackets ∧
      skipBranch glob fuel i depth inBrackets ≤ glob.size + 1 := by
  induction fuel generalizing i depth inBrackets with
  | zero => exact ⟨Nat.le_refl i, le⟩
  | succ fuel ih =>
    unfold skipBranch
    split
    next => exact ⟨Nat.le_refl i, le⟩
    next b here =>
      have lt := lt_size_of_getElem? here
      have next (depth : Nat) (inBrackets : Bool) := ih depth inBrackets (i := i + 1) (by omega)
      have past (depth : Nat) (inBrackets : Bool) := ih depth inBrackets (i := i + 2) (by omega)
      split_ifs
      · have := next (depth + 1) false; omega
      · omega
      · have := next (depth - 1) false; omega
      · have := next depth true; omega
      · have := next depth false; omega
      · have := past depth inBrackets; omega
      · have := next depth inBrackets; omega

/-- To skip a branch is to move on. -/
theorem lt_skipBranch (fuel depth : Nat) (inBrackets : Bool) {i : Nat} (lt : i < glob.size) :
    i < skipBranch glob (fuel + 1) i depth inBrackets := by
  unfold skipBranch
  rw [Array.getElem?_eq_getElem lt]
  have next (depth : Nat) (inBrackets : Bool) : i + 1 ≤ skipBranch glob fuel (i + 1) depth inBrackets :=
    (bounds_skipBranch fuel depth inBrackets (by omega)).1
  have past (depth : Nat) (inBrackets : Bool) : i + 2 ≤ skipBranch glob fuel (i + 2) depth inBrackets :=
    (bounds_skipBranch fuel depth inBrackets (by omega)).1
  dsimp only
  split_ifs
  · exact next _ _
  · omega
  · exact next _ _
  · exact next _ _
  · exact next _ _
  · exact Nat.lt_of_lt_of_le (by omega) (past depth inBrackets)
  · exact next _ _

/-- A branch begins where one was begun before or further on. -/
theorem mem_branches {fuel i depth start b : Nat} {inBrackets : Bool}
    (member : b ∈ branches glob fuel i depth inBrackets start) :
    b = start ∨ i < b ∧ b ≤ glob.size := by
  induction fuel generalizing i depth inBrackets start with
  | zero => cases member
  | succ fuel ih =>
    unfold branches at member
    split at member
    next => cases member
    next c here =>
      have lt := lt_size_of_getElem? here
      split_ifs at member
      · have := ih member; omega
      · have := ih member; omega
      · exact .inl (List.mem_singleton.mp member)
      · have := ih member; omega
      · rcases List.mem_cons.mp member with rfl | later
        · exact .inl rfl
        · have := ih later; omega
      · have := ih member; omega
      · have := ih member; omega
      · have := ih member; omega
      · have := ih member; omega

/-- The branches of a brace begin behind it. -/
theorem bounds_of_mem_branches {fuel i b : Nat} (brace : glob[i]? = some (byte '\x7b'))
    (member : b ∈ branches glob fuel i 0 false 0) : i < b ∧ b ≤ glob.size := by
  have lt := lt_size_of_getElem? brace
  cases fuel with
  | zero => cases member
  | succ fuel =>
    simp only [branches, brace, beq_self_eq_true, Bool.not_false, Bool.and_self, if_true] at member
    have := mem_branches member
    omega

/-- A text that stands in a pattern stands there byte by byte. -/
theorem getElem?_of_hasAt {i k : Nat} {bytes : List UInt8} {b : UInt8}
    (has : hasAt glob i bytes = true) (known : bytes[k]? = some b) : glob[i + k]? = some b := by
  rw [← beq_iff_eq.mp has, Array.getElem?_toList, Array.getElem?_extract] at known
  split at known
  · exact known
  · cases known

/-- Two stars stand next to each other. -/
def IsGlobstar (glob : Array UInt8) (i : Nat) : Prop :=
  glob[i]? = some star ∧ glob[i + 1]? = some star

/-- Two stars are a whole component of a pattern that begins at `start`. -/
structure IsComponent (glob : Array UInt8) (start i : Nat) : Prop where
  stars : IsGlobstar glob i
  front : i + 2 - start < 3 ∨ glob[i - 1]? = some slash
  back : i + 2 = glob.size ∨ glob[i + 2]? = some slash

/-- Of several `**` in a row the last one is found, and all but the first are components. -/
theorem isGlobstar_lastGlobstar (start fuel : Nat) {i : Nat} (here : IsGlobstar glob i) :
    i ≤ lastGlobstar glob fuel i ∧ IsGlobstar glob (lastGlobstar glob fuel i) ∧
      (lastGlobstar glob fuel i = i ∨ IsComponent glob start (lastGlobstar glob fuel i)) := by
  induction fuel generalizing i with
  | zero => exact ⟨Nat.le_refl i, here, .inl rfl⟩
  | succ fuel ih =>
    unfold lastGlobstar
    split
    next more =>
      have next : IsComponent glob start (i + 3) :=
        ⟨⟨getElem?_of_hasAt (k := 1) more rfl, getElem?_of_hasAt (k := 2) more rfl⟩,
          .inr (getElem?_of_hasAt (k := 0) more rfl), .inr (getElem?_of_hasAt (k := 3) more rfl)⟩
      obtain ⟨le, last, component⟩ := ih next.stars
      refine ⟨by omega, last, .inr ?_⟩
      rcases component with same | component
      · rwa [same]
      · exact component
    next =>
      split
      next more =>
        obtain ⟨atEnd, more⟩ := Bool.and_eq_true_iff.mp more
        have last : IsComponent glob start (i + 3) :=
          ⟨⟨getElem?_of_hasAt (k := 1) more rfl, getElem?_of_hasAt (k := 2) more rfl⟩,
            .inr (getElem?_of_hasAt (k := 0) more rfl), .inl (beq_iff_eq.mp atEnd)⟩
        exact ⟨by omega, last.stars, .inr last⟩
      next => exact ⟨Nat.le_refl i, here, .inl rfl⟩

theorem bounds_nextSlash (fuel : Nat) {i : Nat} (le : i ≤ path.size) :
    i ≤ nextSlash path fuel i ∧ nextSlash path fuel i ≤ path.size := by
  induction fuel generalizing i with
  | zero => exact ⟨Nat.le_refl i, le⟩
  | succ fuel ih =>
    unfold nextSlash
    split
    next within =>
      have lt : i < path.size := of_decide_eq_true (Bool.and_eq_true_iff.mp within).1
      have rest := ih (i := i + 1) lt
      omega
    next => exact ⟨Nat.le_refl i, le⟩

/-! ## How a match moves on -/

/-- What a match of a pattern that begins at `start` can go on to from a state. -/
inductive Move (glob path : Array UInt8) (start : Nat) (s : State) : State → Prop where
  /-- Into a branch of a brace, or out of one. -/
  | jump (i depth : Nat) (plain : glob[s.glob]? ≠ some star) (ahead : s.glob < i)
    (inside : i ≤ glob.size + 1) : Move glob path start s { s with glob := i, depth }
  /-- Past a byte of the path. -/
  | byte (i : Nat) (plain : glob[s.glob]? ≠ some star) (ahead : s.glob < i)
    (inside : i ≤ glob.size + 1) (more : s.path < path.size) :
    Move glob path start s { s with glob := i, path := s.path + 1 }
  /-- Past a slash. -/
  | slash (i : Nat) (plain : glob[s.glob]? ≠ some star) (ahead : s.glob < i)
    (inside : i ≤ glob.size + 1) (more : s.path < path.size) :
    Move glob path start s { s with glob := i, path := s.path + 1, wildcard := s.globstar }
  /-- Past stars, with the bytes of a component before it. -/
  | star (first i : Nat) (single : ¬IsComponent glob start s.glob) (le : s.glob ≤ first)
    (here : glob[first]? = some star) (ahead : first < i) (inside : i ≤ glob.size) :
    Move glob path start s { s with glob := i, wildcard := ⟨first, s.path + 1, s.depth⟩ }
  /-- Past stars where a component ends. -/
  | starAtSlash (i : Nat) (single : ¬IsComponent glob start s.glob) (ahead : s.glob < i)
    (inside : i ≤ glob.size) (more : s.path < path.size) :
    Move glob path start s { s with glob := i, wildcard := s.globstar }
  /-- Past a `**` at the end of the path. -/
  | globstarAtEnd (first i : Nat) (le : s.glob ≤ first) (here : glob[first]? = some star)
    (ahead : first < i) (inside : i ≤ glob.size) (atEnd : s.path = path.size) :
    Move glob path start s { s with glob := i, wildcard := ⟨first, s.path + 2, s.depth⟩ }
  /-- Past a `**`, with the next component before it. -/
  | globstar (first i next : Nat) (le : s.glob ≤ first) (component : IsComponent glob start first)
    (ahead : first < i) (inside : i ≤ glob.size) (further : s.path < next)
    (within : next ≤ path.size + 1) :
    Move glob path start s
      { s with glob := i, wildcard := ⟨first, next, s.depth⟩, globstar := ⟨first, next, s.depth⟩ }
  /-- Back to the last star. -/
  | retry (plain : glob[s.glob]? ≠ some star) (set : 0 < s.wildcard.path)
    (within : s.wildcard.path ≤ path.size) :
    Move glob path start s
      { s with glob := s.wildcard.glob, path := s.wildcard.path, depth := s.wildcard.depth }

namespace State

/-- What holds of a match wherever it stands. -/
structure Sound (glob path : Array UInt8) (start : Nat) (s : State) : Prop where
  path_le : s.path ≤ path.size
  glob_le : s.glob ≤ glob.size + 1
  globstar_le : s.globstar.glob ≤ glob.size
  globstar_path_le : s.globstar.path ≤ path.size + 1
  /-- The last `**` stands in front of the last star, and that in front of the match. -/
  inOrder : s.globstar.glob ≤ s.wildcard.glob ∧ s.wildcard.glob ≤ s.glob
  isStar : 0 < s.wildcard.path → glob[s.wildcard.glob]? = some star
  isComponent : 0 < s.globstar.path → IsComponent glob start s.globstar.glob
  set : 0 < s.globstar.path → 0 < s.wildcard.path
  /-- Only a match that has just gone back to a star stands at it. -/
  atStar : 0 < s.wildcard.path → s.glob = s.wildcard.glob → s.path = s.wildcard.path
  atGlobstar : s.wildcard.glob = s.globstar.glob → s.globstar.path ≤ s.wildcard.path
  /-- No star but a `**` has been given more than the match has come to. -/
  reach : 0 < s.globstar.path ∧ s.wildcard.glob = s.globstar.glob ∨
    min s.wildcard.path (path.size + 1) ≤ s.path + 1

variable {start : Nat} {s t : State}

theorem Sound.first (glob path : Array UInt8) (start : Nat) : Sound glob path start {} := by
  constructor <;> simp

/-- Every move keeps it: what a move changes is still so, and the rest is as it was. -/
theorem Sound.move (sound : s.Sound glob path start) (move : Move glob path start s t) :
    t.Sound glob path start := by
  obtain ⟨front, behind⟩ := sound.inOrder
  have path_le := sound.path_le
  have isStar (set : 0 < s.globstar.path) : glob[s.globstar.glob]? = some Glob.star :=
    (sound.isComponent set).stars.1
  -- Where the match stands at the last `**`, it has just gone back to it.
  have atGlobstar (here : s.glob ≤ s.globstar.glob) : s.globstar.path ≤ s.path := by
    rcases Nat.eq_zero_or_pos s.globstar.path with unset | set
    · omega
    · have last := sound.atGlobstar (by omega)
      rwa [sound.atStar (sound.set set) (by omega)]
  cases move with
  | jump i depth plain ahead inside =>
    exact { sound with
      glob_le := inside
      inOrder := ⟨front, by dsimp only; omega⟩
      atStar := by dsimp only; omega }
  | byte i plain ahead inside more =>
    exact { sound with
      path_le := more
      glob_le := inside
      inOrder := ⟨front, by dsimp only; omega⟩
      atStar := by dsimp only; omega
      reach := sound.reach.imp_right Nat.le_succ_of_le }
  | slash i plain ahead inside more =>
    exact { sound with
      path_le := more
      glob_le := inside
      inOrder := ⟨Nat.le_refl _, by dsimp only; omega⟩
      isStar
      set := id
      atStar := by dsimp only; omega
      atGlobstar := fun _ => Nat.le_refl _
      reach := by dsimp only; omega }
  | star first i single le here ahead inside =>
    exact { sound with
      glob_le := Nat.le_succ_of_le inside
      inOrder := by dsimp only; omega
      isStar := fun _ => here
      set := fun _ => Nat.succ_pos _
      atStar := by dsimp only; omega
      atGlobstar := by dsimp only; omega
      reach := .inr (Nat.min_le_left _ _) }
  | starAtSlash i single ahead inside more =>
    exact { sound with
      glob_le := Nat.le_succ_of_le inside
      inOrder := ⟨Nat.le_refl _, by dsimp only; omega⟩
      isStar
      set := id
      atStar := by dsimp only; omega
      atGlobstar := fun _ => Nat.le_refl _
      reach := by dsimp only; omega }
  | globstarAtEnd first i le here ahead inside atEnd =>
    exact { sound with
      glob_le := Nat.le_succ_of_le inside
      inOrder := by dsimp only; omega
      isStar := fun _ => here
      set := fun _ => Nat.succ_pos _
      atStar := by dsimp only; omega
      atGlobstar := by dsimp only; omega
      reach := .inr (by dsimp only; omega) }
  | globstar first i next le component ahead inside further within =>
    exact { sound with
      glob_le := Nat.le_succ_of_le inside
      globstar_le := by dsimp only; omega
      globstar_path_le := within
      inOrder := ⟨Nat.le_refl _, Nat.le_of_lt ahead⟩
      isStar := fun _ => component.stars.1
      isComponent := fun _ => component
      set := id
      atStar := by dsimp only; omega
      atGlobstar := fun _ => Nat.le_refl _
      reach := .inl ⟨Nat.lt_of_le_of_lt (Nat.zero_le _) further, rfl⟩ }
  | retry plain set within =>
    exact { sound with
      path_le := within
      glob_le := Nat.le_trans behind sound.glob_le
      inOrder := ⟨front, Nat.le_refl _⟩
      atStar := fun _ _ => rfl
      reach := by dsimp only; omega }

/-- A match can begin anywhere further on. -/
theorem Sound.enter (sound : s.Sound glob path start) {branch : Nat} (ahead : s.glob < branch)
    (inside : branch ≤ glob.size) (depth : Nat) :
    State.Sound glob path branch { s with glob := branch, depth } := by
  obtain ⟨front, behind⟩ := sound.inOrder
  exact { sound with
    glob_le := Nat.le_succ_of_le inside
    inOrder := ⟨front, by dsimp only; omega⟩
    isComponent := fun set =>
      ⟨(sound.isComponent set).stars, .inl (by dsimp only; omega), (sound.isComponent set).back⟩
    atStar := by dsimp only; omega }

end State

/-! ## What a step comes to -/

variable {start : Nat} {s t : State} {opened : List Branch} {tryBranch : State → Nat → Verdict}

/-- A `**` is given the rest of a component of the path, and what comes behind it. -/
theorem move_skipComponent {first i : Nat} {more : Bool} (path_le : s.path ≤ path.size)
    (le : s.glob ≤ first) (component : IsComponent glob start first) (ahead : first < i)
    (inside : i ≤ glob.size) :
    Move glob path start s
      (State.skipComponent path { s with glob := i, wildcard := ⟨first, s.path + 1, s.depth⟩ } more) := by
  unfold State.skipComponent
  dsimp only
  split
  next atEnd => exact .globstarAtEnd first i le component.stars.1 ahead inside (beq_iff_eq.mp atEnd)
  next onward =>
    have lt : s.path < path.size := Nat.lt_of_le_of_ne path_le (by simpa using onward)
    have ⟨ahead', within⟩ := bounds_nextSlash path.size path_le
    refine .globstar first i _ le component ahead inside ?_ (by split <;> omega)
    split
    next => omega
    next whole =>
      have atEnd : nextSlash path path.size s.path = path.size := by
        simp only [Bool.or_eq_true, bne_iff_ne, not_or, Decidable.not_not] at whole
        exact whole.2
      omega

theorem atStar_of_single (next : glob[s.glob + 1]? ≠ some star) :
    s.atStar glob path start =
      if path[s.path]? == some slash then { s with glob := s.glob + 1, wildcard := s.globstar }
      else { s with glob := s.glob + 1, wildcard := ⟨s.glob, s.path + 1, s.depth⟩ } := by
  have next : (glob[s.glob + 1]? == some star) = false := beq_eq_false_iff_ne.mpr next
  unfold State.atStar
  rw [next]
  simp only [Bool.false_eq_true, if_false, Bool.false_and]

theorem atStar_of_globstar (next : glob[s.glob + 1]? = some star) :
    s.atStar glob path start =
      let first := lastGlobstar glob glob.size s.glob
      let more := first + 2 != glob.size
      let passed := { s with glob := first + 2, wildcard := ⟨first, s.path + 1, s.depth⟩ }
      if (first + 2 - start < 3 || glob[first - 1]? == some slash) &&
          (!more || glob[first + 2]? == some slash) then
        State.skipComponent path { passed with glob := if more then first + 3 else first + 2 } more
      else if path[s.path]? == some slash then { passed with wildcard := s.globstar }
      else passed := by
  unfold State.atStar
  rw [next]
  simp only [beq_self_eq_true, if_true, Bool.true_and]
  rfl

theorem move_atStar (path_le : s.path ≤ path.size) (here : glob[s.glob]? = some star) :
    Move glob path start s (s.atStar glob path start) := by
  by_cases next : glob[s.glob + 1]? = some star
  · obtain ⟨le, last, component⟩ := isGlobstar_lastGlobstar start glob.size ⟨here, next⟩
    have inside := lt_size_of_getElem? last.2
    rw [atStar_of_globstar next]
    generalize lastGlobstar glob glob.size s.glob = first at *
    dsimp only
    split
    next whole =>
      simp only [Bool.and_eq_true, Bool.or_eq_true, decide_eq_true_eq, beq_iff_eq,
        Bool.not_eq_true', bne_eq_false_iff_eq] at whole
      refine move_skipComponent path_le le ⟨last, whole.1, whole.2⟩ ?_ ?_
      · split <;> omega
      · split
        next more =>
          have := lt_size_of_getElem? (whole.2.resolve_left (bne_iff_ne.mp more))
          omega
        next => omega
    next part =>
      have single : ¬IsComponent glob start s.glob := fun whole => part <| by
        have whole : IsComponent glob start first := by
          rcases component with same | component
          · rwa [same]
          · exact component
        simpa using ⟨whole.front, whole.back⟩
      split
      next slash =>
        have more := lt_size_of_getElem? (beq_iff_eq.mp slash)
        exact .starAtSlash _ single (by omega) inside more
      next => exact .star _ _ single le last.1 (by omega) inside
  · have within := lt_size_of_getElem? here
    have single : ¬IsComponent glob start s.glob := fun component => next component.stars.2
    rw [atStar_of_single next]
    split
    next slash =>
      have more := lt_size_of_getElem? (beq_iff_eq.mp slash)
      exact .starAtSlash _ single (Nat.lt_succ_self _) within more
    next => exact .star _ _ single (Nat.le_refl _) here (Nat.lt_succ_self _) within

/-- Branches begin behind their braces. -/
def Opened (glob : Array UInt8) (opened : List Branch) : Prop :=
  ∀ b ∈ opened, b.brace < b.start ∧ b.start ≤ glob.size

theorem move_of_go (path_le : s.path ≤ path.size) (known : Opened glob opened)
    (h : step glob path opened start tryBranch s = .go t) : Move glob path start s t := by
  unfold step at h
  split at h
  next => cases h
  next b here =>
    have within := lt_size_of_getElem? here
    split at h
    next isStar =>
      cases h
      exact move_atStar path_le (beq_iff_eq.mp isStar ▸ here)
    next other =>
      have plain := ne_star_of_getElem? here other
      split at h
      · split at h
        next branch found =>
          cases h
          have ⟨ahead, inside⟩ := known branch (List.mem_of_find?_eq_some found)
          have same : branch.brace = s.glob := by simpa using List.find?_some found
          exact .jump _ _ plain (same ▸ ahead) (Nat.le_succ_of_le inside)
        next => cases h
      · split at h
        · cases h
          exact .jump _ _ plain (lt_skipBranch _ _ _ within)
            (bounds_skipBranch _ _ _ (by omega)).2
        · split at h
          next => cases h
          next c next =>
            have more := lt_size_of_getElem? next
            split at h
            · split at h
              · cases h
              · cases h
                exact .byte _ plain (Nat.lt_succ_self _) (by omega) more
            · split at h
              · split at h
                next => cases h
                next fits behind read =>
                  have ⟨ahead, inside⟩ := bounds_bracket read
                  split at h
                  · cases h
                    exact .byte _ plain (by omega) (by omega) more
                  · cases h
              · split at h
                next => cases h
                next d i read =>
                  have ⟨ahead, inside⟩ := bounds_unescaped read
                  split at h
                  · dsimp only at h
                    split at h <;> cases h
                    · exact .slash _ plain (by omega) (by omega) more
                    · exact .byte _ plain (by omega) (by omega) more
                  · cases h

/-- A byte that does not fit is no star. -/
theorem of_miss (h : step glob path opened start tryBranch s = .miss t) :
    glob[s.glob]? ≠ some star ∧ t = { s with glob := t.glob } := by
  unfold step at h
  split at h
  next outside =>
    cases h
    exact ⟨by simp [outside], rfl⟩
  next b here =>
    split at h
    next => cases h
    next other =>
      have plain := ne_star_of_getElem? here other
      refine ⟨plain, ?_⟩
      repeat' split at h
      all_goals cases h
      all_goals rfl

/-! ## Turns -/

/-- What comes of a match when it takes a step, and goes back to the last star if it has to: an answer
or a state to go on from. -/
def turn (glob path : Array UInt8) (opened : List Branch) (start : Nat)
    (tryBranch : State → Nat → Verdict) (s : State) : Verdict ⊕ State :=
  if glob.size ≤ s.glob && path.size ≤ s.path then .inl .yes
  else
    match step glob path opened start tryBranch s with
    | .done verdict => .inl verdict
    | .go t => .inr t
    | .miss t =>
      let w := t.wildcard
      if 0 < w.path && w.path ≤ path.size then
        .inr { t with glob := w.glob, path := w.path, depth := w.depth }
      else .inl .no

theorem scan_succ (fuel : Nat) (s : State) :
    scan glob path opened start tryBranch (fuel + 1) s =
      (turn glob path opened start tryBranch s).elim id
        (scan glob path opened start tryBranch fuel) := by
  rw [scan, turn]
  split
  · rfl
  · cases step glob path opened start tryBranch s with
    | done | go => rfl
    | miss t =>
      dsimp only
      split <;> rfl

theorem move_of_turn (path_le : s.path ≤ path.size) (known : Opened glob opened)
    (h : turn glob path opened start tryBranch s = .inr t) : Move glob path start s t := by
  unfold turn at h
  split at h
  · cases h
  · split at h
    next => cases h
    next read =>
      cases h
      exact move_of_go path_le known read
    next u read =>
      obtain ⟨plain, same⟩ := of_miss read
      dsimp only at h
      split at h
      next back =>
        simp only [Bool.and_eq_true, decide_eq_true_eq] at back
        cases h
        rw [same] at back ⊢
        exact .retry plain back.1 back.2
      next => cases h

end ChunkBridge.Glob
