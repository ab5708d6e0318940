import ChunkBridge.Proofs.Filter.Moves

/-!
# Matches come to an end

A match goes back to a star when a byte does not fit, so its places in the pattern and in the path move
to and fro. Whatever it does, something comes further, and the order in which the parts of a state
count is what keeps a match from going on for ever (`State.Further`): first the place of the last `**`
in the pattern, then what it has been given of the path, then what the last star behind it has been
given, and last the place of the match in the pattern. As a number this stays below the limit that
steps are counted down from, so no match is cut short by it (`scan_congr`).
-/

namespace ChunkBridge.Glob
variable {glob path : Array UInt8} {start : Nat} {s t : State}

namespace State

/-! ## How far a match has come -/

/-- The match has gone back to the last `**`. -/
def IsBack (s : State) : Prop := 0 < s.globstar.path ∧ s.glob ≤ s.globstar.glob

/-- Nothing of the path is left to give to the last star. -/
def IsSpent (path : Array UInt8) (s : State) : Prop :=
  s.path = path.size ∧ path.size < s.wildcard.path

/-- No star has been met behind the last `**`. -/
def IsFree (s : State) : Prop :=
  s.wildcard.path = 0 ∨ 0 < s.globstar.path ∧ s.wildcard.glob = s.globstar.glob

instance (s : State) : Decidable s.IsBack := inferInstanceAs (Decidable (_ ∧ _))

instance (path : Array UInt8) (s : State) : Decidable (s.IsSpent path) :=
  inferInstanceAs (Decidable (_ ∧ _))

instance (s : State) : Decidable s.IsFree := inferInstanceAs (Decidable (_ ∨ _))

/-- How far the last `**` has come: what it is given next, and half a step more once that is tried or
cannot be. -/
def globstarRank (path : Array UInt8) (s : State) : Nat :=
  2 * s.globstar.path + if s.IsBack ∨ s.IsSpent path then 1 else 0

/-- How far the last star has come, or the match itself where there is no star. -/
def starRank (path : Array UInt8) (s : State) : Nat :=
  if s.IsFree then 2 * (s.path + 1)
  else 2 * min s.wildcard.path (path.size + 1) + if s.glob = s.wildcard.glob then 1 else 0

/-- A match is further on than another one if its last `**` is, in the pattern or in the path, or
else its last star, or else its place in the pattern. -/
def Further (path : Array UInt8) (s t : State) : Prop :=
  s.globstar.glob < t.globstar.glob ∨ s.globstar.glob = t.globstar.glob ∧
    (s.globstarRank path < t.globstarRank path ∨ s.globstarRank path = t.globstarRank path ∧
      (s.starRank path < t.starRank path ∨ s.starRank path = t.starRank path ∧ s.glob < t.glob))

theorem bounds_globstarRank (path : Array UInt8) (s : State) :
    2 * s.globstar.path ≤ s.globstarRank path ∧ s.globstarRank path ≤ 2 * s.globstar.path + 1 := by
  unfold globstarRank
  split <;> omega

theorem globstarRank_of_moving (there : ¬s.IsBack) (left : ¬s.IsSpent path) :
    s.globstarRank path = 2 * s.globstar.path := by
  rw [globstarRank, if_neg (not_or.mpr ⟨there, left⟩), Nat.add_zero]

theorem starRank_of_isFree (free : s.IsFree) : s.starRank path = 2 * (s.path + 1) := if_pos free

theorem starRank_of_behind (bound : ¬s.IsFree) (behind : s.wildcard.glob < s.glob) :
    s.starRank path = 2 * min s.wildcard.path (path.size + 1) := by
  rw [starRank, if_neg bound, if_neg (Nat.ne_of_gt behind), Nat.add_zero]

theorem isFree_of_eq (same : s.wildcard = s.globstar) : s.IsFree := by
  unfold IsFree
  rw [same]
  omega

/-- A star that the match leaves further behind has come as far as before. -/
theorem starRank_congr (wildcard : t.wildcard = s.wildcard) (globstar : t.globstar = s.globstar)
    (bound : ¬s.IsFree) (behind : s.wildcard.glob < s.glob) (ahead : s.glob < t.glob) :
    s.starRank path = t.starRank path := by
  have still : ¬t.IsFree := by rwa [IsFree, wildcard, globstar]
  have further : t.wildcard.glob < t.glob := by rw [wildcard]; omega
  rw [starRank_of_behind bound behind, starRank_of_behind still further, wildcard]

/-- No star has come further than the match. -/
theorem Sound.starRank_le (sound : s.Sound glob path start) :
    s.starRank path ≤ 2 * (s.path + 1) := by
  by_cases free : s.IsFree
  · exact Nat.le_of_eq (starRank_of_isFree free)
  · have reach := sound.reach.resolve_left fun bound => free (.inr bound)
    have atStar := sound.atStar (Nat.pos_of_ne_zero fun unset => free (.inl unset))
    rw [starRank, if_neg free]
    split <;> omega

/-- A match whose last `**` waits comes further as its last star does. -/
theorem Further.of_moving (same : t.globstar = s.globstar) (there : ¬s.IsBack)
    (left : ¬s.IsSpent path)
    (star : s.starRank path < t.starRank path ∨ s.starRank path = t.starRank path ∧ s.glob < t.glob) :
    Further path s t := by
  have first := globstarRank_of_moving there left
  have second := (bounds_globstarRank path t).1
  rw [same] at second
  refine .inr ⟨congrArg Retry.glob same.symm, ?_⟩
  rcases Nat.lt_or_eq_of_le (first ▸ second) with less | equal
  · exact .inl less
  · exact .inr ⟨equal, star⟩

/-- So does a match that leaves nothing of the path. -/
theorem Further.of_isSpent (same : t.globstar = s.globstar) (spent : t.IsSpent path)
    (star : s.starRank path < t.starRank path ∨ s.starRank path = t.starRank path ∧ s.glob < t.glob) :
    Further path s t := by
  have first : t.globstarRank path = 2 * t.globstar.path + 1 := by
    rw [globstarRank, if_pos (.inr spent)]
  have second := (bounds_globstarRank path s).2
  rw [same] at first
  refine .inr ⟨congrArg Retry.glob same.symm, ?_⟩
  rcases Nat.lt_or_eq_of_le (first ▸ second) with less | equal
  · exact .inl less
  · exact .inr ⟨equal, star⟩

/-- A match that does not stand at a star stands behind the stars that it can go back to. -/
theorem Sound.behind (sound : s.Sound glob path start) (plain : glob[s.glob]? ≠ some star) :
    (0 < s.wildcard.path → s.wildcard.glob < s.glob) ∧ ¬s.IsBack := by
  have inOrder := sound.inOrder
  refine ⟨fun set => Nat.lt_of_le_of_ne inOrder.2 fun same => plain ?_, fun ⟨set, le⟩ => plain ?_⟩
  · rw [← same, sound.isStar set]
  · have same : s.glob = s.globstar.glob := by omega
    rw [same, (sound.isComponent set).stars.1]

/-- A match that stands at other stars than a `**` stands behind the last one. -/
theorem Sound.not_isBack (sound : s.Sound glob path start)
    (single : ¬IsComponent glob start s.glob) : ¬s.IsBack := by
  rintro ⟨set, le⟩
  have inOrder := sound.inOrder
  have same : s.glob = s.globstar.glob := by omega
  exact single (same ▸ sound.isComponent set)

/-- With every move a match comes further. -/
theorem Sound.further (sound : s.Sound glob path start) (move : Move glob path start s t) :
    Further path s t := by
  have most := sound.starRank_le
  have inOrder := sound.inOrder
  have set (bound : ¬s.IsFree) : 0 < s.wildcard.path :=
    Nat.pos_of_ne_zero fun unset => bound (.inl unset)
  have unspent (more : s.path < path.size) : ¬s.IsSpent path := fun spent =>
    absurd spent.1 (Nat.ne_of_lt more)
  cases move with
  | jump i depth plain ahead inside =>
    obtain ⟨past, there⟩ := sound.behind plain
    have star : s.starRank path = starRank path { s with glob := i, depth } := by
      by_cases free : s.IsFree
      · exact (if_pos free).trans (if_pos free).symm
      · exact starRank_congr rfl rfl free (past (set free)) ahead
    by_cases spent : s.IsSpent path
    · exact .of_isSpent rfl spent (.inr ⟨star, ahead⟩)
    · exact .of_moving rfl there spent (.inr ⟨star, ahead⟩)
  | byte i plain ahead inside more =>
    obtain ⟨past, there⟩ := sound.behind plain
    refine .of_moving rfl there (unspent more) ?_
    by_cases free : s.IsFree
    · have after : starRank path { s with glob := i, path := s.path + 1 } = 2 * (s.path + 1 + 1) :=
        if_pos free
      exact .inl (by omega)
    · exact .inr ⟨starRank_congr rfl rfl free (past (set free)) ahead, ahead⟩
  | slash i plain ahead inside more =>
    obtain ⟨past, there⟩ := sound.behind plain
    have after : starRank path { s with glob := i, path := s.path + 1, wildcard := s.globstar } =
        2 * (s.path + 1 + 1) := starRank_of_isFree (isFree_of_eq rfl)
    exact .of_moving rfl there (unspent more) (.inl (by omega))
  | star first i single le here ahead inside =>
    have there := sound.not_isBack single
    have bound : ¬IsFree { s with glob := i, wildcard := ⟨first, s.path + 1, s.depth⟩ } := by
      rintro (unset | ⟨set, same⟩)
      · exact absurd unset (Nat.succ_ne_zero _)
      · exact there ⟨set, by dsimp only at same; omega⟩
    have after : starRank path { s with glob := i, wildcard := ⟨first, s.path + 1, s.depth⟩ } =
        2 * (s.path + 1) := by
      rw [starRank_of_behind bound ahead, Nat.min_eq_left (Nat.succ_le_succ sound.path_le)]
    rcases Nat.lt_or_eq_of_le sound.path_le with more | atEnd
    · exact .of_moving rfl there (unspent more) (by dsimp only; omega)
    · exact .of_isSpent rfl ⟨atEnd, by dsimp only; omega⟩ (by dsimp only; omega)
  | starAtSlash i single ahead inside more =>
    have after : starRank path { s with glob := i, wildcard := s.globstar } = 2 * (s.path + 1) :=
      starRank_of_isFree (isFree_of_eq rfl)
    exact .of_moving rfl (sound.not_isBack single) (unspent more) (by dsimp only; omega)
  | globstarAtEnd first i le here ahead inside atEnd =>
    have after : starRank path { s with glob := i, wildcard := ⟨first, s.path + 2, s.depth⟩ } =
        2 * (s.path + 1) := by
      by_cases free : IsFree { s with glob := i, wildcard := ⟨first, s.path + 2, s.depth⟩ }
      · exact starRank_of_isFree free
      · rw [starRank_of_behind free ahead, Nat.min_eq_right (by dsimp only; omega), atEnd]
    exact .of_isSpent rfl ⟨atEnd, by dsimp only; omega⟩ (by dsimp only; omega)
  | globstar first i next le component ahead inside further within =>
    by_cases same : s.globstar.glob = first
    · -- The match has gone back to this very component, which is given more of the path.
      have rank := (bounds_globstarRank path s).2
      have rank' := (bounds_globstarRank path { s with
        glob := i, wildcard := ⟨first, next, s.depth⟩, globstar := ⟨first, next, s.depth⟩ }).1
      have given := sound.atGlobstar (by omega)
      have atStar := sound.atStar
      have set := sound.set
      refine .inr ⟨same, .inl ?_⟩
      dsimp only at rank'
      omega
    · exact .inl (Nat.lt_of_le_of_ne (by dsimp only; omega) same)
  | retry plain some within =>
    obtain ⟨past, there⟩ := sound.behind plain
    have left : ¬s.IsSpent path := fun spent => absurd spent.2 (Nat.not_lt.mpr within)
    by_cases free : s.IsFree
    · have back := free.resolve_left (Nat.ne_of_gt some)
      have rank := globstarRank_of_moving there left
      have rank' : globstarRank path { s with
          glob := s.wildcard.glob, path := s.wildcard.path, depth := s.wildcard.depth } =
          2 * s.globstar.path + 1 := by
        rw [globstarRank, if_pos (.inl ⟨back.1, Nat.le_of_eq back.2⟩)]
      exact .inr ⟨rfl, .inl (by omega)⟩
    · refine .of_moving rfl there left (.inl ?_)
      have after : starRank path { s with
          glob := s.wildcard.glob, path := s.wildcard.path, depth := s.wildcard.depth } =
          2 * min s.wildcard.path (path.size + 1) + 1 :=
        (if_neg free).trans (congrArg (_ + ·) (if_pos rfl))
      rw [starRank_of_behind free (past some), after]
      exact Nat.lt_succ_self _

/-! ## The end of a match -/

/-- How far a match has come, as a number. -/
def rank (glob path : Array UInt8) (s : State) : Nat :=
  ((s.globstar.glob * (2 * path.size + 4) + s.globstarRank path) * (2 * path.size + 4) +
    s.starRank path) * (glob.size + 2) + s.glob

/-- Of two numbers of two digits the one with the greater first digit is greater, or else the one with
the greater second one. -/
theorem digits_lt {x y a b m : Nat} (digit : a < m) (less : x < y ∨ x = y ∧ a < b) :
    x * m + a < y * m + b := by
  rcases less with less | ⟨rfl, less⟩
  · have := Nat.mul_le_mul_right m (Nat.succ_le_of_lt less)
    rw [Nat.succ_mul] at this
    omega
  · omega

/-- The parts of the number are digits. -/
theorem Sound.digits (sound : s.Sound glob path start) :
    s.globstarRank path < 2 * path.size + 4 ∧ s.starRank path < 2 * path.size + 4 ∧
      s.glob < glob.size + 2 := by
  have first := (bounds_globstarRank path s).2
  have second := sound.starRank_le
  have := sound.globstar_path_le
  have := sound.path_le
  have := sound.glob_le
  omega

theorem Sound.rank_lt_rank (sound : s.Sound glob path start) (further : Further path s t) :
    s.rank glob path < t.rank glob path := by
  obtain ⟨first, second, third⟩ := sound.digits
  refine digits_lt third ?_
  rcases further with less | ⟨same, less | ⟨same', less | ⟨same'', less⟩⟩⟩
  · exact .inl (digits_lt second (.inl (digits_lt first (.inl less))))
  · exact .inl (digits_lt second (.inl (digits_lt first (.inr ⟨same, less⟩))))
  · exact .inl (digits_lt second (.inr ⟨by rw [same, same'], less⟩))
  · exact .inr ⟨by rw [same, same', same''], less⟩

/-- No match comes as far as the limit on its steps. -/
theorem Sound.rank_lt_stepLimit (sound : s.Sound glob path start) :
    s.rank glob path < stepLimit glob path := by
  obtain ⟨first, second, third⟩ := sound.digits
  have less : s.globstar.glob < glob.size + 1 := Nat.lt_succ_of_le sound.globstar_le
  have one := digits_lt (b := 0) first (.inl less)
  have two := digits_lt (b := 0) second (.inl one)
  exact digits_lt (b := 0) third (.inl two)

end State

/-! ## Whole matches -/

variable {opened : List Branch} {tryBranch : State → Nat → Verdict} {room : Nat}

/-- No match is cut short: once its steps are enough, it does not matter how many they are. -/
theorem scan_congr {m n : Nat} (sound : s.Sound glob path start) (known : Opened glob opened)
    (enough : stepLimit glob path ≤ s.rank glob path + m)
    (enough' : stepLimit glob path ≤ s.rank glob path + n) :
    scan glob path opened start tryBranch m s = scan glob path opened start tryBranch n s := by
  have short := sound.rank_lt_stepLimit
  induction m generalizing n s with
  | zero => omega
  | succ m ih =>
    obtain ⟨n, rfl⟩ : ∃ k, n = k + 1 := ⟨n - 1, by omega⟩
    rw [scan_succ, scan_succ]
    cases next : turn glob path opened start tryBranch s with
    | inl verdict => rfl
    | inr t =>
      have move := move_of_turn sound.path_le known next
      have further := sound.rank_lt_rank (sound.further move)
      exact ih (sound.move move) (by omega) (by omega) (sound.move move).rank_lt_stepLimit

/-- How the branches of a brace are tried, with `room` for further braces. -/
def tryIn (glob path : Array UInt8) (opened : List Branch) : Nat → State → Nat → Verdict
  | 0, _, _ => .tooDeep
  | room + 1, s, branch =>
    let opened := opened ++ [⟨s.glob, branch⟩]
    matchFrom glob path room opened branch { s with glob := branch, depth := opened.length }

theorem matchFrom_eq_scan (glob path : Array UInt8) (room : Nat) (opened : List Branch) (start : Nat)
    (s : State) :
    matchFrom glob path room opened start s =
      scan glob path opened start (tryIn glob path opened room) (stepLimit glob path) s := by
  cases room <;> rfl

theorem stepLimit_pos (glob path : Array UInt8) : 0 < stepLimit glob path :=
  Nat.mul_pos (Nat.mul_pos (Nat.mul_pos (by omega) (by omega)) (by omega)) (by omega)

/-- A match ends with the answer that it comes to. -/
theorem matchFrom_of_answer {verdict : Verdict}
    (next : turn glob path opened start (tryIn glob path opened room) s = .inl verdict) :
    matchFrom glob path room opened start s = verdict := by
  obtain ⟨limit, positive⟩ : ∃ n, stepLimit glob path = n + 1 :=
    ⟨_, (Nat.succ_pred_eq_of_pos (stepLimit_pos glob path)).symm⟩
  rw [matchFrom_eq_scan, positive, scan_succ, next]
  rfl

/-- A match ends like one from the state that it goes on to. -/
theorem matchFrom_of_turn (sound : s.Sound glob path start) (known : Opened glob opened)
    (next : turn glob path opened start (tryIn glob path opened room) s = .inr t) :
    matchFrom glob path room opened start s = matchFrom glob path room opened start t := by
  have move := move_of_turn sound.path_le known next
  have further := sound.rank_lt_rank (sound.further move)
  have once : scan glob path opened start (tryIn glob path opened room) (stepLimit glob path + 1) s =
      scan glob path opened start (tryIn glob path opened room) (stepLimit glob path) t := by
    rw [scan_succ, next]
    rfl
  rw [matchFrom_eq_scan, matchFrom_eq_scan, ← once]
  exact scan_congr sound known (by omega) (by omega)

/-- A match that stays within some states, until it leaves them for a certain one, ends like a match
from there: since every turn brings it further, it has to leave them. -/
theorem matchFrom_of_leaving {Within : State → Prop} {exit : State} (known : Opened glob opened)
    (each : ∀ s, Within s → ∃ t, turn glob path opened start (tryIn glob path opened room) s = .inr t ∧
      (Within t ∨ t = exit))
    (sound : s.Sound glob path start) (within : Within s) :
    matchFrom glob path room opened start s = matchFrom glob path room opened start exit := by
  induction left : stepLimit glob path - s.rank glob path using Nat.strongRecOn generalizing s
  next ih =>
    obtain ⟨t, next, still⟩ := each s within
    rw [matchFrom_of_turn sound known next]
    rcases still with still | rfl
    · have move := move_of_turn sound.path_le known next
      have further := sound.rank_lt_rank (sound.further move)
      have short := sound.rank_lt_stepLimit
      exact ih _ (by omega) (sound.move move) still rfl
    · rfl

end ChunkBridge.Glob
