import ChunkBridge.Proofs.Filter.Progress

/-!
# Matches behind a common start

A match that has come past the same bytes in its pattern and in its path goes on like a match of what
is left of both: all its places are further on by the number of those bytes.
-/

namespace ChunkBridge.Glob
variable {lead glob path : Array UInt8} {start : Nat} {s t : State}

/-! ## Places behind a start -/

theorem getElem?_behind (lead glob : Array UInt8) (i : Nat) :
    (lead ++ glob)[lead.size + i]? = glob[i]? := by
  rw [Array.getElem?_append_right (Nat.le_add_right _ _), Nat.add_sub_cancel_left]

theorem hasAt_behind (lead glob : Array UInt8) (i : Nat) (bytes : List UInt8) :
    hasAt (lead ++ glob) (lead.size + i) bytes = hasAt glob i bytes := by
  have inLead : lead.extract (lead.size + i) (lead.size + i + bytes.length) = #[] :=
    Array.extract_eq_empty_of_le (by omega)
  rw [hasAt, Array.extract_append, inLead, Array.empty_append, Nat.add_assoc,
    Nat.add_sub_cancel_left, Nat.add_sub_cancel_left, hasAt]

theorem unescaped_behind (lead glob : Array UInt8) (i : Nat) :
    unescaped (lead ++ glob) (lead.size + i) =
      (unescaped glob i).map fun (d, j) => (d, lead.size + j) := by
  unfold unescaped
  rw [Nat.add_assoc, getElem?_behind, getElem?_behind]
  split
  · rfl
  · split
    · split <;> rfl
    · rfl

/-- Behind the end of a pattern there are no ranges. -/
theorem inRanges_of_size_le {c : UInt8} {i : Nat} (le : glob.size ≤ i) (fuel : Nat)
    (first found : Bool) : inRanges glob c fuel i first found = none := by
  cases fuel with
  | zero => rfl
  | succ fuel => rw [inRanges, Array.getElem?_eq_none le]

theorem inRanges_behind (lead glob : Array UInt8) (c : UInt8) (i : Nat) (first found : Bool)
    {m n : Nat} (enough : glob.size ≤ i + m) (enough' : glob.size ≤ i + n) :
    inRanges (lead ++ glob) c n (lead.size + i) first found =
      (inRanges glob c m i first found).map fun (f, j) => (f, lead.size + j) := by
  have size : (lead ++ glob).size = lead.size + glob.size := Array.size_append
  induction m generalizing n i first found with
  | zero =>
    rw [inRanges_of_size_le (by omega)]
    rfl
  | succ m ih =>
    cases n with
    | zero =>
      have none : inRanges glob c (m + 1) i first found = none := inRanges_of_size_le (by omega) ..
      rw [none]
      rfl
    | succ n =>
      unfold inRanges
      rw [getElem?_behind]
      cases here : glob[i]? with
      | none => rfl
      | some b =>
        dsimp only
        split
        · rfl
        · rw [unescaped_behind]
          cases read : unescaped glob i with
          | none => rfl
          | some r =>
            obtain ⟨low, j⟩ := r
            have bounds := bounds_unescaped read
            simp only [Option.map_some, Option.bind_eq_bind, Option.bind_some, Nat.add_assoc,
              getElem?_behind, size, Nat.add_lt_add_iff_left, unescaped_behind]
            split
            · cases read' : unescaped glob (j + (1 + 1)) with
              | none => rfl
              | some r =>
                obtain ⟨high, k⟩ := r
                have bounds' := bounds_unescaped read'
                exact ih (k + 1) _ _ (by omega) (by omega)
            · exact ih (j + 1) _ _ (by omega) (by omega)

theorem bracket_behind (lead glob : Array UInt8) (c : UInt8) (i : Nat) :
    bracket (lead ++ glob) c (lead.size + i) =
      (bracket glob c i).map fun (f, j) => (f, lead.size + j) := by
  have size : (lead ++ glob).size = lead.size + glob.size := Array.size_append
  have read (j : Nat) : inRanges (lead ++ glob) c ((lead ++ glob).size + 1) (lead.size + j) true false =
      (inRanges glob c (glob.size + 1) j true false).map fun (f, k) => (f, lead.size + k) :=
    inRanges_behind lead glob c j true false (by omega) (by omega)
  unfold bracket
  rw [getElem?_behind]
  cases negated : glob[i]? == some (byte '^') || glob[i]? == some (byte '!') with
  | false =>
    simp only [Bool.false_eq_true, if_false, read]
    cases inRanges glob c (glob.size + 1) i true false <;> rfl
  | true =>
    simp only [if_true, Nat.add_assoc, read]
    cases inRanges glob c (glob.size + 1) (i + 1) true false <;> rfl

theorem lastGlobstar_of_size_le {i : Nat} (le : glob.size ≤ i) (fuel : Nat) :
    lastGlobstar glob fuel i = i := by
  cases fuel with
  | zero => rfl
  | succ fuel =>
    have none {bytes : List UInt8} {b : UInt8} (first : bytes[0]? = some b) :
        ¬hasAt glob (i + 2) bytes = true := fun more => by
      have := lt_size_of_getElem? (getElem?_of_hasAt more first)
      omega
    rw [lastGlobstar, if_neg (none rfl), if_neg fun more => none rfl (Bool.and_eq_true_iff.mp more).2]

theorem lastGlobstar_behind (lead glob : Array UInt8) (i : Nat) {m n : Nat}
    (enough : glob.size ≤ i + m) (enough' : glob.size ≤ i + n) :
    lastGlobstar (lead ++ glob) n (lead.size + i) = lead.size + lastGlobstar glob m i := by
  have size : (lead ++ glob).size = lead.size + glob.size := Array.size_append
  induction m generalizing n i with
  | zero => exact lastGlobstar_of_size_le (by omega) n
  | succ m ih =>
    cases n with
    | zero =>
      have here : lastGlobstar glob (m + 1) i = i := lastGlobstar_of_size_le (by omega) _
      rw [here]
      rfl
    | succ n =>
      have atEnd : (lead.size + (i + 5) == (lead ++ glob).size) = (i + 5 == glob.size) := by
        rw [size, Bool.eq_iff_iff, beq_iff_eq, beq_iff_eq]
        omega
      unfold lastGlobstar
      simp only [Nat.add_assoc, hasAt_behind, atEnd]
      split
      · exact ih (i + 3) (by omega) (by omega)
      · split <;> rfl

theorem nextSlash_behind (lead path : Array UInt8) (i : Nat) {m n : Nat}
    (enough : path.size ≤ i + m) (enough' : path.size ≤ i + n) :
    nextSlash (lead ++ path) n (lead.size + i) = lead.size + nextSlash path m i := by
  have size : (lead ++ path).size = lead.size + path.size := Array.size_append
  induction m generalizing n i with
  | zero =>
    cases n with
    | zero => rfl
    | succ n => exact if_neg fun within => by simp [size] at within; omega
  | succ m ih =>
    cases n with
    | zero => exact (congrArg (lead.size + ·) (if_neg fun within => by simp at within; omega)).symm
    | succ n =>
      unfold nextSlash
      rw [getElem?_behind, size]
      simp only [Nat.add_lt_add_iff_left, Nat.add_assoc]
      split
      · exact ih (i + 1) (by omega) (by omega)
      · rfl

theorem skipBranch_of_size_le {i : Nat} (le : glob.size ≤ i) (fuel depth : Nat)
    (inBrackets : Bool) : skipBranch glob fuel i depth inBrackets = i := by
  cases fuel with
  | zero => rfl
  | succ fuel => rw [skipBranch, Array.getElem?_eq_none le]

theorem skipBranch_behind (lead glob : Array UInt8) (i depth : Nat) (inBrackets : Bool) {m n : Nat}
    (enough : glob.size ≤ i + m) (enough' : glob.size ≤ i + n) :
    skipBranch (lead ++ glob) n (lead.size + i) depth inBrackets =
      lead.size + skipBranch glob m i depth inBrackets := by
  have size : (lead ++ glob).size = lead.size + glob.size := Array.size_append
  induction m generalizing n i depth inBrackets with
  | zero => exact skipBranch_of_size_le (by omega) ..
  | succ m ih =>
    cases n with
    | zero =>
      have here : skipBranch glob (m + 1) i depth inBrackets = i :=
        skipBranch_of_size_le (by omega) ..
      rw [here]
      rfl
    | succ n =>
      have next (depth : Nat) (inBrackets : Bool) :=
        ih (i + 1) depth inBrackets (n := n) (by omega) (by omega)
      have past (depth : Nat) (inBrackets : Bool) :=
        ih (i + 2) depth inBrackets (n := n) (by omega) (by omega)
      unfold skipBranch
      rw [getElem?_behind]
      cases glob[i]? with
      | none => rfl
      | some b =>
        simp only [Nat.add_assoc, next, past]
        repeat' split
        all_goals rfl

theorem branches_of_size_le {i : Nat} (le : glob.size ≤ i) (fuel depth : Nat) (inBrackets : Bool)
    (start : Nat) : branches glob fuel i depth inBrackets start = [] := by
  cases fuel with
  | zero => rfl
  | succ fuel => rw [branches, Array.getElem?_eq_none le]

theorem branches_behind (lead glob : Array UInt8) (i depth : Nat) (inBrackets : Bool) (start : Nat)
    {m n : Nat} (enough : glob.size ≤ i + m) (enough' : glob.size ≤ i + n) :
    branches (lead ++ glob) n (lead.size + i) depth inBrackets (lead.size + start) =
      (branches glob m i depth inBrackets start).map (lead.size + ·) := by
  have size : (lead ++ glob).size = lead.size + glob.size := Array.size_append
  induction m generalizing n i depth inBrackets start with
  | zero => exact branches_of_size_le (by omega) ..
  | succ m ih =>
    cases n with
    | zero =>
      have none : branches glob (m + 1) i depth inBrackets start = [] :=
        branches_of_size_le (by omega) ..
      rw [none]
      rfl
    | succ n =>
      have next (depth : Nat) (inBrackets : Bool) (start : Nat) :=
        ih (i + 1) depth inBrackets start (n := n) (by omega) (by omega)
      have past (depth : Nat) (inBrackets : Bool) (start : Nat) :=
        ih (i + 2) depth inBrackets start (n := n) (by omega) (by omega)
      unfold branches
      rw [getElem?_behind]
      cases glob[i]? with
      | none => rfl
      | some b =>
        simp only [Nat.add_assoc]
        repeat' split
        all_goals simp only [next, past, List.map_cons, List.map_nil]

/-! ## States behind a start -/

/-- The same place to go back to, so many bytes further on. -/
def Retry.shift (n : Nat) (r : Retry) : Retry :=
  if r.path = 0 then r else ⟨n + r.glob, n + r.path, r.depth⟩

/-- The same state, so many bytes further on. -/
def State.shift (n : Nat) (s : State) : State where
  glob := n + s.glob
  path := n + s.path
  depth := s.depth
  wildcard := s.wildcard.shift n
  globstar := s.globstar.shift n

/-- The same branch, so many bytes further on. -/
def Branch.shift (n : Nat) (b : Branch) : Branch := ⟨n + b.brace, n + b.start⟩

/-- What the step comes to, so many bytes further on. -/
def Step.shift (n : Nat) : Step → Step
  | .go s => .go (s.shift n)
  | .miss s => .miss (s.shift n)
  | .done verdict => .done verdict

/-- Where a match of the whole pattern begins if a match of what is left of it begins at `start`:
at the same place, or at the beginning of both if a slash stands in front of what is left. -/
def Starts (lead : Array UInt8) (start start' : Nat) : Prop :=
  start' = lead.size + start ∨ start = 0 ∧ start' = 0 ∧ lead[lead.size - 1]? = some slash

theorem Retry.shift_of_pos {r : Retry} (set : 0 < r.path) (n : Nat) :
    r.shift n = ⟨n + r.glob, n + r.path, r.depth⟩ := if_neg (Nat.ne_of_gt set)

theorem Retry.shift_mk (n glob depth : Nat) {path : Nat} (set : 0 < path) :
    Retry.shift n ⟨glob, path, depth⟩ = ⟨n + glob, n + path, depth⟩ := shift_of_pos set n

variable {start' : Nat}

/-- What stands in front of a component is the same. -/
theorem front_behind (starts : Starts lead start start') (glob : Array UInt8) (i : Nat) :
    (lead.size + i + 2 - start' < 3 || (lead ++ glob)[lead.size + i - 1]? == some slash) =
      (i + 2 - start < 3 || glob[i - 1]? == some slash) := by
  cases i with
  | zero =>
    have first : (decide (0 + 2 - start < 3)) = true := decide_eq_true (by omega)
    rw [first, Bool.true_or, Bool.or_eq_true, decide_eq_true_eq, beq_iff_eq]
    rcases starts with rfl | ⟨rfl, rfl, isSlash⟩
    · exact .inl (by omega)
    · have within := lt_size_of_getElem? isSlash
      exact .inr (by rw [Nat.add_zero, Array.getElem?_append_left within, isSlash])
  | succ i =>
    have same : lead.size + (i + 1) - 1 = lead.size + i := by omega
    have first : lead.size + (i + 1) + 2 - start' < 3 ↔ i + 1 + 2 - start < 3 := by
      rcases starts with rfl | ⟨rfl, rfl, -⟩ <;> omega
    rw [same, getElem?_behind, Nat.add_sub_cancel, decide_eq_decide.mpr first]

theorem skipComponent_behind (lead : Array UInt8) (path_le : s.path ≤ path.size)
    (set : 0 < s.wildcard.path) (more : Bool) :
    State.skipComponent (lead ++ path) (s.shift lead.size) more =
      (State.skipComponent path s more).shift lead.size := by
  have size : (lead ++ path).size = lead.size + path.size := Array.size_append
  have next := nextSlash_behind lead path s.path (m := path.size) (n := (lead ++ path).size)
    (by omega) (by omega)
  unfold State.skipComponent
  simp only [State.shift, size, Retry.shift_of_pos set, Nat.add_right_inj, beq_iff_eq]
  rw [size] at next
  split
  · rw [Retry.shift_mk _ _ _ (Nat.succ_pos _), Nat.add_assoc]
  next onward =>
    have lt : s.path < path.size := Nat.lt_of_le_of_ne path_le onward
    have bounds := bounds_nextSlash path.size path_le
    rw [next]
    generalize nextSlash path path.size s.path = i at *
    have passed : (lead.size + i != lead.size + path.size) = (i != path.size) := by
      rw [Bool.eq_iff_iff, bne_iff_ne, bne_iff_ne]
      omega
    rw [passed]
    split
    · rw [Retry.shift_mk _ _ _ (Nat.succ_pos _), Nat.add_assoc]
    next whole =>
      simp only [Bool.or_eq_true, bne_iff_ne, not_or, Decidable.not_not] at whole
      rw [Retry.shift_mk _ _ _ (by omega)]

theorem atStar_behind (starts : Starts lead start start') (path_le : s.path ≤ path.size) :
    (s.shift lead.size).atStar (lead ++ glob) (lead ++ path) start' =
      (s.atStar glob path start).shift lead.size := by
  have size : (lead ++ glob).size = lead.size + glob.size := Array.size_append
  have behind : (lead ++ glob)[(s.shift lead.size).glob + 1]? = glob[s.glob + 1]? := by
    rw [← getElem?_behind lead glob, ← Nat.add_assoc]
    rfl
  have ahead : (lead ++ path)[(s.shift lead.size).path]? = path[s.path]? :=
    getElem?_behind lead path s.path
  by_cases next : glob[s.glob + 1]? = some star
  · have last := lastGlobstar_behind lead glob s.glob (m := glob.size) (n := (lead ++ glob).size)
      (by omega) (by omega)
    have here : lastGlobstar (lead ++ glob) (lead ++ glob).size (s.shift lead.size).glob =
        lead.size + lastGlobstar glob glob.size s.glob := last
    rw [atStar_of_globstar next, atStar_of_globstar (behind.trans next), ahead, here]
    generalize lastGlobstar glob glob.size s.glob = first at *
    have more : (lead.size + first + 2 != (lead ++ glob).size) = (first + 2 != glob.size) := by
      rw [Bool.eq_iff_iff, bne_iff_ne, bne_iff_ne]
      omega
    have back : (lead ++ glob)[lead.size + first + 2]? = glob[first + 2]? := by
      rw [Nat.add_assoc, getElem?_behind]
    dsimp only
    rw [front_behind starts, more, back]
    split
    · refine Eq.trans ?_ (skipComponent_behind lead ?_ ?_ _)
      · simp only [State.shift, Retry.shift_mk _ _ _ (Nat.succ_pos _), Nat.add_assoc]
        congr 2
        split <;> rfl
      · exact path_le
      · exact Nat.succ_pos _
    · split
      · rfl
      · simp only [State.shift, Retry.shift_mk _ _ _ (Nat.succ_pos _), Nat.add_assoc]
  · rw [atStar_of_single next, atStar_of_single (behind ▸ next), ahead]
    split
    · rfl
    · simp only [State.shift, Retry.shift_mk _ _ _ (Nat.succ_pos _), Nat.add_assoc]

/-! ## Steps behind a start -/

/-- Where a brace opens, its first branch begins. -/
theorem branches_of_brace {i : Nat} (brace : glob[i]? = some (byte '\x7b')) (fuel start : Nat) :
    branches glob (fuel + 1) i 0 false start = branches glob fuel (i + 1) 1 false (i + 1) := by
  rw [branches, brace]
  rfl

theorem branches_behind_brace (lead : Array UInt8) {i : Nat}
    (brace : glob[i]? = some (byte '\x7b')) :
    branches (lead ++ glob) (lead ++ glob).size (lead.size + i) 0 false 0 =
      (branches glob glob.size i 0 false 0).map (lead.size + ·) := by
  have size : (lead ++ glob).size = lead.size + glob.size := Array.size_append
  have within := lt_size_of_getElem? brace
  obtain ⟨m, hm⟩ : ∃ m, glob.size = m + 1 := ⟨glob.size - 1, by omega⟩
  have brace' : (lead ++ glob)[lead.size + i]? = some (byte '\x7b') :=
    (getElem?_behind lead glob i).trans brace
  have whole : (lead ++ glob).size = lead.size + m + 1 := by omega
  rw [whole, hm, branches_of_brace brace, branches_of_brace brace', Nat.add_assoc]
  exact branches_behind lead glob (i + 1) 1 false (i + 1) (by omega) (by omega)

theorem firstOf_map {f g : Nat → Verdict} {n : Nat} {bs : List Nat}
    (same : ∀ b ∈ bs, g (n + b) = f b) : firstOf g (bs.map (n + ·)) = firstOf f bs := by
  induction bs with
  | nil => rfl
  | cons b bs ih =>
    rw [List.map_cons, firstOf, firstOf, same b List.mem_cons_self,
      ih fun c member => same c (List.mem_cons_of_mem b member)]

variable {opened : List Branch} {tryBranch tryBranch' : State → Nat → Verdict}

theorem find?_shift (n i : Nat) (opened : List Branch) :
    (opened.map (Branch.shift n)).find? (fun b => b.brace == n + i) =
      (opened.find? fun b => b.brace == i).map (Branch.shift n) := by
  rw [List.find?_map]
  congr 2
  funext b
  rw [Function.comp_apply, Bool.eq_iff_iff, beq_iff_eq, beq_iff_eq]
  exact Nat.add_right_inj

/-- A step does what it would do in what is left, if its branches do. -/
theorem step_behind (starts : Starts lead start start') (path_le : s.path ≤ path.size)
    (tries : ∀ b ∈ branches glob glob.size s.glob 0 false 0, glob[s.glob]? = some (byte '\x7b') →
      tryBranch' (s.shift lead.size) (lead.size + b) = tryBranch s b) :
    step (lead ++ glob) (lead ++ path) (opened.map (Branch.shift lead.size)) start' tryBranch'
        (s.shift lead.size) =
      (step glob path opened start tryBranch s).shift lead.size := by
  have size : (lead ++ glob).size = lead.size + glob.size := Array.size_append
  have here : (lead ++ glob)[(s.shift lead.size).glob]? = glob[s.glob]? :=
    getElem?_behind lead glob s.glob
  have ahead : (lead ++ path)[(s.shift lead.size).path]? = path[s.path]? :=
    getElem?_behind lead path s.path
  unfold step
  rw [here, ahead]
  cases known : glob[s.glob]? with
  | none => rfl
  | some b =>
    dsimp only
    split
    · rw [atStar_behind starts path_le]
      rfl
    · split
      next isBrace =>
        have brace : glob[s.glob]? = some (byte '\x7b') := known.trans (by rw [beq_iff_eq.mp isBrace])
        have found : (opened.map (Branch.shift lead.size)).find?
            (fun b => b.brace == (s.shift lead.size).glob) =
              (opened.find? fun b => b.brace == s.glob).map (Branch.shift lead.size) :=
          find?_shift lead.size s.glob opened
        have all : branches (lead ++ glob) (lead ++ glob).size (s.shift lead.size).glob 0 false 0 =
            (branches glob glob.size s.glob 0 false 0).map (lead.size + ·) :=
          branches_behind_brace lead brace
        rw [found, all, firstOf_map fun b member => tries b member brace]
        cases opened.find? fun b => b.brace == s.glob <;> rfl
      · have depth : (s.shift lead.size).depth = s.depth := rfl
        rw [depth]
        split
        · have skipped : skipBranch (lead ++ glob) ((lead ++ glob).size + 1) (s.shift lead.size).glob 0
              false = lead.size + skipBranch glob (glob.size + 1) s.glob 0 false :=
            skipBranch_behind lead glob s.glob 0 false (by omega) (by omega)
          rw [skipped]
          rfl
        · cases path[s.path]? with
          | none => rfl
          | some c =>
            dsimp only
            split
            · split <;> rfl
            · split
              · have ranges : bracket (lead ++ glob) c ((s.shift lead.size).glob + 1) =
                    (bracket glob c (s.glob + 1)).map fun (f, j) => (f, lead.size + j) :=
                  bracket_behind lead glob c (s.glob + 1)
                rw [ranges]
                cases bracket glob c (s.glob + 1) with
                | none => rfl
                | some r =>
                  obtain ⟨fits, behind⟩ := r
                  cases fits <;> rfl
              · have read : unescaped (lead ++ glob) (s.shift lead.size).glob =
                    (unescaped glob s.glob).map fun (d, j) => (d, lead.size + j) :=
                  unescaped_behind lead glob s.glob
                rw [read]
                cases unescaped glob s.glob with
                | none => rfl
                | some r =>
                  obtain ⟨d, i⟩ := r
                  dsimp only [Option.map_some]
                  split
                  · split <;> rfl
                  · rfl

/-! ## Matches behind a start -/

/-- The branches of a match are tried with the same answers as those of a match of what is left. -/
def TriesAlike (lead glob path : Array UInt8) (start : Nat)
    (tryBranch tryBranch' : State → Nat → Verdict) : Prop :=
  ∀ s : State, s.Sound glob path start → ∀ b ∈ branches glob glob.size s.glob 0 false 0,
    glob[s.glob]? = some (byte '\x7b') →
      tryBranch' (s.shift lead.size) (lead.size + b) = tryBranch s b

theorem turn_behind (starts : Starts lead start start') (sound : s.Sound glob path start)
    (tries : TriesAlike lead glob path start tryBranch tryBranch') :
    turn (lead ++ glob) (lead ++ path) (opened.map (Branch.shift lead.size)) start' tryBranch'
        (s.shift lead.size) =
      (turn glob path opened start tryBranch s).map id (State.shift lead.size) := by
  have ended : (decide ((lead ++ glob).size ≤ (s.shift lead.size).glob) &&
      decide ((lead ++ path).size ≤ (s.shift lead.size).path)) =
        (decide (glob.size ≤ s.glob) && decide (path.size ≤ s.path)) := by
    simp only [State.shift, Array.size_append, Nat.add_le_add_iff_left]
  unfold turn
  rw [ended, step_behind starts sound.path_le (tries s sound)]
  split
  · rfl
  · cases step glob path opened start tryBranch s with
    | done | go => rfl
    | miss t =>
      dsimp only [Step.shift, State.shift]
      by_cases unset : t.wildcard.path = 0
      · have still : t.wildcard.shift lead.size = t.wildcard := if_pos unset
        rw [still, unset]
        rfl
      · have set := Nat.pos_of_ne_zero unset
        have reach : (decide (0 < lead.size + t.wildcard.path) &&
            decide (lead.size + t.wildcard.path ≤ (lead ++ path).size)) =
              (decide (0 < t.wildcard.path) && decide (t.wildcard.path ≤ path.size)) := by
          rw [Array.size_append, Bool.eq_iff_iff]
          simp only [Bool.and_eq_true, decide_eq_true_eq]
          omega
        rw [Retry.shift_of_pos set]
        dsimp only
        rw [reach]
        split
        · exact congrArg Sum.inr (by simp only [State.shift, Retry.shift_of_pos set])
        · rfl

theorem scan_behind (starts : Starts lead start start') (known : Opened glob opened)
    (sound : s.Sound glob path start)
    (tries : TriesAlike lead glob path start tryBranch tryBranch') (fuel : Nat) :
    scan (lead ++ glob) (lead ++ path) (opened.map (Branch.shift lead.size)) start' tryBranch' fuel
        (s.shift lead.size) =
      scan glob path opened start tryBranch fuel s := by
  induction fuel generalizing s with
  | zero => rfl
  | succ fuel ih =>
    rw [scan_succ, scan_succ, turn_behind starts sound tries]
    cases next : turn glob path opened start tryBranch s with
    | inl verdict => rfl
    | inr t => exact ih (sound.move (move_of_turn sound.path_le known next))

theorem stepLimit_le (lead glob path : Array UInt8) :
    stepLimit glob path ≤ stepLimit (lead ++ glob) (lead ++ path) := by
  simp only [stepLimit, Array.size_append]
  exact Nat.mul_le_mul (Nat.mul_le_mul (Nat.mul_le_mul (by omega) (by omega)) (by omega)) (by omega)

/-- A match that has come past the same bytes in its pattern and in its path ends like a match of what
is left of both. -/
theorem matchFrom_behind {room : Nat} (starts : Starts lead start start')
    (known : Opened glob opened) (sound : s.Sound glob path start) :
    matchFrom (lead ++ glob) (lead ++ path) room (opened.map (Branch.shift lead.size)) start'
        (s.shift lead.size) =
      matchFrom glob path room opened start s := by
  have limit := stepLimit_le lead glob path
  induction room generalizing opened start start' s with
  | zero =>
    have tries : TriesAlike lead glob path start (tryIn glob path opened 0)
        (tryIn (lead ++ glob) (lead ++ path) (opened.map (Branch.shift lead.size)) 0) :=
      fun _ _ _ _ _ => rfl
    rw [matchFrom_eq_scan, matchFrom_eq_scan, scan_behind starts known sound tries]
    exact scan_congr sound known (by omega) (by omega)
  | succ room ih =>
    have tries : TriesAlike lead glob path start (tryIn glob path opened (room + 1))
        (tryIn (lead ++ glob) (lead ++ path) (opened.map (Branch.shift lead.size)) (room + 1)) := by
      intro u soundU b member brace
      obtain ⟨ahead, inside⟩ := bounds_of_mem_branches brace member
      have known' : Opened glob (opened ++ [⟨u.glob, b⟩]) := by
        intro c among
        rcases List.mem_append.mp among with old | new
        · exact known c old
        · rw [List.mem_singleton.mp new]
          exact ⟨ahead, inside⟩
      have alike := ih (.inl rfl : Starts lead b (lead.size + b)) known'
        (soundU.enter ahead inside (opened ++ [Branch.mk u.glob b]).length)
      rw [List.map_append, List.length_append] at alike
      dsimp only [tryIn]
      rw [List.length_append, List.length_map, List.length_append]
      exact alike
    rw [matchFrom_eq_scan, matchFrom_eq_scan, scan_behind starts known sound tries]
    exact scan_congr sound known (by omega) (by omega)

end ChunkBridge.Glob
