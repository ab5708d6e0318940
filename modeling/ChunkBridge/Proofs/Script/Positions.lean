import ChunkBridge.Proofs.Script.Placement

/-!
# Positions in an outline

The outline of a source is made of statements that come one after the other, so its items do as well
and lie between characters of the source. None of it stands in front of the place where reading
began, which is below the hashbang line.
-/

namespace ChunkBridge.Script
open ChunkBridge.Text

/-- Statements of a source come one after the other, from `lo` on. -/
structure StandFrom (source : List Char) (lo : Nat) (statements : List Statement) : Prop where
  isPlaced : ∀ st ∈ statements, st.form = .other ∨ st.IsPlaced source ∧ lo ≤ st.span.start
  inOrder : statements.Pairwise Grammar.InOrder

/-- The statements of a source stand behind the place where reading began. -/
theorem standFrom_statements? {dialect : Dialect} {source : List Char} {skip : Nat}
    {statements : List Statement} (read : statements? dialect source skip = some statements) :
    StandFrom source (State.initial source (.top dialect source) skip).start.offset statements := by
  unfold statements? at read
  split at read
  next => cases read
  next sts last run =>
    split at read
    · cases read
    · cases read
      have walk := Grammar.leaves_program (Nat.le_refl _) run
      exact ⟨walk.1, walk.2⟩

/-! ## Below a hashbang line -/

/-- Skipping blanks goes at least as far as it has come. -/
theorem Scan.le_width_trivia (markup : Bool) (gap : Scan.Gap) (br : Bool) (n : Nat)
    (cs : List Char) : n ≤ (Scan.trivia markup gap br n cs).width := by
  induction cs generalizing gap br n with
  | nil => exact Nat.le_refl n
  | cons c cs ih =>
    unfold Scan.trivia
    split
    · exact Nat.le_refl n
    · exact Nat.le_trans (Nat.le_succ n) (ih _ _ _)

/-- A line break is skipped. -/
theorem Scan.one_le_width_trivia (markup br : Bool) {c : Char} (ends : Scan.isLineBreak c = true)
    (cs : List Char) : 1 ≤ (Scan.trivia markup .blank br 0 (c :: cs)).width := by
  have step : Scan.Gap.step markup br c cs .blank = some .blank := by simp [Scan.Gap.step, ends]
  unfold Scan.trivia
  rw [step]
  exact Scan.le_width_trivia ..

/-- The hashbang line of a source with the line break behind it. -/
def hashbangHead (source : List Char) : List Char :=
  match Scan.hashbangLine source with
  | none => []
  | some line => source.take (line.length + 1)

theorem hashbangHead_append {line tail : List Char}
    (h : Scan.hashbangLine (line ++ tail) = some line) :
    hashbangHead (line ++ tail) = line ++ tail.take 1 := by
  simp [hashbangHead, h, List.take_append, List.take_of_length_le]

/-- A hashbang line goes up to a line break or to the end. -/
theorem Scan.hashbangLine_eq_some_iff {source line : List Char} :
    Scan.hashbangLine source = some line ↔
      (∃ rest, line = '#' :: '!' :: rest ∧ ∀ c ∈ rest, Scan.isLineBreak c = false) ∧
        ∃ tail, source = line ++ tail ∧ ∀ c ∈ tail.head?, Scan.isLineBreak c = true := by
  constructor
  · intro h
    unfold Scan.hashbangLine at h
    split at h
    next cs =>
      cases h
      refine ⟨⟨_, rfl, ?_⟩, cs.dropWhile fun c => !Scan.isLineBreak c, ?_, ?_⟩
      · intro c member
        simpa using List.all_eq_true.mp List.all_takeWhile c member
      · simp only [List.cons_append, List.takeWhile_append_dropWhile]
      · intro c first
        have := List.head?_dropWhile_not (fun c => !Scan.isLineBreak c) cs
        rw [Option.mem_def.mp first] at this
        simpa using this
    next => cases h
  · rintro ⟨⟨rest, rfl, unbroken⟩, tail, rfl, ends⟩
    have taken : (rest ++ tail).takeWhile (fun c => !Scan.isLineBreak c) = rest := by
      rw [List.takeWhile_append_of_pos (by simpa using unbroken)]
      cases tail with
      | nil => simp
      | cons c tail => simp [ends c rfl]
    simp only [List.cons_append, Scan.hashbangLine, taken]

/-- A source has a hashbang line if it begins like one. -/
theorem Scan.hashbangLine_eq_none_iff {source : List Char} :
    Scan.hashbangLine source = none ↔ ¬ ['#', '!'] <+: source := by
  unfold Scan.hashbangLine
  split
  next cs => simp
  next other =>
    simp only [true_iff]
    rintro ⟨cs, rfl⟩
    exact other cs rfl

/-- The more characters, the more bytes. -/
theorem byteLength_take_le {n m : Nat} (le : n ≤ m) (cs : List Char) :
    byteLength (cs.take n) ≤ byteLength (cs.take m) := by
  obtain ⟨k, rfl⟩ := Nat.exists_eq_add_of_le le
  rw [List.take_add, byteLength_append]
  exact Nat.le_add_right _ _

/-- A token that is read from a line break on stands behind it. -/
theorem le_start_reading {source : List Char} (s : State source) (place : Place source)
    (onward : s.start.offset ≤ place.offset) (fresh : Bool) (scanner : Scanner)
    (ends : ∀ c ∈ place.rest.head?, Scan.isLineBreak c = true) :
    place.offset + byteLength (place.rest.take 1) ≤
      (s.reading place onward fresh true scanner).start.offset := by
  show _ ≤ place.offset + byteLength (place.rest.take _)
  refine Nat.add_le_add_left ?_ _
  cases rest : place.rest with
  | nil => exact Nat.zero_le _
  | cons c cs =>
    rw [rest] at ends
    exact byteLength_take_le (Scan.one_le_width_trivia _ _ (ends c rfl) cs) _

/-- Reading begins behind the hashbang line and the line break behind that. -/
theorem le_start_initial (source : List Char) (context : Context) :
    byteLength (hashbangHead source) ≤
      (State.initial source context ((Scan.hashbangLine source).getD []).length).start.offset := by
  cases h : Scan.hashbangLine source with
  | none => simp [hashbangHead, h]
  | some line =>
    obtain ⟨-, tail, rfl, ends⟩ := Scan.hashbangLine_eq_some_iff.mp h
    let place := (Place.first (line ++ tail)).advance line.length
    have offset_eq : place.offset = byteLength line := by simp [place, Place.first, Place.advance]
    have rest_eq : place.rest = tail := by simp [place, Place.first, Place.advance]
    calc byteLength (hashbangHead (line ++ tail))
      _ = place.offset + byteLength (place.rest.take 1) := by
        rw [hashbangHead_append h, byteLength_append, offset_eq, rest_eq]
      _ ≤ _ := le_start_reading _ place (Nat.le_refl _) _ _ fun c first => ends c (rest_eq ▸ first)

/-! ## Outlines -/

section
variable {ε α β : Type} {f : α → Except ε β} {as : List α} {bs : List β}

/-- Where a list is turned into something, its head and its tail are. -/
theorem exists_of_mapM_cons_ok {a : α} (h : (a :: as).mapM f = .ok bs) :
    ∃ c cs, f a = .ok c ∧ as.mapM f = .ok cs ∧ bs = c :: cs := by
  rw [List.mapM_cons] at h
  cases first : f a with
  | error e =>
    rw [first] at h
    cases h
  | ok c =>
    cases rest : as.mapM f with
    | error e =>
      rw [first, rest] at h
      cases h
    | ok cs =>
      rw [first, rest] at h
      cases h
      exact ⟨c, cs, rfl, rfl, rfl⟩

/-- What a list is turned into comes from its elements. -/
theorem exists_of_mapM_ok (h : as.mapM f = .ok bs) : ∀ b ∈ bs, ∃ a ∈ as, f a = .ok b := by
  induction as generalizing bs with
  | nil =>
    cases h
    intro b member
    cases member
  | cons a as ih =>
    obtain ⟨c, cs, first, rest, rfl⟩ := exists_of_mapM_cons_ok h
    intro b member
    rcases List.mem_cons.mp member with rfl | later
    · exact ⟨a, List.mem_cons_self, first⟩
    · obtain ⟨x, old, known⟩ := ih rest b later
      exact ⟨x, List.mem_cons_of_mem a old, known⟩

/-- Each element is turned into something. -/
theorem exists_mem_of_mapM_ok (h : as.mapM f = .ok bs) : ∀ a ∈ as, ∃ b ∈ bs, f a = .ok b := by
  induction as generalizing bs with
  | nil =>
    intro a member
    cases member
  | cons a as ih =>
    obtain ⟨c, cs, first, rest, rfl⟩ := exists_of_mapM_cons_ok h
    intro x member
    rcases List.mem_cons.mp member with rfl | later
    · exact ⟨c, List.mem_cons_self, first⟩
    · obtain ⟨b, new, known⟩ := ih rest x later
      exact ⟨b, List.mem_cons_of_mem c new, known⟩

/-- What holds between elements holds between what they are turned into. -/
theorem pairwise_of_mapM_ok {R : α → α → Prop} {S : β → β → Prop}
    (keeps : ∀ a b c d, f a = .ok b → f c = .ok d → R a c → S b d) (h : as.mapM f = .ok bs)
    (ordered : as.Pairwise R) : bs.Pairwise S := by
  induction as generalizing bs with
  | nil =>
    cases h
    exact .nil
  | cons a as ih =>
    obtain ⟨before, ordered⟩ := List.pairwise_cons.mp ordered
    obtain ⟨c, cs, first, rest, rfl⟩ := exists_of_mapM_cons_ok h
    refine List.pairwise_cons.mpr ⟨fun b member => ?_, ih rest ordered⟩
    obtain ⟨x, old, known⟩ := exists_of_mapM_ok rest b member
    exact keeps a c x b first known (before x old)

/-- What is told of the results in order is told of the elements. -/
theorem flatMap_of_mapM_ok {γ : Type} {g : β → List γ} {k : α → List γ}
    (same : ∀ a b, f a = .ok b → g b = k a) (h : as.mapM f = .ok bs) :
    bs.flatMap g = as.flatMap k := by
  induction as generalizing bs with
  | nil =>
    cases h
    rfl
  | cons a as ih =>
    obtain ⟨c, cs, first, rest, rfl⟩ := exists_of_mapM_cons_ok h
    rw [List.flatMap_cons, List.flatMap_cons, same a c first, ih rest]

end

/-- A directive is an expression of its own. -/
theorem Statement.of_directive? {source : List Char} {st : Statement} {d : Directive}
    (h : st.directive? source = some d) : d.span = st.span ∧ st.form ≠ .other := by
  unfold Statement.directive? at h
  split at h
  next form =>
    split at h
    · cases h
      exact ⟨rfl, by rw [form]; exact Form.noConfusion⟩
    · cases h
  next => cases h

/-- Directives are statements of the source. -/
theorem mem_of_splitDirectives {source : List Char} {statements : List Statement} {d : Directive}
    (member : d ∈ (splitDirectives source statements).1) :
    ∃ st ∈ statements, st.directive? source = some d := by
  induction statements with
  | nil => cases member
  | cons s rest ih =>
    unfold splitDirectives at member
    cases known : s.directive? source with
    | none =>
      rw [known] at member
      cases member
    | some e =>
      rw [known] at member
      rcases List.mem_cons.mp member with rfl | later
      · exact ⟨s, List.mem_cons_self, known⟩
      · obtain ⟨st, old, same⟩ := ih later
        exact ⟨st, List.mem_cons_of_mem s old, same⟩

/-- A statement that is no directive is not parted off. -/
theorem mem_splitDirectives {source : List Char} {statements : List Statement} {st : Statement}
    (member : st ∈ statements) (none : st.directive? source = none) :
    st ∈ (splitDirectives source statements).2 := by
  induction statements with
  | nil => cases member
  | cons s rest ih =>
    unfold splitDirectives
    split
    next d known =>
      rcases List.mem_cons.mp member with rfl | later
      · rw [none] at known
        cases known
      · exact ih later
    next => exact member

/-- So are the statements behind them. -/
theorem isSuffix_splitDirectives (source : List Char) (statements : List Statement) :
    (splitDirectives source statements).2 <:+ statements := by
  induction statements with
  | nil => exact List.suffix_rfl
  | cons s rest ih =>
    unfold splitDirectives
    split
    next d known => exact ih.trans (List.suffix_cons s rest)
    next => exact List.suffix_rfl

/-- Behind an outline lie the directives that were parted off and a meaning for each other
statement. -/
theorem Outline.ofStatements_ok {source : List Char} {hashbang : Option Span}
    {statements : List Statement} {outline : Outline}
    (h : Outline.ofStatements source hashbang statements = .ok outline) :
    outline.hashbang = hashbang ∧ outline.directives = (splitDirectives source statements).1 ∧
      ((splitDirectives source statements).2.mapM fun s : Statement =>
        (do return ⟨s.span, ← s.kind⟩ : Except OutlineError Item)) = .ok outline.items := by
  unfold Outline.ofStatements at h
  dsimp only at h
  cases items : (splitDirectives source statements).2.mapM fun s : Statement =>
      (do return ⟨s.span, ← s.kind⟩ : Except OutlineError Item) with
  | error e =>
    rw [items] at h
    cases h
  | ok read =>
    rw [items] at h
    cases h
    exact ⟨rfl, rfl, rfl⟩

/-- An item stands where its statement stands and is what the statement means. -/
def Item.IsOf (item : Item) (st : Statement) : Prop :=
  item.span = st.span ∧ st.kind = .ok item.kind

theorem Item.isOf_of_ok {st : Statement} {item : Item}
    (known : (do return ⟨st.span, ← st.kind⟩ : Except OutlineError Item) = .ok item) :
    item.IsOf st := by
  cases told : st.kind with
  | error e =>
    rw [told] at known
    cases known
  | ok kind =>
    rw [told] at known
    cases known
    exact ⟨rfl, told⟩

/-- An item is what some statement means. -/
theorem exists_isOf {source : List Char} {hashbang : Option Span} {statements : List Statement}
    {outline : Outline} (h : Outline.ofStatements source hashbang statements = .ok outline) :
    ∀ item ∈ outline.items, ∃ st ∈ statements, item.IsOf st := by
  intro item member
  obtain ⟨-, -, items⟩ := Outline.ofStatements_ok h
  obtain ⟨st, old, known⟩ := exists_of_mapM_ok items item member
  exact ⟨st, (isSuffix_splitDirectives source statements).mem old, Item.isOf_of_ok known⟩

/-- Only a statement that is nothing to the rest of the library means nothing there. -/
theorem Item.IsOf.form_ne_other {item : Item} {st : Statement} (of : item.IsOf st)
    (meant : item.kind ≠ .other) : st.form ≠ .other := by
  intro other
  have told := of.2
  unfold Statement.kind at told
  rw [other] at told
  exact meant (Except.ok.inj told).symm

/-- Where the parts of an outline stand. -/
structure Outline.StandsFrom (source : List Char) (lo : Nat) (outline : Outline) : Prop where
  directives : ∀ d ∈ outline.directives, lo ≤ d.span.start
  items : ∀ item ∈ outline.items, item.kind = .other ∨
    lo ≤ item.span.start ∧ ∃ st, item.IsOf st ∧ st.IsPlaced source
  inOrder : outline.items.Pairwise fun a b =>
    a.kind = .other ∨ b.kind = .other ∨ a.span.stop ≤ b.span.start

/-- An outline stands where its statements stand. -/
theorem standsFrom_ofStatements {source : List Char} {hashbang : Option Span}
    {statements : List Statement} {outline : Outline} {lo : Nat}
    (stand : StandFrom source lo statements)
    (h : Outline.ofStatements source hashbang statements = .ok outline) :
    outline.StandsFrom source lo := by
  obtain ⟨-, directives, items⟩ := Outline.ofStatements_ok h
  have suffix := isSuffix_splitDirectives source statements
  refine ⟨fun d member => ?_, fun item member => ?_, ?_⟩
  · rw [directives] at member
    obtain ⟨st, old, known⟩ := mem_of_splitDirectives member
    obtain ⟨same, form⟩ := Statement.of_directive? known
    rw [same]
    exact ((stand.isPlaced st old).resolve_left form).2
  · obtain ⟨st, old, known⟩ := exists_of_mapM_ok items item member
    have of := Item.isOf_of_ok known
    by_cases meant : item.kind = .other
    · exact .inl meant
    · have placed := (stand.isPlaced st (suffix.mem old)).resolve_left (of.form_ne_other meant)
      exact .inr ⟨of.1 ▸ placed.2, st, of, placed.1⟩
  · refine pairwise_of_mapM_ok (fun a item b later first second order => ?_) items
      (stand.inOrder.sublist suffix.sublist)
    have ofA := Item.isOf_of_ok first
    have ofB := Item.isOf_of_ok second
    by_cases meantA : item.kind = .other
    · exact .inl meantA
    by_cases meantB : later.kind = .other
    · exact .inr (.inl meantB)
    have apart := (order.resolve_left (ofA.form_ne_other meantA)).resolve_left
      (ofB.form_ne_other meantB)
    exact .inr (.inr (by rwa [ofA.1, ofB.1]))

/-- The statements of a source, which is what its outline tells of. -/
def sourceStatements? (dialect : Dialect) (source : String) : Option (List Statement) :=
  statements? dialect source.toList ((Scan.hashbangLine source.toList).getD []).length

/-- An outline is the outline of the statements of its source. -/
theorem exists_statements {dialect : Dialect} {source : String} {outline : Outline}
    (h : Outline.ofSource dialect source = .ok outline) :
    ∃ statements hashbang, sourceStatements? dialect source = some statements ∧
      Outline.ofStatements source.toList hashbang statements = .ok outline := by
  unfold Outline.ofSource at h
  dsimp only at h
  split at h
  next => cases h
  next statements read => exact ⟨statements, _, read, h⟩

/-- The outline of a source stands below its hashbang line. -/
theorem standsFrom_ofSource {dialect : Dialect} {source : String} {outline : Outline}
    (h : Outline.ofSource dialect source = .ok outline) :
    outline.StandsFrom source.toList (byteLength (hashbangHead source.toList)) := by
  obtain ⟨statements, hashbang, read, h⟩ := exists_statements h
  have stand := standFrom_statements? read
  have below := le_start_initial source.toList (.top dialect source.toList)
  refine standsFrom_ofStatements ⟨fun st member => ?_, stand.inOrder⟩ h
  exact (stand.isPlaced st member).imp id fun placed => ⟨placed.1, Nat.le_trans below placed.2⟩

end ChunkBridge.Script
