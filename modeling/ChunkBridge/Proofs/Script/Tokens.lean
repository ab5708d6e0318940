import ChunkBridge.Proofs.Script.Lexemes
import ChunkBridge.Proofs.Script.Reading

/-!
# Reading tokens

A parser that is known to succeed: it stands in front of some tokens, goes past the first of them
and gives a value (`Gives`). What the tokens are is told by the text ahead (`Spells`), so a text
that is put together of tokens is read without a look at its characters. Faults that do not stop a
parser are kept in the books.
-/

namespace ChunkBridge.Script
open ChunkBridge.Text
variable {source : List Char}

/-! ## Texts made of tokens -/

namespace Scan

/-- The character separates tokens. -/
def Separates (c : Char) : Prop := isLineBreak c = true ∨ isBlank c = true

theorem separates_of_all {gap : List Char}
    (all : (gap.all fun c => isLineBreak c || isBlank c) = true) : ∀ c ∈ gap, Separates c :=
  fun c member => Bool.or_eq_true_iff.mp (List.all_eq_true.mp all c member)

/-- In front of a token nothing is skipped. -/
theorem trivia_of_opens (markup br : Bool) (n : Nat) {cs : List Char}
    (opens : ∀ c ∈ cs.head?, Opens c) : trivia markup .blank br n cs = ⟨n, br, true⟩ := by
  cases cs with
  | nil => rfl
  | cons c cs =>
    have first := opens c rfl
    have none : Gap.blank.step markup br c cs = none := by
      simp [Gap.step, first.not_isLineBreak, first.not_isBlank, first.ne_slash, first.ne_less,
        first.ne_dash]
    rw [trivia, none]

/-- What separates two tokens is skipped, and no more. -/
theorem trivia_append (markup br : Bool) (n : Nat) {gap cs : List Char}
    (separates : ∀ c ∈ gap, Separates c) (opens : ∀ c ∈ cs.head?, Opens c) :
    (trivia markup .blank br n (gap ++ cs)).width = n + gap.length ∧
      (trivia markup .blank br n (gap ++ cs)).isClosed = true := by
  induction gap generalizing br n with
  | nil =>
    rw [List.nil_append, trivia_of_opens markup br n opens]
    exact ⟨rfl, rfl⟩
  | cons c gap ih =>
    have first : (isLineBreak c || isBlank c) = true :=
      Bool.or_eq_true_iff.mpr (separates c List.mem_cons_self)
    have skipped : Gap.blank.step markup br c (gap ++ cs) = some .blank := by
      rw [Gap.step, if_pos first]
    have more := ih (br || isLineBreak c) (n + 1) fun d member =>
      separates d (List.mem_cons_of_mem c member)
    rw [Nat.add_right_comm] at more
    rw [List.cons_append, trivia, skipped]
    exact more

end Scan

/-- The text begins with these tokens, without a fault. -/
inductive Spells : List Char → List Token → Prop where
  | nil (cs : List Char) : Spells cs []
  | cons {gap lexeme cs : List Char} {token : Token} {tokens : List Token}
      (separates : ∀ c ∈ gap, Scan.Separates c)
      (opens : ∀ c ∈ (lexeme ++ cs).head?, Scan.Opens c)
      (scan : Scan.token (lexeme ++ cs) = ⟨token, lexeme.length, true⟩)
      (rest : Spells cs tokens) : Spells (gap ++ (lexeme ++ cs)) (token :: tokens)

namespace Spells
variable {gap cs : List Char} {tokens : List Token} (separates : ∀ c ∈ gap, Scan.Separates c)

/-- At the end of a text there is one more token. -/
theorem finish : Spells [] [.finish] :=
  show Spells ([] ++ ([] ++ [])) [.finish] from .cons nofun nofun rfl (.nil [])

include separates

theorem mark {c : Char} {text : String} (opens : Scan.Opens c)
    (scan : Scan.token (c :: cs) = ⟨.mark text, 1, true⟩) (rest : Spells cs tokens) :
    Spells (gap ++ (c :: cs)) (.mark text :: tokens) :=
  show Spells (gap ++ ([c] ++ cs)) (.mark text :: tokens) from
    .cons separates (fun _ first => Option.some.inj first ▸ opens) scan rest

theorem name (name : String) (ends : Scan.EndsName cs) (rest : Spells cs tokens) :
    Spells (gap ++ ((clauseName name).toList ++ cs)) (Scan.nameToken name :: tokens) :=
  .cons separates (Scan.opens_clauseName name cs) (Scan.token_clauseName name ends) rest

theorem word {text : String} (identifier : isIdentifierName text.toList = true)
    (ends : Scan.EndsName cs) (rest : Spells cs tokens) :
    Spells (gap ++ (text.toList ++ cs)) (.word text false :: tokens) := by
  have spelled := name separates text ends rest
  rwa [clauseName, if_pos identifier, Scan.nameToken, if_pos identifier] at spelled

end Spells

namespace State

/-- The tokens from the current one on. -/
def Faces (s : State source) : List Token → Prop
  | [] => False
  | token :: tokens => s.token = token ∧ Spells s.after.rest tokens

/-- A state behind another one: what is still ahead, and whether there was a fault in between. -/
structure Follows (s t : State source) (ahead : List Token) (faulty : Bool) : Prop where
  context_eq : t.context = s.context
  pending_eq : t.pending = s.pending
  isFaulty_eq : t.isFaulty = (s.isFaulty || faulty)
  faces : t.Faces ahead

variable {s t u : State source} {token : Token} {ahead more : List Token} {first second : Bool}

theorem Follows.refl (faces : s.Faces ahead) : s.Follows s ahead false where
  context_eq := rfl
  pending_eq := rfl
  isFaulty_eq := (Bool.or_false _).symm
  faces

theorem Follows.trans (left : s.Follows t ahead first) (right : t.Follows u more second) :
    s.Follows u more (first || second) where
  context_eq := right.context_eq.trans left.context_eq
  pending_eq := right.pending_eq.trans left.pending_eq
  isFaulty_eq := by rw [right.isFaulty_eq, left.isFaulty_eq, Bool.or_assoc]
  faces := right.faces

/-- A token that is read where a text of tokens begins is the first of them. -/
theorem follows_reading (s : State source) (place : Place source)
    (onward : s.start.offset ≤ place.offset) (fresh : Bool)
    (spells : Spells place.rest (token :: ahead)) :
    s.Follows (s.reading place onward fresh true .token) (token :: ahead) false := by
  generalize whole : place.rest = text at spells
  cases spells with
  | @cons gap lexeme cs _ _ separates opens scan rest =>
    let trivia := Scan.trivia (!s.context.dialect.isModule) .blank fresh 0 place.rest
    obtain ⟨width, closed⟩ : trivia.width = gap.length ∧ trivia.isClosed = true := by
      have skipped :=
        Scan.trivia_append (!s.context.dialect.isModule) fresh 0 separates opens
      rwa [Nat.zero_add, ← whole] at skipped
    have start : (place.advance trivia.width).rest = lexeme ++ cs := by
      show place.rest.drop trivia.width = lexeme ++ cs
      rw [width, whole, List.drop_left]
    have read : Scan.token (place.advance trivia.width).rest = ⟨token, lexeme.length, true⟩ :=
      start ▸ scan
    have after : ((place.advance trivia.width).advance lexeme.length).rest = cs := by
      show (place.advance trivia.width).rest.drop lexeme.length = cs
      rw [start, List.drop_left]
    let begun := place.advance trivia.width
    refine ⟨rfl, rfl, ?_, ?_, ?_⟩
    · show (s.isFaulty || !trivia.isClosed || !(Scan.token begun.rest).isValid) = _
      rw [closed, read]
      simp
    · show (Scan.token begun.rest).token = token
      rw [read]
    · show Spells (begun.advance (Scan.token begun.rest).width).rest ahead
      rw [read, after]
      exact rest

/-- Going past a token leads in front of the next one. -/
theorem follows_next {next : Token} (faces : s.Faces (token :: next :: ahead)) :
    s.Follows (s.next true .token) (next :: ahead) false :=
  follows_reading s s.after s.start_le_after false faces.2

/-- A source that is made of tokens stands in front of the first of them. -/
theorem faces_initial (context : Context) (spells : Spells source (token :: ahead)) :
    (initial source context 0).context = context ∧ (initial source context 0).pending = [] ∧
      (initial source context 0).isFaulty = false ∧
      (initial source context 0).Faces (token :: ahead) := by
  obtain ⟨blank, follows, here, empty, clear⟩ : ∃ blank : State source,
      blank.Follows (initial source context 0) (token :: ahead) false ∧
        blank.context = context ∧ blank.pending = [] ∧ blank.isFaulty = false :=
    ⟨_, follows_reading _ ((Place.first source).advance 0) (Nat.le_refl _) _ spells, rfl, rfl, rfl⟩
  refine ⟨follows.context_eq.trans here, follows.pending_eq.trans empty, ?_, follows.faces⟩
  rw [follows.isFaulty_eq, clear]
  rfl

end State

namespace Parser
variable {α β σ ι : Type} {c : Context} {p : Parser source α} {a : α} {b : β}
variable {token next : Token} {tokens ahead : List Token} {faulty : Bool}

/-- In these surroundings a parser that stands in front of `tokens`, with others behind them, goes
past them and gives the value; `faulty` says whether it meets a fault. -/
def Gives (c : Context) (p : Parser source α) (tokens ahead : List Token) (a : α)
    (faulty : Bool) : Prop :=
  ∀ ⦃s : State source⦄, s.context = c → s.Faces (tokens ++ ahead) →
    ∃ t, p.run s = some (a, t) ∧ s.Follows t ahead faulty

/-- Behind the first part the rest runs. -/
theorem run_bind_of {f : α → Parser source β} {s t : State source} (first : p.run s = some (a, t)) :
    (p >>= f).run s = (f a).run t := by
  show (Parser.bind p f).run s = (f a).run t
  simp only [Parser.bind, first]

namespace Gives

theorem pure (a : α) : Gives c (Pure.pure a : Parser source α) [] ahead a false :=
  fun _ _ faces => ⟨_, rfl, .refl faces⟩

/-- One parser after the other. -/
theorem bind {f : α → Parser source β} {more : List Token} {first second : Bool}
    (left : Gives c p tokens (more ++ ahead) a first)
    (right : Gives c (f a) more ahead b second) :
    Gives c (p >>= f) (tokens ++ more) ahead b (first || second) := by
  intro s here faces
  rw [List.append_assoc] at faces
  obtain ⟨t, run, follows⟩ := left here faces
  obtain ⟨u, last, further⟩ := right (follows.context_eq.trans here) follows.faces
  exact ⟨u, (run_bind_of run).trans last, follows.trans further⟩

/-- Behind a parser that goes past one token. -/
theorem step {f : α → Parser source β} (left : Gives c p [token] (tokens ++ ahead) a false)
    (right : Gives c (f a) tokens ahead b faulty) :
    Gives c (p >>= f) (token :: tokens) ahead b faulty :=
  left.bind right

/-- Behind a parser that reads nothing. -/
theorem look {f : α → Parser source β} (left : Gives c p [] (tokens ++ ahead) a false)
    (right : Gives c (f a) tokens ahead b faulty) : Gives c (p >>= f) tokens ahead b faulty :=
  left.bind right

/-- What is told by the surroundings and the tokens ahead. -/
theorem inspect {f : State source → α}
    (told : ∀ s : State source, s.context = c → s.Faces ahead → f s = a) :
    Gives c (Parser.inspect f) [] ahead a false := by
  intro s here faces
  exact ⟨s, by rw [← told s here faces]; rfl, .refl faces⟩

/-- What does not matter. -/
theorem glance {f : State source → α} {k : α → Parser source β}
    (rest : ∀ a, Gives c (k a) tokens ahead b faulty) :
    Gives c (Parser.inspect f >>= k) tokens ahead b faulty :=
  fun s here faces => rest (f s) here faces

theorem peek {k : Token → Parser source β} (rest : ∀ t, Gives c (k t) tokens ahead b faulty) :
    Gives c (Parser.peek >>= k) tokens ahead b faulty :=
  fun _ here faces => rest _ here faces

/-- Behind a parser that goes past all the tokens. -/
theorem last {f : α → Parser source β} (left : Gives c p tokens ahead a faulty)
    (right : Gives c (f a) [] ahead b false) : Gives c (p >>= f) tokens ahead b faulty := by
  have whole : Gives c (p >>= f) (tokens ++ []) ahead b (faulty || false) := left.bind right
  rwa [List.append_nil, Bool.or_false] at whole

/-- Behind a parser that reads nothing and may note a fault. -/
theorem check {f : α → Parser source β} (left : Gives c p [] (tokens ++ ahead) a faulty)
    (right : Gives c (f a) tokens ahead b false) : Gives c (p >>= f) tokens ahead b faulty := by
  have whole : Gives c (p >>= f) ([] ++ tokens) ahead b (faulty || false) := left.bind right
  rwa [List.nil_append, Bool.or_false] at whole

theorem discard (left : Gives c p tokens ahead a faulty) :
    Gives c (discard p) tokens ahead () faulty :=
  .last left (.pure ())

theorem yes {condition : Prop} [Decidable condition] {q : Parser source α} (holds : condition)
    (left : Gives c p tokens ahead a faulty) :
    Gives c (if condition then p else q) tokens ahead a faulty :=
  (if_pos holds).symm ▸ left

theorem no {condition : Prop} [Decidable condition] {q : Parser source α} (fails : ¬condition)
    (right : Gives c q tokens ahead a faulty) :
    Gives c (if condition then p else q) tokens ahead a faulty :=
  (if_neg fails).symm ▸ right

theorem within {change : Context → Context} (inner : Gives (change c) p tokens ahead a faulty) :
    Gives c (Parser.within change p) tokens ahead a faulty := by
  intro s here faces
  obtain ⟨t, run, follows⟩ := @inner { s with context := change c } rfl faces
  refine ⟨{ t with context := c }, ?_, here.symm, follows.pending_eq, follows.isFaulty_eq,
    follows.faces⟩
  have entered : (context : Parser source Context).run s = some (c, s) := by rw [← here]; rfl
  rw [Parser.within, run_bind_of entered]
  exact (run_bind_of rfl).trans ((run_bind_of run).trans rfl)

end Gives

/-! ## Tokens -/

theorem gives_context : Gives c (context : Parser source Context) [] ahead c false :=
  .inspect fun _ here _ => here

theorem gives_isTyped : Gives c (isTyped : Parser source Bool) [] ahead c.dialect.isTyped false :=
  .inspect fun _ here _ => by rw [here]

theorem gives_token :
    Gives c (Parser.token : Parser source Token) [] (token :: ahead) token false :=
  .inspect fun _ _ faces => faces.1

theorem gives_atMark (text : String) :
    Gives c (atMark text : Parser source Bool) [] (token :: ahead) (token.isMark text) false :=
  .inspect fun _ _ faces => by rw [faces.1]

theorem gives_atWord (text : String) :
    Gives c (atWord text : Parser source Bool) [] (token :: ahead) (token.isWord text) false :=
  .inspect fun _ _ faces => by rw [faces.1]

theorem gives_atFinish :
    Gives c (atFinish : Parser source Bool) [] (token :: ahead) (token == .finish) false :=
  .inspect fun _ _ faces => by rw [faces.1]

theorem gives_bumpName :
    Gives c (bumpName : Parser source Unit) [token] (next :: ahead) () false :=
  fun _ _ faces => ⟨_, rfl, State.follows_next faces⟩

/-- A token without an escape is gone past. -/
theorem gives_bump (unescaped : token.isEscaped = false) :
    Gives c (bump : Parser source Unit) [token] (next :: ahead) () false := by
  unfold bump
  refine .look gives_token ?_
  split
  next text => cases unescaped
  next => exact gives_bumpName

theorem gives_faultIf (b : Bool) : Gives c (faultIf b : Parser source Unit) [] ahead () b := by
  intro s here faces
  cases b with
  | false => exact ⟨s, rfl, .refl faces⟩
  | true => exact ⟨_, rfl, rfl, rfl, (Bool.or_true _).symm, faces⟩

theorem gives_eatMark (text : String) :
    Gives c (eatMark text : Parser source Bool) [.mark text] (next :: ahead) true false := by
  unfold eatMark
  refine .look (gives_atMark text) (.yes (beq_iff_eq.mpr rfl) ?_)
  exact .step (gives_bump rfl) (.pure true)

theorem gives_eatWord (text : String) :
    Gives c (eatWord text : Parser source Bool) [.word text false] (next :: ahead) true false := by
  unfold eatWord
  refine .look (gives_atWord text) (.yes (beq_iff_eq.mpr rfl) ?_)
  exact .step (gives_bump rfl) (.pure true)

/-- Another token is left standing. -/
theorem gives_eatWord_of_not {text : String} (other : token.isWord text = false) :
    Gives c (eatWord text : Parser source Bool) [] (token :: ahead) false false := by
  unfold eatWord
  refine .look (gives_atWord text) (.no (Bool.eq_false_iff.mp other) ?_)
  exact .pure false

theorem gives_expectMark (text : String) :
    Gives c (expectMark text : Parser source Unit) [.mark text] (next :: ahead) () false :=
  .step (gives_eatMark text) (.pure ())

theorem gives_expectWord (text : String) :
    Gives c (expectWord text : Parser source Unit) [.word text false] (next :: ahead) () false :=
  .step (gives_eatWord text) (.pure ())

/-- A semicolon ends a statement. -/
theorem gives_endStatement :
    Gives c (endStatement : Parser source Unit) [.mark ";"] (next :: ahead) () false := by
  unfold endStatement
  refine .look (a := true) (.inspect fun s _ faces => ?_) ?_
  · rw [faces.1]
    rfl
  · exact .step (gives_eatMark ";") (.pure ())

/-! ## Loops -/

theorem gives_loop {init : σ} {round : σ → Parser source (Round σ α)}
    (turns : Gives c (rounds round c.budget init) tokens ahead a faulty) :
    Gives c (Parser.loop init round) tokens ahead a faulty :=
  .look gives_context turns

section
variable {round : σ → Parser source (Round σ α)} {n : Nat} {x y : σ}

theorem gives_rounds_done (last : Gives c (round x) tokens ahead (.done a) faulty) :
    Gives c (rounds round (n + 1) x) tokens ahead a faulty :=
  .last last (.pure a)

theorem gives_rounds_again {more : List Token} {first second : Bool}
    (turn : Gives c (round x) tokens (more ++ ahead) (.again y) first)
    (rest : Gives c (rounds round n y) more ahead a second) :
    Gives c (rounds round (n + 1) x) (tokens ++ more) ahead a (first || second) :=
  turn.bind rest

end

/-- Each of a list of things is looked at for a fault. -/
theorem gives_forIn_faultIf (xs : List ι) (refused : ι → Bool) :
    Gives c (forIn xs PUnit.unit fun x _ => do
        faultIf (refused x)
        return ForInStep.yield PUnit.unit : Parser source PUnit) [] ahead PUnit.unit
      (xs.any refused) := by
  induction xs with
  | nil => exact .pure _
  | cons x xs ih =>
    rw [List.any_cons, List.forIn_cons]
    have first : Gives c (do
        faultIf (refused x)
        return ForInStep.yield PUnit.unit : Parser source (ForInStep PUnit)) [] ([] ++ ahead)
        (.yield PUnit.unit) (refused x) := .last (gives_faultIf (refused x)) (.pure _)
    exact first.bind ih

/-! ## Items between commas -/

/-- The tokens of items with commas between them. -/
def commaList (spelled : ι → List Token) : List ι → List Token
  | [] => []
  | x :: xs => spelled x ++ xs.flatMap fun y => .mark "," :: spelled y

section
variable {close : String} {item : Parser source α} {spelled : ι → List Token} {value : ι → α}
variable {refused : ι → Bool}

/-- Items with a comma in front of each, behind some that have been read. -/
theorem gives_rounds_items {round : List α → Parser source (Round (List α) (List α))} (xs : List ι)
    (last : ∀ acc, Gives c (round acc) [] (.mark close :: ahead) (.done acc.reverse) false)
    (turn : ∀ x ∈ xs, ∀ acc ≠ [], ∀ text more, Gives c (round acc) (.mark "," :: spelled x)
      (.mark text :: more) (.again (value x :: acc)) (refused x))
    {n : Nat} (enough : xs.length < n) (acc : List α) (begun : acc ≠ []) :
    Gives c (rounds round n acc) (xs.flatMap fun x => .mark "," :: spelled x) (.mark close :: ahead)
      (acc.reverse ++ xs.map value) (xs.any refused) := by
  obtain ⟨m, rfl⟩ := Nat.exists_eq_add_one_of_ne_zero (Nat.ne_zero_of_lt enough)
  induction xs generalizing m acc with
  | nil =>
    rw [List.map_nil, List.append_nil]
    exact gives_rounds_done (last acc)
  | cons x xs ih =>
    have fewer := Nat.lt_of_succ_lt_succ enough
    obtain ⟨k, rfl⟩ := Nat.exists_eq_add_one_of_ne_zero (Nat.ne_zero_of_lt fewer)
    have rest := ih (fun y member => turn y (List.mem_cons_of_mem x member)) (value x :: acc)
      (List.cons_ne_nil _ _) k fewer
    rw [List.reverse_cons, List.append_assoc, List.singleton_append] at rest
    have first := turn x List.mem_cons_self acc begun
    rw [List.flatMap_cons, List.map_cons, List.any_cons]
    cases xs with
    | nil => exact gives_rounds_again (first close ahead) rest
    | cons y ys => exact gives_rounds_again (first "," _) rest

/-- Items between commas are read one by one, up to a closing bracket that begins none of them. -/
theorem gives_separated (xs : List ι) (comma : close ≠ ",")
    (begins : ∀ x ∈ xs, ∃ t ts, spelled x = t :: ts ∧ t.isMark close = false ∧ t ≠ .finish)
    (each : ∀ x ∈ xs, ∀ text more,
      Gives c item (spelled x) (.mark text :: more) (value x) (refused x))
    (enough : xs.length < c.budget) :
    Gives c (separated close true item) (commaList spelled xs) (.mark close :: ahead)
      (xs.map value) (xs.any refused) := by
  refine gives_loop ?_
  generalize withRound : (fun acc : List α => _) = round
  have last (acc : List α) :
      Gives c (round acc) [] (.mark close :: ahead) (.done acc.reverse) false := by
    subst withRound
    refine .look (gives_atMark close) (.look gives_atFinish (.yes ?_ (.pure _)))
    simp [Token.isMark]
  -- The end of a round, behind its comma.
  have read (x : ι) (member : x ∈ xs) (acc : List α) (text : String) (more : List Token) :
      Gives c (do
        let atClose ← atMark close
        if (!acc.isEmpty && atClose) = true then return .done acc.reverse
        return .again ((← item) :: acc) : Parser source (Round (List α) (List α)))
        (spelled x) (.mark text :: more) (.again (value x :: acc)) (refused x) := by
    obtain ⟨t, ts, spelling, other, -⟩ := begins x member
    have item := each x member text more
    rw [spelling] at item ⊢
    refine .look (gives_atMark close) (.no ?_ (.last item (.pure _)))
    simp [other]
  have first (x : ι) (member : x ∈ xs) (text : String) (more : List Token) :
      Gives c (round []) (spelled x) (.mark text :: more) (.again [value x]) (refused x) := by
    subst withRound
    obtain ⟨t, ts, spelling, other, unfinished⟩ := begins x member
    have whole := read x member [] text more
    rw [spelling] at whole ⊢
    refine .look (gives_atMark close) (.look gives_atFinish (.no ?_ (.yes rfl whole)))
    simp [other, unfinished]
  have turn (x : ι) (member : x ∈ xs) (acc : List α) (begun : acc ≠ []) (text : String)
      (more : List Token) : Gives c (round acc) (.mark "," :: spelled x) (.mark text :: more)
        (.again (value x :: acc)) (refused x) := by
    subst withRound
    obtain ⟨t, ts, spelling, -, -⟩ := begins x member
    have whole := read x member acc text more
    rw [spelling] at whole ⊢
    refine .look (gives_atMark close) (.look gives_atFinish (.no ?_ (.no ?_ ?_)))
    · simp [Token.isMark, Ne.symm comma]
    · simp [begun]
    · refine .look (gives_atMark ",") (.peek fun _ => .no (by simp) ?_)
      exact .step (gives_expectMark ",") whole
  obtain ⟨n, budget⟩ := Nat.exists_eq_add_one_of_ne_zero (Nat.ne_zero_of_lt enough)
  rw [budget] at enough ⊢
  cases xs with
  | nil => exact gives_rounds_done (last [])
  | cons x xs =>
    have rest := gives_rounds_items xs last
      (fun y member => turn y (List.mem_cons_of_mem x member)) (Nat.lt_of_succ_lt_succ enough)
      [value x] (List.cons_ne_nil _ _)
    have start := first x List.mem_cons_self
    rw [List.any_cons]
    cases xs with
    | nil => exact gives_rounds_again (start close ahead) rest
    | cons y ys => exact gives_rounds_again (start "," _) rest

end

end Parser
end ChunkBridge.Script
