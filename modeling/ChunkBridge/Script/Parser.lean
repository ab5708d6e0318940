import ChunkBridge.Script.Dialect
import ChunkBridge.Script.Keyword
import ChunkBridge.Script.Place
import ChunkBridge.Script.Scanner

/-!
# Parsers

A parser reads a source from its current token on. It either fails, or gives a value and the
state behind what it read. Some faults do not stop it: they are remembered in the state, and the
source as a whole is refused at the end.

The type carries the one fact that everything about spans rests on: no parser moves backwards
(`Parser.advances`). Trying a parser and going on from the same place is `attempt` and
`lookahead`, which the grammar uses where a few tokens do not tell what stands ahead.
-/

namespace ChunkBridge.Script
open ChunkBridge.Text

/-- What the surroundings allow. -/
structure Context where
  dialect : Dialect
  /-- Upper bound for the rounds of any loop over the source. -/
  budget : Nat
  /-- Whether `in` is an operator. -/
  allowsIn : Bool := true
  /-- Whether `yield` is an operator. -/
  allowsYield : Bool := false
  /-- Whether `await` is an operator. -/
  allowsAwait : Bool := false
  /-- Whether `return` may stand here. -/
  allowsReturn : Bool := false
  /-- Whether a decorator is being read, where brackets do not extend the expression. -/
  inDecorator : Bool := false
  /-- Whether declarations go without values. -/
  isAmbient : Bool := false
  /-- Whether a type may go on with a condition. -/
  allowsCondition : Bool := true

/-- Where a parser stands. -/
structure State (source : List Char) where
  token : Token
  /-- The start of the current token. -/
  start : Place source
  /-- The end of the current token. -/
  after : Place source
  /-- The end of the token before. -/
  last : Place source
  /-- A line ends between the token before and the current one. -/
  hasBreak : Bool
  /-- A fault was met that does not stop the parser. -/
  isFaulty : Bool
  context : Context
  /-- Where names with a default stand that need a target around them. -/
  pending : List Nat
  /-- Where the decorators begin that wait for their class. -/
  decorators : Option (Place source)
  last_le_start : last.offset ≤ start.offset
  start_le_after : start.offset ≤ after.offset
  start_lt_after : token.hasText = true → start.offset < after.offset
  decorators_le_start : ∀ d ∈ decorators, d.offset ≤ start.offset

/-- A reader of one piece of syntax. -/
structure Parser (source : List Char) (α : Type) where
  run : State source → Option (α × State source)
  advances : ∀ {s a t}, run s = some (a, t) →
    s.last.offset ≤ t.last.offset ∧ s.start.offset ≤ t.start.offset

namespace State
variable {source : List Char}

/-- The state before the token that `scanner` finds at a place further on, behind blanks and comments
if `skip` is set. -/
def reading (s : State source) (place : Place source) (onward : s.start.offset ≤ place.offset)
    (fresh skip : Bool) (scanner : Scanner) : State source :=
  let gap : Scan.Trivia :=
    if skip then Scan.trivia (!s.context.dialect.isModule) .blank fresh 0 place.rest
    else { width := 0, hasBreak := false }
  let start := place.advance gap.width
  let lexeme := scanner.scan start.rest
  { s with
    token := lexeme.token
    start := start
    after := start.advance lexeme.width
    last := place
    hasBreak := gap.hasBreak
    isFaulty := s.isFaulty || !gap.isClosed || !lexeme.isValid
    last_le_start := place.le_advance _
    start_le_after := start.le_advance _
    start_lt_after := start.lt_advance ∘ scanner.width_pos start.rest
    decorators_le_start := fun d waits =>
      Nat.le_trans (s.decorators_le_start d waits) (Nat.le_trans onward (place.le_advance _)) }

/-- The state before the first token of the source, `skip` characters in. -/
def initial (source : List Char) (context : Context) (skip : Nat) : State source :=
  let place := (Place.first source).advance skip
  let blank : State source :=
    { token := .finish, start := place, after := place, last := place, hasBreak := true,
      isFaulty := false, context, pending := [], decorators := none,
      last_le_start := Nat.le_refl _, start_le_after := Nat.le_refl _,
      start_lt_after := nofun, decorators_le_start := nofun }
  blank.reading place (Nat.le_refl _) (skip == 0) true .token

/-- The state behind the current token; `skip` and `scanner` say how to read the next one. -/
def next (s : State source) (skip : Bool) (scanner : Scanner) : State source :=
  s.reading s.after s.start_le_after false skip scanner

/-- The same place, with the current token read again by `scanner`. -/
def again (s : State source) (scanner : Scanner) : State source :=
  let lexeme := scanner.scan s.start.rest
  { s with
    token := lexeme.token
    after := s.start.advance lexeme.width
    isFaulty := s.isFaulty || !lexeme.isValid
    start_le_after := s.start.le_advance _
    start_lt_after := s.start.lt_advance ∘ scanner.width_pos s.start.rest }

/-- The state with decorators that wait from a place behind it on. -/
def waiting (s : State source) (place : Place source) (behind : place.offset ≤ s.start.offset) :
    State source :=
  { s with
    decorators := some place
    decorators_le_start := fun _ waits => Option.mem_some.mp waits ▸ behind }

end State

namespace Parser
variable {source : List Char} {α β σ : Type}

/-- Gives a value and reads nothing. -/
protected def pure (a : α) : Parser source α where
  run s := some (a, s)
  advances h := by cases h; exact ⟨Nat.le_refl _, Nat.le_refl _⟩

/-- One parser after the other. -/
protected def bind (p : Parser source α) (f : α → Parser source β) : Parser source β where
  run s :=
    match p.run s with
    | none => none
    | some (a, t) => (f a).run t
  advances {s b u} h := by
    cases hp : p.run s with
    | none => simp [hp] at h
    | some r =>
      obtain ⟨a, t⟩ := r
      simp only [hp] at h
      have h₁ := p.advances hp
      have h₂ := (f a).advances h
      exact ⟨Nat.le_trans h₁.1 h₂.1, Nat.le_trans h₁.2 h₂.2⟩

instance : Monad (Parser source) where
  pure := Parser.pure
  bind := Parser.bind

/-- Refuses the source. -/
def fail : Parser source α where
  run _ := none
  advances h := nomatch h

instance : Inhabited (Parser source α) := ⟨fail⟩

/-- Looks at the state and reads nothing. -/
def inspect (f : State source → α) : Parser source α where
  run s := some (f s, s)
  advances h := by cases h; exact ⟨Nat.le_refl _, Nat.le_refl _⟩

/-- What `p` gives from here, or `none` if it fails; reads nothing. -/
def lookahead (p : Parser source α) : Parser source (Option α) :=
  inspect fun s => (p.run s).map Prod.fst

/-- Reads `p` if it succeeds, else nothing. -/
def attempt (p : Parser source α) : Parser source (Option α) where
  run s :=
    match p.run s with
    | none => some (none, s)
    | some (a, t) => some (some a, t)
  advances {s a t} h := by
    cases hp : p.run s with
    | none => simp only [hp] at h; cases h; exact ⟨Nat.le_refl _, Nat.le_refl _⟩
    | some r => simp only [hp] at h; cases h; exact p.advances hp

/-- Changes what is remembered and reads nothing. -/
def remember (f : State source → State source)
    (h : ∀ s, (f s).last = s.last ∧ (f s).start = s.start) : Parser source Unit where
  run s := some ((), f s)
  advances {s a t} e := by
    cases e
    rw [(h s).1, (h s).2]
    exact ⟨Nat.le_refl _, Nat.le_refl _⟩

/-- Reads `p` and remembers where that began as the start of the decorators that wait. -/
def decorating (p : Parser source α) : Parser source α where
  run s :=
    match h : p.run s with
    | none => none
    | some (a, t) => some (a, t.waiting s.start (p.advances h).2)
  advances {s a t} h := by
    split at h
    next => cases h
    next a t run =>
      cases h
      exact p.advances (t := t) run

/-- Remembers a fault that does not stop the parser. -/
def fault : Parser source Unit :=
  remember (fun s => { s with isFaulty := true }) fun _ => ⟨rfl, rfl⟩

/-- Remembers a fault under a condition. -/
def faultIf (b : Bool) : Parser source Unit := if b then fault else pure ()

def context : Parser source Context := inspect State.context

def setContext (context : Context) : Parser source Unit :=
  remember (fun s => { s with context }) fun _ => ⟨rfl, rfl⟩

/-- Reads `p` in changed surroundings. -/
def within (f : Context → Context) (p : Parser source α) : Parser source α := do
  let outer ← context
  setContext (f outer)
  let a ← p
  setContext outer
  pure a

/-- The source is typed. -/
def isTyped : Parser source Bool := inspect fun s => s.context.dialect.isTyped

/-! ## Tokens -/

def token : Parser source Token := inspect State.token

/-- The start of the current token. -/
def startOffset : Parser source Nat := inspect fun s => s.start.offset

/-- The span from `start` to the end of the token before. -/
def spanFrom (start : Nat) : Parser source Span := inspect fun s => ⟨start, s.last.offset⟩

/-- A line ends before the current token. -/
def hasBreak : Parser source Bool := inspect State.hasBreak

/-- The current token is this operator or bracket. -/
def atMark (text : String) : Parser source Bool := inspect fun s => s.token.isMark text

/-- The current token is this word. -/
def atWord (text : String) : Parser source Bool := inspect fun s => s.token.isWord text

/-- The source ends here. -/
def atFinish : Parser source Bool := inspect fun s => s.token == .finish

/-- The token `n` places ahead, and whether a line ends before it. -/
def peekAt (n : Nat) : Parser source (Token × Bool) := inspect fun s =>
  let t := n.repeat (fun s => State.next s true .token) s
  (t.token, t.hasBreak)

/-- The token behind the current one. -/
def peek : Parser source Token := do return (← peekAt 1).1

/-- Goes past the current token. -/
def skip (skipsBlanks : Bool) (scanner : Scanner) : Parser source Unit where
  run s := some ((), s.next skipsBlanks scanner)
  advances {s a t} h := by
    cases h
    have h₁ := s.last_le_start
    have h₂ := s.start_le_after
    have h₃ := (s.next skipsBlanks scanner).last_le_start
    have h₄ : (s.next skipsBlanks scanner).last.offset = s.after.offset := rfl
    omega

/-- Reads the current token again by other rules. -/
def rescan (scanner : Scanner) : Parser source Unit where
  run s := some ((), s.again scanner)
  advances {s a t} h := by
    cases h
    exact ⟨Nat.le_refl _, Nat.le_refl _⟩

/-- Goes past the current token, whatever its role is. -/
def bumpName : Parser source Unit := skip true .token

/-- Goes past the current token; a keyword may not be written with an escape. -/
def bump : Parser source Unit := do
  match ← token with
  | .word text true => faultIf (isKeyword text)
  | _ => pure ()
  bumpName

/-- Goes past an operator or bracket if it stands here. -/
def eatMark (text : String) : Parser source Bool := do
  if ← atMark text then
    bump
    return true
  return false

/-- Goes past a word if it stands here. -/
def eatWord (text : String) : Parser source Bool := do
  if ← atWord text then
    bump
    return true
  return false

/-- Goes past an operator or bracket that must stand here. -/
def expectMark (text : String) : Parser source Unit := do
  unless ← eatMark text do fail

/-- Goes past a word that must stand here. -/
def expectWord (text : String) : Parser source Unit := do
  unless ← eatWord text do fail

/-- A statement can end here: at a semicolon, a closing brace, the end or a new line. -/
def canEndStatement : Parser source Bool := inspect fun s =>
  s.token.isMark ";" || s.token.isMark "\x7d" || s.token == .finish || s.hasBreak

/-- Ends a statement. -/
def endStatement : Parser source Unit := do
  unless ← canEndStatement do fail
  discard <| eatMark ";"

/-! ## Loops -/

/-- What a round of a loop comes to. -/
inductive Round (σ α : Type) where
  | again (state : σ)
  | done (value : α)

/-- Up to `n` rounds. -/
def rounds (round : σ → Parser source (Round σ α)) : Nat → σ → Parser source α
  | 0, _ => fail
  | n + 1, state => do
    match ← round state with
    | .again state => rounds round n state
    | .done value => pure value

/-- Rounds until one is the last; the source bounds their number. -/
def loop (state : σ) (round : σ → Parser source (Round σ α)) : Parser source α := do
  rounds round (← context).budget state

/-- Items between commas up to a closing bracket, which is left standing. A comma before the
bracket is read if `trailing` is set and left standing otherwise. -/
def separated (close : String) (trailing : Bool) (item : Parser source α) :
    Parser source (List α) :=
  loop ([] : List α) fun acc => do
    if (← atMark close) || (← atFinish) then return .done acc.reverse
    unless acc.isEmpty do
      if !trailing && (← atMark ",") && (← peek).isMark close then return .done acc.reverse
      expectMark ","
    if !acc.isEmpty && (← atMark close) then return .done acc.reverse
    return .again ((← item) :: acc)

end Parser
end ChunkBridge.Script
