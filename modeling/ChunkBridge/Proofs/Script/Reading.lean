import ChunkBridge.Script.Parser

/-!
# What a parser leaves

Facts about the state behind a parser, from facts about the state in front of it (`Leaves`). Most of
what is said of a state is about how far reading has come, and no parser takes that back (`Onward`);
some parsers read nothing at all (`Idle`), and others are known to go past a token (`Reads`).
-/

namespace ChunkBridge.Script.Parser
open ChunkBridge.Text
variable {source : List Char} {α β σ : Type}

/-- A reader that succeeds has gone through its parts. -/
theorem run_bind {p : Parser source α} {f : α → Parser source β} {s u : State source} {b : β}
    (h : (p >>= f).run s = some (b, u)) :
    ∃ a t, p.run s = some (a, t) ∧ (f a).run t = some (b, u) := by
  change (Parser.bind p f).run s = some (b, u) at h
  unfold Parser.bind at h
  cases first : p.run s with
  | none => simp [first] at h
  | some r =>
    simp only [first] at h
    exact ⟨r.1, r.2, rfl, h⟩

theorem run_pure {a b : α} {s t : State source}
    (h : (pure a : Parser source α).run s = some (b, t)) : a = b ∧ s = t := by
  cases h
  exact ⟨rfl, rfl⟩

theorem run_inspect {f : State source → α} {a : α} {s t : State source}
    (h : (inspect f).run s = some (a, t)) : f s = a ∧ s = t := by
  cases h
  exact ⟨rfl, rfl⟩

/-- Where `P` holds, a parser that succeeds leaves a value and a state of which `Q` holds. -/
def Leaves (P : State source → Prop) (p : Parser source α) (Q : α → State source → Prop) : Prop :=
  ∀ ⦃s a t⦄, P s → p.run s = some (a, t) → Q a t

/-- The parser reads nothing and remembers nothing. -/
def Idle (p : Parser source α) : Prop := ∀ ⦃s a t⦄, p.run s = some (a, t) → s = t

/-- The parser goes past the current token. -/
def Reads (p : Parser source α) : Prop :=
  ∀ ⦃s a t⦄, p.run s = some (a, t) → s.start.offset ≤ t.last.offset

/-- The parser goes past a character. -/
def ReadsText (p : Parser source α) : Prop :=
  ∀ ⦃s a t⦄, p.run s = some (a, t) → s.start.offset < t.last.offset

/-- Once it holds, it holds wherever reading comes to. -/
def Onward (P : State source → Prop) : Prop :=
  ∀ ⦃s t⦄, s.last.offset ≤ t.last.offset → s.start.offset ≤ t.start.offset → P s → P t

/-- What holds behind a round of a loop: `I` in front of the next one, and in the end `Q`. -/
def Round.Holds (I : σ → State source → Prop) (Q : α → State source → Prop) :
    Round σ α → State source → Prop
  | .again x, s => I x s
  | .done a, s => Q a s

/-- Everything up to `lo` has been read. -/
def Behind (lo : Nat) (s : State source) : Prop := lo ≤ s.last.offset

theorem onward_behind (lo : Nat) : Onward (Behind lo : State source → Prop) :=
  fun _ _ last _ read => Nat.le_trans read last

/-- The current token stands at `lo` or later. -/
def Reached (lo : Nat) (s : State source) : Prop := lo ≤ s.start.offset

theorem onward_reached (lo : Nat) : Onward (Reached lo : State source → Prop) :=
  fun _ _ _ moved reached => Nat.le_trans reached moved

theorem onward_true : Onward fun _ : State source => True := fun _ _ _ _ holds => holds

/-! ## Sequences -/

namespace Leaves
variable {P : State source → Prop} {Q : α → State source → Prop} {R : β → State source → Prop}

theorem bind {p : Parser source β} {f : β → Parser source α} (first : Leaves P p R)
    (rest : ∀ b, Leaves (R b) (f b) Q) : Leaves P (p >>= f) Q := by
  intro s a u holds run
  obtain ⟨b, t, before, last⟩ := run_bind run
  exact rest b (first holds before) last

/-- What can be told from the state in front is known from then on. -/
theorem given {F : Prop} {p : Parser source α} (told : ∀ s, P s → F) (rest : F → Leaves P p Q) :
    Leaves P p Q := fun s _ _ holds run => rest (told s holds) holds run

/-- What holds onward holds behind every parser. -/
theorem keep (onward : Onward P) (p : Parser source α) : Leaves P p fun _ => P :=
  fun _ _ _ holds run => onward (p.advances run).1 (p.advances run).2 holds

/-- What holds onward holds behind the first part, whatever that is. -/
theorem pass (onward : Onward P) {p : Parser source β} {f : β → Parser source α}
    (rest : ∀ b, Leaves P (f b) Q) : Leaves P (p >>= f) Q := .bind (.keep onward p) rest

/-- Behind a first part that reads nothing everything still holds. -/
theorem look {p : Parser source β} {f : β → Parser source α} (idle : Idle p)
    (rest : ∀ b, Leaves P (f b) Q) : Leaves P (p >>= f) Q := by
  intro s a u holds run
  obtain ⟨b, t, before, last⟩ := run_bind run
  exact rest b (idle before ▸ holds) last

theorem inspect {f : State source → α} (h : ∀ s, P s → Q (f s) s) :
    Leaves P (Parser.inspect f) Q := by
  intro s a t holds run
  cases run
  exact h s holds

theorem pure {a : α} (h : ∀ s, P s → Q a s) : Leaves P (Pure.pure a) Q := by
  intro s b t holds run
  cases run
  exact h s holds

theorem fail : Leaves P Parser.fail Q := fun _ _ _ _ run => nomatch run

theorem fail_bind {f : β → Parser source α} : Leaves P (Parser.fail >>= f) Q := by
  intro s a u holds run
  obtain ⟨b, t, before, last⟩ := run_bind run
  cases before

theorem ite {c : Prop} [Decidable c] {p q : Parser source α} (yes : c → Leaves P p Q)
    (no : ¬c → Leaves P q Q) : Leaves P (if c then p else q) Q := by
  split
  next holds => exact yes holds
  next fails => exact no fails

theorem weaken {I : State source → Prop} {p : Parser source α} (h : Leaves I p Q)
    (weaker : ∀ s, P s → I s) : Leaves P p Q :=
  fun s _ _ holds run => h (weaker s holds) run

/-- What holds wherever the parser starts. -/
theorem anywhere {p : Parser source α} (h : Leaves (fun _ => True) p Q) : Leaves P p Q :=
  h.weaken fun _ _ => trivial

theorem and {Q' : α → State source → Prop} {p : Parser source α} (first : Leaves P p Q)
    (second : Leaves P p Q') : Leaves P p fun a s => Q a s ∧ Q' a s :=
  fun _ _ _ holds run => ⟨first holds run, second holds run⟩

/-- What the rounds of a loop keep holds behind it. -/
theorem loop {I : σ → State source → Prop} {round : σ → Parser source (Round σ α)}
    (each : ∀ x, Leaves (I x) (round x) (Round.Holds I Q)) (x : σ) :
    Leaves (I x) (Parser.loop x round) Q := by
  have turns (n : Nat) (x : σ) : Leaves (I x) (rounds round n x) Q := by
    induction n generalizing x with
    | zero => exact .fail
    | succ n ih =>
      refine .bind (each x) fun r => ?_
      cases r with
      | again y => exact ih y
      | done a => exact .pure fun _ holds => holds
  exact .look (fun _ _ _ run => (run_inspect run).2) fun context => turns context.budget x

/-- Where a trial fails everything is as it was. -/
theorem attempt {p : Parser source β} (h : Leaves P p R) :
    Leaves P (Parser.attempt p) fun result t =>
      match result with
      | some b => R b t
      | none => P t := by
  intro s result t holds run
  unfold Parser.attempt at run
  dsimp only at run
  split at run
  next =>
    cases run
    exact holds
  next b t read =>
    cases run
    exact h holds read

/-- What is asked of the state is known from then on. -/
theorem ask {f : State source → β} {k : β → Parser source α}
    (rest : ∀ b, Leaves (fun s => P s ∧ f s = b) (k b) Q) : Leaves P (Parser.inspect f >>= k) Q :=
  .bind (.inspect fun _ holds => ⟨holds, rfl⟩) rest

/-- A place that is asked for. -/
theorem here {start : Nat} {f : Nat → Parser source α} (at_start : ∀ s, P s → s.start.offset = start)
    (rest : Leaves P (f start) Q) : Leaves P (startOffset >>= f) Q := by
  intro s a u holds run
  obtain ⟨place, t, look, last⟩ := run_bind run
  obtain ⟨rfl, rfl⟩ := run_inspect look
  exact rest holds (at_start s holds ▸ last)

/-- Behind a part that goes past a token everything in front of it has been read. -/
theorem read {lo : Nat} {p : Parser source β} {f : β → Parser source α} (reads : Reads p)
    (reached : ∀ s, P s → Reached lo s) (rest : ∀ b, Leaves (Behind lo) (f b) Q) :
    Leaves P (p >>= f) Q := by
  intro s a u holds run
  obtain ⟨b, t, before, last⟩ := run_bind run
  exact rest b (Nat.le_trans (reached s holds) (reads before)) last

/-- Behind a part that goes past a character something behind that place has been read. -/
theorem readText {lo : Nat} {p : Parser source β} {f : β → Parser source α} (reads : ReadsText p)
    (reached : ∀ s, P s → Reached lo s) (rest : ∀ b, Leaves (Behind (lo + 1)) (f b) Q) :
    Leaves P (p >>= f) Q := by
  intro s a u holds run
  obtain ⟨b, t, before, last⟩ := run_bind run
  exact rest b (Nat.lt_of_le_of_lt (reached s holds) (reads before)) last

/-- That decorators wait does not matter. -/
theorem decorating {p : Parser source α} (h : Leaves P p Q)
    (waits : ∀ a s place behind, Q a s → Q a (s.waiting place behind)) :
    Leaves P (Parser.decorating p) Q := by
  intro s a t holds run
  unfold Parser.decorating at run
  dsimp only at run
  split at run
  next => cases run
  next read =>
    cases run
    exact waits _ _ _ _ (h holds read)

/-- The surroundings matter to neither side. -/
theorem within {c : Context → Context} {p : Parser source α} (h : Leaves P p Q)
    (enter : ∀ s c, P s → P { s with context := c })
    (leave : ∀ a s c, Q a s → Q a { s with context := c }) :
    Leaves P (Parser.within c p) Q := by
  intro s a t holds run
  obtain ⟨outer, _, look, run⟩ := run_bind run
  obtain ⟨rfl, rfl⟩ := run_inspect look
  obtain ⟨_, _, change, run⟩ := run_bind run
  cases change
  obtain ⟨b, u, inner, run⟩ := run_bind run
  obtain ⟨_, _, change, run⟩ := run_bind run
  cases change
  obtain ⟨rfl, rfl⟩ := run_pure run
  exact leave _ _ _ (h (enter _ _ holds) inner)

end Leaves

/-! ## Parsers that read nothing -/

namespace Idle

theorem inspect (f : State source → α) : Idle (Parser.inspect f) :=
  fun _ _ _ run => (run_inspect run).2

theorem pure (a : α) : Idle (Pure.pure a : Parser source α) :=
  fun _ _ _ run => (run_pure run).2

theorem bind {p : Parser source β} {f : β → Parser source α} (first : Idle p)
    (rest : ∀ b, Idle (f b)) : Idle (p >>= f) := by
  intro s a u run
  obtain ⟨b, t, before, last⟩ := run_bind run
  exact (first before).trans (rest b last)

theorem ite {c : Prop} [Decidable c] {p q : Parser source α} (yes : Idle p) (no : Idle q) :
    Idle (if c then p else q) := by
  split
  · exact yes
  · exact no

end Idle

theorem idle_peek : Idle (peek : Parser source Token) := .bind (.inspect _) fun _ => .pure _

/-! ## Parsers that go past a token -/

namespace Reads

theorem left {p : Parser source β} {f : β → Parser source α} (first : Reads p) :
    Reads (p >>= f) := by
  intro s a u run
  obtain ⟨b, t, before, last⟩ := run_bind run
  exact Nat.le_trans (first before) ((f b).advances last).1

theorem right {p : Parser source β} {f : β → Parser source α} (rest : ∀ b, Reads (f b)) :
    Reads (p >>= f) := by
  intro s a u run
  obtain ⟨b, t, before, last⟩ := run_bind run
  exact Nat.le_trans (p.advances before).2 (rest b last)

theorem fail : Reads (Parser.fail : Parser source α) := fun _ _ _ run => nomatch run

theorem ite {c : Prop} [Decidable c] {p q : Parser source α} (yes : Reads p) (no : Reads q) :
    Reads (if c then p else q) := by
  split
  · exact yes
  · exact no

theorem within {p : Parser source α} (h : Reads p) (c : Context → Context) :
    Reads (Parser.within c p) :=
  .right fun _ => .right fun _ => .left h

end Reads

namespace ReadsText

theorem left {p : Parser source β} {f : β → Parser source α} (first : ReadsText p) :
    ReadsText (p >>= f) := by
  intro s a u run
  obtain ⟨b, t, before, last⟩ := run_bind run
  exact Nat.lt_of_lt_of_le (first before) ((f b).advances last).1

theorem right {p : Parser source β} {f : β → Parser source α} (rest : ∀ b, ReadsText (f b)) :
    ReadsText (p >>= f) := by
  intro s a u run
  obtain ⟨b, t, before, last⟩ := run_bind run
  exact Nat.lt_of_le_of_lt (p.advances before).2 (rest b last)

end ReadsText

theorem reads_skip (skipsBlanks : Bool) (scanner : Scanner) :
    Reads (skip skipsBlanks scanner : Parser source Unit) := by
  intro s a t run
  cases run
  exact s.start_le_after

theorem reads_bumpName : Reads (bumpName : Parser source Unit) := reads_skip true .token

/-- Going past a token changes nothing else that is waited for. -/
theorem run_bump {s t : State source} {u : Unit} (run : bump.run s = some (u, t)) :
    t.last = s.after ∧ t.decorators = s.decorators := by
  unfold bump at run
  obtain ⟨token, _, look, run⟩ := run_bind run
  obtain ⟨-, rfl⟩ := run_inspect look
  dsimp only at run
  split at run
  next text =>
    obtain ⟨_, u, fault, run⟩ := run_bind run
    cases run
    unfold faultIf at fault
    split at fault <;> cases fault <;> exact ⟨rfl, rfl⟩
  next =>
    cases run
    exact ⟨rfl, rfl⟩

theorem reads_bump : Reads (bump : Parser source Unit) := fun s _ _ run =>
  (run_bump run).1 ▸ s.start_le_after

/-- What must stand here stood there. -/
theorem run_expectWord {text : String} {s t : State source} {u : Unit}
    (run : (expectWord text).run s = some (u, t)) :
    s.token.isWord text = true ∧ t.last = s.after ∧ t.decorators = s.decorators := by
  unfold expectWord eatWord at run
  obtain ⟨found, v, eat, run⟩ := run_bind run
  obtain ⟨stands, _, look, eat⟩ := run_bind eat
  obtain ⟨rfl, rfl⟩ := run_inspect look
  split at eat
  next word =>
    obtain ⟨_, _, past, eat⟩ := run_bind eat
    obtain ⟨rfl, rfl⟩ := run_pure eat
    obtain ⟨-, rfl⟩ := run_pure run
    exact ⟨word, run_bump past⟩
  next =>
    obtain ⟨rfl, -⟩ := run_pure eat
    cases run

theorem readsText_expectWord {text : String} (nonempty : text ≠ "") :
    ReadsText (expectWord text : Parser source Unit) := by
  intro s u t run
  obtain ⟨word, last, -⟩ := run_expectWord run
  rw [last]
  refine s.start_lt_after ?_
  unfold Token.isWord at word
  split at word
  next other _ same => simpa [same, Token.hasText, beq_iff_eq.mp word] using nonempty
  next => cases word

theorem reads_expectWord (text : String) : Reads (expectWord text : Parser source Unit) :=
  fun s _ _ run => (run_expectWord run).2.1 ▸ s.start_le_after

theorem reads_expectMark (text : String) : Reads (expectMark text : Parser source Unit) := by
  intro s u t run
  unfold expectMark eatMark at run
  obtain ⟨found, v, eat, run⟩ := run_bind run
  obtain ⟨stands, _, look, eat⟩ := run_bind eat
  obtain ⟨rfl, rfl⟩ := run_inspect look
  split at eat
  next =>
    obtain ⟨_, _, past, eat⟩ := run_bind eat
    obtain ⟨rfl, rfl⟩ := run_pure eat
    obtain ⟨-, rfl⟩ := run_pure run
    exact reads_bump past
  next =>
    obtain ⟨rfl, -⟩ := run_pure eat
    cases run

end ChunkBridge.Script.Parser
