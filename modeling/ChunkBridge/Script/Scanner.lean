import ChunkBridge.Script.Scan
import ChunkBridge.Text.Span

/-!
# Scanners

The ways to read a token that the grammar may choose between. A scanner is trusted to tell how many
characters a token takes, except for one thing that spans rest on: a word with a character in it
takes some.
-/

namespace ChunkBridge.Script
open ChunkBridge.Text

/-- A way to read what stands at the start of a text. -/
structure Scanner where
  scan : List Char → Scan.Lexeme
  width_pos : ∀ cs, (scan cs).token.hasText = true → 0 < byteLength (cs.take (scan cs).width)

namespace Scan

/-! ## Texts that are no words -/

theorem hasText_string (quote : Char) (skip : Nat) (acc : List Char) (n : Nat) (ok : Bool)
    (cs : List Char) : (string quote skip acc n ok cs).token.hasText = false := by
  fun_induction string quote skip acc n ok cs <;> first | rfl | assumption

theorem hasText_template (isFirst : Bool) (skip n : Nat) (valid : Bool) (cs : List Char) :
    (template isFirst skip n valid cs).token.hasText = false := by
  fun_induction template isFirst skip n valid cs <;> first | rfl | assumption

theorem hasText_finishNumber (cs : List Char) (width : Nat) (isBig ok : Bool) :
    (finishNumber cs width isBig ok).token.hasText = false := by
  cases isBig <;> rfl

theorem hasText_basedNumber (cs : List Char) (isDigit : Char → Bool) :
    (basedNumber cs isDigit).token.hasText = false := by
  unfold basedNumber
  split
  · exact hasText_finishNumber ..
  · rfl

theorem hasText_number (cs : List Char) : (number cs).token.hasText = false := by
  unfold number
  dsimp only
  repeat' split
  all_goals first | rfl | exact hasText_basedNumber ..

theorem hasText_regex (cs : List Char) : (regex cs).token.hasText = false := by
  unfold regex
  split <;> rfl

theorem hasText_greaterMark (cs : List Char) : (greaterMark cs).token.hasText = false := by
  unfold greaterMark
  split <;> rfl

theorem hasText_elementChild (cs : List Char) : (elementChild cs).token.hasText = false := by
  unfold elementChild
  split <;> rfl

theorem hasText_attributeText (quote : Char) (cs : List Char) :
    (attributeText quote cs).token.hasText = false := by
  unfold attributeText
  dsimp only
  split <;> rfl

/-! ## Words -/

/-- Characters take bytes. -/
theorem byteLength_take_pos {n : Nat} {cs : List Char} (nonempty : cs ≠ []) (pos : 0 < n) :
    0 < byteLength (cs.take n) := by
  refine byteLength_pos fun none => ?_
  rcases List.take_eq_nil_iff.mp none with zero | empty
  · exact Nat.ne_of_gt pos zero
  · exact nonempty empty

/-- A name takes a character at least for each one that is found. -/
theorem width_name (skip : Nat) (acc : List Char) (n : Nat) (escaped : Bool) (cs : List Char) :
    n ≤ (name skip acc n escaped cs).width ∧
      ((name skip acc n escaped cs).text ≠ acc.reverse →
        n < (name skip acc n escaped cs).width) := by
  fun_induction name skip acc n escaped cs <;> grind

/-- A token is no word, or it is the name at the start of the text. -/
theorem token_cases (cs : List Char) :
    (token cs).token.hasText = false ∨
      ∃ scan, scan = name 0 [] 0 false cs ∧
        token cs = ⟨.word (String.ofList scan.text) scan.escaped, scan.width, scan.isValid⟩ := by
  cases cs with
  | nil => exact .inl rfl
  | cons c cs =>
    unfold token
    dsimp only
    repeat' split
    · exact .inl (hasText_string ..)
    · exact .inl (hasText_template ..)
    · exact .inl (hasText_number _)
    · exact .inl (hasText_finishNumber ..)
    · exact .inl rfl
    · exact .inr ⟨_, rfl, rfl⟩
    all_goals exact .inl rfl

theorem width_pos_token (cs : List Char) (text : (token cs).token.hasText = true) :
    0 < byteLength (cs.take (token cs).width) := by
  rcases token_cases cs with wordless | ⟨scan, rfl, word⟩
  · rw [wordless] at text
    cases text
  · cases cs with
    | nil => cases text
    | cons c cs =>
      rw [word] at text ⊢
      refine byteLength_take_pos (List.cons_ne_nil c cs) ?_
      refine (width_name 0 [] 0 false (c :: cs)).2 fun none => ?_
      rw [none] at text
      cases text

theorem width_pos_elementName (cs : List Char) (text : (elementName cs).token.hasText = true) :
    0 < byteLength (cs.take (elementName cs).width) := by
  cases cs with
  | nil => cases text
  | cons c cs =>
    refine byteLength_take_pos (List.cons_ne_nil c cs) (Nat.pos_of_ne_zero fun none => ?_)
    have empty := List.length_eq_zero_iff.mp none
    simp only [elementName, Token.hasText, empty] at text
    cases text

end Scan

namespace Scanner

/-- A scanner that finds no word. -/
def ofWordless (scan : List Char → Scan.Lexeme)
    (wordless : ∀ cs, (scan cs).token.hasText = false) : Scanner where
  scan
  width_pos cs text := by
    rw [wordless cs] at text
    cases text

@[inherit_doc Scan.token] def token : Scanner := ⟨Scan.token, Scan.width_pos_token⟩

@[inherit_doc Scan.greaterMark] def greaterMark : Scanner :=
  ofWordless Scan.greaterMark Scan.hasText_greaterMark

/-- An operator that begins with a less-than sign, where a list of types begins. -/
def lessMark : Scanner := ofWordless (fun _ => ⟨.mark "<", 1, true⟩) fun _ => rfl

@[inherit_doc Scan.regex] def regex : Scanner := ofWordless Scan.regex Scan.hasText_regex

/-- The piece of a template behind the brace that closes an expression in it. -/
def templateRest : Scanner :=
  ofWordless (fun cs => Scan.template false 0 1 true cs.tail) fun cs =>
    Scan.hasText_template false 0 1 true cs.tail

@[inherit_doc Scan.elementChild] def elementChild : Scanner :=
  ofWordless Scan.elementChild Scan.hasText_elementChild

@[inherit_doc Scan.elementName] def elementName : Scanner :=
  ⟨Scan.elementName, Scan.width_pos_elementName⟩

@[inherit_doc Scan.attributeValue] def attributeValue : Scanner where
  scan := Scan.attributeValue
  width_pos cs text := by
    unfold Scan.attributeValue at text ⊢
    split at text
    · rw [Scan.hasText_attributeText] at text
      cases text
    · rw [Scan.hasText_attributeText] at text
      cases text
    · exact Scan.width_pos_token cs text

end Scanner
end ChunkBridge.Script
