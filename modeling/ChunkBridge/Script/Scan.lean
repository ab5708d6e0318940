import ChunkBridge.Script.Token
import ChunkBridge.Text.Identifier

/-!
# Scanning

From characters to tokens. Each scanner looks at the text ahead and says what stands there and
how many characters it takes; none of them moves. Whether a slash begins a regular expression,
or a brace goes on with a template, only the grammar knows, so those have scanners of their own.
-/

namespace ChunkBridge.Script.Scan
open ChunkBridge.Text

/-- A character that ends a line. -/
def isLineBreak (c : Char) : Bool := c == '\n' || c == '\r' || c == '\u2028' || c == '\u2029'

/-- A character that separates tokens and ends no line. -/
def isBlank (c : Char) : Bool :=
  c == ' ' || c == '\t' || c == '\x0b' || c == '\x0c' || c == '\u0085' || c == '\u00a0' ||
  c == '\u1680' || ('\u2000' ≤ c && c ≤ '\u200b') || c == '\u202f' || c == '\u205f' ||
  c == '\u3000' || c == '\ufeff'

/-- Where a run of blanks and comments is. -/
inductive Gap where
  | blank
  | lineComment
  /-- Between the two characters that open a block comment. -/
  | opening
  | blockComment
  /-- Between the two characters that close a block comment. -/
  | closing
deriving DecidableEq

/-- What a character leads to, with `cs` behind it, if it belongs to the run. Markup comments
`<!--` and, at the start of a line, `-->` count when `markup` is set; `br` says whether a line has
ended in the run. -/
def Gap.step (markup br : Bool) (c : Char) (cs : List Char) : Gap → Option Gap
  | .blank =>
    if isLineBreak c || isBlank c then some .blank
    else if c == '/' && cs.head? == some '/' then some .lineComment
    else if c == '/' && cs.head? == some '*' then some .opening
    else if markup && c == '<' && cs.take 3 == ['!', '-', '-'] then some .lineComment
    else if markup && br && c == '-' && cs.take 2 == ['-', '>'] then some .lineComment
    else none
  | .lineComment => some (if isLineBreak c then .blank else .lineComment)
  | .opening => some .blockComment
  | .blockComment => some (if c == '*' && cs.head? == some '/' then .closing else .blockComment)
  | .closing => some .blank

/-- The blanks and comments before a token. -/
structure Trivia where
  width : Nat
  /-- A line ends among them. -/
  hasBreak : Bool
  /-- Every comment is closed. -/
  isClosed : Bool := true

/-- Skips blanks and comments. -/
def trivia (markup : Bool) : Gap → Bool → Nat → List Char → Trivia
  | gap, br, n, [] => ⟨n, br, gap == .blank || gap == .lineComment⟩
  | gap, br, n, c :: cs =>
    match gap.step markup br c cs with
    | none => ⟨n, br, true⟩
    | some next => trivia markup next (br || isLineBreak c) (n + 1) cs

/-- The characters of a leading `#!` line, without the line break. -/
def hashbangLine : List Char → Option (List Char)
  | '#' :: '!' :: cs => some ('#' :: '!' :: cs.takeWhile fun c => !isLineBreak c)
  | _ => none

/-! ## Escapes -/

/-- The value of a hexadecimal digit. -/
def hexValue? (c : Char) : Option Nat :=
  if '0' ≤ c && c ≤ '9' then some (c.toNat - 48)
  else if 'a' ≤ c && c ≤ 'f' then some (c.toNat - 87)
  else if 'A' ≤ c && c ≤ 'F' then some (c.toNat - 55)
  else none

/-- The number in exactly `width` hexadecimal digits. -/
def hexNumber? : Nat → Nat → List Char → Option Nat
  | 0, acc, _ => some acc
  | _ + 1, _, [] => none
  | width + 1, acc, c :: cs =>
    match hexValue? c with
    | some d => hexNumber? width (16 * acc + d) cs
    | none => none

/-- The number before a closing brace, with the width up to and including the brace. -/
def bracedNumber? (started : Bool) (acc n : Nat) : List Char → Option (Nat × Nat)
  | [] => none
  | c :: cs =>
    match hexValue? c with
    | some d =>
      if 16 * acc + d > 0x10ffff then none else bracedNumber? true (16 * acc + d) (n + 1) cs
    | none => if started && c == '\x7d' then some (acc, n + 1) else none

/-- What an escape by number stands for. -/
inductive Escaped where
  | point (n : Nat)
  /-- A leading surrogate and the unit that follows it without completing the pair. -/
  | unpaired (high low : Nat)
  | astral (n : Nat)

/-- Reads the part of an escape after `\u`, with its width. -/
def unicodeEscape? (cs : List Char) : Option (Escaped × Nat) :=
  if cs.head? == some '\x7b' then
    (bracedNumber? false 0 1 cs.tail).map fun (n, width) => (.point n, width)
  else
    match hexNumber? 4 0 cs with
    | none => none
    | some high =>
      let rest := cs.drop 4
      if 0xd800 ≤ high && high ≤ 0xdbff && rest.take 2 == ['\\', 'u'] then
        match hexNumber? 4 0 (rest.drop 2) with
        | none => none
        | some low =>
          if 0xdc00 ≤ low && low ≤ 0xdfff then
            some (.astral ((high - 0xd800) * 0x400 + (low - 0xdc00) + 0x10000), 10)
          else some (.unpaired high low, 10)
      else some (.point high, 4)

/-- A code unit that is no character, written out. -/
def loneUnit (n : Nat) : List Char := '\\' :: 'u' :: hexDigits (hexWidth n) n
where
  /-- The lowest `width` hexadecimal digits of a number. -/
  hexDigits : Nat → Nat → List Char
    | 0, _ => []
    | width + 1, n =>
      hexDigits width (n / 16) ++
        [if n % 16 < 10 then Char.ofNat (48 + n % 16) else Char.ofNat (87 + n % 16)]
  /-- The number of digits without leading zeros. -/
  hexWidth (n : Nat) : Nat :=
    if n < 0x10 then 1 else if n < 0x100 then 2 else if n < 0x1000 then 3 else 4

/-- The text that an escape by number adds to a string. -/
def Escaped.text : Escaped → List Char
  | .point n | .astral n => if n.isValidChar then [Char.ofNat n] else loneUnit n
  | .unpaired high low => loneUnit high ++ loneUnit low

/-- The character that an escape by number adds to a name. -/
def Escaped.nameChar? : Escaped → Option Char
  | .point n => if n.isValidChar then some (Char.ofNat n) else none
  | _ => none

/-- A character that a backslash may introduce on its own. -/
def simpleEscape? : Char → Option Char
  | 'b' => some '\x08'
  | 'f' => some '\x0c'
  | 'n' => some '\n'
  | 'r' => some '\r'
  | 't' => some '\t'
  | 'v' => some '\x0b'
  | _ => none

/-- An octal digit. -/
def isOctal (c : Char) : Bool := '0' ≤ c && c ≤ '7'

/-- The octal number that begins with `first`, with the number of further digits: numbers up to
three digits below 256. -/
def octalEscape (first : Char) (cs : List Char) : Nat × Nat :=
  let value (c : Char) := c.toNat - 48
  match cs with
  | second :: more =>
    if isOctal second then
      match more with
      | third :: _ =>
        if first ≤ '3' && isOctal third then (64 * value first + 8 * value second + value third, 2)
        else (8 * value first + value second, 1)
      | [] => (8 * value first + value second, 1)
    else (value first, 0)
  | [] => (value first, 0)

/-- Reads the part of an escape after the backslash: the text it adds and its width, or `none`
when it is malformed. In a template octal numbers are malformed. -/
def escape? (inTemplate : Bool) : List Char → Option (List Char × Nat)
  | [] => none
  | c :: cs =>
    if c == '\r' then some ([], if cs.head? == some '\n' then 2 else 1)
    else if isLineBreak c then some ([], 1)
    else if c == 'x' then
      match hexNumber? 2 0 cs with
      | some n => some ([Char.ofNat n], 3)
      | none => none
    else if c == 'u' then
      match unicodeEscape? cs with
      | some (value, width) => some (value.text, width + 1)
      | none => none
    else if c == '0' && !(cs.head?.any Char.isDigit) then some (['\x00'], 1)
    else if inTemplate && c.isDigit then none
    else if isOctal c then
      let (value, more) := octalEscape c cs
      some ([Char.ofNat value], more + 1)
    else some ([(simpleEscape? c).getD c], 1)

/-! ## Names, strings and templates -/

/-- A token with its width; `isValid` is false when the text is malformed. -/
structure Lexeme where
  token : Token
  width : Nat
  isValid : Bool := true
deriving Inhabited

/-- The decoded characters of a name. -/
structure NameScan where
  text : List Char
  width : Nat
  escaped : Bool
  isValid : Bool

/-- Reads a name. `skip` characters belong to an escape already decoded. -/
def name (skip : Nat) (acc : List Char) (n : Nat) (escaped : Bool) : List Char → NameScan
  | [] => ⟨acc.reverse, n, escaped, true⟩
  | c :: cs =>
    if skip > 0 then name (skip - 1) acc (n + 1) escaped cs
    else if c == '\\' then
      match cs with
      | 'u' :: rest =>
        match unicodeEscape? rest with
        | some (value, width) =>
          match value.nameChar? with
          | some d =>
            if (if acc.isEmpty then isIdentifierStart d else isIdentifierPart d) then
              name (width + 1) (d :: acc) (n + 1) true cs
            else ⟨acc.reverse, n + 1, true, false⟩
          | none => ⟨acc.reverse, n + 1, true, false⟩
        | none => ⟨acc.reverse, n + 1, true, false⟩
      | _ => ⟨acc.reverse, n + 1, true, false⟩
    else if (if acc.isEmpty then isIdentifierStart c else isIdentifierPart c) then
      name 0 (c :: acc) (n + 1) escaped cs
    else ⟨acc.reverse, n, escaped, true⟩

/-- Reads a string after its opening quote. -/
def string (quote : Char) (skip : Nat) (acc : List Char) (n : Nat) (ok : Bool) :
    List Char → Lexeme
  | [] => ⟨.bad, n, false⟩
  | c :: cs =>
    if skip > 0 then string quote (skip - 1) acc (n + 1) ok cs
    else if c == quote then ⟨.string (String.ofList acc.reverse), n + 1, ok⟩
    else if c == '\\' then
      match escape? false cs with
      | some (text, width) => string quote width (text.reverse ++ acc) (n + 1) ok cs
      | none => string quote (min 1 cs.length) acc (n + 1) false cs
    else if c == '\n' || c == '\r' then ⟨.bad, n, false⟩
    else string quote 0 (c :: acc) (n + 1) ok cs

/-- Reads a piece of a template, after the back quote or closing brace before it. -/
def template (isFirst : Bool) (skip n : Nat) (valid : Bool) : List Char → Lexeme
  | [] => ⟨.bad, n, false⟩
  | c :: cs =>
    if skip > 0 then template isFirst (skip - 1) (n + 1) valid cs
    else if c == '\x60' then ⟨.template isFirst true valid, n + 1, true⟩
    else if c == '$' && cs.head? == some '\x7b' then ⟨.template isFirst false valid, n + 2, true⟩
    else if c == '\\' then
      match escape? true cs with
      | some (_, width) => template isFirst width (n + 1) valid cs
      | none => template isFirst (min 1 cs.length) (n + 1) false cs
    else template isFirst 0 (n + 1) valid cs

/-! ## Numbers -/

/-- The width of a run of digits with single separators between them. -/
def digits (isDigit : Char → Bool) (n : Nat) : List Char → Nat × Bool
  | [] => (n, true)
  | '_' :: c :: cs => if isDigit c then digits isDigit (n + 2) cs else (n + 1, false)
  | c :: cs =>
    if isDigit c then digits isDigit (n + 1) cs
    else if c == '_' then (n + 1, false)
    else (n, true)

/-- An exponent after its letter. -/
def exponent (cs : List Char) : Nat × Bool :=
  let sign := if cs.head? == some '+' || cs.head? == some '-' then 1 else 0
  let rest := cs.drop sign
  if rest.head?.any Char.isDigit then
    let (width, ok) := digits Char.isDigit 1 (rest.drop 1)
    (sign + width, ok)
  else (sign, false)

/-- An exponent if one follows. -/
def exponent? (cs : List Char) : Nat × Bool :=
  if cs.head? == some 'e' || cs.head? == some 'E' then
    let (width, ok) := exponent (cs.drop 1)
    (width + 1, ok)
  else (0, true)

/-- What may follow a decimal point: digits and an exponent. -/
def fraction (cs : List Char) : Nat × Bool :=
  let (width, ok) :=
    if cs.head?.any Char.isDigit then digits Char.isDigit 1 (cs.drop 1) else (0, true)
  let (more, ok') := exponent? (cs.drop width)
  (width + more, ok && ok')

/-- A number may not run into a name or a digit. -/
def finishNumber (cs : List Char) (width : Nat) (isBig ok : Bool) : Lexeme :=
  let clear := !((cs.drop width).head?.any fun c => c.isDigit || isIdentifierStart c)
  ⟨if isBig then .bigint else .number, width, ok && clear⟩

/-- A number in another base, after its two-character mark. -/
def basedNumber (cs : List Char) (isDigit : Char → Bool) : Lexeme :=
  if (cs.drop 2).head?.any isDigit then
    let (width, ok) := digits isDigit 3 (cs.drop 3)
    let big := (cs.drop width).head? == some 'n'
    finishNumber cs (if big then width + 1 else width) big ok
  else ⟨.bad, 2, false⟩

/-- A number that begins with a digit. -/
def number (cs : List Char) : Lexeme :=
  match cs with
  | '0' :: c :: _ =>
    if c == 'b' || c == 'B' then basedNumber cs fun d => d == '0' || d == '1'
    else if c == 'o' || c == 'O' then basedNumber cs isOctal
    else if c == 'x' || c == 'X' then basedNumber cs fun d => (hexValue? d).isSome
    else if c.isDigit then
      let run := cs.takeWhile Char.isDigit
      let decimal := run.any fun d => !isOctal d
      let next := (cs.drop run.length).head?
      if decimal && next == some '.' then
        let (width, ok) := fraction (cs.drop (run.length + 1))
        finishNumber cs (run.length + 1 + width) false ok
      else if decimal && next == some 'e' then
        let (width, ok) := exponent (cs.drop (run.length + 1))
        ⟨.number, run.length + 1 + width, ok⟩
      else finishNumber cs run.length false true
    else if c == 'e' || c == 'E' then
      let (width, ok) := exponent (cs.drop 2)
      ⟨.number, 2 + width, ok⟩
    else if c == '.' then
      let (width, ok) := fraction (cs.drop 2)
      finishNumber cs (2 + width) false ok
    else if c == 'n' then finishNumber cs 2 true true
    else finishNumber cs 1 false true
  | _ =>
    let (width, ok) := digits Char.isDigit 1 (cs.drop 1)
    let rest := cs.drop width
    if rest.head? == some '.' then
      let (more, ok') := fraction (rest.drop 1)
      finishNumber cs (width + 1 + more) false (ok && ok')
    else if rest.head? == some 'n' then finishNumber cs (width + 1) true ok
    else
      let (more, ok') := exponent? rest
      finishNumber cs (width + more) false (ok && ok')

/-! ## Regular expressions -/

/-- The body of a regular expression after its slash; `none` when it does not end. -/
def regexBody (escaped inClass : Bool) (n : Nat) : List Char → Option Nat
  | [] => none
  | c :: cs =>
    if isLineBreak c then none
    else if escaped then regexBody false inClass (n + 1) cs
    else if c == '/' && !inClass then some (n + 1)
    else if c == '[' then regexBody false true (n + 1) cs
    else if c == '\\' then regexBody true inClass (n + 1) cs
    else if c == ']' then regexBody false false (n + 1) cs
    else regexBody false inClass (n + 1) cs

/-- A regular expression at its opening slash: known flags, each at most once. -/
def regex (cs : List Char) : Lexeme :=
  match regexBody false false 1 (cs.drop 1) with
  | none => ⟨.bad, cs.length, false⟩
  | some width =>
    let flags := (cs.drop width).takeWhile fun c => c.isAlphanum || c == '$' || c == '_'
    let known := ['g', 'i', 'm', 's', 'u', 'y', 'd', 'v']
    ⟨.regex, width + flags.length,
      flags.all (known.contains ·) && flags.length == (known.filter (flags.contains ·)).length⟩

/-! ## Operators -/

/-- The operators of more than one character, longest first. A greater-than sign always stands
alone: only the grammar knows whether it closes a list of types. -/
def longMarks : List String := [
  "**=", "...", "===", "!==", "<<=", "&&=", "||=", "??=",
  "**", "*=", "==", "=>", "!=", "<<", "<=", "&&", "&=", "||", "|=", "??", "++", "+=", "--",
  "-=", "^=", "%=", "/="]

/-- The characters that are operators or brackets alone. -/
def shortMarks : List Char :=
  ['(', ')', '[', ']', '\x7b', '\x7d', ',', ';', ':', '?', '.', '<', '>', '=', '+', '-', '*',
   '/', '%', '&', '|', '^', '!', '~', '@']

/-- The first operator of the list that stands here. -/
def longMark? (cs : List Char) : Option String :=
  longMarks.find? fun m => m.toList.isPrefixOf cs

/-- An operator that begins with a greater-than sign, where no list of types can end. -/
def greaterMark (cs : List Char) : Lexeme :=
  match [">>>=", ">>>", ">>=", ">>", ">="].find? fun m => m.toList.isPrefixOf cs with
  | some m => ⟨.mark m, m.length, true⟩
  | none => ⟨.mark ">", 1, true⟩

/-- The token at the start of the text. -/
def token : List Char → Lexeme
  | [] => ⟨.finish, 0, true⟩
  | c :: cs =>
    if c == '\'' || c == '"' then string c 0 [] 1 true cs
    else if c == '\x60' then template true 0 1 true cs
    else if c.isDigit then number (c :: cs)
    else if c == '.' && cs.head?.any Char.isDigit then
      let (width, ok) := fraction cs
      finishNumber (c :: cs) (1 + width) false ok
    else if c == '#' then
      let scan := name 0 [] 1 false cs
      ⟨.privateName (String.ofList scan.text), scan.width, scan.isValid && !scan.text.isEmpty⟩
    else if c == '\\' || isIdentifierStart c then
      let scan := name 0 [] 0 false (c :: cs)
      ⟨.word (String.ofList scan.text) scan.escaped, scan.width, scan.isValid⟩
    else if c == '?' && cs.head? == some '.' && !(cs.tail.head?.any Char.isDigit) then
      ⟨.mark "?.", 2, true⟩
    else
      match longMark? (c :: cs) with
      | some m => ⟨.mark m, m.length, true⟩
      | none =>
        if shortMarks.contains c then ⟨.mark (String.singleton c), 1, true⟩ else ⟨.bad, 1, false⟩

/-! ## Elements -/

/-- What stands between two tags: a tag, an expression or text. -/
def elementChild (cs : List Char) : Lexeme :=
  match cs with
  | [] => ⟨.finish, 0, true⟩
  | '<' :: _ => ⟨.mark "<", 1, true⟩
  | '\x7b' :: _ => ⟨.mark "\x7b", 1, true⟩
  | _ => ⟨.elementText, (cs.takeWhile fun c => c != '<' && c != '\x7b').length, true⟩

/-- The name of a tag or attribute, which may hold dashes. -/
def elementName (cs : List Char) : Lexeme :=
  let text := cs.takeWhile fun c => c == '-' || isIdentifierPart c
  ⟨.word (String.ofList text) false, text.length, !text.isEmpty⟩

/-- A quoted attribute value: it has no escapes and may hold line breaks. -/
def attributeText (quote : Char) (cs : List Char) : Lexeme :=
  let body := cs.tail.takeWhile (· != quote)
  if body.length + 1 < cs.length then ⟨.string (String.ofList body), body.length + 2, true⟩
  else ⟨.bad, cs.length, false⟩

/-- What stands behind the equals sign of an attribute. -/
def attributeValue (cs : List Char) : Lexeme :=
  match cs.head? with
  | some '"' => attributeText '"' cs
  | some '\'' => attributeText '\'' cs
  | _ => token cs

end ChunkBridge.Script.Scan
