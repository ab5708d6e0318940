/-!
# Globs

Patterns for paths, matched byte by byte. `*` stands for any bytes but a slash, `**` as a whole
path component for any components, `?` for one byte but a slash, `[a-z]` for one byte of a range
and `{a,b}` for one of several patterns; a leading `!` negates the answer and a backslash takes
the next byte as it is. No more than ten braces may be open at once.
-/

namespace ChunkBridge.Glob

/-- What comes of a match. -/
inductive Verdict where
  | yes
  | no
  /-- More braces are open than can be kept track of. -/
  | tooDeep
deriving Repr, DecidableEq, Inhabited

/-- A place to go back to when the bytes behind a star do not fit. -/
structure Retry where
  /-- The position of the star in the pattern. -/
  glob : Nat := 0
  /-- The position in the path that the star reaches up to next; zero when there is no star. -/
  path : Nat := 0
  depth : Nat := 0

/-- Where a match stands. -/
structure State where
  glob : Nat := 0
  path : Nat := 0
  /-- How many braces are open. -/
  depth : Nat := 0
  wildcard : Retry := {}
  globstar : Retry := {}

/-- A brace that is open, and the branch that is tried. -/
structure Branch where
  brace : Nat
  start : Nat

def slash : UInt8 := '/'.toUInt8
def star : UInt8 := '*'.toUInt8

/-- The byte that a character of one byte has. -/
def byte (c : Char) : UInt8 := c.toUInt8

section
variable (glob path : Array UInt8)

/-- The bytes of the pattern from `i` on begin with the given ones. -/
def hasAt (i : Nat) (bytes : List UInt8) : Bool :=
  (glob.extract i (i + bytes.length)).toList == bytes

/-- The byte at `i`, which a backslash takes as it is, and the position of its last byte. -/
def unescaped (i : Nat) : Option (UInt8 × Nat) :=
  match glob[i]? with
  | none => none
  | some c =>
    if c == byte '\\' then
      match glob[i + 1]? with
      | none => none
      | some d =>
        let d :=
          if d == byte 'b' then 8
          else if d == byte 'n' then 10
          else if d == byte 'r' then 13
          else if d == byte 't' then 9
          else d
        some (d, i + 1)
    else some (c, i)

/-- The start of the last of several `**` components in a row; `i` is where the first begins. -/
def lastGlobstar (fuel i : Nat) : Nat :=
  match fuel with
  | 0 => i
  | fuel + 1 =>
    if hasAt glob (i + 2) (byte '/' :: star :: star :: [slash]) then lastGlobstar fuel (i + 3)
    else if i + 5 == glob.size && hasAt glob (i + 2) [slash, star, star] then i + 3
    else i

/-- The position of the next slash, or the end. -/
def nextSlash (fuel i : Nat) : Nat :=
  match fuel with
  | 0 => i
  | fuel + 1 => if i < path.size && path[i]? != some slash then nextSlash fuel (i + 1) else i

/-- Lets a `**` take the rest of the path component, for when the path ahead does not fit. -/
def State.skipComponent (s : State) (more : Bool) : State :=
  if s.path == path.size then
    { s with wildcard := { s.wildcard with path := s.wildcard.path + 1 } }
  else
    let i := nextSlash path path.size s.path
    let i := if more || i != path.size then i + 1 else i
    let wildcard := { s.wildcard with path := i }
    { s with wildcard, globstar := wildcard }

/-- Goes past one or two stars; `start` is where the pattern of this match begins. -/
def State.atStar (s : State) (start : Nat) : State :=
  let isGlobstar := glob[s.glob + 1]? == some star
  let s := if isGlobstar then { s with glob := lastGlobstar glob glob.size s.glob } else s
  let s := { s with wildcard := ⟨s.glob, s.path + 1, s.depth⟩ }
  let behind := if isGlobstar then s.glob + 2 else s.glob + 1
  let s := { s with glob := behind }
  let more := behind != glob.size
  let isComponent := isGlobstar &&
    (behind - start < 3 || glob[behind - 3]? == some slash) &&
    (!more || glob[behind]? == some slash)
  if isComponent then
    ({ s with glob := if more then behind + 1 else behind }).skipComponent path more
  else if path[s.path]? == some slash then { s with wildcard := s.globstar }
  else s

/-- Whether a byte is in the ranges from `i` on, and the position of the closing bracket. -/
def inRanges (c : UInt8) (fuel i : Nat) (first found : Bool) : Option (Bool × Nat) :=
  match fuel with
  | 0 => none
  | fuel + 1 =>
    match glob[i]? with
    | none => none
    | some b =>
      if !first && b == byte ']' then some (found, i)
      else do
        let (low, i) ← unescaped glob i
        let i := i + 1
        if i + 1 < glob.size && glob[i]? == some (byte '-') && glob[i + 1]? != some (byte ']') then
          let (high, i) ← unescaped glob (i + 1)
          inRanges c fuel (i + 1) false (found || (low ≤ c && c ≤ high))
        else inRanges c fuel i false (found || low == c)

/-- A match of the ranges in brackets at `i`: whether the byte is among them, and the position
behind the bracket. -/
def bracket (c : UInt8) (i : Nat) : Option (Bool × Nat) := do
  let negated := glob[i]? == some (byte '^') || glob[i]? == some (byte '!')
  let i := if negated then i + 1 else i
  let (found, close) ← inRanges glob c (glob.size + 1) i true false
  return (found != negated, close + 1)

/-- The position behind the brace that ends the branch at `i`. -/
def skipBranch (fuel i depth : Nat) (inBrackets : Bool) : Nat :=
  match fuel with
  | 0 => i
  | fuel + 1 =>
    match glob[i]? with
    | none => i
    | some b =>
      if b == byte '\x7b' && !inBrackets then skipBranch fuel (i + 1) (depth + 1) false
      else if b == byte '\x7d' && !inBrackets then
        if depth == 0 then i + 1 else skipBranch fuel (i + 1) (depth - 1) false
      else if b == byte '[' && !inBrackets then skipBranch fuel (i + 1) depth true
      else if b == byte ']' then skipBranch fuel (i + 1) depth false
      else if b == byte '\\' then skipBranch fuel (i + 2) depth inBrackets
      else skipBranch fuel (i + 1) depth inBrackets

/-- The starts of the branches of the brace at `i`. -/
def branches (fuel i depth : Nat) (inBrackets : Bool) (start : Nat) : List Nat :=
  match fuel with
  | 0 => []
  | fuel + 1 =>
    match glob[i]? with
    | none => []
    | some b =>
      if b == byte '\x7b' && !inBrackets then
        branches fuel (i + 1) (depth + 1) false (if depth == 0 then i + 1 else start)
      else if b == byte '\x7d' && !inBrackets then
        if depth == 1 then [start] else branches fuel (i + 1) (depth - 1) false start
      else if b == byte ',' && depth == 1 then
        start :: branches fuel (i + 1) depth inBrackets (i + 1)
      else if b == byte '[' && !inBrackets then branches fuel (i + 1) depth true start
      else if b == byte ']' then branches fuel (i + 1) depth false start
      else if b == byte '\\' then branches fuel (i + 2) depth inBrackets start
      else branches fuel (i + 1) depth inBrackets start

/-- The first branch that matches decides. -/
def firstOf (tryBranch : Nat → Verdict) : List Nat → Verdict
  | [] => .no
  | b :: bs =>
    match tryBranch b with
    | .no => firstOf tryBranch bs
    | verdict => verdict

/-- What one step of a match comes to. -/
inductive Step where
  | go (s : State)
  /-- The byte does not fit. -/
  | miss (s : State)
  | done (verdict : Verdict)

/-- One step of a match: `tryBranch` tries a branch of the brace that begins here. -/
def step (opened : List Branch) (start : Nat) (tryBranch : State → Nat → Verdict) (s : State) :
    Step :=
  match glob[s.glob]? with
  | none => .miss s
  | some b =>
    if b == star then .go (s.atStar glob path start)
    else if b == byte '\x7b' then
      match opened.find? fun branch => branch.brace == s.glob with
      | some branch => .go { s with glob := branch.start, depth := s.depth + 1 }
      | none => .done (firstOf (tryBranch s) (branches glob glob.size s.glob 0 false 0))
    else if (b == byte ',' || b == byte '\x7d') && s.depth > 0 then
      .go { s with glob := skipBranch glob (glob.size + 1) s.glob 0 false, depth := s.depth - 1 }
    else
      match path[s.path]? with
      | none => .miss s
      | some c =>
        if b == byte '?' then
          if c == slash then .miss s else .go { s with glob := s.glob + 1, path := s.path + 1 }
        else if b == byte '[' then
          match bracket glob c (s.glob + 1) with
          | none => .done .no
          | some (fits, behind) =>
            if fits then .go { s with glob := behind, path := s.path + 1 }
            else .miss { s with glob := behind }
        else
          match unescaped glob s.glob with
          | none => .done .no
          | some (d, i) =>
            if c == d then
              let s := { s with glob := i + 1, path := s.path + 1 }
              .go (if d == slash then { s with wildcard := s.globstar } else s)
            else .miss { s with glob := i }

/-- Goes on with a match to its end. A byte that does not fit sends it back to the last star. -/
def scan (opened : List Branch) (start : Nat) (tryBranch : State → Nat → Verdict) :
    Nat → State → Verdict
  | 0, _ => .no
  | fuel + 1, s =>
    if glob.size ≤ s.glob && path.size ≤ s.path then .yes
    else
      match step glob path opened start tryBranch s with
      | .done verdict => verdict
      | .go s => scan opened start tryBranch fuel s
      | .miss s =>
        let w := s.wildcard
        if 0 < w.path && w.path ≤ path.size then
          scan opened start tryBranch fuel { s with glob := w.glob, path := w.path, depth := w.depth }
        else .no

/-- More steps than a match can take: a bound on how often a `**` moves on, as to its place in the
pattern and in the path, then the last star in the path, and last the place in the pattern. -/
def stepLimit : Nat :=
  (((glob.size + 1) * (2 * path.size + 4)) * (2 * path.size + 4)) * (glob.size + 2)

/-- A match from a state on, with `room` for further braces. -/
def matchFrom : Nat → List Branch → Nat → State → Verdict
  | 0, opened, start, s =>
    scan glob path opened start (fun _ _ => .tooDeep) (stepLimit glob path) s
  | room + 1, opened, start, s =>
    let tryBranch (s : State) (branch : Nat) : Verdict :=
      let opened := opened ++ [⟨s.glob, branch⟩]
      matchFrom room opened branch { s with glob := branch, depth := opened.length }
    scan glob path opened start tryBranch (stepLimit glob path) s

end

/-- The bytes of a text. -/
def bytes (text : String) : Array UInt8 := (text.toList.flatMap String.utf8EncodeChar).toArray

/-- Whether a pattern matches a path. -/
def fits (pattern path : String) : Verdict :=
  let cs := pattern.toList
  let negations := (cs.takeWhile (· == '!')).length
  let verdict := matchFrom (bytes pattern) (bytes path) 10 [] 0 { glob := negations }
  if negations % 2 == 1 then
    match verdict with
    | .yes => .no
    | .no => .yes
    | .tooDeep => .tooDeep
  else verdict

end ChunkBridge.Glob
