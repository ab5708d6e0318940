import ChunkBridge.Filter.Basic
import ChunkBridge.Proofs.Filter.Names

/-!
# Patterns below a directory

A relative pattern is put behind the name of a directory, and so becomes one pattern together with
that name. Where each part of the name matches itself nothing is changed by that: an id below the
directory is matched like its path from there (`Filter.verdict_below`). With brackets, braces or a
backslash in it the name is a pattern that need not match the directory.
-/

namespace ChunkBridge.Glob

/-! ## Bytes -/

theorem bytes_append (a b : String) : bytes (a ++ b) = bytes a ++ bytes b := by
  simp [bytes, String.toList_append]

/-- A character of one byte stands in a text only where it is written. -/
theorem eq_of_byte_mem {c k : Char} (ascii : k.toNat < 128)
    (member : byte k ∈ String.utf8EncodeChar c) : c = k := by
  have known : (byte k).toNat = k.toNat :=
    (UInt32.toNat_toUInt8 k.val).trans (Nat.mod_eq_of_lt (Nat.lt_trans ascii (by decide)))
  have high {n : Nat} (same : byte k = UInt8.ofNat n) : n % 256 < 128 := by
    rw [same, UInt8.toNat_ofNat'] at known
    omega
  unfold String.utf8EncodeChar at member
  dsimp only at member
  split at member
  next single =>
    have low : c.val.toNat % 2 ^ 8 = c.toNat := Nat.mod_eq_of_lt (by omega)
    rw [List.mem_singleton.mp member, UInt8.toNat_ofNat', low] at known
    exact Char.toNat_inj.mp known
  next =>
    split at member
    · simp only [List.mem_cons, List.not_mem_nil, or_false] at member
      rcases member with same | same <;>
      · have := high same
        omega
    · split at member <;> simp only [List.mem_cons, List.not_mem_nil, or_false] at member
      · rcases member with same | same | same <;>
        · have := high same
          omega
      · rcases member with same | same | same | same <;>
        · have := high same
          omega

theorem encode_of_ascii {k : Char} (ascii : k.toNat < 128) : String.utf8EncodeChar k = [byte k] :=
  String.utf8EncodeChar_eq_singleton (Char.utf8Size_eq_one_iff.mpr (Nat.le_of_lt_succ ascii))

/-- What a text begins with, as long as that is a character of one byte. -/
theorem exists_cons_of_head {k : Char} {cs : List Char} (ascii : k.toNat < 128)
    (first : (bytes (String.ofList cs))[0]? = some (byte k)) :
    ∃ ds, cs = k :: ds ∧ bytes (String.ofList cs) = #[byte k] ++ bytes (String.ofList ds) := by
  cases cs with
  | nil => simp [bytes] at first
  | cons c cs =>
    obtain ⟨b, bs, encoded⟩ := List.exists_cons_of_ne_nil (String.utf8EncodeChar_ne_nil (c := c))
    have same : b = byte k := by simpa [bytes, encoded] using first
    have written : c = k := by
      refine eq_of_byte_mem ascii ?_
      rw [encoded, same]
      exact List.mem_cons_self
    subst written
    exact ⟨cs, rfl, by simp [bytes, encode_of_ascii ascii]⟩

/-- The characters that make a name a pattern that may not match it, whatever else is in the name. -/
def specials : List Char := ['[', '\x7b', '\\']

theorem isPlain_of_mem {text : String} (plain : ∀ c ∈ text.toList, c ∉ specials) {b : UInt8}
    (member : b ∈ (bytes text).toList) : IsPlain b := by
  obtain ⟨c, written, encodes⟩ := List.mem_flatMap.mp member
  have none {k : Char} (special : k ∈ specials) (ascii : k.toNat < 128) : b ≠ byte k := fun same =>
    plain c written (eq_of_byte_mem ascii (same ▸ encodes) ▸ special)
  exact ⟨none (by decide) (by decide), none (by decide) (by decide), none (by decide) (by decide)⟩

/-- A text begins with a `**`. -/
def OpensGlobstar (cs : List Char) : Prop := cs = ['*', '*'] ∨ ['*', '*', '/'] <+: cs

theorem opensGlobstar_of_isComponent {cs : List Char}
    (component : IsComponent (bytes (String.ofList cs)) 0 0) : OpensGlobstar cs := by
  obtain ⟨⟨first, second⟩, -, back⟩ := component
  obtain ⟨ds, rfl, split⟩ := exists_cons_of_head (by decide) first
  rw [split] at second back
  obtain ⟨es, rfl, split'⟩ := exists_cons_of_head (k := '*') (by decide)
    ((getElem?_behind #[star] _ 0).symm.trans second)
  rw [split', ← Array.append_assoc] at back
  rcases back with atEnd | isSlash
  · cases es with
    | nil => exact .inl rfl
    | cons c es =>
      have some := List.length_pos_iff.mpr (String.utf8EncodeChar_ne_nil (c := c))
      have both : (#[byte '*'] ++ #[byte '*']).size = 2 := rfl
      have none : (bytes (String.ofList (c :: es))).size = 0 := by
        rw [Array.size_append] at atEnd
        omega
      simp only [bytes, String.toList_ofList, List.flatMap_cons, List.size_toArray,
        List.length_append] at none
      omega
  · obtain ⟨rest, rfl, -⟩ := exists_cons_of_head (k := '/') (by decide)
      ((getElem?_behind (#[star] ++ #[star]) _ 0).symm.trans isSlash)
    exact .inr ⟨rest, rfl⟩

/-! ## Names and directories -/

variable {room : Nat}

/-- A `**` behind a start is one at the beginning of what is left. -/
theorem isComponent_behind {lead glob : Array UInt8}
    (component : IsComponent (lead ++ glob) 0 lead.size) : IsComponent glob 0 0 := by
  obtain ⟨⟨first, second⟩, -, back⟩ := component
  have here := getElem?_behind lead glob
  refine ⟨⟨(here 0).symm.trans first, (here 1).symm.trans second⟩, .inl (by decide), ?_⟩
  rw [Array.size_append] at back
  exact back.imp (by omega) (here 2).symm.trans

/-- A name of a directory is a `**`, or the pattern does not begin with one. -/
theorem eq_of_opensGlobstar {name rest : List Char} (noSlash : '/' ∉ name)
    (opens : OpensGlobstar (name ++ '/' :: rest)) : name = ['*', '*'] := by
  rcases opens with same | ⟨more, same⟩
  · have isSlash : '/' ∈ ['*', '*'] := same ▸ List.mem_append_right _ List.mem_cons_self
    exact absurd isSlash (by decide)
  · match name with
    | [] => simp at same
    | [_] => simp at same
    | [a, b] =>
      simp only [List.cons_append, List.nil_append, List.cons.injEq] at same
      rw [← same.1, ← same.2.1]
    | _ :: _ :: c :: _ =>
      simp only [List.cons_append, List.cons.injEq] at same
      simp [← same.2.2.1] at noSlash

/-- A name and the slash behind it are gone past, unless the name or what follows is a `**`. -/
theorem matchFrom_name {name p : List Char} (noSlash : '/' ∉ name)
    (plain : ∀ c ∈ name, c ∉ specials) (whole : ¬OpensGlobstar (name ++ '/' :: p))
    (rest : ¬OpensGlobstar p) (r : List Char) :
    matchFrom (bytes (String.ofList (name ++ '/' :: p))) (bytes (String.ofList (name ++ '/' :: r)))
        room [] 0 {} =
      matchFrom (bytes (String.ofList p)) (bytes (String.ofList r)) room [] 0 {} := by
  have split (cs : List Char) : bytes (String.ofList (name ++ '/' :: cs)) =
      bytes (String.ofList name) ++ #[slash] ++ bytes (String.ofList cs) := by
    rw [String.ofList_append, ← List.singleton_append, String.ofList_append, bytes_append, bytes_append,
      Array.append_assoc]
    rfl
  have size : (bytes (String.ofList name) ++ #[slash]).size = (bytes (String.ofList name)).size + 1 :=
    Array.size_append
  have inName (cs : List Char) {i : Nat} (lt : i < (bytes (String.ofList name)).size) :
      (bytes (String.ofList (name ++ '/' :: cs)))[i]? = some (bytes (String.ofList name))[i] := by
    rw [split, Array.getElem?_append_left (by omega), Array.getElem?_append_left lt,
      Array.getElem?_eq_getElem lt]
  have behindName (cs : List Char) :
      (bytes (String.ofList (name ++ '/' :: cs)))[(bytes (String.ofList name)).size]? = some slash := by
    rw [split, Array.getElem?_append_left (by omega), Array.getElem?_append_right (Nat.le_refl _),
      Nat.sub_self]
    rfl
  have shared : ShareName (bytes (String.ofList (name ++ '/' :: p)))
      (bytes (String.ofList (name ++ '/' :: r))) (bytes (String.ofList name)).size := by
    refine ⟨fun i lt => ?_, ⟨behindName p, behindName r⟩,
      fun component => whole (opensGlobstar_of_isComponent component),
      fun component => rest (opensGlobstar_of_isComponent ?_)⟩
    · have member := Array.getElem_mem_toList lt
      refine ⟨_, inName p lt, inName r lt, fun isSlash => ?_, isPlain_of_mem (by simpa using plain) member⟩
      obtain ⟨c, written, encodes⟩ := List.mem_flatMap.mp member
      rw [isSlash] at encodes
      rw [String.toList_ofList] at written
      exact noSlash (eq_of_byte_mem (k := '/') (by decide) encodes ▸ written)
    · rw [split, ← size] at component
      exact isComponent_behind component
  have known : Opened (bytes (String.ofList p)) [] := nofun
  have starts : Starts (bytes (String.ofList name) ++ #[slash]) 0 0 := .inr ⟨rfl, rfl, by simp⟩
  rw [shared.matchFrom_eq, ← size, split, split]
  exact matchFrom_behind starts known (.first _ _ 0)

section
variable {lead p : List Char}

/-- A list that ends in a slash begins with a name and the slash behind it. -/
theorem exists_name (ends : ∀ c ∈ lead.getLast?, c = '/') (some : lead ≠ []) :
    ∃ name lead', lead = name ++ '/' :: lead' ∧ '/' ∉ name ∧ ∀ c ∈ lead'.getLast?, c = '/' := by
  have last := List.getLast?_eq_some_getLast some
  have isSlash : '/' ∈ lead := ends _ last ▸ List.getLast_mem some
  obtain ⟨name, lead', rfl, noSlash⟩ := List.eq_append_cons_of_mem isSlash
  refine ⟨name, lead', rfl, noSlash, fun c last' => ends c ?_⟩
  rw [Option.mem_def] at last' ⊢
  rw [List.getLast?_append, List.getLast?_cons, last']
  rfl

/-- Where no directory is named `**`, the first one is not. -/
theorem not_opensGlobstar (ends : ∀ c ∈ lead.getLast?, c = '/')
    (noGlobstar : ¬['/', '*', '*', '/'] <:+: '/' :: lead) (rest : ¬OpensGlobstar p) :
    ¬OpensGlobstar (lead ++ p) := by
  by_cases none : lead = []
  · rwa [none, List.nil_append]
  · obtain ⟨name, lead', rfl, noSlash, -⟩ := exists_name ends none
    rw [List.append_assoc, List.cons_append]
    intro opens
    rw [eq_of_opensGlobstar noSlash opens] at noGlobstar
    exact noGlobstar (List.prefix_append ['/', '*', '*', '/'] lead').isInfix

/-- Directories in front of a pattern and of a path are gone past. -/
theorem matchFrom_directory (ends : ∀ c ∈ lead.getLast?, c = '/') (plain : ∀ c ∈ lead, c ∉ specials)
    (noGlobstar : ¬['/', '*', '*', '/'] <:+: '/' :: lead) (rest : ¬OpensGlobstar p) (r : List Char) :
    matchFrom (bytes (String.ofList (lead ++ p))) (bytes (String.ofList (lead ++ r))) room [] 0 {} =
      matchFrom (bytes (String.ofList p)) (bytes (String.ofList r)) room [] 0 {} := by
  induction length : lead.length using Nat.strongRecOn generalizing lead
  next n ih =>
    by_cases none : lead = []
    · rw [none, List.nil_append, List.nil_append]
    · have whole := not_opensGlobstar ends noGlobstar rest
      obtain ⟨name, lead', rfl, noSlash, ends'⟩ := exists_name ends none
      have noGlobstar' : ¬['/', '*', '*', '/'] <:+: '/' :: lead' := fun inside =>
        noGlobstar (inside.trans (List.suffix_append ('/' :: name) ('/' :: lead')).isInfix)
      rw [List.append_assoc, List.append_assoc, List.cons_append, List.cons_append]
      rw [List.append_assoc, List.cons_append] at whole
      rw [matchFrom_name noSlash (fun c member => plain c (List.mem_append_left _ member)) whole
        (not_opensGlobstar ends' noGlobstar' rest)]
      refine ih lead'.length ?_ ends' (fun c member => ?_) noGlobstar' rfl
      · rw [← length, List.length_append, List.length_cons]
        omega
      · exact plain c (List.mem_append_right _ (List.mem_cons_of_mem _ member))

end

/-- A pattern that begins with a slash does not match a path that lacks it. -/
theorem matchFrom_of_slash {glob path : Array UInt8} {b : UInt8} (inGlob : glob[0]? = some slash)
    (inPath : path[0]? = some b) (other : b ≠ slash) : matchFrom glob path room [] 0 {} = .no :=
  matchFrom_of_answer <| (turn_of_misfit inGlob inPath (by simp [IsPlain]; decide) (by decide) rfl
    (Ne.symm other) (fun question => absurd question (by decide)) [] _).trans (if_neg (by simp))

/-! ## Texts -/

/-- A pattern that is not negated is matched from its beginning. -/
theorem fits_eq_matchFrom {pattern : String} (positive : pattern.toList.head? ≠ some '!')
    (path : String) :
    fits pattern path = matchFrom (bytes pattern) (bytes path) 10 [] 0 {} := by
  have none : pattern.toList.takeWhile (· == '!') = [] := by
    cases chars : pattern.toList with
    | nil => rfl
    | cons c cs =>
      have other : c ≠ '!' := by simpa [chars] using positive
      exact List.takeWhile_cons_of_neg (by simpa using other)
  unfold fits
  dsimp only
  rw [none]
  rfl

/-- A pattern that begins with more slashes than a path does not match it. -/
theorem fits_of_slash {c : Char} (other : c ≠ '/') (slashes : Nat) (pattern path : List Char) :
    fits (String.ofList (List.replicate slashes '/' ++ '/' :: pattern))
      (String.ofList (List.replicate slashes '/' ++ c :: path)) = .no := by
  have all {b : Char} (member : b ∈ List.replicate slashes '/') : b = '/' :=
    List.eq_of_mem_replicate member
  have positive :
      (String.ofList (List.replicate slashes '/' ++ '/' :: pattern)).toList.head? ≠ some '!' := by
    cases slashes <;> simp [List.replicate_succ]
  obtain ⟨b, bs, encoded⟩ := List.exists_cons_of_ne_nil (String.utf8EncodeChar_ne_nil (c := c))
  have differs : b ≠ slash := fun same => by
    have member : byte '/' ∈ String.utf8EncodeChar c := by
      rw [encoded, same]
      exact List.mem_cons_self
    exact other (eq_of_byte_mem (by decide) member)
  rw [fits_eq_matchFrom positive, matchFrom_directory]
  · refine matchFrom_of_slash ?_ ?_ differs
    · simp [bytes, encode_of_ascii (k := '/') (by decide)]
      rfl
    · simp [bytes, encoded]
  · exact fun b last => all (List.mem_of_getLast? last)
  · intro b member
    rw [all member]
    decide
  · intro inside
    have member : '*' ∈ '/' :: List.replicate slashes '/' := inside.subset (by decide)
    rcases List.mem_cons.mp member with same | member
    · exact absurd same (by decide)
    · exact absurd (all member) (by decide)
  · rintro (same | ⟨more, same⟩) <;> simp at same

end ChunkBridge.Glob

namespace ChunkBridge.Filter
open Glob (Verdict specials OpensGlobstar)

/-- A directory that is named from the root on, in parts that match themselves as patterns. Stars and
question marks do, since they stand for themselves among others; a part that is just `**` does not. -/
structure IsDirectory (cwd : String) : Prop where
  absolute : cwd.toList.head? = some '/'
  openEnd : cwd.toList.getLast? ≠ some '/'
  plain : ∀ c ∈ cwd.toList, c ∉ specials
  noGlobstar : ¬['/', '*', '*', '/'] <:+: cwd.toList ++ ['/']
  named : '\x00' ∉ cwd.toList

/-- A pattern that is meant from a directory. -/
structure IsRelative (pattern : String) : Prop where
  noSlash : pattern.toList.head? ≠ some '/'
  positive : pattern.toList.head? ≠ some '!'
  noGlobstar : ¬['*', '*'] <+: pattern.toList
  noBackslash : '\\' ∉ pattern.toList

variable {cwd p r : String}

theorem withSlashes_of_plain {text : String} (plain : '\\' ∉ text.toList) : withSlashes text = text := by
  have same : (text.toList.map fun c => if c == '\\' then '/' else c) = text.toList.map id := by
    refine List.map_congr_left fun c member => if_neg fun isBackslash => plain ?_
    rwa [← beq_iff_eq.mp isBackslash]
  rw [withSlashes, same, List.map_id, String.ofList_toList]

theorem IsRelative.not_opensGlobstar (relative : IsRelative p) : ¬OpensGlobstar p.toList := by
  rintro (both | more)
  · exact relative.noGlobstar (both ▸ List.prefix_rfl)
  · exact relative.noGlobstar ((List.prefix_append ['*', '*'] ['/']).trans more)

theorem IsDirectory.anchored (directory : IsDirectory cwd) (relative : IsRelative p) :
    anchored cwd p = cwd ++ "/" ++ p := by
  have noGlobstar : beginsWith p "**" = false := by
    rw [Bool.eq_false_iff]
    exact fun begins => relative.noGlobstar (List.isPrefixOf_iff_prefix.mp begins)
  have noSlash : beginsWith p "/" = false := by
    rw [Bool.eq_false_iff]
    intro begins
    obtain ⟨rest, chars⟩ := List.isPrefixOf_iff_prefix.mp begins
    exact relative.noSlash (by rw [← chars]; rfl)
  have some : cwd.isEmpty = false := by
    rw [Bool.eq_false_iff, Ne, String.isEmpty_iff]
    rintro rfl
    exact absurd directory.absolute (by decide)
  have openEnd : (cwd.toList.getLast? == Option.some '/') = false :=
    beq_eq_false_iff_ne.mpr directory.openEnd
  simp only [Filter.anchored, withSlashes_of_plain relative.noBackslash, noGlobstar, noSlash, join, some,
    openEnd, Bool.or_self, Bool.false_eq_true, if_false]

/-- Pattern and path may both be meant from the directory. -/
theorem IsDirectory.fits_append (directory : IsDirectory cwd) (relative : IsRelative p) (r : String) :
    Glob.fits (cwd ++ "/" ++ p) (cwd ++ "/" ++ r) = Glob.fits p r := by
  obtain ⟨cs, chars⟩ := List.head?_eq_some_iff.mp directory.absolute
  have positive : (cwd ++ "/" ++ p).toList.head? ≠ some '!' := by
    simp [String.toList_append, chars]
  have split (text : String) :
      cwd ++ "/" ++ text = String.ofList (cwd.toList ++ ['/'] ++ text.toList) := by
    simp [String.ofList_append, String.append_assoc]
  have single : ¬['/', '*', '*', '/'] <:+: '/' :: (cwd.toList ++ ['/']) := by
    rw [List.infix_cons_iff, not_or]
    refine ⟨?_, directory.noGlobstar⟩
    rw [chars]
    rintro ⟨more, same⟩
    simp at same
  rw [Glob.fits_eq_matchFrom positive, Glob.fits_eq_matchFrom relative.positive, split, split,
    Glob.matchFrom_directory _ _ single relative.not_opensGlobstar, String.ofList_toList,
    String.ofList_toList]
  · intro c last
    rw [List.getLast?_concat] at last
    exact (Option.some.inj last).symm
  · intro c member
    rcases List.mem_append.mp member with inName | isSlash
    · exact directory.plain c inName
    · rw [List.mem_singleton.mp isSlash]
      decide

/-- The name of a directory does not consist of slashes. -/
theorem exists_slashes {cs : List Char} (some : cs ≠ []) (openEnd : cs.getLast? ≠ Option.some '/') :
    ∃ slashes c rest, c ≠ '/' ∧ cs = List.replicate slashes '/' ++ c :: rest := by
  induction cs with
  | nil => exact absurd rfl some
  | cons c cs ih =>
    by_cases isSlash : c = '/'
    · subst isSlash
      have more : cs ≠ [] := by
        rintro rfl
        exact openEnd rfl
      obtain ⟨slashes, d, rest, other, rfl⟩ := ih more (by rwa [List.getLast?_cons_of_ne_nil more] at openEnd)
      exact ⟨slashes + 1, d, rest, other, rfl⟩
    · exact ⟨0, c, cs, isSlash, rfl⟩

theorem orElse_no (verdict : Verdict) : orElse verdict (fun _ => .no) = verdict := by
  cases verdict <;> rfl

/-- An id below a directory is matched like its path from there. -/
theorem IsDirectory.matchesPattern (directory : IsDirectory cwd) (relative : IsRelative p)
    (r : String) : matchesPattern (cwd ++ "/" ++ r) (cwd ++ "/" ++ p) = Glob.fits p r := by
  obtain ⟨cs, chars⟩ := List.head?_eq_some_iff.mp directory.absolute
  have openEnd := directory.openEnd
  have more : cs ≠ [] := by
    rintro rfl
    rw [chars] at openEnd
    exact openEnd rfl
  rw [chars, List.getLast?_cons_of_ne_nil more] at openEnd
  obtain ⟨slashes, c, rest, other, rfl⟩ := exists_slashes more openEnd
  have pattern : (cwd ++ "/" ++ p).toList =
      List.replicate slashes '/' ++ '/' :: (c :: (rest ++ '/' :: p.toList)) := by
    have turned (cs : List Char) : '/' :: (List.replicate slashes '/' ++ cs) =
        List.replicate slashes '/' ++ '/' :: cs := by
      have last : '/' :: List.replicate slashes '/' = List.replicate slashes '/' ++ ['/'] :=
        List.replicate_succ'
      rw [← List.cons_append, last, List.append_assoc, List.singleton_append]
    simp [String.toList_append, chars, turned]
  have id : (cwd ++ "/" ++ r).toList =
      '/' :: (List.replicate slashes '/' ++ c :: (rest ++ '/' :: r.toList)) := by
    simp [String.toList_append, chars]
  have below : behind? "/" (cwd ++ "/" ++ r) =
      some (String.ofList (List.replicate slashes '/' ++ c :: (rest ++ '/' :: r.toList))) := by
    rw [behind?, id]
    rfl
  -- Without the slash at its start the id has one less than the pattern in front of what differs.
  have unrooted : Glob.fits (cwd ++ "/" ++ p)
      (String.ofList (List.replicate slashes '/' ++ c :: (rest ++ '/' :: r.toList))) = .no := by
    rw [← String.ofList_toList (s := cwd ++ "/" ++ p), pattern]
    exact Glob.fits_of_slash other slashes _ _
  have rooted : behind? "**/" (cwd ++ "/" ++ p) = none := by
    rw [behind?, String.toList_append, String.toList_append, chars]
    rfl
  rw [Filter.matchesPattern, below, rooted, directory.fits_append relative]
  simp only [Option.getD_some, unrooted]
  exact orElse_no _

/-- To put a relative pattern behind the name of a directory does not change which of the files below
the directory it matches, where the parts of the name are patterns for themselves. -/
theorem verdict_below (directory : IsDirectory cwd) (relative : IsRelative p)
    (noBackslash : '\\' ∉ r.toList) (named : '\x00' ∉ r.toList) :
    (ofPatterns [p] [] cwd).verdict (cwd ++ "/" ++ r) = Glob.fits p r := by
  have plain : '\\' ∉ (cwd ++ "/" ++ r).toList := by
    have inName : '\\' ∉ cwd.toList := fun written => directory.plain '\\' written (by decide)
    simp [String.toList_append, noBackslash, inName]
  have file : (cwd ++ "/" ++ r).toList.contains '\x00' = false := by
    simp [String.toList_append, directory.named, named]
  simp only [verdict, file, ofPatterns, withSlashes_of_plain plain, List.map_nil, List.map_cons,
    matchesAny, directory.anchored relative, directory.matchesPattern relative, orElse_no,
    Bool.false_eq_true, if_false, List.isEmpty_cons]

/-- A directory with a star and a question mark in its name. -/
theorem verdict_below_of_stars :
    IsDirectory "/app/a*b?" ∧ IsRelative "src/\x7ba,b\x7d/**/*.js" ∧
      (ofPatterns ["src/\x7ba,b\x7d/**/*.js"] [] "/app/a*b?").verdict ("/app/a*b?/src/b/x/y.js") =
        Glob.fits "src/\x7ba,b\x7d/**/*.js" "src/b/x/y.js" := by
  have directory : IsDirectory "/app/a*b?" := by constructor <;> simp <;> decide
  have relative : IsRelative "src/\x7ba,b\x7d/**/*.js" := by constructor <;> simp
  exact ⟨directory, relative, verdict_below directory relative (r := "src/b/x/y.js") (by simp) (by simp)⟩

/-- A directory with brackets in its name: `[id]` stands for one of two letters. -/
theorem verdict_below_of_brackets :
    (ofPatterns ["src/*.js"] [] "/app/[id]").verdict "/app/[id]/src/a.js" = .no ∧
      Glob.fits "src/*.js" "src/a.js" = .yes := by
  decide +kernel

end ChunkBridge.Filter
