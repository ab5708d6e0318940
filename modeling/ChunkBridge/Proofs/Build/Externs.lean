import ChunkBridge.Proofs.Build.Rendering
import Mathlib.Logic.Function.Iterate

/-!
# Externs that are written once

Externs are kept under the fingerprint of their text, so chunks that declare the same names share
a file. Whether a file was there before or not, the compiler is called with the same texts
(`masked_assemble`), as long as no two of the texts have the same fingerprint.
-/

namespace ChunkBridge
open ChunkBridge.Text

/-! ## Keys -/

theorem hexDigit_inj {m n : Nat} (hm : m < 16) (hn : n < 16) (h : hexDigit m = hexDigit n) :
    m = n := by
  have all : ∀ a b : Fin 16, hexDigit a = hexDigit b → a = b := by decide +kernel
  exact congrArg Fin.val (all ⟨m, hm⟩ ⟨n, hn⟩ h)

/-- Hexadecimal digits tell a number, but for what lies in front of them. -/
theorem eq_of_hexDigits {width m n : Nat} (h : hexDigits width m = hexDigits width n)
    (front : Nat.iterate (· / 16) width m = Nat.iterate (· / 16) width n) : m = n := by
  induction width generalizing m n with
  | zero => exact front
  | succ width ih =>
    obtain ⟨digits, last⟩ := List.append_inj' h rfl
    have digit : m % 16 = n % 16 :=
      hexDigit_inj (Nat.mod_lt m (by decide)) (Nat.mod_lt n (by decide)) (List.singleton_inj.mp last)
    have higher : m / 16 = n / 16 := ih digits front
    rw [← Nat.div_add_mod m 16, higher, digit, Nat.div_add_mod]

/-- Sixteen of them are enough for a fingerprint. -/
theorem iterate_div_toNat (word : UInt64) : Nat.iterate (· / 16) 16 word.toNat = 0 := by
  have below := word.toNat_lt
  simp only [Function.iterate_succ_apply, Function.iterate_zero_apply]
  omega

/-- A key that ends in the digits of a fingerprint stands for it. -/
theorem fingerprint_eq_of_key (kind : String) {a b : String}
    (h : kind ++ String.ofList (hexDigits 16 (fingerprint a).toNat) =
      kind ++ String.ofList (hexDigits 16 (fingerprint b).toNat)) :
    fingerprint a = fingerprint b := by
  have same := congrArg String.toList h
  simp only [String.toList_append, List.append_cancel_left_eq, String.toList_ofList] at same
  refine UInt64.toNat_inj.mp (eq_of_hexDigits same ?_)
  rw [iterate_div_toNat, iterate_div_toNat]

namespace Assembled

theorem fingerprint_eq_of_externsKey {a b : String} (h : externsKey a = externsKey b) :
    fingerprint a = fingerprint b := fingerprint_eq_of_key "externs:" h

end Assembled

/-- The texts have different fingerprints. -/
def NoCollision (texts : List String) : Prop :=
  ∀ a ∈ texts, ∀ b ∈ texts, fingerprint a = fingerprint b → a = b

/-- Under the key of a text there is no file with another text. -/
def Session.Caches (session : Session) (text : String) : Prop :=
  ∀ file, session.store.get? ScratchFile (Assembled.externsKey text) = some file →
    file.contents = text

/-- The session has no wrong text in the place of one of the externs. -/
def Session.CachesAll (session : Session) (texts : List String) : Prop :=
  ∀ text ∈ texts, session.Caches text

namespace Assembled

/-- The file with a text holds that text. -/
theorem contents_externsFile {session : Session} {text : String} (caches : session.Caches text) :
    (externsFile text session).1.contents = text := by
  unfold externsFile
  cases known : session.store.get? ScratchFile (externsKey text) with
  | some file => exact caches file known
  | none => rfl

/-- Other texts stay in their places. -/
theorem caches_externsFile {session : Session} {texts : List String} (distinct : NoCollision texts)
    (caches : session.CachesAll texts) {text : String} (member : text ∈ texts) :
    (externsFile text session).2.CachesAll texts := by
  intro other among file known
  unfold externsFile at known
  cases there : session.store.get? ScratchFile (externsKey text) with
  | some _ =>
    rw [there] at known
    exact caches other among file known
  | none =>
    rw [there] at known
    simp only [Session.writeFile, Store.get?_set] at known
    by_cases same : externsKey text = externsKey other
    · rw [if_pos same] at known
      cases known
      exact distinct text member other among (fingerprint_eq_of_externsKey same)
    · rw [if_neg same] at known
      exact caches other among file known

end Assembled

/-! ## Calls without paths -/

/-- The file as its contents. -/
def ScratchFile.masked (file : ScratchFile) : ScratchFile := { file with number := 0 }

def FileName.masked : FileName → FileName
  | .named path => .named path
  | .scratch file => .scratch file.masked

def Setting.masked : Setting → Setting
  | .plain value => .plain value
  | .files names => .files (names.map FileName.masked)
  | .script file => .script file.masked
  | .mapFile _ => .mapFile 0

/-- The call with the contents of files in the place of their paths. -/
def Invocation.masked (invocation : Invocation) : Invocation := invocation.map Setting.masked

theorem Invocation.masked_set (invocation : Invocation) (key : String) (setting : Setting) :
    Invocation.masked (invocation.set key setting) = invocation.masked.set key setting.masked :=
  Table.map_set ..

namespace Assembled

/-- What the compiler is called with, told from the flags of the user, the externs and the text to
be compiled. -/
def invocationFor (flags : Flags) (format : OutputFormat) (externs code : String) : Invocation :=
  let generated : List FileName := if externs.isEmpty then [] else [.scratch ⟨0, externs⟩]
  setExterns ((Flags.externs flags).map FileName.named ++ generated) (withDefaults flags format)
    |>.set Invocation.script (.script ⟨0, code⟩)
    |>.set Invocation.createSourceMap (.mapFile 0)

/-- Flags name no scratch files. -/
theorem masked_withDefaults (flags : Flags) (format : OutputFormat) :
    (withDefaults flags format).masked = withDefaults flags format := by
  have settings : Setting.masked ∘ Setting.plain = Setting.plain := rfl
  simp only [Invocation.masked, withDefaults, defaults, List.foldl_cons, List.foldl_nil,
    Table.map_setDefault, Table.map_map, settings, Setting.masked]

theorem masked_setExterns (files : List FileName) (invocation : Invocation) :
    (setExterns files invocation).masked =
      setExterns (files.map FileName.masked) invocation.masked := by
  unfold setExterns Invocation.masked
  cases files with
  | nil => rfl
  | cons file files => exact Table.map_set ..

/-- The externs of a chunk are the same text, wherever they are. -/
theorem masked_generatedExterns {session : Session} {passes : List ChunkPass}
    (caches : (ChunkPass.externsText passes).isEmpty = false →
      session.Caches (ChunkPass.externsText passes)) :
    (generatedExterns passes session).1.map FileName.masked =
      if (ChunkPass.externsText passes).isEmpty then []
      else [.scratch ⟨0, ChunkPass.externsText passes⟩] := by
  unfold generatedExterns
  by_cases none : (ChunkPass.externsText passes).isEmpty = true
  · simp only [if_pos none, List.map_nil]
  · have contents := contents_externsFile (caches (Bool.eq_false_iff.mpr none))
    simp only [if_neg none, List.map_cons, List.map_nil, FileName.masked, ScratchFile.masked,
      contents]

end Assembled

/-- Fresh passes have no externs. -/
theorem ChunkPass.externsText_ofFormat (format : OutputFormat) : externsText (ofFormat format) = "" := by
  cases format <;> rfl

namespace Session

/-- The externs of some passes are among the texts, if there are any. -/
def Covers (texts : List String) (passes : List ChunkPass) : Prop :=
  (ChunkPass.externsText passes).isEmpty = false → ChunkPass.externsText passes ∈ texts

variable {session : Session} {texts : List String} {passes : List ChunkPass}

/-- Unless the flags are at odds, the compiler is called with what belongs to the chunk. -/
theorem masked_assemble (caches : session.CachesAll texts) (covers : Covers texts passes)
    (format : OutputFormat) (code : String) :
    match Flags.conflict? session.flags with
    | some conflict => (session.assemble format passes code).1 = .error conflict
    | none => ∃ assembled, (session.assemble format passes code).1 = .ok assembled ∧
        assembled.invocation.masked =
          Assembled.invocationFor session.flags format (ChunkPass.externsText passes) code := by
  unfold assemble
  cases Flags.conflict? session.flags with
  | some conflict => rfl
  | none =>
    refine ⟨_, rfl, ?_⟩
    have files := Assembled.masked_generatedExterns fun some => caches _ (covers some)
    have flags := (Assembled.renders_generatedExterns passes session).flags_eq
    have named : (Flags.externs session.flags).map (FileName.masked ∘ FileName.named) =
        (Flags.externs session.flags).map FileName.named := rfl
    rw [Invocation.masked_set, Invocation.masked_set, Assembled.masked_setExterns,
      Assembled.masked_withDefaults, List.map_append, List.map_map, flags, named, files]
    rfl

/-- Externs stay in their places while calls are assembled. -/
theorem caches_assemble (distinct : NoCollision texts) (caches : session.CachesAll texts)
    (covers : Covers texts passes) (format : OutputFormat) (code : String) :
    (session.assemble format passes code).2.CachesAll texts := by
  unfold assemble
  cases Flags.conflict? session.flags with
  | some conflict => exact caches
  | none =>
    unfold Assembled.generatedExterns
    by_cases none : (ChunkPass.externsText passes).isEmpty = true
    · simp only [if_pos none]
      exact caches
    · simp only [if_neg none]
      exact Assembled.caches_externsFile distinct caches (covers (Bool.eq_false_iff.mpr none))

end Session
end ChunkBridge
