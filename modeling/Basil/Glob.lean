import Basil.Lib.Check
import Basil.Lib.Text

/-!
# Target globs (`core/catalog/glob.rs`)

`TargetMatches` is the meaning of the term as written; the parsed glob matches exactly the keys it
describes.
-/

namespace Basil

inductive GlobSeg where
  | literal (text : String)
  | star
  | doubleStar
  deriving DecidableEq

inductive KeyGlob where
  | anyKey
  | pattern (segs : List GlobSeg)
  deriving DecidableEq

namespace KeyGlob

/-- All but the last segment are literals that match position by position; the
last one decides how much of the tail it takes. -/
def patternMatches : List GlobSeg → List String → Bool
  | [], _ => false
  | [.star], key => key.length == 1
  | [.doubleStar], key => !key.isEmpty
  | [.literal text], key => key == [text]
  | .literal text :: seg :: segs, k :: key => text == k && patternMatches (seg :: segs) key
  | .literal _ :: _ :: _, [] => false
  | .star :: _ :: _, _ => false
  | .doubleStar :: _ :: _, _ => false

def matchesKey (g : KeyGlob) (dottedKey : String) : Bool :=
  match g with
  | .anyKey => true
  | .pattern segs => patternMatches segs (Text.split '.' dottedKey)

end KeyGlob

inductive GlobError where
  | empty (term : String)
  | wildcardNotLast (term wildcard : String)
  | intraSegment (term segment : String)
  deriving DecidableEq

namespace KeyGlob

def parseSeg (term seg : String) (isLast : Bool) : Except GlobError GlobSeg := do
  ensure (seg ≠ "") (.empty term)
  if seg = "*" then
    ensure (isLast = true) (.wildcardNotLast term "*")
    return .star
  else if seg = "**" then
    ensure (isLast = true) (.wildcardNotLast term "**")
    return .doubleStar
  else
    -- a `*` among other characters
    ensure ('*' ∉ seg.toList) (.intraSegment term seg)
    return .literal seg

def parseSegs (term : String) : List String → Except GlobError (List GlobSeg)
  | [] => .ok []
  | seg :: rest => do
      let parsed ← parseSeg term seg rest.isEmpty
      let segs ← parseSegs term rest
      return parsed :: segs

def parse (s : String) : Except GlobError KeyGlob :=
  if s = "*" then .ok .anyKey
  else if s = "" then .error (.empty s)
  else do
    let segs ← parseSegs s (Text.split '.' s)
    return .pattern segs

def segSource : GlobSeg → String
  | .literal text => text
  | .star => "*"
  | .doubleStar => "**"

def source : KeyGlob → String
  | anyKey => "*"
  | pattern segs => ".".intercalate (segs.map segSource)

def matchesAll : KeyGlob → Bool
  | anyKey => true
  | pattern segs => segs == [.doubleStar]

end KeyGlob

/-- What the segments of a term say about those of a key. -/
def SegsMatch : List String → List String → Prop
  | [], _ => False
  | ["*"], key => key.length = 1
  | ["**"], key => key ≠ []
  | [text], key => key = [text]
  | text :: seg :: segs, key => ∃ rest, key = text :: rest ∧ SegsMatch (seg :: segs) rest

def TargetMatches (term key : String) : Prop :=
  term = "*" ∨ SegsMatch (Text.split '.' term) (Text.split '.' key)

namespace KeyGlob

theorem parseSeg_ok {term seg : String} {isLast : Bool} {parsed : GlobSeg}
    (h : parseSeg term seg isLast = .ok parsed) :
    (seg = "*" ∧ isLast = true ∧ parsed = .star) ∨ (seg = "**" ∧ isLast = true ∧ parsed = .doubleStar) ∨
      (seg ≠ "*" ∧ seg ≠ "**" ∧ parsed = .literal seg) := by
  simp only [parseSeg, bind_eq_ok] at h
  obtain ⟨-, -, h⟩ := h
  split at h
  · next hstar =>
    simp only [eq_ok] at h
    obtain ⟨-, hlast, rfl⟩ := h
    exact .inl ⟨hstar, hlast, rfl⟩
  · next hstar =>
    split at h
    · next hdouble =>
      simp only [eq_ok] at h
      obtain ⟨-, hlast, rfl⟩ := h
      exact .inr (.inl ⟨hdouble, hlast, rfl⟩)
    · next hdouble =>
      simp only [eq_ok] at h
      obtain ⟨-, -, rfl⟩ := h
      exact .inr (.inr ⟨hstar, hdouble, rfl⟩)

theorem patternMatches_iff {term : String} {raws : List String} {segs : List GlobSeg}
    (h : parseSegs term raws = .ok segs) (key : List String) :
    patternMatches segs key = true ↔ SegsMatch raws key := by
  induction raws generalizing segs key with
  | nil =>
    cases h
    simp [patternMatches, SegsMatch]
  | cons seg rest ih =>
    simp only [parseSegs, eq_ok] at h
    obtain ⟨_, hparsed, tail, htail, rfl⟩ := h
    cases rest with
    | nil =>
      cases htail
      rcases parseSeg_ok hparsed with ⟨rfl, -, rfl⟩ | ⟨rfl, -, rfl⟩ | ⟨hstar, hdouble, rfl⟩
      · simp [patternMatches, SegsMatch]
      · simp [patternMatches, SegsMatch]
      · unfold SegsMatch
        split <;> simp_all [patternMatches]
    | cons next rest =>
      rcases parseSeg_ok hparsed with ⟨-, hlast, -⟩ | ⟨-, hlast, -⟩ | ⟨hstar, hdouble, rfl⟩
      · cases hlast
      · cases hlast
      · have htailNe : ∃ s ss, tail = s :: ss := by
          simp only [parseSegs, eq_ok] at htail
          obtain ⟨s, -, ss, -, rfl⟩ := htail
          exact ⟨s, ss, rfl⟩
        obtain ⟨s, ss, rfl⟩ := htailNe
        cases key with
        | nil => simp [patternMatches, SegsMatch]
        | cons k key =>
          have hrest := ih htail key
          simp only [patternMatches, SegsMatch, Bool.and_eq_true, beq_iff_eq, hrest]
          constructor
          · rintro ⟨rfl, hmatch⟩
            exact ⟨key, rfl, hmatch⟩
          · rintro ⟨_, hkey, hmatch⟩
            cases hkey
            exact ⟨rfl, hmatch⟩

theorem matchesKey_iff {term : String} {g : KeyGlob} (h : parse term = .ok g) (key : String) :
    g.matchesKey key = true ↔ TargetMatches term key := by
  unfold parse at h
  split at h
  · next hany =>
    cases h
    simp [matchesKey, TargetMatches, hany]
  · next hany =>
    split at h
    · cases h
    · simp only [eq_ok] at h
      obtain ⟨_, hsegs, rfl⟩ := h
      simp [matchesKey, TargetMatches, hany, patternMatches_iff hsegs]

theorem patternMatches_nil (segs : List GlobSeg) : patternMatches segs [] = false := by
  unfold patternMatches
  split <;> simp_all

theorem eq_doubleStar {segs : List GlobSeg} (hone : patternMatches segs ["a"] = true)
    (htwo : patternMatches segs ["a", "b"] = true) : segs = [.doubleStar] := by
  match segs with
  | [] => cases hone
  | [.star] => cases htwo
  | [.doubleStar] => rfl
  | [.literal text] => simp [patternMatches] at htwo
  | .literal text :: seg :: segs => simp [patternMatches, patternMatches_nil] at hone
  | .star :: seg :: segs => cases hone
  | .doubleStar :: seg :: segs => cases hone

theorem matchesAll_iff {term : String} {g : KeyGlob} (h : parse term = .ok g) :
    g.matchesAll = true ↔ ∀ key, TargetMatches term key := by
  simp only [← matchesKey_iff h]
  cases g with
  | anyKey => simp [matchesAll, matchesKey]
  | pattern segs =>
    constructor
    · intro hall key
      have hsegs : segs = [.doubleStar] := by simpa [matchesAll] using hall
      have hsplit : Text.split '.' key ≠ [] := by simp [Text.split]
      simp [hsegs, matchesKey, patternMatches, hsplit]
    · intro hall
      have hone : patternMatches segs ["a"] = true := hall "a"
      have htwo : patternMatches segs ["a", "b"] = true := hall "a.b"
      simp [matchesAll, eq_doubleStar hone htwo]

end KeyGlob

end Basil
