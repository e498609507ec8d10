import Basil.Evidence
import Basil.Lib.Check

/-!
# Resolution under more evidence

A snapshot refines another when it knows everything the other knows, with the same signature key.
-/

namespace Basil.Evidence

open EvidenceExpression List

def Known {α : Type} (a b : Option α) : Prop := ∀ x, a = some x → b = some x

structure Refines (e e' : EvidenceSnapshot) : Prop where
  domain : Known e.domain e'.domain
  uids : Known e.process.uids e'.process.uids
  gids : Known e.process.gids e'.process.gids
  supplementaryGids : Known e.process.supplementaryGids e'.process.supplementaryGids
  executableDigest : Known e.process.executableDigest e'.process.executableDigest
  systemd : Known e.systemd e'.systemd
  signatureKey : e'.invocationSignatureKey = e.invocationSignatureKey

/-- Evidence that was unavailable may have become available, the signature key included. -/
structure Extends (e e' : EvidenceSnapshot) : Prop where
  uids : Known e.process.uids e'.process.uids
  gids : Known e.process.gids e'.process.gids
  supplementaryGids : Known e.process.supplementaryGids e'.process.supplementaryGids
  executableDigest : Known e.process.executableDigest e'.process.executableDigest
  systemd : Known e.systemd e'.systemd
  signatureKey : Known e.invocationSignatureKey e'.invocationSignatureKey

theorem Refines.extends {e e' : EvidenceSnapshot} (h : Refines e e') : Extends e e' :=
  ⟨h.uids, h.gids, h.supplementaryGids, h.executableDigest, h.systemd,
    fun _ hkey => h.signatureKey.trans hkey⟩

/-! ### Expressions -/

theorem stateOf_known {α : Type} {a b : Option α} (h : Known a b) {test : α → Bool}
    (hdefinite : stateOf a test ≠ .unavailable) : stateOf b test = stateOf a test := by
  cases a with
  | none => exact absurd rfl hdefinite
  | some x => rw [h x rfl]

variable {e e' : EvidenceSnapshot}

theorem evaluate_extends (h : Extends e e') (predicate : EvidencePredicate)
    (hdefinite : e.evaluate predicate ≠ .unavailable) :
    e'.evaluate predicate = e.evaluate predicate := by
  cases predicate with
  | processUid | processUidSlot => exact stateOf_known h.uids hdefinite
  | processGid | processGidSlot => exact stateOf_known h.gids hdefinite
  | processGidSupplementary => exact stateOf_known h.supplementaryGids hdefinite
  | processExecutableDigest => exact stateOf_known h.executableDigest hdefinite
  | systemdUnit | systemdTemplate => exact stateOf_known h.systemd hdefinite
  | invocationSignatureKey => exact stateOf_known h.signatureKey hdefinite

section Loops

variable {xs ys : List (EvidenceState × Bool)}

variable {state : EvidenceState} {bound sawMatch sawUnavailable : Bool}

theorem foldAll_isMatch :
    (foldAll xs state bound).1 = .isMatch ↔ state = .isMatch ∧ ∀ x ∈ xs, x.1 = .isMatch := by
  induction xs generalizing state bound with
  | nil => simp [foldAll]
  | cons x xs ih =>
    obtain ⟨childState, _⟩ := x
    cases childState with
    | isMatch | unavailable => simp [foldAll, ih]
    | noMatch => simp [foldAll]

theorem foldAll_noMatch (hstate : state ≠ .noMatch) :
    (foldAll xs state bound).1 = .noMatch ↔ ∃ x ∈ xs, x.1 = .noMatch := by
  induction xs generalizing state bound with
  | nil => simpa [foldAll] using hstate
  | cons x xs ih =>
    obtain ⟨childState, _⟩ := x
    cases childState with
    | isMatch => simpa [foldAll] using ih hstate
    | noMatch => simp [foldAll]
    | unavailable => simpa [foldAll] using ih (by decide)

theorem foldAll_bound (hmatch : (foldAll xs state bound).1 = .isMatch) :
    (foldAll xs state bound).2 = true ↔ bound = true ∨ ∃ x ∈ xs, x.2 = true := by
  induction xs generalizing state bound with
  | nil =>
    have hstate : state = .isMatch := hmatch
    simp [foldAll, hstate]
  | cons x xs ih =>
    obtain ⟨childState, _⟩ := x
    cases childState with
    | isMatch =>
      have hrest := ih hmatch
      simp only [foldAll] at hrest ⊢
      rw [hrest]
      simp [or_assoc]
    | noMatch => cases hmatch
    | unavailable =>
      have hnone := (foldAll_isMatch.mp hmatch).2 _ mem_cons_self
      cases hnone

theorem foldAny_isMatch :
    (foldAny xs sawMatch sawUnavailable bound).1 = .isMatch ↔
      sawMatch = true ∨ ∃ x ∈ xs, x.1 = .isMatch := by
  induction xs generalizing sawMatch sawUnavailable bound with
  | nil => cases sawMatch <;> cases sawUnavailable <;> simp [foldAny]
  | cons x xs ih =>
    obtain ⟨childState, _⟩ := x
    cases childState <;> simp [foldAny, ih]

theorem foldAny_noMatch :
    (foldAny xs sawMatch sawUnavailable bound).1 = .noMatch ↔
      sawMatch = false ∧ sawUnavailable = false ∧ ∀ x ∈ xs, x.1 = .noMatch := by
  induction xs generalizing sawMatch sawUnavailable bound with
  | nil => cases sawMatch <;> cases sawUnavailable <;> simp [foldAny]
  | cons x xs ih =>
    obtain ⟨childState, _⟩ := x
    cases childState <;> simp [foldAny, ih]

theorem foldAny_bound (hmatch : (foldAny xs sawMatch sawUnavailable bound).1 = .isMatch) :
    (foldAny xs sawMatch sawUnavailable bound).2 = true ↔
      bound = true ∨ ∃ x ∈ xs, x.1 = .isMatch ∧ x.2 = true := by
  induction xs generalizing sawMatch sawUnavailable bound with
  | nil => cases sawMatch <;> cases sawUnavailable <;> simp_all [foldAny]
  | cons x xs ih =>
    obtain ⟨childState, _⟩ := x
    cases childState with
    | isMatch =>
      have hrest := ih hmatch
      simp only [foldAny] at hrest ⊢
      rw [hrest]
      simp [or_assoc]
    | noMatch | unavailable =>
      have hrest := ih hmatch
      simp only [foldAny] at hrest ⊢
      rw [hrest]
      simp

end Loops

/-! ### Plain evaluation -/

mutual
theorem evaluateWithSignaturePath_fst (e : EvidenceSnapshot) : ∀ expr : EvidenceExpression,
    (expr.evaluateWithSignaturePath e).1 = expr.evaluate e
  | .leaf _ => rfl
  | .all children => @foldAll_fst e false false children
  | .any children => foldAny_fst e children

theorem foldAll_fst (e : EvidenceSnapshot) {sawUnavailable bound : Bool} :
    ∀ children : List EvidenceExpression,
      (foldAll (evaluateChildren e children) (if sawUnavailable then .unavailable else .isMatch)
        bound).1 = evaluateAll e sawUnavailable children
  | [] => rfl
  | child :: rest => by
    rw [evaluateChildren, evaluateAll, ← evaluateWithSignaturePath_fst e child]
    cases hstate : child.evaluateWithSignaturePath e with
    | mk state childBound =>
      cases state with
      | isMatch => exact foldAll_fst e rest
      | noMatch => rfl
      | unavailable => exact @foldAll_fst e true _ rest

theorem foldAny_fst (e : EvidenceSnapshot) {sawUnavailable bound : Bool} :
    ∀ children : List EvidenceExpression,
      (foldAny (evaluateChildren e children) false sawUnavailable bound).1 =
        evaluateAny e sawUnavailable children
  | [] => by cases sawUnavailable <;> rfl
  | child :: rest => by
    rw [evaluateChildren, evaluateAny, ← evaluateWithSignaturePath_fst e child]
    cases hstate : child.evaluateWithSignaturePath e with
    | mk state childBound =>
      cases state with
      | isMatch => exact foldAny_isMatch.mpr (.inr ⟨_, mem_cons_self, rfl⟩)
      | noMatch | unavailable => exact foldAny_fst e rest
end

/-! ### Selected leaves -/

/-- One child of each `any` and every child of each `all`. -/
inductive Selects : EvidenceExpression → List EvidencePredicate → Prop
  | leaf (predicate : EvidencePredicate) : Selects (.leaf predicate) [predicate]
  | all {children : List EvidenceExpression} {parts : List (List EvidencePredicate)} :
      List.Forall₂ Selects children parts → Selects (.all children) parts.flatten
  | any {children : List EvidenceExpression} {child : EvidenceExpression}
      {leaves : List EvidencePredicate} :
      child ∈ children → Selects child leaves → Selects (.any children) leaves

structure MatchingPath (e : EvidenceSnapshot) (expr : EvidenceExpression) (signed : Bool)
    (leaves : List EvidencePredicate) : Prop where
  selects : Selects expr leaves
  matching : ∀ predicate ∈ leaves, e.evaluate predicate = .isMatch
  signature : signed = true → ∃ predicate ∈ leaves, isSignatureKeyPredicate predicate = true

theorem EvidenceExpression.induct {P : EvidenceExpression → Prop}
    (leaf : ∀ predicate, P (.leaf predicate))
    (all : ∀ children : List EvidenceExpression, (∀ child ∈ children, P child) → P (.all children))
    (any : ∀ children : List EvidenceExpression, (∀ child ∈ children, P child) → P (.any children))
    (expr : EvidenceExpression) : P expr :=
  @rec P (fun children => ∀ child ∈ children, P child) all any leaf nofun
    (fun _ _ hchild hrest => forall_mem_cons.mpr ⟨hchild, hrest⟩) expr

theorem evaluateChildren_eq_map (e : EvidenceSnapshot) (children : List EvidenceExpression) :
    evaluateChildren e children = children.map (·.evaluateWithSignaturePath e) := by
  induction children with
  | nil => rfl
  | cons child rest ih => rw [evaluateChildren, ih, map_cons]

def PathExact (e : EvidenceSnapshot) (expr : EvidenceExpression) : Prop :=
  ∀ signed, (∃ leaves, MatchingPath e expr signed leaves) ↔
    (expr.evaluateWithSignaturePath e).1 = .isMatch ∧
      (signed = true → (expr.evaluateWithSignaturePath e).2 = true)

theorem pathExact_leaf (predicate : EvidencePredicate) : PathExact e (.leaf predicate) := by
  intro signed
  rw [evaluateWithSignaturePath]
  constructor
  · rintro ⟨_, hselects, hmatching, hsignature⟩
    cases hselects
    simpa using And.intro hmatching hsignature
  · rintro ⟨hmatching, hsignature⟩
    exact ⟨_, .leaf predicate, by simpa using hmatching, by simpa using hsignature⟩

variable {children : List EvidenceExpression}

theorem pathExact_all (ih : ∀ child ∈ children, PathExact e child) :
    PathExact e (.all children) := by
  intro signed
  rw [evaluateWithSignaturePath, evaluateChildren_eq_map]
  constructor
  · rintro ⟨_, hselects, hmatching, hsignature⟩
    cases hselects with
    | @all _ parts hparts =>
      have hpart : ∀ part ∈ parts, ∀ predicate ∈ part, e.evaluate predicate = .isMatch :=
        fun part hpart predicate hpredicate =>
          hmatching predicate (mem_flatten.mpr ⟨part, hpart, hpredicate⟩)
      have hall : (foldAll (children.map (·.evaluateWithSignaturePath e)) .isMatch false).1 =
          .isMatch := by
        refine foldAll_isMatch.mpr ⟨rfl, forall_mem_map.mpr ?_⟩
        intro child hchild
        obtain ⟨part, hmem, hselects⟩ := exists_right_of_forall₂ hparts hchild
        exact ((ih child hchild false).mp ⟨part, hselects, hpart part hmem, by simp⟩).1
      refine ⟨hall, fun hsigned => (foldAll_bound hall).mpr (.inr ?_)⟩
      obtain ⟨predicate, hpredicate, hkey⟩ := hsignature hsigned
      obtain ⟨part, hmem, hin⟩ := mem_flatten.mp hpredicate
      obtain ⟨child, hchild, hselects⟩ := exists_right_of_forall₂ hparts.flip hmem
      refine ⟨_, mem_map_of_mem hchild, ?_⟩
      exact ((ih child hchild true).mp
        ⟨part, hselects, hpart part hmem, fun _ => ⟨predicate, hin, hkey⟩⟩).2 rfl
  · rintro ⟨hall, hbound⟩
    have hmatch := forall_mem_map.mp (foldAll_isMatch.mp hall).2
    -- each child is asked for a signature leaf exactly when its own path has one
    obtain ⟨parts, hparts⟩ : ∃ parts, List.Forall₂ (fun child part =>
        MatchingPath e child (child.evaluateWithSignaturePath e).2 part) children parts :=
      exists_forall₂ fun child hchild => (ih child hchild _).mpr ⟨hmatch child hchild, id⟩
    refine ⟨parts.flatten, .all (hparts.imp fun _ _ h => h.selects), ?_, ?_⟩
    · intro predicate hpredicate
      obtain ⟨part, hmem, hin⟩ := mem_flatten.mp hpredicate
      obtain ⟨child, -, hpath⟩ := exists_right_of_forall₂ hparts.flip hmem
      exact hpath.matching predicate hin
    · intro hsigned
      rcases (foldAll_bound hall).mp (hbound hsigned) with hfalse | ⟨_, hx, hsnd⟩
      · cases hfalse
      · obtain ⟨child, hchild, rfl⟩ := mem_map.mp hx
        obtain ⟨part, hmem, hpath⟩ := exists_right_of_forall₂ hparts hchild
        obtain ⟨predicate, hin, hkey⟩ := hpath.signature hsnd
        exact ⟨predicate, mem_flatten.mpr ⟨part, hmem, hin⟩, hkey⟩

theorem pathExact_any (ih : ∀ child ∈ children, PathExact e child) :
    PathExact e (.any children) := by
  intro signed
  rw [evaluateWithSignaturePath, evaluateChildren_eq_map]
  constructor
  · rintro ⟨leaves, hselects, hmatching, hsignature⟩
    cases hselects with
    | any hchild hselects =>
      obtain ⟨hmatch, hbound⟩ := (ih _ hchild signed).mp ⟨_, hselects, hmatching, hsignature⟩
      have hany : (foldAny (children.map (·.evaluateWithSignaturePath e)) false false false).1 =
          .isMatch := foldAny_isMatch.mpr (.inr ⟨_, mem_map_of_mem hchild, hmatch⟩)
      exact ⟨hany, fun hsigned =>
        (foldAny_bound hany).mpr (.inr ⟨_, mem_map_of_mem hchild, hmatch, hbound hsigned⟩)⟩
  · rintro ⟨hany, hbound⟩
    obtain ⟨child, hchild, hpath⟩ : ∃ child ∈ children,
        (child.evaluateWithSignaturePath e).1 = .isMatch ∧
          (signed = true → (child.evaluateWithSignaturePath e).2 = true) := by
      cases signed with
      | false => simpa [mem_map] using foldAny_isMatch.mp hany
      | true => simpa [mem_map] using (foldAny_bound hany).mp (hbound rfl)
    obtain ⟨leaves, hselects, hmatching, hsignature⟩ := (ih child hchild signed).mpr hpath
    exact ⟨leaves, .any hchild hselects, hmatching, hsignature⟩

theorem pathExact (expr : EvidenceExpression) : PathExact e expr :=
  induct pathExact_leaf (fun _ => pathExact_all) (fun _ => pathExact_any) expr

/-! ### More evidence -/

structure Settles (a b : EvidenceState × Bool) : Prop where
  state : a.1 ≠ .unavailable → b.1 = a.1
  bound : a.1 = .isMatch → a.2 = true → b.2 = true

theorem MatchingPath.extends {expr : EvidenceExpression} {signed : Bool} {leaves : List EvidencePredicate}
    (h : Extends e e') (hpath : MatchingPath e expr signed leaves) :
    MatchingPath e' expr signed leaves where
  selects := hpath.selects
  matching predicate hpredicate := by
    have hmatch := hpath.matching predicate hpredicate
    rw [evaluate_extends h predicate (by rw [hmatch]; decide), hmatch]
  signature := hpath.signature

theorem noMatch_extends (h : Extends e e') (expr : EvidenceExpression) :
    (expr.evaluateWithSignaturePath e).1 = .noMatch →
      (expr.evaluateWithSignaturePath e').1 = .noMatch := by
  induction expr using induct with
  | leaf predicate =>
    intro hno
    have hstate : e.evaluate predicate = .noMatch := hno
    exact (evaluate_extends h predicate (by rw [hstate]; decide)).trans hstate
  | all children ih =>
    simp only [evaluateWithSignaturePath, evaluateChildren_eq_map,
      foldAll_noMatch (show EvidenceState.isMatch ≠ .noMatch by decide), mem_map,
      exists_exists_and_eq_and]
    rintro ⟨child, hchild, hno⟩
    exact ⟨child, hchild, ih child hchild hno⟩
  | any children ih =>
    simp only [evaluateWithSignaturePath, evaluateChildren_eq_map, foldAny_noMatch,
      forall_mem_map, true_and]
    intro hno child hchild
    exact ih child hchild (hno child hchild)

/-- A matching path stays one, whatever else becomes known. -/
theorem settles_expression (h : Extends e e') (expr : EvidenceExpression) :
    Settles (expr.evaluateWithSignaturePath e) (expr.evaluateWithSignaturePath e') where
  state := by
    intro hdefinite
    cases hstate : (expr.evaluateWithSignaturePath e).1 with
    | isMatch =>
      obtain ⟨leaves, hpath⟩ := (pathExact expr false).mpr ⟨hstate, nofun⟩
      exact ((pathExact expr false).mp ⟨leaves, hpath.extends h⟩).1
    | noMatch => exact noMatch_extends h expr hstate
    | unavailable => exact absurd hstate hdefinite
  bound := by
    intro hmatch hbound
    obtain ⟨leaves, hpath⟩ := (pathExact expr true).mpr ⟨hmatch, fun _ => hbound⟩
    exact ((pathExact expr true).mp ⟨leaves, hpath.extends h⟩).2 rfl

/-! ### Resolution -/

/-- The subject matches a signed snapshot, but by no signed path. -/
def MatchesUnsigned (e : EvidenceSnapshot) (expr : EvidenceExpression) : Prop :=
  e.invocationSignatureKey.isSome = true ∧ expr.evaluateWithSignaturePath e = (.isMatch, false)

theorem evaluateForResolution_eq (expr : EvidenceExpression) (e : EvidenceSnapshot) :
    expr.evaluateForResolution e =
      if e.invocationSignatureKey.isSome = true ∧ (expr.evaluateWithSignaturePath e).1 = .isMatch ∧
          (expr.evaluateWithSignaturePath e).2 = false then .noMatch
      else (expr.evaluateWithSignaturePath e).1 := by
  simp [evaluateForResolution, and_assoc]

theorem evaluate_path_and_refinement (expr : EvidenceExpression) (e : EvidenceSnapshot) :
    (expr.evaluateWithSignaturePath e).1 = expr.evaluate e ∧
    (e.invocationSignatureKey.isSome = true →
      (expr.evaluateForResolution e = .isMatch ↔
        ∃ leaves, Selects expr leaves ∧ (∀ predicate ∈ leaves, e.evaluate predicate = .isMatch) ∧
          ∃ predicate ∈ leaves, isSignatureKeyPredicate predicate = true)) ∧
    ∀ e', Extends e e' → expr.evaluate e ≠ .unavailable → expr.evaluate e' = expr.evaluate e := by
  refine ⟨evaluateWithSignaturePath_fst e expr, ?_, ?_⟩
  · intro hkey
    have hpath := pathExact (e := e) expr true
    constructor
    · intro hmatch
      rw [evaluateForResolution_eq] at hmatch
      split at hmatch
      · cases hmatch
      · next hsigned =>
        have hbound : (expr.evaluateWithSignaturePath e).2 = true := by
          by_contra hunbound
          exact hsigned ⟨hkey, hmatch, by simpa using hunbound⟩
        obtain ⟨leaves, hselects, hmatching, hsignature⟩ := hpath.mpr ⟨hmatch, fun _ => hbound⟩
        exact ⟨leaves, hselects, hmatching, hsignature rfl⟩
    · rintro ⟨leaves, hselects, hmatching, hsignature⟩
      obtain ⟨hmatch, hbound⟩ := hpath.mp ⟨leaves, hselects, hmatching, fun _ => hsignature⟩
      rw [evaluateForResolution_eq, if_neg (by simp [hbound rfl]), hmatch]
  · intro e' hextends hdefinite
    rw [← evaluateWithSignaturePath_fst] at hdefinite ⊢
    rw [(settles_expression hextends expr).state hdefinite, evaluateWithSignaturePath_fst]

theorem evaluateForResolution_refines (h : Refines e e') {expr : EvidenceExpression}
    (hdefinite : expr.evaluateForResolution e ≠ .unavailable)
    (hpath : MatchesUnsigned e expr → (expr.evaluateWithSignaturePath e').2 = false) :
    expr.evaluateForResolution e' = expr.evaluateForResolution e := by
  have hsettles := settles_expression h.extends expr
  rw [evaluateForResolution_eq] at hdefinite
  rw [evaluateForResolution_eq, evaluateForResolution_eq, h.signatureKey]
  by_cases hunsigned : e.invocationSignatureKey.isSome = true ∧
      (expr.evaluateWithSignaturePath e).1 = .isMatch ∧ (expr.evaluateWithSignaturePath e).2 = false
  · have hstate := hsettles.state (by rw [hunsigned.2.1]; decide)
    have hbound := hpath ⟨hunsigned.1, Prod.ext hunsigned.2.1 hunsigned.2.2⟩
    rw [if_pos hunsigned, if_pos ⟨hunsigned.1, hstate.trans hunsigned.2.1, hbound⟩]
  · rw [if_neg hunsigned] at hdefinite ⊢
    have hstate := hsettles.state hdefinite
    rw [hstate, if_neg]
    rintro ⟨hkey, hmatch, hbound⟩
    have hsigned : (expr.evaluateWithSignaturePath e).2 = true := by
      cases hflag : (expr.evaluateWithSignaturePath e).2 with
      | true => rfl
      | false => exact absurd ⟨hkey, hmatch, hflag⟩ hunsigned
    rw [hsettles.bound hmatch hsigned] at hbound
    cases hbound

def Resolves (subjects : OrdMap String SubjectDefinition) (e : EvidenceSnapshot) (name : String) : Prop :=
  ∃ resolution, resolveSubject subjects e = .ok resolution ∧ resolution.subject = some name

variable {subjects : OrdMap String SubjectDefinition} {name : String}

theorem resolveSubject_domain {resolution : SubjectResolution}
    (h : resolveSubject subjects e = .ok resolution) : e.domain = some resolution.domain := by
  unfold resolveSubject at h
  split at h
  · cases h
  · next domain hdomain =>
    dsimp only at h
    split at h
    · cases h
    split at h
    · cases h
    split at h <;> cases h
    exact hdomain

theorem resolves_iff :
    Resolves subjects e name ↔ ∃ domain, e.domain = some domain ∧
      subjectsInState subjects e domain .isMatch = [name] ∧
      subjectsInState subjects e domain .unavailable = [] := by
  unfold Resolves resolveSubject
  cases hdomain : e.domain with
  | none => simp
  | some domain =>
    simp only [Option.some.injEq, exists_eq_left']
    constructor
    · rintro ⟨_, hok, hsubject⟩
      by_cases hmany : 1 < (subjectsInState subjects e domain .isMatch).length
      · rw [if_pos hmany] at hok
        cases hok
      by_cases hopen : 0 < (subjectsInState subjects e domain .unavailable).length
      · rw [if_neg hmany, if_pos hopen] at hok
        cases hok
      by_cases hnone : (subjectsInState subjects e domain .isMatch).length = 0
      · rw [if_neg hmany, if_neg hopen, if_pos hnone] at hok
        cases hok
      rw [if_neg hmany, if_neg hopen, if_neg hnone] at hok
      have hone : (subjectsInState subjects e domain .isMatch).length = 1 := by omega
      have hclosed : (subjectsInState subjects e domain .unavailable).length = 0 := by omega
      cases hok
      obtain ⟨only, honly⟩ := length_eq_one_iff.mp hone
      have hsame : only = name := by simpa [honly, hclosed, maxReportedSubjects] using hsubject
      exact ⟨by rw [honly, hsame], length_eq_zero_iff.mp hclosed⟩
    · rintro ⟨hmatch, hopen⟩
      simp [hmatch, hopen, maxReportedSubjects]

theorem mem_subjectsInState {domain : AuthorizationDomain} {state : EvidenceState} :
    name ∈ subjectsInState subjects e domain state ↔
      ∃ definition, (name, definition) ∈ subjects.entries ∧ definition.domain = domain ∧
        definition.matchExpr.evaluateForResolution e = state := by
  simp [subjectsInState]

def SignedPathsSettled (subjects : OrdMap String SubjectDefinition) (e : EvidenceSnapshot) : Prop :=
  ∀ name definition, (name, definition) ∈ subjects.entries → e.domain = some definition.domain →
    MatchesUnsigned e definition.matchExpr →
    ∀ e', Refines e e' → (definition.matchExpr.evaluateWithSignaturePath e').2 = false

theorem subjectsInState_refines {domain : AuthorizationDomain} (h : Refines e e')
    (hdomain : e.domain = some domain) (hopen : subjectsInState subjects e domain .unavailable = [])
    (hsettled : SignedPathsSettled subjects e) (state : EvidenceState) :
    subjectsInState subjects e' domain state = subjectsInState subjects e domain state := by
  unfold subjectsInState
  congr 1
  apply filter_congr
  intro entry hentry
  by_cases heligible : entry.2.domain = domain
  · have hdefinite : entry.2.matchExpr.evaluateForResolution e ≠ .unavailable := by
      intro hunavailable
      have hmem : entry.1 ∈ subjectsInState subjects e domain .unavailable :=
        mem_subjectsInState.mpr ⟨entry.2, hentry, heligible, hunavailable⟩
      rw [hopen] at hmem
      cases hmem
    rw [evaluateForResolution_refines h hdefinite]
    intro hunsigned
    exact hsettled entry.1 entry.2 hentry (by rw [heligible]; exact hdomain) hunsigned e' h
  · have hskip : (entry.2.domain == domain) = false := beq_eq_false_iff_ne.mpr heligible
    rw [hskip, Bool.false_and, Bool.false_and]

theorem resolves_of_settled (hresolves : Resolves subjects e name) (hsettled : SignedPathsSettled subjects e)
    (h : Refines e e') : Resolves subjects e' name := by
  obtain ⟨domain, hdomain, hmatch, hopen⟩ := resolves_iff.mp hresolves
  have hsame := subjectsInState_refines h hdomain hopen hsettled
  exact resolves_iff.mpr ⟨domain, h.domain domain hdomain, by rw [hsame, hmatch], by rw [hsame, hopen]⟩

theorem settled_of_resolves (hresolves : Resolves subjects e name)
    (hstable : ∀ e', Refines e e' → Resolves subjects e' name) : SignedPathsSettled subjects e := by
  intro other definition hentry hdomain ⟨hkey, hunsigned⟩ e' h
  by_contra hsigned
  have hbound : (definition.matchExpr.evaluateWithSignaturePath e').2 = true := by simpa using hsigned
  have hstate := (settles_expression h.extends definition.matchExpr).state (by rw [hunsigned]; decide)
  -- in the refinement the other subject is the resolved one
  obtain ⟨domain', hdomain', hmatch', -⟩ := resolves_iff.mp (hstable e' h)
  have hdomainEq : definition.domain = domain' := by
    rw [h.domain _ hdomain] at hdomain'
    exact Option.some.inj hdomain'
  have hother : other ∈ subjectsInState subjects e' domain' .isMatch := by
    refine mem_subjectsInState.mpr ⟨definition, hentry, hdomainEq, ?_⟩
    rw [evaluateForResolution_eq, if_neg (by simp [hbound]), hstate, hunsigned]
  rw [hmatch', mem_singleton] at hother
  subst hother
  -- but before it was not
  obtain ⟨domain, -, hmatch, -⟩ := resolves_iff.mp hresolves
  have hmem : other ∈ subjectsInState subjects e domain .isMatch := by rw [hmatch]; simp
  obtain ⟨definition', hentry', -, hresolved⟩ := mem_subjectsInState.mp hmem
  have hsame : definition' = definition := by
    have hget := OrdMap.get?_eq_some_iff.mpr hentry
    rw [OrdMap.get?_eq_some_iff.mpr hentry'] at hget
    exact Option.some.inj hget
  rw [hsame, evaluateForResolution_eq, if_pos ⟨hkey, by rw [hunsigned], by rw [hunsigned]⟩] at hresolved
  cases hresolved

theorem resolution_stable_iff (hresolves : Resolves subjects e name) :
    (∀ e', Refines e e' → Resolves subjects e' name) ↔ SignedPathsSettled subjects e :=
  ⟨settled_of_resolves hresolves, fun hsettled _ h => resolves_of_settled hresolves hsettled h⟩

/-! Two subjects over one signature key: one is bound to it, the other may be reached by
uid alone or by the key together with an executable digest. -/

def jobKey : EvidenceExpression := .leaf (.invocationSignatureKey .ed25519 "job-key")

def signedJob : SubjectDefinition := ⟨.hostProcess, false, jobKey⟩

def pinnedJob : SubjectDefinition :=
  ⟨.hostProcess, false, .any [.leaf (.processUid (.numeric 9100)),
    .all [jobKey, .leaf (.processExecutableDigest "sha256:aa")]]⟩

def jobSnapshot (digest : Option String) : EvidenceSnapshot where
  domain := some .hostProcess
  process := ⟨some (.uniform 9100), none, none, digest⟩
  systemd := none
  invocationSignatureKey := some ⟨.ed25519, "job-key"⟩

def plainJob : SubjectDefinition := ⟨.hostProcess, false, .leaf (.processUid (.numeric 9100))⟩

def signedAndPlain : OrdMap String SubjectDefinition :=
  ⟨[("job.plain", plainJob), ("job.signed", signedJob)], by decide⟩

def signedAndPinned : OrdMap String SubjectDefinition :=
  ⟨[("job.pinned", pinnedJob), ("job.signed", signedJob)], by decide⟩

theorem resolution_stable_signed :
    Resolves signedAndPlain (jobSnapshot none) "job.signed" ∧
      MatchesUnsigned (jobSnapshot none) plainJob.matchExpr ∧
      ∀ e', Refines (jobSnapshot none) e' → Resolves signedAndPlain e' "job.signed" := by
  have hresolves : Resolves signedAndPlain (jobSnapshot none) "job.signed" := ⟨_, rfl, rfl⟩
  refine ⟨hresolves, ⟨rfl, rfl⟩, (resolution_stable_iff hresolves).mpr ?_⟩
  rintro _ _ hentry - ⟨-, hunsigned⟩
  rcases mem_cons.mp hentry with hplain | hsigned
  · cases hplain
    exact fun _ _ => rfl
  · cases mem_singleton.mp hsigned
    cases hunsigned

theorem missing_digest_resolves :
    Refines (jobSnapshot none) (jobSnapshot (some "sha256:aa")) ∧
      Resolves signedAndPinned (jobSnapshot none) "job.signed" ∧
      (∃ resolution, resolveSubject signedAndPinned (jobSnapshot (some "sha256:aa")) =
        .error (.ambiguousSubject resolution)) ∧
      ¬ ∀ name, Resolves signedAndPinned (jobSnapshot none) name → ∀ e', Refines (jobSnapshot none) e' →
        Resolves signedAndPinned e' name := by
  have hrefines : Refines (jobSnapshot none) (jobSnapshot (some "sha256:aa")) :=
    ⟨fun _ h => h, fun _ h => h, fun _ h => h, fun _ h => h, nofun, fun _ h => h, rfl⟩
  have hresolves : Resolves signedAndPinned (jobSnapshot none) "job.signed" := ⟨_, rfl, rfl⟩
  refine ⟨hrefines, hresolves, ⟨_, rfl⟩, ?_⟩
  intro hstable
  obtain ⟨resolution, hok, -⟩ := hstable "job.signed" hresolves _ hrefines
  cases hok

end Basil.Evidence
