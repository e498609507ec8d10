import Basil.PolicyDocument

/-!
# Targets and subjects of a policy document (`core/catalog/glob.rs`, `core/catalog/loader.rs`)
-/

namespace Basil

/-! ### Target globs -/

namespace KeyGlob

def literalsMatch (lead : List GlobSeg) (key : List String) : Bool :=
  (lead.zip key).all fun e =>
    match e with
    | (.literal lit, k) => lit == k
    | (.star, _) | (.doubleStar, _) => false

def lastMatches (last : GlobSeg) (tail : List String) : Bool :=
  match last with
  | .star => tail.length == 1
  | .doubleStar => !tail.isEmpty
  | .literal lit => tail.length == 1 && tail.head? == some lit

/-- `pattern_matches` as the source has it; `patternMatches` is its recursive form. -/
def splitLastMatches (segs : List GlobSeg) (key : List String) : Bool :=
  match segs.getLast? with
  | none => false
  | some last =>
    let lead := segs.dropLast
    decide (lead.length ≤ key.length) && literalsMatch lead key &&
      lastMatches last (key.drop lead.length)

theorem patternMatches_singleton (seg : GlobSeg) (key : List String) :
    patternMatches [seg] key = lastMatches seg key := by
  cases seg with
  | star => rfl
  | doubleStar => rfl
  | literal =>
    rw [patternMatches, lastMatches, Bool.eq_iff_iff]
    cases key with
    | nil => simp
    | cons k rest => cases rest <;> simp

theorem splitLastMatches_cons (seg next : GlobSeg) (segs : List GlobSeg) (key : List String) :
    splitLastMatches (seg :: next :: segs) key =
      match seg, key with
      | .literal lit, k :: rest => lit == k && splitLastMatches (next :: segs) rest
      | _, _ => false := by
  obtain ⟨last, hlast⟩ : ∃ last, (next :: segs).getLast? = some last :=
    ⟨_, List.getLast?_eq_some_getLast (List.cons_ne_nil next segs)⟩
  have hlast' : (seg :: next :: segs).getLast? = some last := by simp [← hlast]
  simp only [splitLastMatches, hlast, hlast', List.dropLast_cons_cons]
  cases key with
  | nil => cases seg <;> simp
  | cons k rest =>
    cases seg <;> simp [literalsMatch, Bool.and_assoc, Bool.and_left_comm]

theorem splitLastMatches_eq (segs : List GlobSeg) (key : List String) :
    splitLastMatches segs key = patternMatches segs key := by
  induction segs generalizing key with
  | nil => rfl
  | cons seg segs ih =>
    cases segs with
    | nil =>
      rw [patternMatches_singleton]
      simp [splitLastMatches, literalsMatch]
    | cons next segs =>
      rw [splitLastMatches_cons]
      cases seg with
      | star => rfl
      | doubleStar => rfl
      | literal =>
        cases key with
        | nil => rfl
        | cons k rest => simp [patternMatches, ih]

theorem map_segSource {term : String} {raws : List String} {segs : List GlobSeg}
    (h : parseSegs term raws = .ok segs) : segs.map segSource = raws := by
  induction raws generalizing segs with
  | nil =>
    cases h
    rfl
  | cons seg rest ih =>
    simp only [parseSegs, eq_ok] at h
    obtain ⟨parsed, hparsed, _, htail, rfl⟩ := h
    have hseg : segSource parsed = seg := by
      rcases parseSeg_ok hparsed with ⟨rfl, -, rfl⟩ | ⟨rfl, -, rfl⟩ | ⟨-, -, rfl⟩ <;> rfl
    rw [List.map_cons, hseg, ih htail]

theorem source_eq {term : String} {g : KeyGlob} (h : parse term = .ok g) : g.source = term := by
  unfold parse at h
  split at h
  · next hany =>
    cases h
    exact hany.symm
  · split at h
    · cases h
    · simp only [eq_ok] at h
      obtain ⟨_, hsegs, rfl⟩ := h
      rw [source, map_segSource hsegs]
      exact Text.intercalate_split '.' term

theorem matchesAll_iff_names {term : String} {g : KeyGlob} (h : parse term = .ok g) :
    g.matchesAll = true ↔ ∀ name, Loader.validateKeyName name = .ok () → g.matchesKey name = true := by
  constructor
  · intro hall name _
    exact (matchesKey_iff h name).mpr ((matchesAll_iff h).mp hall name)
  · intro hnames
    cases g with
    | anyKey => rfl
    | pattern segs =>
      have hone : patternMatches segs ["a"] = true := hnames "a" rfl
      have htwo : patternMatches segs ["a", "b"] = true := hnames "a.b" rfl
      simp [matchesAll, eq_doubleStar hone htwo]

theorem glob_terms {term : String} {g : KeyGlob} (h : parse term = .ok g) :
    parse g.source = .ok g ∧
    (∀ key, g.matchesKey key = true ↔ TargetMatches term key) ∧
    (∀ segs key, g = .pattern segs →
      g.matchesKey key = splitLastMatches segs (Text.split '.' key)) ∧
    (g.matchesAll = true ↔
      ∀ name, Loader.validateKeyName name = .ok () → g.matchesKey name = true) := by
  refine ⟨by rw [source_eq h, h], matchesKey_iff h, ?_, matchesAll_iff_names h⟩
  rintro segs key rfl
  rw [splitLastMatches_eq]
  rfl

theorem glob_terms_tail :
    parse "grafana.**" = .ok (.pattern [.literal "grafana", .doubleStar]) ∧
      parse (source (.pattern [.literal "grafana", .doubleStar])) =
        .ok (.pattern [.literal "grafana", .doubleStar]) := by
  have hparse : parse "grafana.**" = .ok (.pattern [.literal "grafana", .doubleStar]) := by decide
  exact ⟨hparse, (glob_terms hparse).1⟩

end KeyGlob

/-! ### Subject expressions -/

namespace Loader

open Evidence Jwt

section Expressions

variable (env : LoadEnv) (subject : String) (domain : AuthorizationDomain)

mutual
/-- The raw value and the tree have one shape: each group is non-empty and each leaf is a
predicate of the domain, in the same order. -/
inductive Spells : JsonValue → EvidenceExpression → Prop
  | all {children : List JsonValue} {trees : List EvidenceExpression} :
      children ≠ [] → SpellsAll children trees →
      Spells (.obj [("all", .arr children)]) (.all trees)
  | any {children : List JsonValue} {trees : List EvidenceExpression} :
      children ≠ [] → SpellsAll children trees →
      Spells (.obj [("any", .arr children)]) (.any trees)
  | leaf {key : String} {value : JsonValue} {predicate : EvidencePredicate} :
      key ≠ "all" → key ≠ "any" → compilePredicate env subject domain key value = .ok predicate →
      Spells (.obj [(key, value)]) (.leaf predicate)

inductive SpellsAll : List JsonValue → List EvidenceExpression → Prop
  | nil : SpellsAll [] []
  | cons {child : JsonValue} {tree : EvidenceExpression} {rest : List JsonValue}
      {trees : List EvidenceExpression} :
      Spells child tree → SpellsAll rest trees → SpellsAll (child :: rest) (tree :: trees)
end

variable {env subject domain}

theorem compileExpressionNode_leaf {key : String} {value : JsonValue} {depth leaves leaves' : Nat}
    {tree : EvidenceExpression} (hkey : ¬(key = "all" ∨ key = "any"))
    (hdepth : depth ≤ maxExpressionDepth) :
    compileExpressionNode env subject domain (.obj [(key, value)]) depth leaves =
        .ok (tree, leaves') ↔
      Spells env subject domain (.obj [(key, value)]) tree ∧
        depth + tree.depth ≤ maxExpressionDepth ∧ leaves' = leaves + tree.leafCount ∧
        leaves' ≤ maxExpressionLeaves := by
  obtain ⟨hall, hany⟩ := not_or.mp hkey
  unfold compileExpressionNode
  rw [if_neg hkey]
  simp only [eq_ok, Prod.mk.injEq]
  constructor
  · rintro ⟨-, hcount, _, hpredicate, rfl, rfl⟩
    exact ⟨.leaf hall hany hpredicate, hdepth, rfl, hcount⟩
  · rintro ⟨hspells, -, rfl, hcount⟩
    cases hspells with
    | all => exact absurd rfl hall
    | any => exact absurd rfl hany
    | leaf _ _ hpredicate => exact ⟨(), hcount, _, hpredicate, rfl, rfl⟩

mutual
theorem compileExpressionNode_ok_iff (value : JsonValue) {depth leaves leaves' : Nat}
    {tree : EvidenceExpression} (hdepth : depth ≤ maxExpressionDepth)
    (hleaves : leaves ≤ maxExpressionLeaves) :
    compileExpressionNode env subject domain value depth leaves = .ok (tree, leaves') ↔
      Spells env subject domain value tree ∧ depth + tree.depth ≤ maxExpressionDepth ∧
        leaves' = leaves + tree.leafCount ∧ leaves' ≤ maxExpressionLeaves := by
  match value with
  | .obj [(key, inner)] =>
    by_cases hgroup : key = "all" ∨ key = "any"
    · match inner with
      | .arr children =>
        simp only [compileExpressionNode, if_pos hgroup, eq_ok, Prod.exists, Prod.mk.injEq]
        constructor
        · rintro ⟨-, hdeep, -, hsome, trees, _, hchildren, rfl, rfl⟩
          obtain ⟨htrees, hbound, hcount, hlast⟩ :=
            (compileChildren_ok_iff children hdeep hleaves).mp hchildren
          have hne : children ≠ [] := by simpa using hsome
          have hnest : depth + (1 + maxDepth trees) ≤ maxExpressionDepth := by omega
          rcases hgroup with rfl | rfl
          · exact ⟨.all hne htrees, hnest, hcount, hlast⟩
          · exact ⟨.any hne htrees, hnest, hcount, hlast⟩
        · rintro ⟨hspells, hbound, rfl, hlast⟩
          cases hspells with
          | all hne htrees | any hne htrees =>
            simp only [EvidenceExpression.depth, EvidenceExpression.leafCount] at hbound hlast ⊢
            have hchildren := (compileChildren_ok_iff children (by omega) hleaves).mpr
              ⟨htrees, Nat.add_assoc depth 1 _ ▸ hbound, rfl, hlast⟩
            exact ⟨(), by omega, (), by simpa using hne, _, _, hchildren, rfl, rfl⟩
          | leaf hall hany => exact absurd hgroup (by simp [hall, hany])
      | .null | .bool _ | .num _ | .str _ | .obj _ =>
        simp only [compileExpressionNode, if_pos hgroup, bind_eq_ok]
        constructor
        · rintro ⟨-, -, hnone⟩
          cases hnone
        · rintro ⟨hspells, -⟩
          cases hspells with
          | leaf hall hany => exact absurd hgroup (by simp [hall, hany])
    · exact compileExpressionNode_leaf hgroup hdepth
  | .null | .bool _ | .num _ | .str _ | .arr _ | .obj [] | .obj (_ :: _ :: _) =>
    -- no node of the tree is spelled this way
    constructor
    · intro hnone
      simp [compileExpressionNode, invalidExpression] at hnone
    · rintro ⟨hspells, -⟩
      cases hspells

theorem compileChildren_ok_iff (children : List JsonValue) {depth leaves leaves' : Nat}
    {trees : List EvidenceExpression} (hdepth : depth ≤ maxExpressionDepth)
    (hleaves : leaves ≤ maxExpressionLeaves) :
    compileChildren env subject domain children depth leaves = .ok (trees, leaves') ↔
      SpellsAll env subject domain children trees ∧ depth + maxDepth trees ≤ maxExpressionDepth ∧
        leaves' = leaves + totalLeaves trees ∧ leaves' ≤ maxExpressionLeaves := by
  match children with
  | [] =>
    simp only [compileChildren, Except.ok.injEq, Prod.mk.injEq]
    constructor
    · rintro ⟨rfl, rfl⟩
      exact ⟨.nil, by simpa [maxDepth] using hdepth, by simp [totalLeaves], hleaves⟩
    · rintro ⟨hspells, -, rfl, -⟩
      cases hspells
      exact ⟨rfl, rfl⟩
  | child :: rest =>
    simp only [compileChildren, eq_ok, Prod.exists, Prod.mk.injEq]
    constructor
    · rintro ⟨tree, _, hchild, more, _, hrest, rfl, rfl⟩
      obtain ⟨htree, hdeep, rfl, hmiddle⟩ :=
        (compileExpressionNode_ok_iff child hdepth hleaves).mp hchild
      obtain ⟨hmore, _, rfl, hlast⟩ := (compileChildren_ok_iff rest hdepth hmiddle).mp hrest
      refine ⟨.cons htree hmore, ?_, ?_, hlast⟩
      · simp only [maxDepth]
        omega
      · simp only [totalLeaves]
        omega
    · rintro ⟨hspells, hdeep, rfl, hlast⟩
      cases hspells with
      | cons htree hmore =>
        next tree more =>
        simp only [maxDepth, totalLeaves] at hdeep hlast ⊢
        have hmiddle : leaves + tree.leafCount ≤ maxExpressionLeaves := by omega
        refine ⟨tree, _, (compileExpressionNode_ok_iff child hdepth hleaves).mpr
          ⟨htree, by omega, rfl, hmiddle⟩, more, _, (compileChildren_ok_iff rest hdepth hmiddle).mpr
          ⟨hmore, by omega, rfl, by omega⟩, rfl, by omega⟩
end

theorem compileExpression_ok_iff {value : JsonValue} {tree : EvidenceExpression} :
    compileExpression env subject domain value = .ok tree ↔
      Spells env subject domain value tree ∧ tree.depth ≤ 8 ∧ tree.leafCount ≤ 64 := by
  have hnode := fun leaves => @compileExpressionNode_ok_iff env subject domain value 0 0 leaves tree
    (Nat.zero_le _) (Nat.zero_le _)
  simp only [Nat.zero_add] at hnode
  simp only [compileExpression, eq_ok, Prod.exists]
  constructor
  · rintro ⟨_, leaves, hcompiled, rfl⟩
    obtain ⟨hspells, hdepth, rfl, hleaves⟩ := (hnode leaves).mp hcompiled
    exact ⟨hspells, hdepth, hleaves⟩
  · rintro ⟨hspells, hdepth, hleaves⟩
    exact ⟨tree, _, (hnode _).mpr ⟨hspells, hdepth, rfl, hleaves⟩, rfl⟩

end Expressions

end Loader

/-! ### The subject registry -/

namespace Document

open Evidence Loader

section Registry

variable {env : LoadEnv} {catalog : Catalog} {raw : RawPolicy} {loaded : Loaded}

/-- Every subject definition of the document is the one registered under its trimmed name, and
every subject that a rule names is registered. -/
structure Represents (env : LoadEnv) (raw : RawPolicy) (subjects : OrdMap String SubjectDefinition) :
    Prop where
  count : subjects.entries.length = raw.subjects.entries.length
  definitions : ∀ e ∈ raw.subjects.entries, ∃ tree,
    compileExpression env (Text.trim e.1) e.2.domain e.2.matchExpr = .ok tree ∧
      subjects.get? (Text.trim e.1) = some ⟨e.2.domain, e.2.breakGlass, tree⟩
  ruleSubjects : ∀ rule ∈ raw.rules, ∀ name ∈ rule.subjects, (subjects.get? name).isSome = true

theorem parseSubject_ok {name : String} {definition : RawSubjectDefinition}
    {parsed : String × SubjectDefinition} (h : parseSubject env name definition = .ok parsed) :
    ∃ tree, compileExpression env (Text.trim name) definition.domain definition.matchExpr = .ok tree ∧
      parsed = (Text.trim name, ⟨definition.domain, definition.breakGlass, tree⟩) := by
  simp only [parseSubject, eq_ok] at h
  obtain ⟨_, -, _, -, _, -, tree, htree, _, -, rfl⟩ := h
  exact ⟨tree, htree, rfl⟩

theorem parseSubjectEntries_ok {subjects registered : OrdMap String SubjectDefinition}
    {entries : List (String × RawSubjectDefinition)} {warnings : List LoadWarning}
    (h : parseSubjectEntries env subjects entries = .ok (registered, warnings)) :
    ∃ parsed, List.Forall₂ (fun e p => parseSubject env e.1 e.2 = .ok p) entries parsed ∧
      registered = subjects.insertAll parsed := by
  induction entries generalizing subjects registered warnings with
  | nil =>
    cases h
    exact ⟨[], .nil, rfl⟩
  | cons e entries ih =>
    simp only [parseSubjectEntries, eq_ok, Prod.mk.injEq] at h
    obtain ⟨first, hfirst, ⟨_, _⟩, hrest, rfl, -⟩ := h
    obtain ⟨parsed, hparsed, rfl⟩ := ih hrest
    exact ⟨first :: parsed, .cons hfirst hparsed, rfl⟩

theorem parsed_names {entries : List (String × RawSubjectDefinition)}
    {parsed : List (String × SubjectDefinition)}
    (h : List.Forall₂ (fun e p => parseSubject env e.1 e.2 = .ok p) entries parsed) :
    parsed.map Prod.fst = entries.map fun e => Text.trim e.1 := by
  induction h with
  | nil => rfl
  | cons hfirst _ ih =>
    obtain ⟨_, -, rfl⟩ := parseSubject_ok hfirst
    rw [List.map_cons, List.map_cons, ih]

theorem load_subjects (h : load env catalog raw = .ok loaded) :
    ∃ parsed, List.Forall₂ (fun e p => parseSubject env e.1 e.2 = .ok p) raw.subjects.entries parsed ∧
      loaded.policy.subjects = OrdMap.empty.insertAll parsed := by
  simp only [load, eq_ok] at h
  obtain ⟨_, -, ⟨subjects, _⟩, hsubjects, _, -, _, -, rfl⟩ := h
  exact parseSubjectEntries_ok hsubjects

theorem load_ruleSubjects (h : load env catalog raw = .ok loaded) :
    ∀ rule ∈ raw.rules, ∀ name ∈ rule.subjects,
      (loaded.policy.subjects.get? name).isSome = true := by
  intro rule hrule
  obtain ⟨-, -, rules, hrules, -⟩ := load_ok h
  obtain ⟨-, -, hparsed⟩ := parseRules_eq_ok.mp hrules
  obtain ⟨_, -, hparse⟩ := exists_right_of_forall₂ hparsed hrule
  exact parseRule_registered hparse

theorem registry_represents (h : load env catalog raw = .ok loaded) :
    Represents env raw loaded.policy.subjects ↔
      (raw.subjects.entries.map fun e => Text.trim e.1).Nodup := by
  obtain ⟨_, hparsed, hsubjects⟩ := load_subjects h
  rw [← parsed_names hparsed]
  constructor
  · intro hrepresents
    rw [← OrdMap.length_insertAll_empty_iff, ← hsubjects, hrepresents.count, hparsed.length_eq]
  · intro hnodup
    rw [hsubjects]
    refine ⟨?_, ?_, hsubjects ▸ load_ruleSubjects h⟩
    · rw [OrdMap.length_insertAll_empty_iff.mpr hnodup, hparsed.length_eq]
    · intro e he
      obtain ⟨_, hp, hparse⟩ := exists_right_of_forall₂ hparsed he
      obtain ⟨tree, htree, rfl⟩ := parseSubject_ok hparse
      exact ⟨tree, htree, OrdMap.get?_insertAll hnodup hp⟩

theorem registry_represents_web :
    ∃ loaded, load webEnv webCatalog webPolicy = .ok loaded ∧
      Represents webEnv webPolicy loaded.policy.subjects := by
  obtain ⟨loaded, hload⟩ : ∃ loaded, load webEnv webCatalog webPolicy = .ok loaded := ⟨_, rfl⟩
  exact ⟨loaded, hload, (registry_represents hload).mpr (by decide)⟩

/-- The second name ends in a blank. -/
def clashPolicy : RawPolicy :=
  { webPolicy with
    subjects := ⟨[("root", ⟨.hostProcess, true, uidExpr 0⟩),
      ("svc.web", ⟨.hostProcess, false, uidExpr 9100⟩),
      ("svc.web ", ⟨.hostProcess, true, uidExpr 9200⟩)], by decide⟩ }

theorem trimmed_name_replaced :
    ∃ loaded, load webEnv webCatalog clashPolicy = .ok loaded ∧
      (loaded.policy.subjects.get? "svc.web").map (·.breakGlass) = some true ∧
      ¬Represents webEnv clashPolicy loaded.policy.subjects := by
  refine ⟨_, rfl, by decide, ?_⟩
  intro hrepresents
  exact absurd hrepresents.count (by decide)

end Registry

end Document

end Basil
