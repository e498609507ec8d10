import Basil.PolicyLoad
import Mathlib.Data.List.Perm.Basic

/-!
# What a policy document grants

The grants are read off the rules as written: a rule grants an operation on a key to the subjects
it names when one of its action terms covers the operation and one of its target terms describes
the key.
-/

namespace Basil.Document

open Evidence Loader List

def TermNames (roles : OrdMap String (List Op)) (op : Op) (term : String) : Prop :=
  term = "op:" ++ op.token ∨ ∃ name ops, term = "role:" ++ name ∧ roles.get? name = some ops ∧ op ∈ ops

/-- The term names the operation, or is `*` and the operation is one of its own. -/
def TermCovers (roles : OrdMap String (List Op)) (op : Op) (term : String) : Prop :=
  TermNames roles op term ∨ (term = "*" ∧ op ∈ allOps)

def RuleWith (raw : RawPolicy) (P : String → Prop) (subject key : String) : Prop :=
  ∃ rule ∈ raw.rules, subject ∈ rule.subjects ∧ (∃ term ∈ rule.action, P term) ∧
    ∃ target ∈ rule.target, TargetMatches target key

def Grants (raw : RawPolicy) (subject : String) (op : Op) (key : String) : Prop :=
  RuleWith raw (TermCovers raw.roles op) subject key

def Registered (subjects : OrdMap String SubjectDefinition) (actor : AuthenticatedActor) : Prop :=
  ∃ definition, subjects.get? actor.subject = some definition ∧ definition.domain = actor.domain

def Permits (catalog : Catalog) (raw : RawPolicy) (subjects : OrdMap String SubjectDefinition)
    (actor : AuthenticatedActor) (op : Op) (key : String) : Prop :=
  ∃ entry, catalog.keys.get? key = some entry ∧
    (∀ identity, entry.nixCache = some identity → nixCacheOpAllowed identity.state op = true) ∧
    (op.isWrite = true → entry.writable = true) ∧
    ¬ (op = .sign ∧ entry.isCredentialIssuer = true) ∧
    Registered subjects actor ∧
    (Grants raw actor.subject op key ∨
      (entry.keyClass = .publicKey ∧ (op = .get ∨ op = .getPublicKey)))

def PermitsAdmin (raw : RawPolicy) (subjects : OrdMap String SubjectDefinition)
    (actor : AuthenticatedActor) (op : Op) : Prop :=
  ∃ target, Pdp.adminTarget op = some target ∧ Registered subjects actor ∧
    RuleWith raw (TermNames raw.roles op) actor.subject target

/-! ### Terms -/

def ActionCovers (roles : OrdMap String (List Op)) (op : Op) : ActionTerm → Prop
  | .op named => named = op
  | .role name => ∃ ops, roles.get? name = some ops ∧ op ∈ ops
  | .anyOp => op ∈ allOps

variable {op : Op} {roles : OrdMap String (List Op)}

theorem token_injective {op' : Op} (h : op.token = op'.token) : op = op' := by
  have hparse := Op.parse_token op
  rw [h, Op.parse_token] at hparse
  exact (Except.ok.inj hparse).symm

theorem termCovers_op {named : Op} : TermCovers roles op ("op:" ++ named.token) ↔ named = op := by
  constructor
  · rintro ((hop | ⟨_, _, hrole, -⟩) | ⟨hany, -⟩)
    · exact token_injective (by simpa using hop)
    · have hlead := congrArg String.toList hrole
      simp at hlead
    · have hlead := congrArg String.toList hany
      simp at hlead
  · rintro rfl
    exact .inl (.inl rfl)

theorem termCovers_role {name : String} :
    TermCovers roles op ("role:" ++ name) ↔ ∃ ops, roles.get? name = some ops ∧ op ∈ ops := by
  constructor
  · rintro ((hop | ⟨name', ops, hrole, hops⟩) | ⟨hany, -⟩)
    · have hlead := congrArg String.toList hop
      simp at hlead
    · have hname : name = name' := by simpa using hrole
      subst hname
      exact ⟨ops, hops⟩
    · have hlead := congrArg String.toList hany
      simp at hlead
  · rintro ⟨ops, hops⟩
    exact .inl (.inr ⟨name, ops, rfl, hops⟩)

theorem termCovers_any : TermCovers roles op "*" ↔ op ∈ allOps := by
  constructor
  · rintro ((hop | ⟨_, _, hrole, -⟩) | ⟨-, hop⟩)
    · have hlead := congrArg String.toList hop
      simp at hlead
    · have hlead := congrArg String.toList hrole
      simp at hlead
    · exact hop
  · exact fun hop => .inr ⟨rfl, hop⟩

theorem actionCovers_iff {term : String} {parsed : ActionTerm}
    (h : ActionTerm.parse term = .ok parsed) :
    ActionCovers roles op parsed ↔ TermCovers roles op term := by
  unfold ActionTerm.parse at h
  split at h
  · next hany =>
    cases h
    rw [hany, termCovers_any, ActionCovers]
  · split at h
    · next name hrole =>
      cases h
      rw [Text.stripLead_eq_some.mp hrole, termCovers_role, ActionCovers]
    · split at h
      · next token htoken =>
        simp only [eq_ok] at h
        obtain ⟨_, hnamed, rfl⟩ := h
        rw [Text.stripLead_eq_some.mp htoken, Op.parse_eq_ok.mp hnamed, termCovers_op, ActionCovers]
      · cases h

/-! ### Expansion -/

section Expand

variable {roles : OrdMap String (List Op)} {op : Op}

variable {ops : OrdMap Op String}

theorem grantOp_isSome {spelling : String} {granted : Op} :
    ((grantOp spelling ops granted).get? op).isSome = true ↔
      (ops.get? op).isSome = true ∨ op = granted := by
  unfold grantOp
  split
  · next old hold =>
    constructor
    · exact .inl
    · rintro (hsome | rfl)
      · exact hsome
      · rw [hold]
        rfl
  · rw [OrdMap.get?_insert]
    by_cases heq : op = granted
    · simp [heq]
    · simp [heq]

theorem foldl_grantOp_isSome {spelling : String} {granted : List Op} :
    ((granted.foldl (grantOp spelling) ops).get? op).isSome = true ↔
      (ops.get? op).isSome = true ∨ op ∈ granted := by
  induction granted generalizing ops with
  | nil => simp
  | cons first granted ih => rw [foldl_cons, ih, grantOp_isSome, mem_cons, or_assoc]

theorem expandTerm_isSome {term : ActionTerm} :
    ((expandTerm roles ops term).get? op).isSome = true ↔
      (ops.get? op).isSome = true ∨ ActionCovers roles op term := by
  cases term with
  | op named => rw [expandTerm, grantOp_isSome, ActionCovers, @eq_comm _ op named]
  | role name =>
    rw [expandTerm, foldl_grantOp_isSome, ActionCovers]
    cases roles.get? name <;> simp
  | anyOp => rw [expandTerm, foldl_grantOp_isSome, ActionCovers]

theorem foldl_expandTerm_isSome {action : List ActionTerm} :
    ((action.foldl (expandTerm roles) ops).get? op).isSome = true ↔
      (ops.get? op).isSome = true ∨ ∃ term ∈ action, ActionCovers roles op term := by
  induction action generalizing ops with
  | nil => simp
  | cons first action ih =>
    rw [foldl_cons, ih, expandTerm_isSome, or_assoc]
    simp

theorem mem_expandOps {action : List ActionTerm} :
    (∃ spelling, (op, spelling) ∈ (expandOps roles action).entries) ↔
      ∃ term ∈ action, ActionCovers roles op term := by
  simp only [← OrdMap.get?_eq_some_iff, ← Option.isSome_iff_exists, expandOps,
    foldl_expandTerm_isSome]
  simp [OrdMap.empty, OrdMap.get?]

theorem resolveRule_grants {rule : Rule} {key : String} :
    (∃ g ∈ (resolveRule roles rule).grants, g.op = op ∧ g.target.matchesKey key = true) ↔
      (∃ term ∈ rule.action, ActionCovers roles op term) ∧
        ∃ target ∈ rule.target, target.matchesKey key = true := by
  rw [← mem_expandOps]
  simp only [resolveRule, mem_flatMap, mem_map]
  constructor
  · rintro ⟨g, ⟨target, htarget, ⟨_, spelling⟩, hentry, rfl⟩, rfl, hmatch⟩
    exact ⟨⟨spelling, hentry⟩, target, htarget, hmatch⟩
  · rintro ⟨⟨spelling, hentry⟩, target, htarget, hmatch⟩
    exact ⟨⟨op, target, rule.id, spelling⟩, ⟨target, htarget, (op, spelling), hentry, rfl⟩, rfl, hmatch⟩

end Expand

/-! ### Rules -/

section Rules

variable {subjects : OrdMap String SubjectDefinition} {roles : OrdMap String (List Op)}

variable {raw : RawRule} {rule : Rule}

theorem parseRule_ok (h : parseRule subjects raw = .ok rule) :
    rule.subjects = raw.subjects ∧
      List.Forall₂ (fun term parsed => ActionTerm.parse term = .ok parsed) raw.action rule.action ∧
      List.Forall₂ (fun term parsed => KeyGlob.parse term = .ok parsed) raw.target rule.target ∧
      (rule.target.any KeyGlob.matchesAll = false ∨
        raw.subjects.all (fun name => (subjects.get? name).any (·.breakGlass)) = true) := by
  simp only [parseRule, eq_ok, collect_eq_ok] at h
  obtain ⟨_, -, _, -, action, haction, target, htarget, _, hguard, rfl⟩ := h
  exact ⟨rfl, haction, htarget, hguard⟩

theorem checkRuleSubjects_ok {rule : String} {names : List String}
    (h : checkRuleSubjects subjects rule names = .ok ()) :
    ∀ name ∈ names, (subjects.get? name).isSome = true := by
  induction names with
  | nil => simp
  | cons name names ih =>
    simp only [checkRuleSubjects, eq_ok] at h
    obtain ⟨_, hname, hrest⟩ := h
    simpa [hname] using ih hrest

theorem parseRule_registered (h : parseRule subjects raw = .ok rule) :
    ∀ name ∈ raw.subjects, (subjects.get? name).isSome = true := by
  simp only [parseRule, bind_eq_ok] at h
  obtain ⟨_, -, _, hsubjects, -⟩ := h
  exact checkRuleSubjects_ok hsubjects

theorem rule_grants_iff (h : parseRule subjects raw = .ok rule) (op : Op) (key : String) :
    (∃ g ∈ (resolveRule roles rule).grants, g.op = op ∧ g.target.matchesKey key = true) ↔
      (∃ term ∈ raw.action, TermCovers roles op term) ∧ ∃ target ∈ raw.target, TargetMatches target key := by
  obtain ⟨-, haction, htarget, -⟩ := parseRule_ok h
  rw [resolveRule_grants, exists_mem_of_forall₂ haction fun _ _ hterm => (actionCovers_iff hterm).symm,
    exists_mem_of_forall₂ htarget fun _ _ hterm => (KeyGlob.matchesKey_iff hterm key).symm]

theorem parseRules_eq_ok {seen : List String} {raws : List RawRule} {rules : List Rule} :
    parseRules subjects seen raws = .ok rules ↔
      (raws.map RawRule.id).Nodup ∧ (∀ raw ∈ raws, raw.id ∉ seen) ∧
        List.Forall₂ (fun raw rule => parseRule subjects raw = .ok rule) raws rules := by
  induction raws generalizing seen rules with
  | nil =>
    simp only [parseRules, Except.ok.injEq, map_nil, nodup_nil, forall₂_nil_left_iff]
    simp [eq_comm]
  | cons raw raws ih =>
    simp only [parseRules, eq_ok, ih, map_cons, nodup_cons, mem_map, mem_cons,
      forall_eq_or_imp, forall₂_cons_left_iff]
    constructor
    · rintro ⟨_, hfirst, rule, hrule, rules', ⟨hnodup, hseen, hrules⟩, rfl⟩
      refine ⟨⟨?_, hnodup⟩, ⟨hfirst, ?_⟩, rule, rules', hrule, hrules, rfl⟩
      · rintro ⟨other, hmem, heq⟩
        exact hseen other hmem (.inl heq)
      · intro other hmem hin
        exact hseen other hmem (.inr hin)
    · rintro ⟨⟨hnew, hnodup⟩, ⟨hfirst, hseen⟩, rule, rules', hrule, hrules, rfl⟩
      refine ⟨(), hfirst, rule, hrule, rules', ⟨hnodup, ?_, hrules⟩, rfl⟩
      rintro other hmem (heq | hin)
      · exact hnew ⟨other, hmem, heq⟩
      · exact hseen other hmem hin

end Rules

/-! ### Loaded documents -/

section Load

variable {env : LoadEnv} {catalog : Catalog} {raw : RawPolicy} {loaded : Loaded}

theorem load_ok (h : load env catalog raw = .ok loaded) :
    loaded.catalog = catalog ∧ loaded.config = raw.config ∧
      ∃ rules, parseRules loaded.policy.subjects [] raw.rules = .ok rules ∧
        loaded.policy.rules = rules.map (resolveRule raw.roles) := by
  simp only [load, eq_ok] at h
  obtain ⟨_, -, ⟨subjects, _⟩, -, rules, hrules, _, -, rfl⟩ := h
  exact ⟨rfl, rfl, rules, hrules, rfl⟩

theorem findGrant_iff (h : load env catalog raw = .ok loaded) (subject : String) (op : Op)
    (key : String) :
    (Pdp.findGrant loaded.policy.rules subject op key).isSome = true ↔ Grants raw subject op key := by
  obtain ⟨-, -, rules, hrules, hpolicy⟩ := load_ok h
  obtain ⟨-, -, hparsed⟩ := parseRules_eq_ok.mp hrules
  rw [Pdp.findGrant_isSome, hpolicy]
  simp only [mem_map, exists_exists_and_eq_and, Grants, RuleWith]
  rw [exists_mem_of_forall₂ hparsed]
  intro rawRule rule hrule
  rw [rule_grants_iff hrule]
  simp [resolveRule, (parseRule_ok hrule).1]

theorem ruleWith_registered (h : load env catalog raw = .ok loaded) {P : String → Prop}
    {subject key : String} (hrule : RuleWith raw P subject key) :
    ∃ definition, loaded.policy.subjects.get? subject = some definition := by
  obtain ⟨_, hmem, hsubject, -⟩ := hrule
  obtain ⟨-, -, _, hrules, -⟩ := load_ok h
  obtain ⟨-, -, hparsed⟩ := parseRules_eq_ok.mp hrules
  obtain ⟨_, -, hparse⟩ := exists_right_of_forall₂ hparsed hmem
  exact Option.isSome_iff_exists.mp (parseRule_registered hparse subject hsubject)

theorem registered_iff {pdp : Pdp} {actor : AuthenticatedActor} :
    pdp.actorIsRegistered actor = true ↔ Registered pdp.policy.subjects actor := by
  simp [Pdp.actorIsRegistered, Registered, Option.any_eq_true]

theorem decide_iff (h : load env catalog raw = .ok loaded) (actor : AuthenticatedActor) (op : Op)
    (key : String) :
    (loaded.pdp.decide actor op key).isAllow = true ↔
      Permits catalog raw loaded.policy.subjects actor op key := by
  obtain ⟨hcatalog, -, -⟩ := load_ok h
  have hregistered : loaded.pdp.actorIsRegistered actor = true ↔
      Registered loaded.policy.subjects actor := registered_iff
  rw [Pdp.decide_isAllow, hregistered]
  simp only [Permits, ← findGrant_iff h, ← hcatalog]
  rfl

def IsReserved (op : Op) : Prop :=
  (Pdp.adminTarget op).isSome = true ∨
    op ∈ [Op.enrollNixCacheKey, .signNixCacheFingerprint, .useSoftwareCustody]

variable {op : Op}

theorem not_wildcard_of_isReserved (h : IsReserved op) : op ∉ allOps := by
  cases op <;> simp [IsReserved, Pdp.adminTarget] at h <;> decide

theorem grants_not_wildcard (h : op ∉ allOps) (subject key : String) :
    Grants raw subject op key ↔ RuleWith raw (TermNames raw.roles op) subject key := by
  simp [Grants, RuleWith, TermCovers, h]

theorem decideAdmin_iff (h : load env catalog raw = .ok loaded) (actor : AuthenticatedActor) (op : Op) :
    (loaded.pdp.decideAdmin actor op).isAllow = true ↔
      PermitsAdmin raw loaded.policy.subjects actor op := by
  have hregistered : loaded.pdp.actorIsRegistered actor = true ↔
      Registered loaded.policy.subjects actor := registered_iff
  unfold Pdp.decideAdmin PermitsAdmin
  cases htarget : Pdp.adminTarget op with
  | none => simp [Decision.isAllow]
  | some target =>
    have hwildcard : op ∉ allOps := not_wildcard_of_isReserved (.inl (by rw [htarget]; rfl))
    simp only [Option.some.injEq, exists_eq_left', ← hregistered,
      ← grants_not_wildcard hwildcard, ← findGrant_iff h]
    split
    · simp_all [Decision.isAllow]
    · split
      · simp_all [Decision.isAllow, Loaded.pdp]
      · simp_all [Decision.isAllow, Loaded.pdp]

theorem matchAll_breakGlass (h : load env catalog raw = .ok loaded) {rule : RawRule}
    (hrule : rule ∈ raw.rules) {target : String} (htarget : target ∈ rule.target)
    (hall : ∀ key, TargetMatches target key) {subject : String} (hsubject : subject ∈ rule.subjects) :
    ∃ definition, loaded.policy.subjects.get? subject = some definition ∧
      definition.breakGlass = true := by
  obtain ⟨-, -, rules, hrules, -⟩ := load_ok h
  obtain ⟨-, -, hparsed⟩ := parseRules_eq_ok.mp hrules
  obtain ⟨parsed, -, hparse⟩ := exists_right_of_forall₂ hparsed hrule
  obtain ⟨-, -, htargets, hguard⟩ := parseRule_ok hparse
  have hany : parsed.target.any KeyGlob.matchesAll = true := by
    rw [any_eq_true, ← exists_mem_of_forall₂ htargets fun _ _ hterm => (KeyGlob.matchesAll_iff hterm).symm]
    exact ⟨target, htarget, hall⟩
  rcases hguard with hnone | hbreak
  · rw [hany] at hnone
    cases hnone
  · have hsome := all_eq_true.mp hbreak subject hsubject
    simpa [Option.any_eq_true] using hsome

end Load

/-! ### The order of the rules -/

section Order

theorem decide_congr {pdp pdp' : Pdp} (hcatalog : pdp.catalog = pdp'.catalog)
    (hsubjects : pdp.policy.subjects = pdp'.policy.subjects)
    (hgrants : ∀ subject op key, (Pdp.findGrant pdp.policy.rules subject op key).isSome =
      (Pdp.findGrant pdp'.policy.rules subject op key).isSome)
    (actor : AuthenticatedActor) (op : Op) :
    (∀ key, pdp.decide actor op key = pdp'.decide actor op key) ∧
      pdp.decideAdmin actor op = pdp'.decideAdmin actor op := by
  have hregistered : pdp.actorIsRegistered actor = pdp'.actorIsRegistered actor := by
    rw [Pdp.actorIsRegistered, Pdp.actorIsRegistered, hsubjects]
  constructor
  · intro key
    unfold Pdp.decide Pdp.evaluate
    rw [hcatalog, hregistered]
    have hsame := hgrants actor.subject op key
    cases hfound : Pdp.findGrant pdp.policy.rules actor.subject op key with
    | none =>
      rw [hfound] at hsame
      rw [Option.isSome_eq_false_iff.mp hsame.symm |> Option.isNone_iff_eq_none.mp]
    | some g =>
      rw [hfound] at hsame
      obtain ⟨_, hg'⟩ := Option.isSome_iff_exists.mp hsame.symm
      rw [hg']
      -- the rules found may differ, what they decide does not
      cases pdp'.catalog.keys.get? key with
      | none => rfl
      | some entry =>
        dsimp only
        split_ifs <;> rfl
  · unfold Pdp.decideAdmin
    rw [hregistered]
    cases Pdp.adminTarget op with
    | none => rfl
    | some target => simp [hgrants]

variable {env : LoadEnv} {catalog : Catalog} {raw : RawPolicy} {loaded : Loaded}

theorem load_perm (h : load env catalog raw = .ok loaded) {rules : List RawRule}
    (hperm : rules.Perm raw.rules) :
    ∃ loaded', load env catalog { raw with rules := rules } = .ok loaded' ∧
      loaded'.catalog = loaded.catalog ∧ loaded'.policy.subjects = loaded.policy.subjects := by
  simp only [load, eq_ok] at h
  obtain ⟨warnings, hcatalog, ⟨subjects, subjectWarnings⟩, hsubjects, _, hparsed, _, hroles, rfl⟩ := h
  obtain ⟨hnodup, _, hrules⟩ := parseRules_eq_ok.mp hparsed
  obtain ⟨parsed', hrules', hperm'⟩ := perm_comp_forall₂ hperm hrules
  have hparsed' : parseRules subjects [] rules = .ok parsed' :=
    parseRules_eq_ok.mpr ⟨(hperm.map RawRule.id).nodup_iff.mpr hnodup, by simp, hrules'⟩
  have hroles' : validateRuleRoles raw.roles parsed' = .ok () := by
    simp only [validateRuleRoles, eq_ok, and_true, collect_succeeds] at hroles ⊢
    intro rule hrule
    exact hroles rule (hperm'.mem_iff.mp hrule)
  refine ⟨⟨catalog, buildResolved subjects parsed' raw.roles, raw.config, warnings ++ subjectWarnings⟩,
    ?_, rfl, rfl⟩
  simp [load, hcatalog, hsubjects, hparsed', hroles']

theorem decisions_eq_documents (h : load env catalog raw = .ok loaded) :
    (∀ actor op key, (loaded.pdp.decide actor op key).isAllow = true ↔
      Permits catalog raw loaded.policy.subjects actor op key) ∧
    (∀ actor op, (loaded.pdp.decideAdmin actor op).isAllow = true ↔
      PermitsAdmin raw loaded.policy.subjects actor op) ∧
    (∀ op, IsReserved op → ∀ subject key,
      (Pdp.findGrant loaded.policy.rules subject op key).isSome = true ↔
        RuleWith raw (TermNames raw.roles op) subject key) ∧
    (∀ rules, rules.Perm raw.rules →
      ∃ loaded', load env catalog { raw with rules := rules } = .ok loaded' ∧
        ∀ actor op, (∀ key, loaded'.pdp.decide actor op key = loaded.pdp.decide actor op key) ∧
          loaded'.pdp.decideAdmin actor op = loaded.pdp.decideAdmin actor op) ∧
    (∀ rule ∈ raw.rules, ∀ target ∈ rule.target, (∀ key, TargetMatches target key) →
      ∀ subject ∈ rule.subjects, ∃ definition,
        loaded.policy.subjects.get? subject = some definition ∧ definition.breakGlass = true) := by
  refine ⟨decide_iff h, decideAdmin_iff h, ?_, ?_, ?_⟩
  · intro op hop subject key
    rw [findGrant_iff h, grants_not_wildcard (not_wildcard_of_isReserved hop)]
  · intro rules hperm
    obtain ⟨loaded', hload', hcatalog, hsubjects⟩ := load_perm h hperm
    refine ⟨loaded', hload', decide_congr hcatalog hsubjects ?_⟩
    intro subject op key
    rw [Bool.eq_iff_iff]
    refine (findGrant_iff hload' subject op key).trans (.trans ?_ (findGrant_iff h subject op key).symm)
    simp [Grants, RuleWith, hperm.mem_iff]
  · intro rule hrule target htarget hall subject hsubject
    exact matchAll_breakGlass h hrule htarget hall hsubject

end Order

/-! A web service that may read and sign under `web`, and a break-glass root. -/

def webKey (keyClass : KeyClass) (keyType : Option KeyAlgorithm) (path : String) : KeyEntry where
  keyClass := keyClass
  keyType := keyType
  backend := "vault"
  engine := none
  path := path
  publicPath := none
  writable := false
  missing := .error
  nixCache := none
  generate := none
  sealingPin := none
  labels := ⟨[]⟩
  description := "web service"

def webCatalog : Catalog where
  backends := ⟨[("vault", ⟨.vault, "", [.transit, .kv2], [], [], []⟩)], by decide⟩
  keys := ⟨[("web.ca", webKey .publicKey none "web/ca"),
    ("web.signer", webKey .asymmetric (some .ed25519) "web-signer")], by decide⟩

def uidExpr (uid : Int) : Jwt.JsonValue := .obj [("all", .arr [.obj [("process.uid", .num uid)]])]

def webPolicy : RawPolicy where
  subjects := ⟨[("root", ⟨.hostProcess, true, uidExpr 0⟩), ("svc.web", ⟨.hostProcess, false, uidExpr 9100⟩)],
    by decide⟩
  roles := ⟨[("reader", [.get, .getPublicKey])], by decide⟩
  rules := [⟨"r1", ["svc.web"], ["role:reader", "op:sign"], ["web.*"]⟩, ⟨"r2", ["root"], ["*"], ["**"]⟩]
  config := ⟨⟨OrdMap.empty, OrdMap.empty⟩, OrdMap.empty⟩

def webEnv : LoadEnv where
  passwdFile := .error (.localAccountDatabase "/etc/passwd" "file is unavailable")
  groupFile := .error (.localAccountDatabase "/etc/group" "file is unavailable")
  b64UrlDecode := fun _ => none
  crypto := ⟨id, fun a _ => a, fun _ _ => none, id, fun _ _ _ _ _ => none, fun _ _ _ _ _ => none,
    fun _ _ _ => none, fun _ _ _ => none, fun _ _ => [], fun _ _ _ => ([], []), fun _ _ _ => none,
    fun _ => "", fun _ => none⟩

def webActor : AuthenticatedActor := ⟨.hostProcess, "svc.web", ⟨none, some 9100, none⟩⟩

theorem web_signs_by_document :
    ∃ loaded, load webEnv webCatalog webPolicy = .ok loaded ∧
      (loaded.pdp.decide webActor .sign "web.signer").isAllow = true ∧
      Permits webCatalog webPolicy loaded.policy.subjects webActor .sign "web.signer" := by
  obtain ⟨loaded, hload, hallow⟩ : ∃ loaded, load webEnv webCatalog webPolicy = .ok loaded ∧
      (loaded.pdp.decide webActor .sign "web.signer").isAllow = true := ⟨_, rfl, by decide⟩
  exact ⟨loaded, hload, hallow, ((decisions_eq_documents hload).1 webActor .sign "web.signer").mp hallow⟩

end Basil.Document
