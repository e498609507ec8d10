import Basil.Lib.Select
import Basil.Policy
import Basil.Schema

/-!
# Catalog validation (`core/catalog/loader.rs`)

`validate_catalog` and the per-key checks behind it, in the loader's order.
-/

namespace Basil.Loader

open List

inductive LoadError where
  | badKeyName (key : String)
  | unknownBackend (key backend : String)
  | blankDescription (key : String)
  | missingKeyType (key keyClass : String)
  | unexpectedKeyType (key : String)
  | sealingKeyTypeNotX25519 (key keyType : String)
  | generateWithoutRecipe (key keyClass : String)
  | unexpectedGenerate (key keyClass : String)
  | kv2SigningKeyTypeNotEd25519 (key keyType : String)
  | invalidPkiPath (key path : String)
  | nonSpiffeJwtSvidAlg (key keyType : String)
  | missingPublicPath (key keyClass : String)
  | unexpectedPublicPath (key keyClass : String)
  | unexpectedSealingPin (key keyClass : String)
  | emptySealingPin (key : String)
  | emptyPinnedPartyIdentity (key : String)
  | invalidNixCacheIdentity (key reason : String)
  | duplicateNixCacheKeyName (keyName firstKey secondKey : String)
  | invalidReservedLabel (key label reason : String)
  | duplicateReservedLabel (key label : String)
  | emptySubjectName
  | subjectNameTooLong (bytes : Nat)
  | badSubjectName (subject : String)
  | invalidSubjectShape (subject reason : String)
  | subjectExpressionTooComplex (subject : String) (depth maxDepth leaves maxLeaves : Nat)
  | predicateDomainMismatch (subject predicate domain : String)
  | symbolicProcessIdentity (subject predicate domain : String)
  | localAccountResolution (subject account reason : String)
  | localAccountDatabase (path reason : String)
  | emptySignaturePublic (subject : String)
  | malformedSignaturePublic (subject algorithm reason : String)
  | emptyRuleSubjects (rule : String)
  | unknownSubject (rule subject : String)
  | duplicateRuleId (rule : String)
  | unknownRole (rule role : String)
  | badTerm (rule : String) (source : ActionTermError)
  | badGlob (rule : String) (source : GlobError)
  | nonBreakGlassAnyTarget (rule : String)
  deriving DecidableEq

inductive LoadWarning where
  | missingNatsType (key : String)
  | complexSubjectExpression (subject : String) (depth leaves : Nat)
  deriving DecidableEq

def classStr : KeyClass → String
  | .asymmetric => "asymmetric"
  | .symmetric => "symmetric"
  | .value => "value"
  | .publicKey => "public"
  | .sealing => "sealing"

/-! ### Names -/

def isAsciiLowerOrDigit (c : Char) : Bool := c.isLower || c.isDigit

def segOk : List Char → Bool
  | [] => false
  | c :: cs => isAsciiLowerOrDigit c && cs.all fun c => isAsciiLowerOrDigit c || c == '_'

def keyNameOk (name : String) : Bool :=
  !name.toList.isEmpty && (name.toList.splitOn '.').all segOk

def escapeDefault (c : Char) : List Char :=
  if c = '\t' then ['\\', 't']
  else if c = '\r' then ['\\', 'r']
  else if c = '\n' then ['\\', 'n']
  else if c = '\'' ∨ c = '"' ∨ c = '\\' then ['\\', c]
  else if 0x20 ≤ c.toNat ∧ c.toNat ≤ 0x7e then [c]
  else ['\\', 'u', '\x7b'] ++ Nat.toDigits 16 c.toNat ++ ['\x7d']

def validateKeyName (name : String) : Except LoadError Unit :=
  ensure (keyNameOk name = true) (.badKeyName (String.ofList (name.toList.flatMap escapeDefault)))

def validNixCacheKeyName (name : String) : Bool :=
  match name.toList with
  | [] => false
  | c :: cs =>
      name.utf8ByteSize ≤ 128 && c.isAlphanum &&
        cs.all fun c => c.isAlphanum || c == '.' || c == '_' || c == '-'

/-! ### Class, type and engine -/

def isBlank (s : String) : Bool := (Text.trim s).toList.isEmpty

def validateBackendRef (catalog : Catalog) (name : String) (key : KeyEntry) : Except LoadError Unit :=
  ensure ((catalog.backends.get? key.backend).isSome = true) (.unknownBackend name key.backend)

def validateDescription (name : String) (key : KeyEntry) : Except LoadError Unit :=
  ensure (isBlank key.description = false) (.blankDescription name)

def requireKeyType (name : String) (key : KeyEntry) : Except LoadError Unit :=
  ensure (key.keyType.isSome = true) (.missingKeyType name (classStr key.keyClass))

def rejectKeyType (name : String) (key : KeyEntry) : Except LoadError Unit :=
  ensure (key.keyType = none) (.unexpectedKeyType name)

def requireSealingKeyType (name : String) (key : KeyEntry) : Except LoadError Unit := do
  requireKeyType name key
  match key.keyType with
  | some .x25519 | some .mlKem512 | some .mlKem768 | some .mlKem1024 | none => .ok ()
  | some other => .error (.sealingKeyTypeNotX25519 name other.token)

def validateKeyType (name : String) (key : KeyEntry) : Except LoadError Unit :=
  match key.keyClass with
  | .asymmetric | .symmetric => requireKeyType name key
  | .sealing => requireSealingKeyType name key
  | .value => rejectKeyType name key
  | .publicKey => .ok ()

/-- Recipes belong to value and public keys; `missing=generate` there needs one.
The recipe's own content, `pairOf` included, is not looked at. -/
def validateGenerate (name : String) (key : KeyEntry) : Except LoadError Unit :=
  let isRecipeClass := key.keyClass = .value ∨ key.keyClass = .publicKey
  if isRecipeClass ∧ key.missing = .generate ∧ key.generate = none then
    .error (.generateWithoutRecipe name (classStr key.keyClass))
  else if ¬ isRecipeClass ∧ key.generate.isSome = true then
    .error (.unexpectedGenerate name (classStr key.keyClass))
  else .ok ()

def isPkiIssuePath (path : String) : Bool :=
  match Text.split '/' path with
  | mount :: "issue" :: _ :: _ => (Text.stripLead "pki" mount).isSome
  | _ => false

def validateEngine (name : String) (key : KeyEntry) : Except LoadError Unit :=
  if key.keyClass = .asymmetric ∧ key.engine = some .kv2 then
    match key.keyType with
    | some .ed25519 | none => .ok ()
    | some other => .error (.kv2SigningKeyTypeNotEd25519 name other.token)
  else if key.engine ≠ some .pki then .ok ()
  else
    ensure (key.keyClass = .asymmetric ∧ isPkiIssuePath key.path = true)
      (.invalidPkiPath name key.path)

def validateJwtSvidIssuerAlg (name : String) (key : KeyEntry) : Except LoadError Unit :=
  if key.labels.get "svid_kind" = some "jwt" then
    match key.keyType with
    | none => .ok ()
    | some alg => ensure (alg.isSpiffeJwtSvidProfile = true) (.nonSpiffeJwtSvidAlg name alg.token)
  else .ok ()

def validatePublicPath (name : String) (key : KeyEntry) : Except LoadError Unit :=
  if key.isMaterializeToUse then
    ensure ((key.publicPath.any fun p => !isBlank p) = true)
      (.missingPublicPath name (classStr key.keyClass))
  else ensure (key.publicPath = none) (.unexpectedPublicPath name (classStr key.keyClass))

def validateSealingPin (name : String) (key : KeyEntry) : Except LoadError Unit :=
  match key.sealingPin with
  | none => .ok ()
  | some pin => do
      ensure (key.keyClass = .sealing) (.unexpectedSealingPin name (classStr key.keyClass))
      ensure (pin.isConfigured = true) (.emptySealingPin name)
      ensure ((pin.parties.all fun p => p.partyU ≠ some "" ∧ p.partyV ≠ some "") = true)
        (.emptyPinnedPartyIdentity name)

/-! ### Nix cache identities -/

def validateNixCacheIdentity (catalog : Catalog) (name : String) (key : KeyEntry) :
    Except LoadError Unit :=
  match key.nixCache with
  | none => .ok ()
  | some identity => do
      let invalid := LoadError.invalidNixCacheIdentity name
      ensure (key.keyClass = .asymmetric) (invalid "class must be asymmetric")
      ensure (key.keyType = some .ed25519) (invalid "keyType must be ed25519")
      ensure (key.effectiveEngine = .transit) (invalid "engine must be transit")
      ensure (isBlank key.path = false) (invalid "backend path must not be blank")
      ensure (key.missing ≠ .generate)
        (invalid "missing=generate is forbidden; use explicit Nix cache enrollment")
      let backend ← orErr (catalog.backends.get? key.backend) (invalid "backend must exist")
      ensure (backend.kind = .vault) (invalid "backend must be OpenBao or Vault transit")
      ensure (identity.backendVersion = 1) (invalid "backendVersion must be 1")
      ensure (validNixCacheKeyName identity.keyName = true)
        (invalid "keyName must match [A-Za-z0-9][A-Za-z0-9._-]\x7b0,127\x7d")
      match identity.state, identity.publicKey with
      | .pending, none => .ok ()
      | .enrolled, some _ => .ok ()
      | .pending, some _ => .error (invalid "pending state forbids publicKey")
      | .enrolled, none => .error (invalid "enrolled state requires publicKey")

/-! ### Reserved labels -/

def isReservedLabel (label : String) : Bool :=
  ["crypto_provider", "crypto_provider_version", "pqc_algorithm", "pqc_custody", "pqc_storage_key",
    "crypto_provider_policy", "migration_target", "broker_key_use"].contains label

def reservedLabelValueOk (label value : String) : Bool :=
  if label = "crypto_provider" then ["vault-transit", "local-software"].contains value
  else if label = "pqc_algorithm" then
    ["ml-dsa-44", "ml-dsa-65", "ml-dsa-87", "ml-kem-512", "ml-kem-768", "ml-kem-1024"].contains value
  else if label = "pqc_custody" then ["backend-native", "software-encrypted"].contains value
  else if label = "crypto_provider_policy" then
    ["backend-preferred", "backend-required", "local-software"].contains value
  else if ["crypto_provider_version", "migration_target", "pqc_storage_key"].contains label then
    !isBlank value
  else if label = "broker_key_use" then
    ["response-signing", "request-encryption", "response-encryption"].contains value
  else true

/-- The loop over a key's labels; `seen` holds the reserved ones met so far. -/
def validateReservedLabelsFrom (name : String) : List String → List String → Except LoadError Unit
  | _, [] => .ok ()
  | seen, label :: labels =>
      match Text.splitOnce '=' label with
      | none =>
          if isReservedLabel label then
            .error (.invalidReservedLabel name label "reserved labels must use name=value form")
          else validateReservedLabelsFrom name seen labels
      | some (labelKey, value) =>
          if isReservedLabel labelKey = false then validateReservedLabelsFrom name seen labels
          else if seen.contains labelKey then .error (.duplicateReservedLabel name labelKey)
          else if reservedLabelValueOk labelKey value then
            validateReservedLabelsFrom name (labelKey :: seen) labels
          else .error (.invalidReservedLabel name labelKey "unsupported or empty value")

def validateReservedLabels (name : String) (key : KeyEntry) : Except LoadError Unit :=
  validateReservedLabelsFrom name [] key.labels.labels

/-! ### The catalog -/

def warnMissingNatsType (name : String) (key : KeyEntry) : List LoadWarning :=
  if key.keyType = some .ed25519Nkey ∧ key.labels.natsType = none then [.missingNatsType name] else []

def validateKey (catalog : Catalog) (name : String) (key : KeyEntry) :
    Except LoadError (List LoadWarning) := do
  validateKeyName name
  validateBackendRef catalog name key
  validateDescription name key
  validateKeyType name key
  validateGenerate name key
  validateEngine name key
  validateJwtSvidIssuerAlg name key
  validatePublicPath name key
  validateSealingPin name key
  validateNixCacheIdentity catalog name key
  validateReservedLabels name key
  return warnMissingNatsType name key

def validateKeys (catalog : Catalog) :
    List (String × String) → List (String × KeyEntry) → Except LoadError (List LoadWarning)
  | _, [] => .ok []
  | nixNames, (name, key) :: rest => do
      let warnings ← validateKey catalog name key
      match key.nixCache with
      | none => return warnings ++ (← validateKeys catalog nixNames rest)
      | some identity =>
          match nixNames.lookup identity.keyName with
          | some firstKey => .error (.duplicateNixCacheKeyName identity.keyName firstKey name)
          | none =>
              return warnings ++
                (← validateKeys catalog ((identity.keyName, name) :: nixNames) rest)

def validateCatalog (catalog : Catalog) : Except LoadError (List LoadWarning) :=
  validateKeys catalog [] catalog.keys.entries

def Accepts (catalog : Catalog) : Prop := ∃ warnings, validateCatalog catalog = .ok warnings

/-! ### What acceptance says about each key -/

variable {catalog : Catalog} {name : String} {key : KeyEntry}

theorem validateKeys_each {nixNames : List (String × String)} {keys : List (String × KeyEntry)}
    {warnings : List LoadWarning} (h : validateKeys catalog nixNames keys = .ok warnings) :
    ∀ name key, (name, key) ∈ keys → ∃ ws, validateKey catalog name key = .ok ws := by
  induction keys generalizing nixNames warnings with
  | nil => simp
  | cons e keys ih =>
    simp only [validateKeys, bind_eq_ok] at h
    obtain ⟨ws, hkey, hrest⟩ := h
    intro name' key' hmem
    rcases mem_cons.mp hmem with he | hmem
    · cases he
      exact ⟨ws, hkey⟩
    · split at hrest
      · simp only [bind_eq_ok] at hrest
        obtain ⟨ws', hws', -⟩ := hrest
        exact ih hws' name' key' hmem
      · split at hrest
        · cases hrest
        · simp only [bind_eq_ok] at hrest
          obtain ⟨ws', hws', -⟩ := hrest
          exact ih hws' name' key' hmem

theorem Accepts.validateKey (h : Accepts catalog) (hkey : catalog.keys.get? name = some key) :
    ∃ ws, validateKey catalog name key = .ok ws := by
  obtain ⟨_, hw⟩ := h
  exact validateKeys_each hw name key (OrdMap.get?_eq_some_iff.mp hkey)

theorem Accepts.keyNameOk (h : Accepts catalog) (hkey : catalog.keys.get? name = some key) :
    keyNameOk name = true := by
  obtain ⟨_, hws⟩ := h.validateKey hkey
  simp only [Loader.validateKey, eq_ok, validateKeyName] at hws
  obtain ⟨-, hname, -⟩ := hws
  exact hname

theorem validateKeys_nixNames {nixNames : List (String × String)} {keys : List (String × KeyEntry)}
    {warnings : List LoadWarning} (h : validateKeys catalog nixNames keys = .ok warnings) :
    (keys.filterMap fun e => e.2.nixCache.map NixCacheIdentity.keyName).Nodup ∧
      ∀ e ∈ keys, ∀ identity, e.2.nixCache = some identity →
        nixNames.lookup identity.keyName = none := by
  induction keys generalizing nixNames warnings with
  | nil => simp
  | cons e keys ih =>
    obtain ⟨_, key⟩ := e
    simp only [validateKeys, bind_eq_ok] at h
    obtain ⟨_, -, hrest⟩ := h
    cases hidentity : key.nixCache with
    | none =>
      simp only [hidentity, bind_eq_ok] at hrest
      obtain ⟨ws', hws', -⟩ := hrest
      obtain ⟨hnodup, hmet⟩ := ih hws'
      refine ⟨by simpa [hidentity] using hnodup, ?_⟩
      intro e he identity hsome
      rcases mem_cons.mp he with rfl | he
      · rw [hidentity] at hsome
        cases hsome
      · exact hmet e he identity hsome
    | some identity =>
      simp only [hidentity] at hrest
      split at hrest
      · cases hrest
      · next hnew =>
        simp only [bind_eq_ok] at hrest
        obtain ⟨ws', hws', -⟩ := hrest
        obtain ⟨hnodup, hmet⟩ := ih hws'
        have hlater : ∀ e ∈ keys, ∀ other, e.2.nixCache = some other →
            other.keyName ≠ identity.keyName ∧ nixNames.lookup other.keyName = none := by
          intro e he other hother
          have hnone := hmet e he other hother
          rw [lookup_cons] at hnone
          split at hnone
          · cases hnone
          · next hne => exact ⟨beq_eq_false_iff_ne.mp hne, hnone⟩
        constructor
        · simp only [filterMap_cons, hidentity, Option.map_some, nodup_cons,
            mem_filterMap, Option.map_eq_some_iff]
          refine ⟨?_, hnodup⟩
          rintro ⟨e, he, other, hother, hname⟩
          exact (hlater e he other hother).1 hname
        · intro e he other hother
          rcases mem_cons.mp he with rfl | he
          · rw [hidentity] at hother
            cases hother
            exact hnew
          · exact (hlater e he other hother).2

theorem Accepts.nixKeyName_unique (h : Accepts catalog) {name' : String} {key' : KeyEntry}
    {identity identity' : NixCacheIdentity} (hkey : catalog.keys.get? name = some key)
    (hkey' : catalog.keys.get? name' = some key') (hidentity : key.nixCache = some identity)
    (hidentity' : key'.nixCache = some identity') (hname : identity.keyName = identity'.keyName) :
    name = name' := by
  obtain ⟨_, hw⟩ := h
  have hsame : (name, key) = (name', key') := eq_of_nodup_filterMap (validateKeys_nixNames hw).1
    (OrdMap.get?_eq_some_iff.mp hkey) (OrdMap.get?_eq_some_iff.mp hkey')
    (by rw [hidentity]; rfl) (by rw [hidentity', hname]; rfl)
  exact congrArg Prod.fst hsame

theorem keyNameOk_no_hyphen (h : keyNameOk name = true) : '-' ∉ name.toList := by
  intro hmem
  have hjoin : ['.'].intercalate (name.toList.splitOn '.') = name.toList := intercalate_splitOn _
  rw [← hjoin] at hmem
  obtain ⟨seg, hseg, hc⟩ := Text.mem_of_mem_intercalate hmem (by decide)
  simp only [keyNameOk, Bool.and_eq_true, all_eq_true] at h
  have hok := h.2 seg hseg
  cases seg with
  | nil => cases hc
  | cons c cs =>
    simp only [segOk, Bool.and_eq_true, all_eq_true] at hok
    rcases mem_cons.mp hc with heq | hrest
    · rw [← heq] at hok
      exact absurd hok.1 (by decide)
    · exact absurd (hok.2 '-' hrest) (by decide)

end Basil.Loader
