import Basil.Lib.Bytes
import Basil.Lib.OrdMap
import Basil.Lib.Text
import Mathlib.Data.String.Basic

/-!
# The catalog document (`core/catalog/schema.rs`)

Keys and backends are ordered maps: the broker iterates them in name order.
-/

namespace Basil

inductive BackendKind where
  | vault
  | keystore
  | awsKms
  | gcpKms
  deriving DecidableEq

inductive KeyClass where
  | asymmetric
  | symmetric
  | value
  | publicKey
  | sealing
  deriving DecidableEq

inductive Engine where
  | transit
  | kv2
  | pki
  deriving DecidableEq

inductive Capability where
  | byokImport
  | prehashSign
  | pqcTransit
  | pkiCrl
  | jwtAuth
  | approleAuth
  | other (token : String)
  deriving DecidableEq

inductive KeyAlgorithm where
  | ed25519
  | ed25519Nkey
  | rsa2048
  | ecdsaP256
  | ecdsaP384
  | ecdsaP521
  | aes256Gcm
  | chaCha20Poly1305
  | x25519
  | mlKem512
  | mlKem768
  | mlKem1024
  | mlDsa44
  | mlDsa65
  | mlDsa87
  deriving DecidableEq

namespace KeyAlgorithm

def token : KeyAlgorithm → String
  | ed25519 => "ed25519"
  | ed25519Nkey => "ed25519-nkey"
  | rsa2048 => "rsa-2048"
  | ecdsaP256 => "ecdsa-p256"
  | ecdsaP384 => "ecdsa-p384"
  | ecdsaP521 => "ecdsa-p521"
  | aes256Gcm => "aes-256-gcm"
  | chaCha20Poly1305 => "chacha20-poly1305"
  | x25519 => "x25519"
  | mlKem512 => "ml-kem-512"
  | mlKem768 => "ml-kem-768"
  | mlKem1024 => "ml-kem-1024"
  | mlDsa44 => "ml-dsa-44"
  | mlDsa65 => "ml-dsa-65"
  | mlDsa87 => "ml-dsa-87"

def isSpiffeJwtSvidProfile : KeyAlgorithm → Bool
  | rsa2048 | ecdsaP256 | ecdsaP384 => true
  | _ => false

end KeyAlgorithm

inductive MissingPolicy where
  | error
  | warn
  | generate
  deriving DecidableEq

inductive NixCacheState where
  | pending
  | enrolled
  deriving DecidableEq

structure NixCacheIdentity where
  keyName : String
  state : NixCacheState
  backendVersion : Nat
  publicKey : Option (FixedBytes 32)
  deriving DecidableEq

structure PinnedParties where
  partyU : Option String
  partyV : Option String
  deriving DecidableEq

structure SealingPin where
  parties : Option PinnedParties
  externalAad : List String
  deriving DecidableEq

def SealingPin.isConfigured (pin : SealingPin) : Bool :=
  pin.parties.isSome || !pin.externalAad.isEmpty

inductive GenerateSpec where
  | asciiPrintable (bytes : Nat)
  | base64 (bytes : Nat)
  | hex (bytes : Nat)
  | ageX25519
  | selfSignedTls (commonName validity : String)
  | selfSignedTlsPairOf (pairOf : String)
  deriving DecidableEq

/-! ### Labels -/

inductive NkeyType where
  | account
  | cluster
  | server
  | operator
  | user
  | curve
  deriving DecidableEq

def NkeyType.letter : NkeyType → Char
  | account => 'A'
  | cluster => 'C'
  | server => 'N'
  | operator => 'O'
  | user => 'U'
  | curve => 'X'

def NkeyType.all : List NkeyType := [.account, .cluster, .server, .operator, .user, .curve]

def NkeyType.fromLetter (letter : Char) : Option NkeyType :=
  NkeyType.all.find? fun role => role.letter == letter

structure Labels where
  labels : List String
  deriving DecidableEq

namespace Labels

def get (l : Labels) (key : String) : Option String :=
  (l.labels.filterMap (Text.splitOnce '=')).findSome? fun p => if p.1 = key then some p.2 else none

def natsType (l : Labels) : Option NkeyType :=
  match (l.get "nats_type").map String.toList with
  | some [letter] => NkeyType.fromLetter letter
  | _ => none

end Labels

/-! ### Keys and catalogs -/

structure KeyEntry where
  keyClass : KeyClass
  keyType : Option KeyAlgorithm
  backend : String
  engine : Option Engine
  path : String
  publicPath : Option String
  writable : Bool
  missing : MissingPolicy
  nixCache : Option NixCacheIdentity
  generate : Option GenerateSpec
  sealingPin : Option SealingPin
  labels : Labels
  description : String
  deriving DecidableEq

namespace KeyEntry

def effectiveEngine (key : KeyEntry) : Engine :=
  key.engine.getD <|
    match key.keyClass with
    | .asymmetric | .symmetric => .transit
    | .value | .publicKey | .sealing => .kv2

def isCredentialIssuer (key : KeyEntry) : Bool :=
  let natsIssuer := match key.labels.natsType with
    | some .operator | some .account => true
    | _ => false
  let svidIssuer := key.labels.get "svid_kind" = some "jwt" ∨ key.labels.get "svid_kind" = some "x509"
  natsIssuer || decide svidIssuer

def isMaterializeToUse (key : KeyEntry) : Bool :=
  match key.keyClass with
  | .sealing => true
  | .asymmetric => key.effectiveEngine = .kv2
  | .symmetric | .value | .publicKey => false

end KeyEntry

structure BackendRef where
  kind : BackendKind
  addr : String
  engines : List Engine
  capabilities : List Capability
  mintKeyTypes : List KeyAlgorithm
  requires : List Capability

structure Catalog where
  backends : OrdMap String BackendRef
  keys : OrdMap String KeyEntry

end Basil
