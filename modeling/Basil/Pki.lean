import Basil.Manager

/-!
# Issuing certificates (`core/manager.rs`)

An asymmetric key under the PKI engine names the issue endpoint of a role; the issuing key stays
in the backend.
-/

namespace Basil

structure X509Svid where
  certChainDer : List Bytes
  leafPrivateKeyDer : Bytes
  bundleDer : List Bytes
  deriving DecidableEq

structure X509CertRequest where
  commonName : String
  dnsSans : List String
  ipSans : List String
  ttlSeconds : Nat
  deriving DecidableEq

structure X509Bundle where
  bundleDer : List Bytes
  crlDer : Bytes
  deriving DecidableEq

structure PkiBackend (σ : Type) where
  issueX509Svid : String → String → Nat → Proc σ BackendError X509Svid :=
    fun _ _ _ => .fail (.unsupported "issue_x509_svid")
  issueX509Cert : String → X509CertRequest → Proc σ BackendError X509Svid :=
    fun _ _ => .fail (.unsupported "issue_x509_cert")
  x509Bundle : String → Proc σ BackendError X509Bundle :=
    fun _ => .fail (.unsupported "x509_bundle")

namespace Manager

variable {σ : Type} (m : Manager σ) (pkiOf : String → PkiBackend σ)

/-- The two issue requests differ in their name and in what the backend is asked. -/
def issueUnder (op keyId : String) (issue : PkiBackend σ → String → Proc σ BackendError X509Svid) :
    Proc σ ManagerError X509Svid := do
  let routed ← m.route keyId
  Proc.check (requireClass op keyId routed.entry.keyClass [.asymmetric])
  Proc.check (ensure (routed.engine = .pki) (.unsupported op))
  (issue (pkiOf routed.entry.backend) routed.entry.path).mapErr .backend

def issueX509Svid (keyId spiffeId : String) (ttlSeconds : Nat) : Proc σ ManagerError X509Svid :=
  m.issueUnder pkiOf "issue_x509_svid" keyId fun backend path =>
    backend.issueX509Svid path spiffeId ttlSeconds

def issueX509Cert (keyId : String) (request : X509CertRequest) : Proc σ ManagerError X509Svid :=
  m.issueUnder pkiOf "issue_x509_cert" keyId fun backend path => backend.issueX509Cert path request

end Manager

end Basil
