import Basil.Request

/-!
# Listeners (`transport/listener.rs`, `transport/grpc_server.rs`)
-/

namespace Basil

inductive GrpcService where
  | invocation
  | signing
  | aead
  | secret
  | minting
  | nats
  | nixCache
  | admin
  | spiffeWorkload
  | sds
  deriving DecidableEq

namespace ListenerType

def exposes : ListenerType → GrpcService → Bool
  | host, _ => true
  | courier, .invocation => true
  | courier, _ => false

def display : ListenerType → String
  | host => "host"
  | courier => "courier"

end ListenerType

def maxListenerNameBytes : Nat := 63

def maxListeners : Nat := 32

def nameByteOk (index : Nat) (c : Char) : Bool :=
  c.isLower || c.isDigit || (decide (0 < index) && (c == '.' || c == '_' || c == '-'))

def validName (name : String) : Bool :=
  decide (name.toList ≠ []) && decide (name.utf8ByteSize ≤ maxListenerNameBytes) &&
    name.toList.zipIdx.all fun c => nameByteOk c.2 c.1

theorem validName_ci : validName "ci" := by decide

theorem validName_host : validName "host" := by decide

structure ListenerConfig where
  name : String
  listenerType : ListenerType
  path : String
  mode : Nat
  group : Option String
  name_valid : validName name = true
  deriving DecidableEq

structure ListenerConfigSet where
  configs : List ListenerConfig
  names_nodup : (configs.map ListenerConfig.name).Nodup
  paths_nodup : (configs.map ListenerConfig.path).Nodup
  has_host : ∃ c ∈ configs, c.listenerType = .host
  length_le : configs.length ≤ maxListeners

def ListenerConfigSet.get? (set : ListenerConfigSet) (name : String) : Option ListenerConfig :=
  set.configs.find? fun c => c.name = name

/-! ### A host listener and a courier -/

def hostListener : ListenerConfig := ⟨"host", .host, "/run/basil/host.sock", 432, none, validName_host⟩

def ciListener : ListenerConfig := ⟨"ci", .courier, "/run/basil/ci.sock", 432, none, validName_ci⟩

def hostOnly : ListenerConfigSet :=
  ⟨[hostListener], by decide, by decide, ⟨hostListener, by decide, rfl⟩, by decide⟩

end Basil
