import Basil.AeadRoundTrip
import Basil.BackendUpdate
import Basil.BrokerState
import Basil.ChallengeRate
import Basil.CustodyGate
import Basil.InvocationAuthority
import Basil.JwksCacheRun
import Basil.KeyCreation
import Basil.MintConfinement
import Basil.MintRun
import Basil.PolicyTerms
import Basil.RekeyRecovery
import Basil.ReloadIdentity
import Basil.ReloadManager
import Basil.RevocationLaw
import Basil.RotationRun
import Basil.RunQuotaRun
import Basil.SlotTable
import Basil.SpiffeIdentity
import Basil.Timestamp
import Basil.WriteConfinement
