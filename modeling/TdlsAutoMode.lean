import TdlsAutoMode.Model.Basic
import TdlsAutoMode.Model.State
import TdlsAutoMode.Model.Sample
import TdlsAutoMode.Model.Registry
import TdlsAutoMode.Model.Handlers
import TdlsAutoMode.Model.Run
import TdlsAutoMode.Sampling
import TdlsAutoMode.Reentry
import TdlsAutoMode.Effects
import TdlsAutoMode.RegistryInvariant
import TdlsAutoMode.RemovePeers
import TdlsAutoMode.EmptyRegistry
import TdlsAutoMode.ConnCount
import TdlsAutoMode.Flags
import TdlsAutoMode.Incoming
import TdlsAutoMode.Lifecycle
import TdlsAutoMode.ConnectTimers
import TdlsAutoMode.ConnectedPeers
import TdlsAutoMode.ConnectCap
import TdlsAutoMode.RssiHysteresis
import TdlsAutoMode.FastCycle
import TdlsAutoMode.CountryPoll
import TdlsAutoMode.Bgscan
import TdlsAutoMode.PassOrder
import TdlsAutoMode.Supplicant
import TdlsAutoMode.PnoSetup
import TdlsAutoMode.AndroidDriver
