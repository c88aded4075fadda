import OpenvpnConnect.Tun.Builder

-- What an application implements to answer OpenVPN Core.
namespace OpenvpnConnect.Callbacks

open Tun

structure Event where
  error : Bool
  fatal : Bool
  name : String
  info : String

structure AppControlMessage where
  protocol : String
  payload : String

structure RemoteOverride where
  host : String
  ip : String
  port : String
  protocol : String

structure DcoPeer where
  peerId : UInt32
  transportFd : UInt32
  remoteIp : String
  remotePort : UInt16
  vpnIpv4 : String
  vpnIpv6 : String

structure DcoKeyDirection where
  cipherKey : List UInt8
  nonceTail : Vector UInt8 8

structure DcoKeyConfig where
  encrypt : DcoKeyDirection
  decrypt : DcoKeyDirection
  keyId : Int32
  remotePeerId : Int32
  cipherAlgorithm : UInt32

-- The methods beside those that only answer whether they succeeded.
structure TunBuilder (σ : Type) extends Tun.TunBuilder σ where
  establish : Method σ Int32
  localNetworks : Bool → Method σ (List String)
  establishLite : Method σ Unit
  teardown : Bool → Method σ Unit
  dcoEnable : String → Method σ Int32
  dcoNewPeer : DcoPeer → Method σ Unit
  dcoSetPeer : UInt32 → Int32 → Int32 → Method σ Unit
  dcoDeletePeer : UInt32 → Method σ Unit
  dcoGetPeer : UInt32 → Bool → Method σ Unit
  dcoNewKey : UInt32 → DcoKeyConfig → Method σ Unit
  dcoSwapKeys : UInt32 → Method σ Unit
  dcoDeleteKey : UInt32 → UInt32 → Method σ Unit
  dcoEstablish : Method σ Unit

structure ExternalRemote where
  host : String
  port : String
  protocol : String

structure ExternalTransportConfig where
  host : String
  port : String
  protocol : String
  gremlinConfig : String
  remotes : List ExternalRemote
  serverAddressFloat : Bool
  synchronousDnsLookup : Bool

structure ExternalTransportEndpoint where
  host : String := ""
  port : String := ""
  protocol : String := ""
  ipAddress : String := ""

-- The way back into OpenVPN Core that a session of the application is given.
abbrev Handle := Nat

structure ExternalTransport (σ : Type) where
  configure : ExternalTransportConfig → Method σ Bool
  start : Handle → Method σ Unit
  stop : Method σ Unit
  send : List UInt8 → Method σ Bool
  sendQueueEmpty : Method σ Bool
  hasSendQueue : Method σ Bool
  stopRequeueing : Method σ Unit
  sendQueueSize : Method σ Nat
  resetAlignAdjust : Nat → Method σ Unit
  endpoint : Method σ ExternalTransportEndpoint
  nativeHandle : Method σ (Option Int64)
  isRelay : Method σ Bool
  processPush : String → Method σ Unit

structure ExternalTunConfig where
  sessionName : String
  layer : Int32
  mtu : Int32
  mtuMax : Int32
  googleDnsFallback : Bool
  dhcpSearchDomainsAsSplitDomains : Bool
  allowLocalLanAccess : Bool
  remoteBypass : Bool
  tunPersist : Bool

structure ExternalTunStartConfig where
  options : String
  cipherAlgorithm : UInt32
  digestAlgorithm : UInt32
  keyDerivation : UInt32
  useEpochKeys : Bool

structure ExternalTunInfo where
  name : String := ""
  vpnIpv4 : String := ""
  vpnIpv6 : String := ""
  gatewayIpv4 : String := ""
  gatewayIpv6 : String := ""
  mtu : Int32 := 0
  interfaceIndex : Option UInt32 := none

structure ExternalTun (σ : Type) where
  configure : ExternalTunConfig → Method σ Bool
  start : ExternalTunStartConfig → Handle → Method σ Unit
  stop : Method σ Unit
  setDisconnect : Method σ Unit
  send : List UInt8 → Method σ Bool
  info : Method σ ExternalTunInfo
  adjustMss : Int32 → Method σ Unit
  applyPushUpdate : String → Method σ Unit
  layer2Supported : Method σ Bool
  supportsEpochData : Method σ Bool
  finalize : Bool → Method σ Unit

structure ExternalPkiCertificateRequest where
  pkiAlias : String

structure ExternalPkiCertificate where
  certificate : String
  supportingChain : String

-- The data and the signature are in Base64.
structure ExternalPkiSignRequest where
  pkiAlias : String
  data : String
  algorithm : String
  hashAlgorithm : String
  saltLength : String

structure ExternalPkiError where
  message : String
  invalidAlias : Bool

def ExternalPkiError.new (message : String) : ExternalPkiError := ⟨message, false⟩

structure EventHandler (σ : Type) where
  event : Event → Method σ Unit
  log : String → Method σ Unit
  appControlMessage : AppControlMessage → Method σ Unit
  socketProtect : Int64 → String → Bool → Method σ Bool
  pauseOnConnectionTimeout : Method σ Bool
  clockTick : Method σ Unit
  remoteOverrideEnabled : Method σ Bool
  remoteOverride : Method σ (Except String RemoteOverride)
  tunBuilder : Method σ (Option (TunBuilder σ))
  externalTransport : Method σ (Option (ExternalTransport σ))
  externalTun : Method σ (Option (ExternalTun σ))
  externalPkiCertificate :
    ExternalPkiCertificateRequest → Method σ (Except ExternalPkiError ExternalPkiCertificate)
  externalPkiSign : ExternalPkiSignRequest → Method σ (Except ExternalPkiError String)

variable {σ α β : Type}

def done (value : α) : Method σ α := fun state => (some value, state)

def mapped (f : α → β) (method : Method σ α) : Method σ β :=
  fun state => ((method state).1.map f, (method state).2)

-- The trait's own methods.
def EventHandler.defaults : EventHandler σ where
  event := fun _ => done ()
  log := fun _ => done ()
  appControlMessage := fun _ => done ()
  socketProtect := fun _ _ _ => done true
  pauseOnConnectionTimeout := done false
  clockTick := done ()
  remoteOverrideEnabled := done false
  remoteOverride := done (.error "remote override callback is not implemented")
  tunBuilder := done none
  externalTransport := done none
  externalTun := done none
  externalPkiCertificate := fun _ => done (.error (.new "external PKI certificate callback is not implemented"))
  externalPkiSign := fun _ => done (.error (.new "external PKI signing callback is not implemented"))

-- What the tunnel calls that only answer success see of a handler.
def EventHandler.tun (handler : EventHandler σ) : Tun.EventHandler σ where
  tunBuilder := mapped (Option.map TunBuilder.toTunBuilder) handler.tunBuilder

end OpenvpnConnect.Callbacks
