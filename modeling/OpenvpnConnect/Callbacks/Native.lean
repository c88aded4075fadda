import OpenvpnConnect.Callbacks.Application
import OpenvpnConnect.Native.Config

-- The callbacks that the native client is created with.
namespace OpenvpnConnect.Callbacks

open Native Tun

variable {σ ρ ι : Type} {α β : Type}

-- The context is a pointer to the box that holds the handler; it may be null.
abbrev Context (σ : Type) := Option (EventHandler σ)

-- `catch_unwind` around an action of the handler: its answer, or the one for a null context or a panic.
def contained (context : Context σ) (null panicked : ρ) (action : EventHandler σ → Method σ ρ) : σ → ρ × σ :=
  fun state =>
    match context with
    | none => (null, state)
    | some handler =>
        let outcome := action handler state
        (outcome.1.getD panicked, outcome.2)

-- `accessor().map_or(default, action)`
def provided (accessor : Method σ (Option ι)) (default : ρ) (action : ι → Method σ ρ) : Method σ ρ :=
  fun state =>
    match accessor state with
    | (none, after) => (none, after)
    | (some none, after) => (some default, after)
    | (some (some object), after) => action object after

def callTun (context : Context σ) (default : ρ) (action : TunBuilder σ → Method σ ρ) : σ → ρ × σ :=
  contained context default default fun handler => provided handler.tunBuilder default action

def callExternalTransport (context : Context σ) (default : ρ) (action : ExternalTransport σ → Method σ ρ) :
    σ → ρ × σ :=
  contained context default default fun handler => provided handler.externalTransport default action

def callExternalTun (context : Context σ) (default : ρ) (action : ExternalTun σ → Method σ ρ) : σ → ρ × σ :=
  contained context default default fun handler => provided handler.externalTun default action

-- A callback's return; it never unwinds.
def returns (f : α → β) (call : σ → α × σ) : Method σ β := fun state => (some (f (call state).1), (call state).2)

-- A callback that hands its answer to a function, which may be null, and that function changes the response.
def completes (complete : Option (β → ρ → ρ)) (f : α → β) (call : σ → α × σ) : Method (σ × ρ) Unit :=
  fun state =>
    match complete with
    | none => (some (), state)
    | some complete => (some (), ((call state.1).2, complete (f (call state.1).1) state.2))

-- Events and requests

def eventCallback (context : Context σ) (error fatal : Int32) (name info : StringView) : Method σ Unit :=
  returns id (contained context () () fun handler =>
    handler.event ⟨error != 0, fatal != 0, stringFromView name, stringFromView info⟩)

def logCallback (context : Context σ) (text : StringView) : Method σ Unit :=
  returns id (contained context () () fun handler => handler.log (stringFromView text))

def appControlCallback (context : Context σ) (protocol payload : StringView) : Method σ Unit :=
  returns id (contained context () () fun handler =>
    handler.appControlMessage ⟨stringFromView protocol, stringFromView payload⟩)

def socketProtectCallback (context : Context σ) (socket : Int64) (remote : StringView) (ipv6 : Int32) :
    Method σ Int32 :=
  returns boolI32 (contained context false false fun handler =>
    handler.socketProtect socket (stringFromView remote) (ipv6 != 0))

def pauseOnTimeoutCallback (context : Context σ) : Method σ Int32 :=
  returns boolI32 (contained context false false EventHandler.pauseOnConnectionTimeout)

def clockTickCallback (context : Context σ) : Method σ Unit :=
  returns id (contained context () () EventHandler.clockTick)

structure CertCompletion where
  error : Int32
  invalidAlias : Int32
  errorText : StringView
  cert : StringView
  supportingChain : StringView

structure SignCompletion where
  error : Int32
  invalidAlias : Int32
  errorText : StringView
  signature : StringView

structure RemoteCompletion where
  host : StringView
  ip : StringView
  port : StringView
  proto : StringView
  error : StringView

def pkiContextNull : ExternalPkiError := .new "external PKI callback context is null"

def pkiPanicked : ExternalPkiError := .new "external PKI callback panicked"

def certCompletion : Except ExternalPkiError ExternalPkiCertificate → CertCompletion
  | .ok certificate => ⟨0, 0, view "", view certificate.certificate, view certificate.supportingChain⟩
  | .error error => ⟨1, boolI32 error.invalidAlias, view error.message, view "", view ""⟩

def externalPkiCertificateCallback (context : Context σ) (pkiAlias : StringView)
    (complete : Option (CertCompletion → ρ → ρ)) : Method (σ × ρ) Unit :=
  completes complete certCompletion (contained context (.error pkiContextNull) (.error pkiPanicked) fun handler =>
    handler.externalPkiCertificate ⟨stringFromView pkiAlias⟩)

def signCompletion : Except ExternalPkiError String → SignCompletion
  | .ok signature => ⟨0, 0, view "", view signature⟩
  | .error error => ⟨1, boolI32 error.invalidAlias, view error.message, view ""⟩

def externalPkiSignCallback (context : Context σ) (pkiAlias data algorithm hashAlgorithm saltLength : StringView)
    (complete : Option (SignCompletion → ρ → ρ)) : Method (σ × ρ) Unit :=
  completes complete signCompletion (contained context (.error pkiContextNull) (.error pkiPanicked) fun handler =>
    handler.externalPkiSign ⟨stringFromView pkiAlias, stringFromView data, stringFromView algorithm,
      stringFromView hashAlgorithm, stringFromView saltLength⟩)

def remoteOverrideEnabledCallback (context : Context σ) : Method σ Int32 :=
  returns boolI32 (contained context false false EventHandler.remoteOverrideEnabled)

def remoteCompletion : Except String RemoteOverride → RemoteCompletion
  | .ok remote => ⟨view remote.host, view remote.ip, view remote.port, view remote.protocol, view ""⟩
  | .error error => ⟨view "", view "", view "", view "", view error⟩

def remoteOverrideCallback (context : Context σ) (complete : Option (RemoteCompletion → ρ → ρ)) :
    Method (σ × ρ) Unit :=
  completes complete remoteCompletion
    (contained context (.error "remote override callback context is null")
      (.error "remote override callback panicked") EventHandler.remoteOverride)

-- Tunnel construction

def tunBuilderEstablishCallback (context : Context σ) : Method σ Int32 :=
  returns id (callTun context (-1) TunBuilder.establish)

-- An empty vector is passed as null.
def networkViews (networks : List String) : View StringView :=
  ⟨slicePointer (networks.map view), networks.length⟩

def tunBuilderGetLocalNetworksCallback (context : Context σ) (ipv6 : Int32)
    (complete : Option (View StringView → ρ → ρ)) : Method (σ × ρ) Unit :=
  completes complete networkViews (contained context [] [] fun handler =>
    provided handler.tunBuilder [] fun tun => tun.localNetworks (ipv6 != 0))

def tunBuilderEstablishLiteCallback (context : Context σ) : Method σ Unit :=
  returns id (callTun context () TunBuilder.establishLite)

def tunBuilderTeardownCallback (context : Context σ) (disconnect : Int32) : Method σ Unit :=
  returns id (callTun context () fun tun => tun.teardown (disconnect != 0))

def tunBuilderDcoEnableCallback (context : Context σ) (deviceName : StringView) : Method σ Int32 :=
  returns id (callTun context (-1) fun tun => tun.dcoEnable (stringFromView deviceName))

structure DcoPeerView where
  peerId : UInt32
  transportFd : UInt32
  remoteIp : StringView
  remotePort : UInt16
  vpnIpv4 : StringView
  vpnIpv6 : StringView

structure DcoKeyDirectionView where
  cipherKey : View UInt8
  nonceTail : View UInt8

structure DcoKeyConfigView where
  encrypt : DcoKeyDirectionView
  decrypt : DcoKeyDirectionView
  keyId : Int32
  remotePeerId : Int32
  cipherAlgorithm : UInt32

def tunBuilderDcoNewPeerCallback (context : Context σ) (peer : Option DcoPeerView) : Method σ Unit :=
  match peer with
  | none => done ()
  | some peer =>
      returns id (callTun context () fun tun => tun.dcoNewPeer
        ⟨peer.peerId, peer.transportFd, stringFromView peer.remoteIp, peer.remotePort,
          stringFromView peer.vpnIpv4, stringFromView peer.vpnIpv6⟩)

def tunBuilderDcoSetPeerCallback (context : Context σ) (peerId : UInt32)
    (keepaliveInterval keepaliveTimeout : Int32) : Method σ Unit :=
  returns id (callTun context () fun tun => tun.dcoSetPeer peerId keepaliveInterval keepaliveTimeout)

def tunBuilderDcoDelPeerCallback (context : Context σ) (peerId : UInt32) : Method σ Unit :=
  returns id (callTun context () fun tun => tun.dcoDeletePeer peerId)

def tunBuilderDcoGetPeerCallback (context : Context σ) (peerId : UInt32) (synchronous : Int32) : Method σ Unit :=
  returns id (callTun context () fun tun => tun.dcoGetPeer peerId (synchronous != 0))

-- At most eight bytes of the nonce are taken; what is missing is zero.
def dcoKeyDirection (direction : DcoKeyDirectionView) : DcoKeyDirection where
  cipherKey := rawViewSlice direction.cipherKey
  nonceTail := .ofFn fun i => (rawViewSlice direction.nonceTail).getD i 0

def tunBuilderDcoNewKeyCallback (context : Context σ) (keySlot : UInt32) (key : Option DcoKeyConfigView) :
    Method σ Unit :=
  match key with
  | none => done ()
  | some key =>
      returns id (callTun context () fun tun => tun.dcoNewKey keySlot
        ⟨dcoKeyDirection key.encrypt, dcoKeyDirection key.decrypt, key.keyId, key.remotePeerId,
          key.cipherAlgorithm⟩)

def tunBuilderDcoSwapKeysCallback (context : Context σ) (peerId : UInt32) : Method σ Unit :=
  returns id (callTun context () fun tun => tun.dcoSwapKeys peerId)

def tunBuilderDcoDelKeyCallback (context : Context σ) (peerId keySlot : UInt32) : Method σ Unit :=
  returns id (callTun context () fun tun => tun.dcoDeleteKey peerId keySlot)

def tunBuilderDcoEstablishCallback (context : Context σ) : Method σ Unit :=
  returns id (callTun context () TunBuilder.dcoEstablish)

-- External transport

structure ExternalRemoteView where
  host : StringView
  port : StringView
  protocol : StringView

structure ExternalTransportConfigView where
  host : StringView
  port : StringView
  protocol : StringView
  gremlinConfig : StringView
  remotes : View ExternalRemoteView
  serverAddressFloat : Int32
  synchronousDnsLookup : Int32

structure ExternalTransportEndpointView where
  host : StringView
  port : StringView
  protocol : StringView
  ipAddress : StringView

def externalTransportConfigureCallback (context : Context σ) (config : Option ExternalTransportConfigView) :
    Method σ Int32 :=
  match config with
  | none => done 0
  | some config =>
      let remotes := (rawViewSlice config.remotes).map fun remote =>
        ⟨stringFromView remote.host, stringFromView remote.port, stringFromView remote.protocol⟩
      returns boolI32 (callExternalTransport context false fun transport => transport.configure
        ⟨stringFromView config.host, stringFromView config.port, stringFromView config.protocol,
          stringFromView config.gremlinConfig, remotes, config.serverAddressFloat != 0,
          config.synchronousDnsLookup != 0⟩)

-- The session gets a reference of its own; without one it is not started.
def externalTransportStartCallback (context : Context σ) (retained : Option Handle) : Method σ Unit :=
  match retained with
  | none => done ()
  | some io => returns id (callExternalTransport context () fun transport => transport.start io)

def externalTransportStopCallback (context : Context σ) : Method σ Unit :=
  returns id (callExternalTransport context () ExternalTransport.stop)

def externalTransportSendCallback (context : Context σ) (packet : View UInt8) : Method σ Int32 :=
  returns boolI32 (callExternalTransport context false fun transport => transport.send (rawViewSlice packet))

def externalTransportSendQueueEmptyCallback (context : Context σ) : Method σ Int32 :=
  returns boolI32 (callExternalTransport context true ExternalTransport.sendQueueEmpty)

def externalTransportHasSendQueueCallback (context : Context σ) : Method σ Int32 :=
  returns boolI32 (callExternalTransport context false ExternalTransport.hasSendQueue)

def externalTransportStopRequeueingCallback (context : Context σ) : Method σ Unit :=
  returns id (callExternalTransport context () ExternalTransport.stopRequeueing)

def externalTransportSendQueueSizeCallback (context : Context σ) : Method σ Nat :=
  returns id (callExternalTransport context 0 ExternalTransport.sendQueueSize)

def externalTransportResetAlignAdjustCallback (context : Context σ) (alignAdjust : Nat) : Method σ Unit :=
  returns id (callExternalTransport context () fun transport => transport.resetAlignAdjust alignAdjust)

def endpointView (endpoint : ExternalTransportEndpoint) : Option ExternalTransportEndpointView :=
  some ⟨view endpoint.host, view endpoint.port, view endpoint.protocol, view endpoint.ipAddress⟩

def externalTransportEndpointCallback (context : Context σ)
    (complete : Option (Option ExternalTransportEndpointView → ρ → ρ)) : Method (σ × ρ) Unit :=
  completes complete endpointView (callExternalTransport context {} ExternalTransport.endpoint)

def externalTransportNativeHandleCallback (context : Context σ) : Method σ Int64 :=
  returns (fun handle => handle.getD (-1)) (callExternalTransport context none ExternalTransport.nativeHandle)

def externalTransportIsRelayCallback (context : Context σ) : Method σ Int32 :=
  returns boolI32 (callExternalTransport context false ExternalTransport.isRelay)

def externalTransportProcessPushCallback (context : Context σ) (options : StringView) : Method σ Unit :=
  returns id (callExternalTransport context () fun transport => transport.processPush (stringFromView options))

-- External tunnel

structure ExternalTunConfigView where
  sessionName : StringView
  layer : Int32
  mtu : Int32
  mtuMax : Int32
  googleDnsFallback : Int32
  dhcpSearchDomainsAsSplitDomains : Int32
  allowLocalLanAccess : Int32
  remoteBypass : Int32
  tunPersist : Int32

structure ExternalTunStartView where
  options : StringView
  cipherAlgorithm : UInt32
  digestAlgorithm : UInt32
  keyDerivation : UInt32
  useEpochKeys : Int32

structure ExternalTunInfoView where
  name : StringView
  vpnIpv4 : StringView
  vpnIpv6 : StringView
  gatewayIpv4 : StringView
  gatewayIpv6 : StringView
  mtu : Int32
  interfaceIndex : UInt32

def externalTunConfigureCallback (context : Context σ) (config : Option ExternalTunConfigView) : Method σ Int32 :=
  match config with
  | none => done 0
  | some config =>
      returns boolI32 (callExternalTun context false fun tun => tun.configure
        ⟨stringFromView config.sessionName, config.layer, config.mtu, config.mtuMax,
          config.googleDnsFallback != 0, config.dhcpSearchDomainsAsSplitDomains != 0,
          config.allowLocalLanAccess != 0, config.remoteBypass != 0, config.tunPersist != 0⟩)

def externalTunStartCallback (context : Context σ) (retained : Option Handle)
    (start : Option ExternalTunStartView) : Method σ Unit :=
  match start, retained with
  | some start, some io =>
      returns id (callExternalTun context () fun tun => tun.start
        ⟨stringFromView start.options, start.cipherAlgorithm, start.digestAlgorithm, start.keyDerivation,
          start.useEpochKeys != 0⟩ io)
  | _, _ => done ()

def externalTunStopCallback (context : Context σ) : Method σ Unit :=
  returns id (callExternalTun context () ExternalTun.stop)

def externalTunSetDisconnectCallback (context : Context σ) : Method σ Unit :=
  returns id (callExternalTun context () ExternalTun.setDisconnect)

def externalTunSendCallback (context : Context σ) (packet : View UInt8) : Method σ Int32 :=
  returns boolI32 (callExternalTun context false fun tun => tun.send (rawViewSlice packet))

def infoView (info : ExternalTunInfo) : Option ExternalTunInfoView :=
  some ⟨view info.name, view info.vpnIpv4, view info.vpnIpv6, view info.gatewayIpv4, view info.gatewayIpv6,
    info.mtu, info.interfaceIndex.getD 0xFFFFFFFF⟩

def externalTunInfoCallback (context : Context σ) (complete : Option (Option ExternalTunInfoView → ρ → ρ)) :
    Method (σ × ρ) Unit :=
  completes complete infoView (callExternalTun context {} ExternalTun.info)

def externalTunAdjustMssCallback (context : Context σ) (mss : Int32) : Method σ Unit :=
  returns id (callExternalTun context () fun tun => tun.adjustMss mss)

def externalTunApplyPushUpdateCallback (context : Context σ) (options : StringView) : Method σ Unit :=
  returns id (callExternalTun context () fun tun => tun.applyPushUpdate (stringFromView options))

def externalTunLayer2SupportedCallback (context : Context σ) : Method σ Int32 :=
  returns boolI32 (callExternalTun context false ExternalTun.layer2Supported)

def externalTunSupportsEpochDataCallback (context : Context σ) : Method σ Int32 :=
  returns boolI32 (callExternalTun context false ExternalTun.supportsEpochData)

def externalTunFinalizeCallback (context : Context σ) (disconnected : Int32) : Method σ Unit :=
  returns id (callExternalTun context () fun tun => tun.finalize (disconnected != 0))

end OpenvpnConnect.Callbacks
