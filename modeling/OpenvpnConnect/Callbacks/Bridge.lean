import OpenvpnConnect.Callbacks.Native

-- What OpenVPN Core calls: the client, and the sessions of an application's transport and tunnel.
namespace OpenvpnConnect.Callbacks

open Native Tun

namespace Core

structure Event where
  error : Bool
  fatal : Bool
  name : CxxString
  info : CxxString

structure AppCustomControlMessageEvent where
  protocol : CxxString
  payload : CxxString

-- The requests are filled in by the call.
structure ExternalPKICertRequest where
  pkiAlias : CxxString
  error : Bool
  invalidAlias : Bool
  errorText : CxxString
  cert : CxxString
  supportingChain : CxxString

structure ExternalPKISignRequest where
  pkiAlias : CxxString
  data : CxxString
  algorithm : CxxString
  hashalg : CxxString
  saltlen : CxxString
  error : Bool
  invalidAlias : Bool
  errorText : CxxString
  sig : CxxString

structure RemoteOverride where
  host : CxxString
  ip : CxxString
  port : CxxString
  proto : CxxString
  error : CxxString

inductive Family where
  | Inet
  | Inet6
  | Other

-- The port in network order; writing the address as text may throw.
structure SockAddr where
  family : Family
  port : UInt8 × UInt8
  text : Option CxxString

structure KeyDirection where
  cipherKey : View UInt8
  nonceTail : List UInt8

structure KeyConfig where
  encrypt : KeyDirection
  decrypt : KeyDirection
  keyId : Int32
  remotePeerId : Int32
  cipherAlg : UInt32

structure Remote where
  host : CxxString
  port : CxxString
  protocol : CxxString

-- Looking the current endpoint up may throw.
structure RemoteList where
  current : Option Remote
  items : List Remote

structure TransportConfig where
  remoteList : Option RemoteList
  gremlinConfig : CxxString
  serverAddrFloat : Bool
  synchronousDnsLookup : Bool

structure TunConfig where
  sessionName : CxxString
  layer : Int32
  mtu : Int32
  mtuMax : Int32
  googleDnsFallback : Bool
  dhcpSearchDomainsAsSplitDomains : Bool
  allowLocalLanAccess : Bool
  remoteBypass : Bool
  tunPersist : Bool

-- Options come as Core renders them, which may throw.
structure TunStart where
  options : Option CxxString
  cipher : UInt32
  digest : UInt32
  keyDerivation : UInt32
  useEpochKeys : Bool

end Core

variable {σ ρ : Type} {α β : Type}

-- The table; entries may be null, and the callbacks may throw.
structure ClientCallbacks (σ : Type) where
  context : Context σ
  tun : Tun.ClientCallbacks σ
  event : Option (Context σ → Int32 → Int32 → StringView → StringView → Method σ Unit) := none
  log : Option (Context σ → StringView → Method σ Unit) := none
  accEvent : Option (Context σ → StringView → StringView → Method σ Unit) := none
  socketProtect : Option (Context σ → Int64 → StringView → Int32 → Method σ Int32) := none
  pauseOnConnectionTimeout : Option (Context σ → Method σ Int32) := none
  clockTick : Option (Context σ → Method σ Unit) := none
  externalPkiCertRequest :
    Option ((ρ : Type) → Context σ → StringView → Option (CertCompletion → ρ → ρ) → Method (σ × ρ) Unit) := none
  externalPkiSignRequest :
    Option ((ρ : Type) → Context σ → StringView → StringView → StringView → StringView → StringView →
      Option (SignCompletion → ρ → ρ) → Method (σ × ρ) Unit) := none
  remoteOverrideEnabled : Option (Context σ → Method σ Int32) := none
  remoteOverrideRequest :
    Option ((ρ : Type) → Context σ → Option (RemoteCompletion → ρ → ρ) → Method (σ × ρ) Unit) := none
  tunBuilderEstablish : Option (Context σ → Method σ Int32) := none
  tunBuilderGetLocalNetworks :
    Option ((ρ : Type) → Context σ → Int32 → Option (View StringView → ρ → ρ) → Method (σ × ρ) Unit) := none
  tunBuilderEstablishLite : Option (Context σ → Method σ Unit) := none
  tunBuilderTeardown : Option (Context σ → Int32 → Method σ Unit) := none
  tunBuilderDcoEnable : Option (Context σ → StringView → Method σ Int32) := none
  tunBuilderDcoNewPeer : Option (Context σ → Option DcoPeerView → Method σ Unit) := none
  tunBuilderDcoSetPeer : Option (Context σ → UInt32 → Int32 → Int32 → Method σ Unit) := none
  tunBuilderDcoDelPeer : Option (Context σ → UInt32 → Method σ Unit) := none
  tunBuilderDcoGetPeer : Option (Context σ → UInt32 → Int32 → Method σ Unit) := none
  tunBuilderDcoNewKey : Option (Context σ → UInt32 → Option DcoKeyConfigView → Method σ Unit) := none
  tunBuilderDcoSwapKeys : Option (Context σ → UInt32 → Method σ Unit) := none
  tunBuilderDcoDelKey : Option (Context σ → UInt32 → UInt32 → Method σ Unit) := none
  tunBuilderDcoEstablish : Option (Context σ → Method σ Unit) := none
  externalTransportConfigure : Option (Context σ → Option ExternalTransportConfigView → Method σ Int32) := none
  externalTransportStart : Option (Context σ → Option Handle → Method σ Unit) := none
  externalTransportStop : Option (Context σ → Method σ Unit) := none
  externalTransportSend : Option (Context σ → View UInt8 → Method σ Int32) := none
  externalTransportSendQueueEmpty : Option (Context σ → Method σ Int32) := none
  externalTransportHasSendQueue : Option (Context σ → Method σ Int32) := none
  externalTransportStopRequeueing : Option (Context σ → Method σ Unit) := none
  externalTransportSendQueueSize : Option (Context σ → Method σ Nat) := none
  externalTransportResetAlignAdjust : Option (Context σ → Nat → Method σ Unit) := none
  externalTransportEndpoint :
    Option ((ρ : Type) → Context σ → Option (Option ExternalTransportEndpointView → ρ → ρ) →
      Method (σ × ρ) Unit) := none
  externalTransportNativeHandle : Option (Context σ → Method σ Int64) := none
  externalTransportIsRelay : Option (Context σ → Method σ Int32) := none
  externalTransportProcessPush : Option (Context σ → StringView → Method σ Unit) := none
  externalTunConfigure : Option (Context σ → Option ExternalTunConfigView → Method σ Int32) := none
  externalTunStart : Option (Context σ → Option Handle → Option ExternalTunStartView → Method σ Unit) := none
  externalTunStop : Option (Context σ → Method σ Unit) := none
  externalTunSetDisconnect : Option (Context σ → Method σ Unit) := none
  externalTunSend : Option (Context σ → View UInt8 → Method σ Int32) := none
  externalTunInfo :
    Option ((ρ : Type) → Context σ → Option (Option ExternalTunInfoView → ρ → ρ) → Method (σ × ρ) Unit) := none
  externalTunAdjustMss : Option (Context σ → Int32 → Method σ Unit) := none
  externalTunApplyPushUpdate : Option (Context σ → StringView → Method σ Unit) := none
  externalTunLayer2Supported : Option (Context σ → Method σ Int32) := none
  externalTunSupportsEpochData : Option (Context σ → Method σ Int32) := none
  externalTunFinalize : Option (Context σ → Int32 → Method σ Unit) := none

def callbackTable (handler : EventHandler σ) : ClientCallbacks σ where
  context := some handler
  tun := Tun.callbacks handler.tun
  event := some eventCallback
  log := some logCallback
  accEvent := some appControlCallback
  socketProtect := some socketProtectCallback
  pauseOnConnectionTimeout := some pauseOnTimeoutCallback
  clockTick := some clockTickCallback
  externalPkiCertRequest := some fun _ => externalPkiCertificateCallback
  externalPkiSignRequest := some fun _ => externalPkiSignCallback
  remoteOverrideEnabled := some remoteOverrideEnabledCallback
  remoteOverrideRequest := some fun _ => remoteOverrideCallback
  tunBuilderEstablish := some tunBuilderEstablishCallback
  tunBuilderGetLocalNetworks := some fun _ => tunBuilderGetLocalNetworksCallback
  tunBuilderEstablishLite := some tunBuilderEstablishLiteCallback
  tunBuilderTeardown := some tunBuilderTeardownCallback
  tunBuilderDcoEnable := some tunBuilderDcoEnableCallback
  tunBuilderDcoNewPeer := some tunBuilderDcoNewPeerCallback
  tunBuilderDcoSetPeer := some tunBuilderDcoSetPeerCallback
  tunBuilderDcoDelPeer := some tunBuilderDcoDelPeerCallback
  tunBuilderDcoGetPeer := some tunBuilderDcoGetPeerCallback
  tunBuilderDcoNewKey := some tunBuilderDcoNewKeyCallback
  tunBuilderDcoSwapKeys := some tunBuilderDcoSwapKeysCallback
  tunBuilderDcoDelKey := some tunBuilderDcoDelKeyCallback
  tunBuilderDcoEstablish := some tunBuilderDcoEstablishCallback
  externalTransportConfigure := some externalTransportConfigureCallback
  externalTransportStart := some externalTransportStartCallback
  externalTransportStop := some externalTransportStopCallback
  externalTransportSend := some externalTransportSendCallback
  externalTransportSendQueueEmpty := some externalTransportSendQueueEmptyCallback
  externalTransportHasSendQueue := some externalTransportHasSendQueueCallback
  externalTransportStopRequeueing := some externalTransportStopRequeueingCallback
  externalTransportSendQueueSize := some externalTransportSendQueueSizeCallback
  externalTransportResetAlignAdjust := some externalTransportResetAlignAdjustCallback
  externalTransportEndpoint := some fun _ => externalTransportEndpointCallback
  externalTransportNativeHandle := some externalTransportNativeHandleCallback
  externalTransportIsRelay := some externalTransportIsRelayCallback
  externalTransportProcessPush := some externalTransportProcessPushCallback
  externalTunConfigure := some externalTunConfigureCallback
  externalTunStart := some externalTunStartCallback
  externalTunStop := some externalTunStopCallback
  externalTunSetDisconnect := some externalTunSetDisconnectCallback
  externalTunSend := some externalTunSendCallback
  externalTunInfo := some fun _ => externalTunInfoCallback
  externalTunAdjustMss := some externalTunAdjustMssCallback
  externalTunApplyPushUpdate := some externalTunApplyPushUpdateCallback
  externalTunLayer2Supported := some externalTunLayer2SupportedCallback
  externalTunSupportsEpochData := some externalTunSupportsEpochDataCallback
  externalTunFinalize := some externalTunFinalizeCallback

-- A call of an entry: what a null entry and an exception are answered with, and what the return is read as.
def guarded (callback : Option (Method σ α)) (absent thrown : β) (f : α → β) : σ → β × σ :=
  fun state =>
    match callback with
    | none => (absent, state)
    | some callback =>
        match callback state with
        | (some value, after) => (f value, after)
        | (none, after) => (thrown, after)

-- A response that starts as `initial` and is filled in while the callback runs; an exception may change it after.
def asked (callback : Method (σ × ρ) Unit) (initial : ρ) (caught : ρ → ρ) : σ → ρ × σ :=
  fun state =>
    match callback (state, initial) with
    | (some (), (after, response)) => (response, after)
    | (none, (after, response)) => (caught response, after)

def nonzero (code : Int32) : Bool := code != 0

-- Events and requests

namespace RustClient

def event (callbacks : ClientCallbacks σ) (event : Core.Event) : σ → Unit × σ :=
  guarded (callbacks.event.map fun callback => callback callbacks.context (boolI32 event.error)
    (boolI32 event.fatal) (viewOf event.name) (viewOf event.info)) () () id

def accEvent (callbacks : ClientCallbacks σ) (event : Core.AppCustomControlMessageEvent) : σ → Unit × σ :=
  guarded (callbacks.accEvent.map fun callback =>
    callback callbacks.context (viewOf event.protocol) (viewOf event.payload)) () () id

def log (callbacks : ClientCallbacks σ) (text : CxxString) : σ → Unit × σ :=
  guarded (callbacks.log.map fun callback => callback callbacks.context (viewOf text)) () () id

-- Without an entry the class it derives from answers.
def socketProtect (inherited : Bool) (callbacks : ClientCallbacks σ) (socket : Int32) (remote : CxxString)
    (ipv6 : Bool) : σ → Bool × σ :=
  guarded (callbacks.socketProtect.map fun callback =>
    callback callbacks.context socket.toInt64 (viewOf remote) (boolI32 ipv6)) inherited false nonzero

def pauseOnConnectionTimeout (callbacks : ClientCallbacks σ) : σ → Bool × σ :=
  guarded (callbacks.pauseOnConnectionTimeout.map fun callback => callback callbacks.context) false false nonzero

def clockTick (callbacks : ClientCallbacks σ) : σ → Unit × σ :=
  guarded (callbacks.clockTick.map fun callback => callback callbacks.context) () () id

structure CertResponse where
  error : Bool := true
  invalidAlias : Bool := false
  errorText : CxxString := "external PKI certificate callback did not complete".toByteArray
  cert : CxxString := .empty
  supportingChain : CxxString := .empty

def completeCert (completion : CertCompletion) (_ : CertResponse) : CertResponse where
  error := completion.error != 0
  invalidAlias := completion.invalidAlias != 0
  errorText := stringFrom completion.errorText
  cert := stringFrom completion.cert
  supportingChain := stringFrom completion.supportingChain

def externalPkiCertRequest (callbacks : ClientCallbacks σ) (request : Core.ExternalPKICertRequest) :
    σ → Core.ExternalPKICertRequest × σ :=
  fun state =>
    match callbacks.externalPkiCertRequest with
    | none =>
        ({ request with
            error := true,
            errorText := "external PKI certificate callback is not configured".toByteArray }, state)
    | some callback =>
        let (response, after) :=
          asked (callback CertResponse callbacks.context (viewOf request.pkiAlias) (some completeCert)) {}
            (fun response =>
              { response with errorText := "external PKI certificate callback threw an exception".toByteArray })
            state
        ({ request with
            error := response.error,
            invalidAlias := response.invalidAlias,
            errorText := response.errorText,
            cert := response.cert,
            supportingChain := response.supportingChain }, after)

structure SignResponse where
  error : Bool := true
  invalidAlias : Bool := false
  errorText : CxxString := "external PKI signing callback did not complete".toByteArray
  signature : CxxString := .empty

def completeSign (completion : SignCompletion) (_ : SignResponse) : SignResponse where
  error := completion.error != 0
  invalidAlias := completion.invalidAlias != 0
  errorText := stringFrom completion.errorText
  signature := stringFrom completion.signature

def externalPkiSignRequest (callbacks : ClientCallbacks σ) (request : Core.ExternalPKISignRequest) :
    σ → Core.ExternalPKISignRequest × σ :=
  fun state =>
    match callbacks.externalPkiSignRequest with
    | none =>
        ({ request with
            error := true,
            errorText := "external PKI signing callback is not configured".toByteArray }, state)
    | some callback =>
        let (response, after) :=
          asked (callback SignResponse callbacks.context (viewOf request.pkiAlias) (viewOf request.data)
            (viewOf request.algorithm) (viewOf request.hashalg) (viewOf request.saltlen) (some completeSign)) {}
            (fun response =>
              { response with errorText := "external PKI signing callback threw an exception".toByteArray })
            state
        ({ request with
            error := response.error,
            invalidAlias := response.invalidAlias,
            errorText := response.errorText,
            sig := response.signature }, after)

def remoteOverrideEnabled (callbacks : ClientCallbacks σ) : σ → Bool × σ :=
  guarded (callbacks.remoteOverrideEnabled.map fun callback => callback callbacks.context) false false nonzero

def unansweredRemote : Core.RemoteOverride :=
  ⟨.empty, .empty, .empty, .empty, "remote override callback did not complete".toByteArray⟩

def completeRemote (completion : RemoteCompletion) (_ : Core.RemoteOverride) : Core.RemoteOverride where
  host := stringFrom completion.host
  ip := stringFrom completion.ip
  port := stringFrom completion.port
  proto := stringFrom completion.proto
  error := stringFrom completion.error

def remoteOverride (callbacks : ClientCallbacks σ) (remote : Core.RemoteOverride) : σ → Core.RemoteOverride × σ :=
  fun state =>
    match callbacks.remoteOverrideRequest with
    | none => ({ remote with error := "remote override callback is not configured".toByteArray }, state)
    | some callback =>
        asked (callback Core.RemoteOverride callbacks.context (some completeRemote)) unansweredRemote
          (fun response => { response with error := "remote override callback threw an exception".toByteArray })
          state

-- Tunnel construction

def tunBuilderEstablish (callbacks : ClientCallbacks σ) : σ → Int32 × σ :=
  guarded (callbacks.tunBuilderEstablish.map fun callback => callback callbacks.context) (-1) (-1) id

-- A null pointer changes nothing.
def completeLocalNetworks (networks : View StringView) (response : List CxxString) : List CxxString :=
  match networks.data with
  | none => response
  | some data => response ++ (data.take networks.len).map stringFrom

def tunBuilderGetLocalNetworks (callbacks : ClientCallbacks σ) (ipv6 : Bool) : σ → List CxxString × σ :=
  fun state =>
    match callbacks.tunBuilderGetLocalNetworks with
    | none => ([], state)
    | some callback =>
        asked (callback (List CxxString) callbacks.context (boolI32 ipv6) (some completeLocalNetworks)) []
          (fun _ => []) state

def tunBuilderEstablishLite (callbacks : ClientCallbacks σ) : σ → Unit × σ :=
  guarded (callbacks.tunBuilderEstablishLite.map fun callback => callback callbacks.context) () () id

def tunBuilderTeardown (callbacks : ClientCallbacks σ) (disconnect : Bool) : σ → Unit × σ :=
  guarded (callbacks.tunBuilderTeardown.map fun callback =>
    callback callbacks.context (boolI32 disconnect)) () () id

def tunBuilderDcoEnable (callbacks : ClientCallbacks σ) (deviceName : CxxString) : σ → Int32 × σ :=
  guarded (callbacks.tunBuilderDcoEnable.map fun callback =>
    callback callbacks.context (viewOf deviceName)) (-1) (-1) id

-- `ntohs`
def hostOrder (port : UInt8 × UInt8) : UInt16 := port.1.toUInt16 * 256 + port.2.toUInt16

def remotePort (address : Core.SockAddr) : UInt16 :=
  match address.family with
  | .Inet => hostOrder address.port
  | .Inet6 => hostOrder address.port
  | .Other => 0

def tunBuilderDcoNewPeer (callbacks : ClientCallbacks σ) (peerId transportFd : UInt32)
    (address : Option Core.SockAddr) (vpn4 vpn6 : CxxString) : σ → Unit × σ :=
  match callbacks.tunBuilderDcoNewPeer, address with
  | some callback, some address =>
      match address.text with
      | none => fun state => ((), state)
      | some remoteIp =>
          guarded (some (callback callbacks.context (some
            ⟨peerId, transportFd, viewOf remoteIp, remotePort address, viewOf vpn4, viewOf vpn6⟩))) () () id
  | _, _ => fun state => ((), state)

def tunBuilderDcoSetPeer (callbacks : ClientCallbacks σ) (peerId : UInt32)
    (keepaliveInterval keepaliveTimeout : Int32) : σ → Unit × σ :=
  guarded (callbacks.tunBuilderDcoSetPeer.map fun callback =>
    callback callbacks.context peerId keepaliveInterval keepaliveTimeout) () () id

def tunBuilderDcoDelPeer (callbacks : ClientCallbacks σ) (peerId : UInt32) : σ → Unit × σ :=
  guarded (callbacks.tunBuilderDcoDelPeer.map fun callback => callback callbacks.context peerId) () () id

def tunBuilderDcoGetPeer (callbacks : ClientCallbacks σ) (peerId : UInt32) (synchronous : Bool) : σ → Unit × σ :=
  guarded (callbacks.tunBuilderDcoGetPeer.map fun callback =>
    callback callbacks.context peerId (boolI32 synchronous)) () () id

def directionView (direction : Core.KeyDirection) : DcoKeyDirectionView :=
  ⟨direction.cipherKey, ⟨some direction.nonceTail, direction.nonceTail.length⟩⟩

def tunBuilderDcoNewKey (callbacks : ClientCallbacks σ) (keySlot : UInt32) (key : Option Core.KeyConfig) :
    σ → Unit × σ :=
  match callbacks.tunBuilderDcoNewKey, key with
  | some callback, some key =>
      guarded (some (callback callbacks.context keySlot (some
        ⟨directionView key.encrypt, directionView key.decrypt, key.keyId, key.remotePeerId, key.cipherAlg⟩)))
        () () id
  | _, _ => fun state => ((), state)

def tunBuilderDcoSwapKeys (callbacks : ClientCallbacks σ) (peerId : UInt32) : σ → Unit × σ :=
  guarded (callbacks.tunBuilderDcoSwapKeys.map fun callback => callback callbacks.context peerId) () () id

def tunBuilderDcoDelKey (callbacks : ClientCallbacks σ) (peerId keySlot : UInt32) : σ → Unit × σ :=
  guarded (callbacks.tunBuilderDcoDelKey.map fun callback => callback callbacks.context peerId keySlot) () () id

def tunBuilderDcoEstablish (callbacks : ClientCallbacks σ) : σ → Unit × σ :=
  guarded (callbacks.tunBuilderDcoEstablish.map fun callback => callback callbacks.context) () () id

-- The factories of external sessions: whether one is made.

def remoteView (remote : Core.Remote) : ExternalRemoteView :=
  ⟨viewOf remote.host, viewOf remote.port, viewOf remote.protocol⟩

def newTransportFactory (callbacks : ClientCallbacks σ) (config : Core.TransportConfig) : σ → Bool × σ :=
  match callbacks.externalTransportConfigure, config.remoteList with
  | some callback, some remoteList =>
      match remoteList.current with
      | none => fun state => (false, state)
      | some current =>
          guarded (some (callback callbacks.context (some
            ⟨viewOf current.host, viewOf current.port, viewOf current.protocol, viewOf config.gremlinConfig,
              vectorView (remoteList.items.map remoteView), boolI32 config.serverAddrFloat,
              boolI32 config.synchronousDnsLookup⟩))) false false nonzero
  | _, _ => fun state => (false, state)

def newTunFactory (callbacks : ClientCallbacks σ) (config : Core.TunConfig) : σ → Bool × σ :=
  guarded (callbacks.externalTunConfigure.map fun callback => callback callbacks.context (some
    ⟨viewOf config.sessionName, config.layer, config.mtu, config.mtuMax, boolI32 config.googleDnsFallback,
      boolI32 config.dhcpSearchDomainsAsSplitDomains, boolI32 config.allowLocalLanAccess,
      boolI32 config.remoteBypass, boolI32 config.tunPersist⟩)) false false nonzero

end RustClient

namespace RustExternalTransportClient

structure EndpointResponse where
  host : CxxString := .empty
  port : CxxString := .empty
  protocol : CxxString := .empty
  ipAddress : CxxString := .empty

def completeEndpoint (endpoint : Option ExternalTransportEndpointView) (response : EndpointResponse) :
    EndpointResponse :=
  match endpoint with
  | none => response
  | some endpoint =>
      ⟨stringFrom endpoint.host, stringFrom endpoint.port, stringFrom endpoint.protocol,
        stringFrom endpoint.ipAddress⟩

def endpoint (callbacks : ClientCallbacks σ) : σ → EndpointResponse × σ :=
  fun state =>
    match callbacks.externalTransportEndpoint with
    | none => ({}, state)
    | some callback =>
        asked (callback EndpointResponse callbacks.context (some completeEndpoint)) {} id state

def transportStart (callbacks : ClientCallbacks σ) (retained : Option Handle) : σ → Unit × σ :=
  guarded (callbacks.externalTransportStart.map fun callback => callback callbacks.context retained) () () id

def stop (callbacks : ClientCallbacks σ) : σ → Unit × σ :=
  guarded (callbacks.externalTransportStop.map fun callback => callback callbacks.context) () () id

def send (callbacks : ClientCallbacks σ) (packet : List UInt8) : σ → Bool × σ :=
  guarded (callbacks.externalTransportSend.map fun callback =>
    callback callbacks.context ⟨some packet, packet.length⟩) false false nonzero

def transportSendQueueEmpty (callbacks : ClientCallbacks σ) : σ → Bool × σ :=
  guarded (callbacks.externalTransportSendQueueEmpty.map fun callback => callback callbacks.context)
    true true nonzero

def transportHasSendQueue (callbacks : ClientCallbacks σ) : σ → Bool × σ :=
  guarded (callbacks.externalTransportHasSendQueue.map fun callback => callback callbacks.context)
    false false nonzero

def transportStopRequeueing (callbacks : ClientCallbacks σ) : σ → Unit × σ :=
  guarded (callbacks.externalTransportStopRequeueing.map fun callback => callback callbacks.context) () () id

def transportSendQueueSize (callbacks : ClientCallbacks σ) : σ → Nat × σ :=
  guarded (callbacks.externalTransportSendQueueSize.map fun callback => callback callbacks.context) 0 0 id

def resetAlignAdjust (callbacks : ClientCallbacks σ) (alignAdjust : Nat) : σ → Unit × σ :=
  guarded (callbacks.externalTransportResetAlignAdjust.map fun callback =>
    callback callbacks.context alignAdjust) () () id

-- Reading the text may throw; the address is then the empty one.
def serverEndpointAddr {τ : Type} (fromString : CxxString → Option τ) (callbacks : ClientCallbacks σ) :
    σ → Option τ × σ :=
  fun state =>
    let (response, after) := endpoint callbacks state
    (if response.ipAddress.size ≠ 0 then fromString response.ipAddress else none, after)

def serverEndpointPort (parseNumber : CxxString → Option UInt16) (callbacks : ClientCallbacks σ) :
    σ → UInt16 × σ :=
  fun state =>
    let (response, after) := endpoint callbacks state
    (if response.port.size ≠ 0 then (parseNumber response.port).getD 0 else 0, after)

def nativeHandle (callbacks : ClientCallbacks σ) : σ → Int32 × σ :=
  guarded (callbacks.externalTransportNativeHandle.map fun callback => callback callbacks.context)
    0 0 Int64.toInt32

def isRelay (callbacks : ClientCallbacks σ) : σ → Bool × σ :=
  guarded (callbacks.externalTransportIsRelay.map fun callback => callback callbacks.context) false false nonzero

def processPush (callbacks : ClientCallbacks σ) (options : Option CxxString) : σ → Unit × σ :=
  match options with
  | none => fun state => ((), state)
  | some rendered =>
      guarded (callbacks.externalTransportProcessPush.map fun callback =>
        callback callbacks.context (viewOf rendered)) () () id

end RustExternalTransportClient

namespace RustExternalTunClient

structure InfoResponse where
  name : CxxString := .empty
  vpnIpv4 : CxxString := .empty
  vpnIpv6 : CxxString := .empty
  gatewayIpv4 : CxxString := .empty
  gatewayIpv6 : CxxString := .empty
  mtu : Int32 := 0
  interfaceIndex : UInt32

def completeInfo (info : Option ExternalTunInfoView) (response : InfoResponse) : InfoResponse :=
  match info with
  | none => response
  | some info =>
      ⟨stringFrom info.name, stringFrom info.vpnIpv4, stringFrom info.vpnIpv6, stringFrom info.gatewayIpv4,
        stringFrom info.gatewayIpv6, info.mtu, info.interfaceIndex⟩

-- The index starts as Core's invalid one.
def info (invalidIndex : UInt32) (callbacks : ClientCallbacks σ) : σ → InfoResponse × σ :=
  fun state =>
    match callbacks.externalTunInfo with
    | none => ({ interfaceIndex := invalidIndex }, state)
    | some callback =>
        asked (callback InfoResponse callbacks.context (some completeInfo))
          { interfaceIndex := invalidIndex } id state

def tunStart (callbacks : ClientCallbacks σ) (retained : Option Handle) (start : Core.TunStart) : σ → Unit × σ :=
  match start.options with
  | none => fun state => ((), state)
  | some rendered =>
      guarded (callbacks.externalTunStart.map fun callback => callback callbacks.context retained (some
        ⟨viewOf rendered, start.cipher, start.digest, start.keyDerivation, boolI32 start.useEpochKeys⟩)) () () id

def stop (callbacks : ClientCallbacks σ) : σ → Unit × σ :=
  guarded (callbacks.externalTunStop.map fun callback => callback callbacks.context) () () id

def setDisconnect (callbacks : ClientCallbacks σ) : σ → Unit × σ :=
  guarded (callbacks.externalTunSetDisconnect.map fun callback => callback callbacks.context) () () id

def tunSend (callbacks : ClientCallbacks σ) (packet : List UInt8) : σ → Bool × σ :=
  guarded (callbacks.externalTunSend.map fun callback =>
    callback callbacks.context ⟨some packet, packet.length⟩) false false nonzero

def adjustMss (callbacks : ClientCallbacks σ) (mss : Int32) : σ → Unit × σ :=
  guarded (callbacks.externalTunAdjustMss.map fun callback => callback callbacks.context mss) () () id

def applyPushUpdate (callbacks : ClientCallbacks σ) (options : Option CxxString) : σ → Unit × σ :=
  match options with
  | none => fun state => ((), state)
  | some rendered =>
      guarded (callbacks.externalTunApplyPushUpdate.map fun callback =>
        callback callbacks.context (viewOf rendered)) () () id

def layer2Supported (callbacks : ClientCallbacks σ) : σ → Bool × σ :=
  guarded (callbacks.externalTunLayer2Supported.map fun callback => callback callbacks.context)
    false false nonzero

def supportsEpochData (callbacks : ClientCallbacks σ) : σ → Bool × σ :=
  guarded (callbacks.externalTunSupportsEpochData.map fun callback => callback callbacks.context)
    false false nonzero

def finalize (callbacks : ClientCallbacks σ) (disconnected : Bool) : σ → Unit × σ :=
  guarded (callbacks.externalTunFinalize.map fun callback =>
    callback callbacks.context (boolI32 disconnected)) () () id

end RustExternalTunClient

end OpenvpnConnect.Callbacks
