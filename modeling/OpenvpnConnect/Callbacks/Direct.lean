import OpenvpnConnect.Callbacks.Bridge
import OpenvpnConnect.Tun.Dns
import OpenvpnConnect.Dialogue

-- The application's methods called directly, and that the two layers between add nothing to it.
namespace OpenvpnConnect.Callbacks

open Native Tun Dialogue

inductive Call where
  | Event (event : Core.Event)
  | AccEvent (event : Core.AppCustomControlMessageEvent)
  | Log (text : CxxString)
  | SocketProtect (socket : Int32) (remote : CxxString) (ipv6 : Bool)
  | PauseOnConnectionTimeout
  | ClockTick
  | CertRequest (request : Core.ExternalPKICertRequest)
  | SignRequest (request : Core.ExternalPKISignRequest)
  | RemoteOverrideEnabled
  | RemoteOverride (remote : Core.RemoteOverride)
  | Tun (call : TunCall)
  | Establish
  | LocalNetworks (ipv6 : Bool)
  | EstablishLite
  | Teardown (disconnect : Bool)
  | DcoEnable (deviceName : CxxString)
  | DcoNewPeer (peerId transportFd : UInt32) (address : Option Core.SockAddr) (vpn4 vpn6 : CxxString)
  | DcoSetPeer (peerId : UInt32) (keepaliveInterval keepaliveTimeout : Int32)
  | DcoDelPeer (peerId : UInt32)
  | DcoGetPeer (peerId : UInt32) (synchronous : Bool)
  | DcoNewKey (keySlot : UInt32) (key : Option Core.KeyConfig)
  | DcoSwapKeys (peerId : UInt32)
  | DcoDelKey (peerId keySlot : UInt32)
  | DcoEstablish
  | NewTransportFactory (config : Core.TransportConfig)
  | TransportStart (retained : Option Handle)
  | TransportStop
  | TransportSend (packet : List UInt8)
  | SendQueueEmpty
  | HasSendQueue
  | StopRequeueing
  | SendQueueSize
  | ResetAlignAdjust (alignAdjust : Nat)
  | ServerEndpointInfo
  | ServerEndpointAddr
  | ServerEndpointPort
  | NativeHandle
  | IsRelay
  | ProcessPush (options : Option CxxString)
  | NewTunFactory (config : Core.TunConfig)
  | TunStart (retained : Option Handle) (start : Core.TunStart)
  | TunStop
  | SetDisconnect
  | TunSend (packet : List UInt8)
  | TunInfo
  | AdjustMss (mss : Int32)
  | ApplyPushUpdate (options : Option CxxString)
  | Layer2Supported
  | SupportsEpochData
  | Finalize (disconnected : Bool)

variable {σ ρ τ : Type} {α β : Type}

def Call.Answer (τ : Type) : Call → Type
  | .SocketProtect _ _ _ => Bool
  | .PauseOnConnectionTimeout => Bool
  | .CertRequest _ => Core.ExternalPKICertRequest
  | .SignRequest _ => Core.ExternalPKISignRequest
  | .RemoteOverrideEnabled => Bool
  | .RemoteOverride _ => Core.RemoteOverride
  | .Tun _ => Bool
  | .Establish => Int32
  | .LocalNetworks _ => List CxxString
  | .DcoEnable _ => Int32
  | .NewTransportFactory _ => Bool
  | .TransportSend _ => Bool
  | .SendQueueEmpty => Bool
  | .HasSendQueue => Bool
  | .SendQueueSize => Nat
  | .ServerEndpointInfo => RustExternalTransportClient.EndpointResponse
  | .ServerEndpointAddr => Option τ
  | .ServerEndpointPort => UInt16
  | .NativeHandle => Int32
  | .IsRelay => Bool
  | .NewTunFactory _ => Bool
  | .TunSend _ => Bool
  | .TunInfo => RustExternalTunClient.InfoResponse
  | .Layer2Supported => Bool
  | .SupportsEpochData => Bool
  | _ => Unit

-- What Core itself brings: its own answer to `socket_protect`, its readers, and its invalid interface index.
structure Core.Library (τ : Type) where
  socketProtect : Bool
  fromString : CxxString → Option τ
  parseNumber : CxxString → Option UInt16
  invalidIndex : UInt32

-- The overrides that Core calls, with the table of callbacks the client was created with.
def bridge (library : Core.Library τ) (callbacks : ClientCallbacks σ) : Server Call (Call.Answer τ) σ
  | .Event event => RustClient.event callbacks event
  | .AccEvent event => RustClient.accEvent callbacks event
  | .Log text => RustClient.log callbacks text
  | .SocketProtect socket remote ipv6 =>
      RustClient.socketProtect library.socketProtect callbacks socket remote ipv6
  | .PauseOnConnectionTimeout => RustClient.pauseOnConnectionTimeout callbacks
  | .ClockTick => RustClient.clockTick callbacks
  | .CertRequest request => RustClient.externalPkiCertRequest callbacks request
  | .SignRequest request => RustClient.externalPkiSignRequest callbacks request
  | .RemoteOverrideEnabled => RustClient.remoteOverrideEnabled callbacks
  | .RemoteOverride remote => RustClient.remoteOverride callbacks remote
  | .Tun call => coreCall callbacks.tun call
  | .Establish => RustClient.tunBuilderEstablish callbacks
  | .LocalNetworks ipv6 => RustClient.tunBuilderGetLocalNetworks callbacks ipv6
  | .EstablishLite => RustClient.tunBuilderEstablishLite callbacks
  | .Teardown disconnect => RustClient.tunBuilderTeardown callbacks disconnect
  | .DcoEnable deviceName => RustClient.tunBuilderDcoEnable callbacks deviceName
  | .DcoNewPeer peerId transportFd address vpn4 vpn6 =>
      RustClient.tunBuilderDcoNewPeer callbacks peerId transportFd address vpn4 vpn6
  | .DcoSetPeer peerId keepaliveInterval keepaliveTimeout =>
      RustClient.tunBuilderDcoSetPeer callbacks peerId keepaliveInterval keepaliveTimeout
  | .DcoDelPeer peerId => RustClient.tunBuilderDcoDelPeer callbacks peerId
  | .DcoGetPeer peerId synchronous => RustClient.tunBuilderDcoGetPeer callbacks peerId synchronous
  | .DcoNewKey keySlot key => RustClient.tunBuilderDcoNewKey callbacks keySlot key
  | .DcoSwapKeys peerId => RustClient.tunBuilderDcoSwapKeys callbacks peerId
  | .DcoDelKey peerId keySlot => RustClient.tunBuilderDcoDelKey callbacks peerId keySlot
  | .DcoEstablish => RustClient.tunBuilderDcoEstablish callbacks
  | .NewTransportFactory config => RustClient.newTransportFactory callbacks config
  | .TransportStart retained => RustExternalTransportClient.transportStart callbacks retained
  | .TransportStop => RustExternalTransportClient.stop callbacks
  | .TransportSend packet => RustExternalTransportClient.send callbacks packet
  | .SendQueueEmpty => RustExternalTransportClient.transportSendQueueEmpty callbacks
  | .HasSendQueue => RustExternalTransportClient.transportHasSendQueue callbacks
  | .StopRequeueing => RustExternalTransportClient.transportStopRequeueing callbacks
  | .SendQueueSize => RustExternalTransportClient.transportSendQueueSize callbacks
  | .ResetAlignAdjust alignAdjust => RustExternalTransportClient.resetAlignAdjust callbacks alignAdjust
  | .ServerEndpointInfo => RustExternalTransportClient.endpoint callbacks
  | .ServerEndpointAddr => RustExternalTransportClient.serverEndpointAddr library.fromString callbacks
  | .ServerEndpointPort => RustExternalTransportClient.serverEndpointPort library.parseNumber callbacks
  | .NativeHandle => RustExternalTransportClient.nativeHandle callbacks
  | .IsRelay => RustExternalTransportClient.isRelay callbacks
  | .ProcessPush options => RustExternalTransportClient.processPush callbacks options
  | .NewTunFactory config => RustClient.newTunFactory callbacks config
  | .TunStart retained start => RustExternalTunClient.tunStart callbacks retained start
  | .TunStop => RustExternalTunClient.stop callbacks
  | .SetDisconnect => RustExternalTunClient.setDisconnect callbacks
  | .TunSend packet => RustExternalTunClient.tunSend callbacks packet
  | .TunInfo => RustExternalTunClient.info library.invalidIndex callbacks
  | .AdjustMss mss => RustExternalTunClient.adjustMss callbacks mss
  | .ApplyPushUpdate options => RustExternalTunClient.applyPushUpdate callbacks options
  | .Layer2Supported => RustExternalTunClient.layer2Supported callbacks
  | .SupportsEpochData => RustExternalTunClient.supportsEpochData callbacks
  | .Finalize disconnected => RustExternalTunClient.finalize callbacks disconnected

-- The application called directly

-- A method's answer, or the one for a panic.
def answered (panicked : ρ) (f : ρ → β) (action : Method σ ρ) : σ → β × σ :=
  fun state => (f ((action state).1.getD panicked), (action state).2)

-- The same for a method of an object that the application provides: where it provides none, or panics when it is
-- asked for it, no method is called.
def served {ι : Type} (accessor : Method σ (Option ι)) (default : ρ) (f : ρ → β) (action : ι → Method σ ρ) :
    σ → β × σ :=
  fun state =>
    match accessor state with
    | (none, after) => (f default, after)
    | (some none, after) => (f default, after)
    | (some (some object), after) => answered default f (action object) after

def silent : σ → Unit × σ := fun state => ((), state)

def Core.ExternalPKICertRequest.filled (request : Core.ExternalPKICertRequest) :
    Except ExternalPkiError ExternalPkiCertificate → Core.ExternalPKICertRequest
  | .ok certificate =>
      ⟨request.pkiAlias, false, false, .empty, certificate.certificate.toByteArray,
        certificate.supportingChain.toByteArray⟩
  | .error error => ⟨request.pkiAlias, true, error.invalidAlias, error.message.toByteArray, .empty, .empty⟩

def Core.ExternalPKISignRequest.filled (request : Core.ExternalPKISignRequest) :
    Except ExternalPkiError String → Core.ExternalPKISignRequest
  | .ok signature =>
      { request with error := false, invalidAlias := false, errorText := .empty, sig := signature.toByteArray }
  | .error error =>
      { request with
          error := true,
          invalidAlias := error.invalidAlias,
          errorText := error.message.toByteArray,
          sig := .empty }

def remoteOf : Except String RemoteOverride → Core.RemoteOverride
  | .ok remote =>
      ⟨remote.host.toByteArray, remote.ip.toByteArray, remote.port.toByteArray, remote.protocol.toByteArray,
        .empty⟩
  | .error error => ⟨.empty, .empty, .empty, .empty, error.toByteArray⟩

-- The number in network order of the internet families.
def portOf (address : Core.SockAddr) : UInt16 :=
  match address.family, address.port with
  | .Other, _ => 0
  | _, (high, low) => UInt16.ofNat (256 * high.toNat + low.toNat)

def peerOf (peerId transportFd : UInt32) (address : Core.SockAddr) (remoteIp vpn4 vpn6 : CxxString) : DcoPeer :=
  ⟨peerId, transportFd, fromUtf8Lossy remoteIp, portOf address, fromUtf8Lossy vpn4, fromUtf8Lossy vpn6⟩

-- The elements that a pointer and a length stand for.
def elements {ι : Type} (view : View ι) : List ι := (view.data.getD []).take view.len

def directionOf (direction : Core.KeyDirection) : DcoKeyDirection :=
  ⟨elements direction.cipherKey, .ofFn fun i => direction.nonceTail.getD i 0⟩

def keyOf (key : Core.KeyConfig) : DcoKeyConfig :=
  ⟨directionOf key.encrypt, directionOf key.decrypt, key.keyId, key.remotePeerId, key.cipherAlg⟩

def remoteEntry (remote : Core.Remote) : ExternalRemote :=
  ⟨fromUtf8Lossy remote.host, fromUtf8Lossy remote.port, fromUtf8Lossy remote.protocol⟩

def transportConfigOf (config : Core.TransportConfig) (remoteList : Core.RemoteList) (current : Core.Remote) :
    ExternalTransportConfig :=
  ⟨fromUtf8Lossy current.host, fromUtf8Lossy current.port, fromUtf8Lossy current.protocol,
    fromUtf8Lossy config.gremlinConfig, remoteList.items.map remoteEntry, config.serverAddrFloat,
    config.synchronousDnsLookup⟩

def tunConfigOf (config : Core.TunConfig) : ExternalTunConfig :=
  ⟨fromUtf8Lossy config.sessionName, config.layer, config.mtu, config.mtuMax, config.googleDnsFallback,
    config.dhcpSearchDomainsAsSplitDomains, config.allowLocalLanAccess, config.remoteBypass, config.tunPersist⟩

def endpointOf (endpoint : ExternalTransportEndpoint) : RustExternalTransportClient.EndpointResponse :=
  ⟨endpoint.host.toByteArray, endpoint.port.toByteArray, endpoint.protocol.toByteArray,
    endpoint.ipAddress.toByteArray⟩

def endpointAddr (library : Core.Library τ) (endpoint : ExternalTransportEndpoint) : Option τ :=
  if endpoint.ipAddress = "" then none else library.fromString endpoint.ipAddress.toByteArray

def endpointPort (library : Core.Library τ) (endpoint : ExternalTransportEndpoint) : UInt16 :=
  if endpoint.port = "" then 0 else (library.parseNumber endpoint.port.toByteArray).getD 0

-- That there is no descriptor comes as -1.
def descriptorOf (descriptor : Option Int64) : Int32 := (descriptor.getD (-1)).toInt32

def infoOf (info : ExternalTunInfo) : RustExternalTunClient.InfoResponse :=
  ⟨info.name.toByteArray, info.vpnIpv4.toByteArray, info.vpnIpv6.toByteArray, info.gatewayIpv4.toByteArray,
    info.gatewayIpv6.toByteArray, info.mtu, info.interfaceIndex.getD 0xFFFFFFFF⟩

def startOf (rendered : CxxString) (start : Core.TunStart) : ExternalTunStartConfig :=
  ⟨fromUtf8Lossy rendered, start.cipher, start.digest, start.keyDerivation, start.useEpochKeys⟩

def serverOf (priority : Int32) (server : Tun.Core.DnsServer) : DnsServer where
  priority := priority
  addresses := server.addresses.map fun address => ⟨fromUtf8Lossy address.address, address.port⟩
  resolveDomains := server.domains.map fun domain => fromUtf8Lossy domain.domain
  security := securityImage server.dnssec
  transport := transportImage server.transport
  sni := fromUtf8Lossy server.sni

def dnsOf (dns : Tun.Core.DnsOptions) : DnsOptions where
  fromDhcpOptions := dns.fromDhcpOptions
  searchDomains := dns.searchDomains.map fun domain => fromUtf8Lossy domain.domain
  servers := dns.servers.entries.map fun entry => serverOf entry.1 entry.2

-- The builder's method that a call asks for.
def requested (call : TunCall) (tun : TunBuilder σ) : Method σ Bool :=
  match call with
  | .New => tun.newTunnel
  | .SetLayer layer => tun.setLayer layer
  | .SetRemoteAddress address ipv6 => tun.setRemoteAddress (fromUtf8Lossy address) ipv6
  | .AddAddress address prefixLength gateway ipv6 net30 =>
      tun.addAddress (fromUtf8Lossy address) prefixLength (fromUtf8Lossy gateway) ipv6 net30
  | .SetRouteMetricDefault metric => tun.setRouteMetricDefault metric
  | .RerouteGw ipv4 ipv6 flags => tun.rerouteGateway ipv4 ipv6 flags
  | .AddRoute address prefixLength metric ipv6 => tun.addRoute (fromUtf8Lossy address) prefixLength metric ipv6
  | .ExcludeRoute address prefixLength metric ipv6 =>
      tun.excludeRoute (fromUtf8Lossy address) prefixLength metric ipv6
  | .SetDnsOptions dns => tun.setDnsOptions (dnsOf dns)
  | .SetMtu mtu => tun.setMtu mtu
  | .SetSessionName name => tun.setSessionName (fromUtf8Lossy name)
  | .AddProxyBypass host => tun.addProxyBypass (fromUtf8Lossy host)
  | .SetProxyAutoConfigUrl url => tun.setProxyAutoConfigUrl (fromUtf8Lossy url)
  | .SetProxyHttp host port => tun.setProxyHttp (fromUtf8Lossy host) port
  | .SetProxyHttps host port => tun.setProxyHttps (fromUtf8Lossy host) port
  | .AddWinsServer address => tun.addWinsServer (fromUtf8Lossy address)
  | .SetAllowFamily addressFamily allow => tun.setAllowFamily addressFamily allow
  | .SetAllowLocalDns allow => tun.setAllowLocalDns allow
  | .Persist => tun.persist
  | .DcoAvailable => tun.dcoAvailable

-- A platform may leave these out.
def optional : TunCall → Bool
  | .SetLayer _ | .SetRouteMetricDefault _ | .SetAllowFamily _ _ | .SetAllowLocalDns _ | .Persist => true
  | _ => false

def pkiPanic : ExternalPkiError := ⟨"external PKI callback panicked", false⟩

-- Core's texts come as Unicode, and the answers go back as they are.
def direct (library : Core.Library τ) (handler : EventHandler σ) : Server Call (Call.Answer τ) σ
  | .Event event =>
      answered () id (handler.event ⟨event.error, event.fatal, fromUtf8Lossy event.name, fromUtf8Lossy event.info⟩)
  | .AccEvent event =>
      answered () id (handler.appControlMessage ⟨fromUtf8Lossy event.protocol, fromUtf8Lossy event.payload⟩)
  | .Log text => answered () id (handler.log (fromUtf8Lossy text))
  | .SocketProtect socket remote ipv6 =>
      answered false id (handler.socketProtect socket.toInt64 (fromUtf8Lossy remote) ipv6)
  | .PauseOnConnectionTimeout => answered false id handler.pauseOnConnectionTimeout
  | .ClockTick => answered () id handler.clockTick
  | .CertRequest request =>
      answered (.error pkiPanic) request.filled
        (handler.externalPkiCertificate ⟨fromUtf8Lossy request.pkiAlias⟩)
  | .SignRequest request =>
      answered (.error pkiPanic) request.filled (handler.externalPkiSign
        ⟨fromUtf8Lossy request.pkiAlias, fromUtf8Lossy request.data, fromUtf8Lossy request.algorithm,
          fromUtf8Lossy request.hashalg, fromUtf8Lossy request.saltlen⟩)
  | .RemoteOverrideEnabled => answered false id handler.remoteOverrideEnabled
  | .RemoteOverride _ => answered (.error "remote override callback panicked") remoteOf handler.remoteOverride
  | .Tun call => served handler.tunBuilder (optional call) id (requested call)
  | .Establish => served handler.tunBuilder (-1 : Int32) id TunBuilder.establish
  | .LocalNetworks ipv6 =>
      served handler.tunBuilder [] (List.map String.toByteArray) fun tun => tun.localNetworks ipv6
  | .EstablishLite => served handler.tunBuilder () id TunBuilder.establishLite
  | .Teardown disconnect => served handler.tunBuilder () id fun tun => tun.teardown disconnect
  | .DcoEnable deviceName =>
      served handler.tunBuilder (-1 : Int32) id fun tun => tun.dcoEnable (fromUtf8Lossy deviceName)
  | .DcoNewPeer peerId transportFd address vpn4 vpn6 =>
      match address with
      | none => silent
      | some address =>
          match address.text with
          | none => silent
          | some remoteIp =>
              served handler.tunBuilder () id fun tun =>
                tun.dcoNewPeer (peerOf peerId transportFd address remoteIp vpn4 vpn6)
  | .DcoSetPeer peerId keepaliveInterval keepaliveTimeout =>
      served handler.tunBuilder () id fun tun => tun.dcoSetPeer peerId keepaliveInterval keepaliveTimeout
  | .DcoDelPeer peerId => served handler.tunBuilder () id fun tun => tun.dcoDeletePeer peerId
  | .DcoGetPeer peerId synchronous => served handler.tunBuilder () id fun tun => tun.dcoGetPeer peerId synchronous
  | .DcoNewKey keySlot key =>
      match key with
      | none => silent
      | some key => served handler.tunBuilder () id fun tun => tun.dcoNewKey keySlot (keyOf key)
  | .DcoSwapKeys peerId => served handler.tunBuilder () id fun tun => tun.dcoSwapKeys peerId
  | .DcoDelKey peerId keySlot => served handler.tunBuilder () id fun tun => tun.dcoDeleteKey peerId keySlot
  | .DcoEstablish => served handler.tunBuilder () id TunBuilder.dcoEstablish
  | .NewTransportFactory config =>
      match config.remoteList with
      | none => fun state => (false, state)
      | some remoteList =>
          match remoteList.current with
          | none => fun state => (false, state)
          | some current =>
              served handler.externalTransport false id fun transport =>
                transport.configure (transportConfigOf config remoteList current)
  | .TransportStart retained =>
      match retained with
      | none => silent
      | some io => served handler.externalTransport () id fun transport => transport.start io
  | .TransportStop => served handler.externalTransport () id ExternalTransport.stop
  | .TransportSend packet => served handler.externalTransport false id fun transport => transport.send packet
  | .SendQueueEmpty => served handler.externalTransport true id ExternalTransport.sendQueueEmpty
  | .HasSendQueue => served handler.externalTransport false id ExternalTransport.hasSendQueue
  | .StopRequeueing => served handler.externalTransport () id ExternalTransport.stopRequeueing
  | .SendQueueSize => served handler.externalTransport (0 : Nat) id ExternalTransport.sendQueueSize
  | .ResetAlignAdjust alignAdjust =>
      served handler.externalTransport () id fun transport => transport.resetAlignAdjust alignAdjust
  | .ServerEndpointInfo => served handler.externalTransport {} endpointOf ExternalTransport.endpoint
  | .ServerEndpointAddr =>
      served handler.externalTransport {} (endpointAddr library) ExternalTransport.endpoint
  | .ServerEndpointPort =>
      served handler.externalTransport {} (endpointPort library) ExternalTransport.endpoint
  | .NativeHandle =>
      served handler.externalTransport none descriptorOf ExternalTransport.nativeHandle
  | .IsRelay => served handler.externalTransport false id ExternalTransport.isRelay
  | .ProcessPush options =>
      match options with
      | none => silent
      | some rendered =>
          served handler.externalTransport () id fun transport => transport.processPush (fromUtf8Lossy rendered)
  | .NewTunFactory config => served handler.externalTun false id fun tun => tun.configure (tunConfigOf config)
  | .TunStart retained start =>
      match start.options, retained with
      | some rendered, some io =>
          served handler.externalTun () id fun tun => tun.start (startOf rendered start) io
      | _, _ => silent
  | .TunStop => served handler.externalTun () id ExternalTun.stop
  | .SetDisconnect => served handler.externalTun () id ExternalTun.setDisconnect
  | .TunSend packet => served handler.externalTun false id fun tun => tun.send packet
  | .TunInfo => served handler.externalTun {} infoOf ExternalTun.info
  | .AdjustMss mss => served handler.externalTun () id fun tun => tun.adjustMss mss
  | .ApplyPushUpdate options =>
      match options with
      | none => silent
      | some rendered =>
          served handler.externalTun () id fun tun => tun.applyPushUpdate (fromUtf8Lossy rendered)
  | .Layer2Supported => served handler.externalTun false id ExternalTun.layer2Supported
  | .SupportsEpochData => served handler.externalTun false id ExternalTun.supportsEpochData
  | .Finalize disconnected => served handler.externalTun () id fun tun => tun.finalize disconnected

section Lemmas

-- What is provided reaches the method in the same way.
theorem served_provided {ι : Type} (accessor : Method σ (Option ι)) (default : ρ) (f : ρ → β)
    (action : ι → Method σ ρ) :
    answered default f (provided accessor default action) = served accessor default f action := by
  funext state
  unfold answered provided served
  generalize accessor state = outcome
  obtain ⟨object, after⟩ := outcome
  cases object with
  | none => rfl
  | some object => cases object <;> rfl

theorem contained_some (handler : EventHandler σ) (null panicked : ρ) (action : EventHandler σ → Method σ ρ) :
    contained (some handler) null panicked action = answered panicked id (action handler) := rfl

theorem guarded_void (call : σ → Unit × σ) (absent thrown : Unit) :
    guarded (some (returns id call)) absent thrown id = call := rfl

theorem guarded_int (call : σ → Int32 × σ) (absent thrown : Int32) :
    guarded (some (returns id call)) absent thrown id = call := rfl

-- The callback's code reads back as its boolean.
theorem guarded_bool (call : σ → Bool × σ) (absent thrown : Bool) :
    guarded (some (returns boolI32 call)) absent thrown nonzero = call :=
  funext fun _ => Prod.ext (boolI32_ne_zero _) rfl

theorem asked_completes (complete : β → ρ → ρ) (f : α → β) (call : σ → α × σ) (initial : ρ)
    (caught : ρ → ρ) (state : σ) :
    asked (completes (some complete) f call) initial caught state =
      (complete (f (call state).1) initial, (call state).2) := rfl

theorem rawViewSlice_elements (view : View α) : rawViewSlice view = elements view := by
  obtain ⟨data, len⟩ := view
  cases data with
  | none => simp [rawViewSlice, elements]
  | some values =>
      by_cases hlen : len = 0
      · simp [rawViewSlice, elements, hlen]
      · simp [rawViewSlice, elements, hlen]

theorem rawViewSlice_whole (values : List α) : rawViewSlice ⟨some values, values.length⟩ = values := by
  rw [rawViewSlice_elements]
  exact List.take_length

theorem remotePort_eq (address : Core.SockAddr) : RustClient.remotePort address = portOf address := by
  obtain ⟨family, ⟨high, low⟩, text⟩ := address
  have horder : RustClient.hostOrder (high, low) = UInt16.ofNat (256 * high.toNat + low.toNat) := by
    rw [UInt16.ofNat_add, UInt16.ofNat_mul, UInt16.mul_comm, UInt16.ofNat_uInt8ToNat, UInt16.ofNat_uInt8ToNat]
    rfl
  cases family with
  | Inet => exact horder
  | Inet6 => exact horder
  | Other => rfl

end Lemmas

section Builder

theorem dnsOptionsFrom_dnsOf (dns : Tun.Core.DnsOptions) :
    dnsOptionsFrom (dnsVectors dns) (dnsOptionsView dns) = dnsOf dns := by
  have hserver (entry : Int32 × Tun.Core.DnsServer) : dnsServerCopy entry = serverOf entry.1 entry.2 := by
    unfold dnsServerCopy serverOf
    rw [securityFrom_toI32, transportFrom_toI32]
  rw [dnsOptionsFrom_views, List.map_congr_left fun entry _ => hserver entry]
  rfl

theorem method_requested (call : TunCall) (tun : TunBuilder σ) :
    call.method tun.toTunBuilder = requested call tun := by
  cases call with
  | SetDnsOptions dns =>
      show tun.setDnsOptions _ = tun.setDnsOptions _
      rw [dnsOptionsFrom_dnsOf]
  | _ => rfl

theorem absentAnswer_optional (call : TunCall) : call.absentAnswer = optional call := by
  cases call <;> rfl

theorem coreCall_served (handler : EventHandler σ) (call : TunCall) :
    coreCall (callbacks handler.tun) call = served handler.tunBuilder (optional call) id (requested call) := by
  rw [coreCall_callbacks, absentAnswer_optional]
  funext state
  unfold Tun.callTun builderAction served EventHandler.tun mapped
  dsimp only
  generalize handler.tunBuilder state = outcome
  obtain ⟨object, after⟩ := outcome
  cases object with
  | none => rfl
  | some object =>
      cases object with
      | none => rfl
      | some tun =>
          dsimp only [Option.map_some]
          rw [method_requested]
          rfl

end Builder

-- The texts of a completed request are those of the application.
theorem completeCert_certCompletion (request : Core.ExternalPKICertRequest)
    (result : Except ExternalPkiError ExternalPkiCertificate) (response : RustClient.CertResponse) :
    let completed := RustClient.completeCert (certCompletion result) response
    ({ request with
        error := completed.error,
        invalidAlias := completed.invalidAlias,
        errorText := completed.errorText,
        cert := completed.cert,
        supportingChain := completed.supportingChain } : Core.ExternalPKICertRequest) = request.filled result := by
  cases result with
  | ok certificate =>
      simp only [RustClient.completeCert, certCompletion, stringFrom_view]
      rfl
  | error error =>
      simp only [RustClient.completeCert, certCompletion, stringFrom_view, boolI32_ne_zero]
      rfl

theorem completeSign_signCompletion (request : Core.ExternalPKISignRequest)
    (result : Except ExternalPkiError String) (response : RustClient.SignResponse) :
    let completed := RustClient.completeSign (signCompletion result) response
    ({ request with
        error := completed.error,
        invalidAlias := completed.invalidAlias,
        errorText := completed.errorText,
        sig := completed.signature } : Core.ExternalPKISignRequest) = request.filled result := by
  cases result with
  | ok signature =>
      simp only [RustClient.completeSign, signCompletion, stringFrom_view]
      rfl
  | error error =>
      simp only [RustClient.completeSign, signCompletion, stringFrom_view, boolI32_ne_zero]
      rfl

theorem completeRemote_remoteCompletion (result : Except String RemoteOverride) (response : Core.RemoteOverride) :
    RustClient.completeRemote (remoteCompletion result) response = remoteOf result := by
  cases result with
  | ok remote =>
      simp only [RustClient.completeRemote, remoteCompletion, stringFrom_view]
      rfl
  | error error =>
      simp only [RustClient.completeRemote, remoteCompletion, stringFrom_view]
      rfl

theorem completeLocalNetworks_networkViews (networks : List String) :
    RustClient.completeLocalNetworks (networkViews networks) [] = networks.map String.toByteArray := by
  cases networks with
  | nil => rfl
  | cons network rest =>
      have hviews : ((network :: rest).map view).map stringFrom = (network :: rest).map String.toByteArray := by
        rw [List.map_map]
        exact List.map_congr_left fun text _ => stringFrom_view text
      have hlength : (network :: rest).length = ((network :: rest).map view).length := (List.length_map _).symm
      show [] ++ (((network :: rest).map view).take (network :: rest).length).map stringFrom = _
      rw [hlength, List.take_length, List.nil_append, hviews]

theorem completeEndpoint_endpointView (endpoint : ExternalTransportEndpoint)
    (response : RustExternalTransportClient.EndpointResponse) :
    RustExternalTransportClient.completeEndpoint (endpointView endpoint) response = endpointOf endpoint := by
  simp only [RustExternalTransportClient.completeEndpoint, endpointView, stringFrom_view]
  rfl

theorem completeInfo_infoView (info : ExternalTunInfo) (response : RustExternalTunClient.InfoResponse) :
    RustExternalTunClient.completeInfo (infoView info) response = infoOf info := by
  simp only [RustExternalTunClient.completeInfo, infoView, stringFrom_view]
  rfl

theorem endpoint_callbackTable (handler : EventHandler σ) :
    RustExternalTransportClient.endpoint (callbackTable handler) =
      answered {} endpointOf (provided handler.externalTransport {} ExternalTransport.endpoint) :=
  funext fun _ => Prod.ext (completeEndpoint_endpointView _ {}) rfl

theorem size_ne_zero (text : String) : text.toByteArray.size ≠ 0 ↔ text ≠ "" := by
  rw [Ne, ByteArray.size_eq_zero_iff, ← String.toByteArray_empty, String.toByteArray_inj]

theorem directionOf_view (direction : Core.KeyDirection) :
    dcoKeyDirection (RustClient.directionView direction) = directionOf direction := by
  unfold dcoKeyDirection directionOf RustClient.directionView
  dsimp only
  rw [rawViewSlice_elements, rawViewSlice_whole]

theorem remotes_read (items : List Core.Remote) :
    ((rawViewSlice (vectorView (items.map RustClient.remoteView))).map fun remote =>
      (⟨stringFromView remote.host, stringFromView remote.port,
        stringFromView remote.protocol⟩ : ExternalRemote)) =
      items.map remoteEntry := by
  rw [rawViewSlice_vectorView, List.map_map]
  refine List.map_congr_left fun remote _ => ?_
  simp only [Function.comp_apply, RustClient.remoteView, stringFromView_viewOf]
  rfl

theorem bridge_callbackTable (library : Core.Library τ) (handler : EventHandler σ) (call : Call) :
    bridge library (callbackTable handler) call = direct library handler call := by
  cases call with
  | ClockTick => rfl
  | Establish => exact served_provided _ _ _ _
  | EstablishLite => exact served_provided _ _ _ _
  | DcoSetPeer peerId keepaliveInterval keepaliveTimeout => exact served_provided _ _ _ _
  | DcoDelPeer peerId => exact served_provided _ _ _ _
  | DcoSwapKeys peerId => exact served_provided _ _ _ _
  | DcoDelKey peerId keySlot => exact served_provided _ _ _ _
  | DcoEstablish => exact served_provided _ _ _ _
  | TransportStop => exact served_provided _ _ _ _
  | StopRequeueing => exact served_provided _ _ _ _
  | SendQueueSize => exact served_provided _ _ _ _
  | ResetAlignAdjust alignAdjust => exact served_provided _ _ _ _
  | NativeHandle => exact served_provided _ _ descriptorOf _
  | TunStop => exact served_provided _ _ _ _
  | SetDisconnect => exact served_provided _ _ _ _
  | AdjustMss mss => exact served_provided _ _ _ _
  | Tun call => exact coreCall_served handler call
  | PauseOnConnectionTimeout => exact guarded_bool _ false false
  | RemoteOverrideEnabled => exact guarded_bool _ false false
  | SendQueueEmpty => exact (guarded_bool _ true true).trans (served_provided _ _ id _)
  | HasSendQueue => exact (guarded_bool _ false false).trans (served_provided _ _ id _)
  | IsRelay => exact (guarded_bool _ false false).trans (served_provided _ _ id _)
  | Layer2Supported => exact (guarded_bool _ false false).trans (served_provided _ _ id _)
  | SupportsEpochData => exact (guarded_bool _ false false).trans (served_provided _ _ id _)
  | Event event =>
      show guarded (some (eventCallback (some handler) _ _ _ _)) () () id = _
      simp only [eventCallback, guarded_void, contained_some, boolI32_ne_zero, stringFromView_viewOf]
      rfl
  | AccEvent event =>
      show guarded (some (appControlCallback (some handler) _ _)) () () id = _
      simp only [appControlCallback, guarded_void, contained_some, stringFromView_viewOf]
      rfl
  | Log text =>
      show guarded (some (logCallback (some handler) _)) () () id = _
      simp only [logCallback, guarded_void, contained_some, stringFromView_viewOf]
      rfl
  | SocketProtect socket remote ipv6 =>
      refine (guarded_bool _ library.socketProtect false).trans ?_
      simp only [stringFromView_viewOf, boolI32_ne_zero]
      rfl
  | CertRequest request =>
      funext state
      simp only [bridge, RustClient.externalPkiCertRequest, callbackTable, externalPkiCertificateCallback,
        asked_completes, contained_some, stringFromView_viewOf]
      exact Prod.ext (completeCert_certCompletion request _ {}) rfl
  | SignRequest request =>
      funext state
      simp only [bridge, RustClient.externalPkiSignRequest, callbackTable, externalPkiSignCallback,
        asked_completes, contained_some, stringFromView_viewOf]
      exact Prod.ext (completeSign_signCompletion request _ {}) rfl
  | RemoteOverride remote =>
      funext state
      exact Prod.ext (completeRemote_remoteCompletion _ RustClient.unansweredRemote) rfl
  | LocalNetworks ipv6 =>
      funext state
      simp only [bridge, RustClient.tunBuilderGetLocalNetworks, callbackTable, tunBuilderGetLocalNetworksCallback,
        asked_completes, contained_some, boolI32_ne_zero]
      show _ = served handler.tunBuilder [] _ (fun tun => tun.localNetworks ipv6) state
      rw [← served_provided]
      exact Prod.ext (completeLocalNetworks_networkViews _) rfl
  | Teardown disconnect =>
      show guarded (some (tunBuilderTeardownCallback (some handler) _)) () () id = _
      simp only [tunBuilderTeardownCallback, guarded_void, callTun, contained_some, boolI32_ne_zero]
      exact served_provided _ _ _ _
  | DcoEnable deviceName =>
      show guarded (some (tunBuilderDcoEnableCallback (some handler) _)) (-1) (-1) id = _
      simp only [tunBuilderDcoEnableCallback, guarded_int, callTun, contained_some, stringFromView_viewOf]
      exact served_provided _ _ _ _
  | DcoNewPeer peerId transportFd address vpn4 vpn6 =>
      cases address with
      | none => rfl
      | some address =>
          obtain ⟨family, port, text⟩ := address
          cases text with
          | none => rfl
          | some remoteIp =>
              show guarded (some (tunBuilderDcoNewPeerCallback (some handler) (some _))) () () id = _
              simp only [tunBuilderDcoNewPeerCallback, guarded_void, callTun, contained_some,
                stringFromView_viewOf, remotePort_eq]
              exact served_provided _ _ _ _
  | DcoGetPeer peerId synchronous =>
      show guarded (some (tunBuilderDcoGetPeerCallback (some handler) _ _)) () () id = _
      simp only [tunBuilderDcoGetPeerCallback, guarded_void, callTun, contained_some, boolI32_ne_zero]
      exact served_provided _ _ _ _
  | DcoNewKey keySlot key =>
      cases key with
      | none => rfl
      | some key =>
          show guarded (some (tunBuilderDcoNewKeyCallback (some handler) _ (some _))) () () id = _
          simp only [tunBuilderDcoNewKeyCallback, guarded_void, callTun, contained_some, directionOf_view]
          exact served_provided _ _ _ _
  | NewTransportFactory config =>
      obtain ⟨remoteList, gremlinConfig, serverAddrFloat, synchronousDnsLookup⟩ := config
      cases remoteList with
      | none => rfl
      | some remoteList =>
          obtain ⟨current, items⟩ := remoteList
          cases current with
          | none => rfl
          | some current =>
              show guarded (some (externalTransportConfigureCallback (some handler) (some _)))
                false false nonzero = _
              simp only [externalTransportConfigureCallback, guarded_bool, callExternalTransport, contained_some,
                remotes_read, stringFromView_viewOf, boolI32_ne_zero]
              exact served_provided _ _ _ _
  | TransportStart retained =>
      cases retained with
      | none => rfl
      | some io => exact served_provided _ _ _ _
  | TransportSend packet =>
      show guarded (some (externalTransportSendCallback (some handler) _)) false false nonzero = _
      simp only [externalTransportSendCallback, guarded_bool, callExternalTransport, contained_some,
        rawViewSlice_whole]
      exact served_provided _ _ _ _
  | ServerEndpointInfo => exact (endpoint_callbackTable handler).trans (served_provided _ _ _ _)
  | ServerEndpointAddr =>
      funext state
      simp only [bridge, RustExternalTransportClient.serverEndpointAddr, endpoint_callbackTable]
      show _ = served handler.externalTransport {} (endpointAddr library) ExternalTransport.endpoint state
      rw [← served_provided]
      simp only [answered, endpointAddr, endpointOf, size_ne_zero, ite_not]
  | ServerEndpointPort =>
      funext state
      simp only [bridge, RustExternalTransportClient.serverEndpointPort, endpoint_callbackTable]
      show _ = served handler.externalTransport {} (endpointPort library) ExternalTransport.endpoint state
      rw [← served_provided]
      simp only [answered, endpointPort, endpointOf, size_ne_zero, ite_not]
  | ProcessPush options =>
      cases options with
      | none => rfl
      | some rendered =>
          show guarded (some (externalTransportProcessPushCallback (some handler) _)) () () id = _
          simp only [externalTransportProcessPushCallback, guarded_void, callExternalTransport, contained_some,
            stringFromView_viewOf]
          exact served_provided _ _ _ _
  | NewTunFactory config =>
      show guarded (some (externalTunConfigureCallback (some handler) (some _))) false false nonzero = _
      simp only [externalTunConfigureCallback, guarded_bool, callExternalTun, contained_some,
        stringFromView_viewOf, boolI32_ne_zero]
      exact served_provided _ _ _ _
  | TunStart retained start =>
      obtain ⟨options, cipher, digest, keyDerivation, useEpochKeys⟩ := start
      cases options with
      | none => rfl
      | some rendered =>
          cases retained with
          | none => rfl
          | some io =>
              show guarded (some (externalTunStartCallback (some handler) (some io) (some _))) () () id = _
              simp only [externalTunStartCallback, guarded_void, callExternalTun, contained_some,
                stringFromView_viewOf, boolI32_ne_zero]
              exact served_provided _ _ _ _
  | TunSend packet =>
      show guarded (some (externalTunSendCallback (some handler) _)) false false nonzero = _
      simp only [externalTunSendCallback, guarded_bool, callExternalTun, contained_some, rawViewSlice_whole]
      exact served_provided _ _ _ _
  | TunInfo =>
      funext state
      show _ = served handler.externalTun {} infoOf ExternalTun.info state
      rw [← served_provided]
      exact Prod.ext (completeInfo_infoView _ { interfaceIndex := library.invalidIndex }) rfl
  | ApplyPushUpdate options =>
      cases options with
      | none => rfl
      | some rendered =>
          show guarded (some (externalTunApplyPushUpdateCallback (some handler) _)) () () id = _
          simp only [externalTunApplyPushUpdateCallback, guarded_void, callExternalTun, contained_some,
            stringFromView_viewOf]
          exact served_provided _ _ _ _
  | Finalize disconnected =>
      show guarded (some (externalTunFinalizeCallback (some handler) _)) () () id = _
      simp only [externalTunFinalizeCallback, guarded_void, callExternalTun, contained_some, boolI32_ne_zero]
      exact served_provided _ _ _ _

-- Whatever Core does, it cannot tell the layers from the application's own methods, nor can the application.
theorem core_meets_application (library : Core.Library τ) (handler : EventHandler σ)
    (core : Program Call (Call.Answer τ) α) (state : σ) :
    run (bridge library (callbackTable handler)) core state = run (direct library handler) core state ∧
      transcript (bridge library (callbackTable handler)) core state =
        transcript (direct library handler) core state := by
  have hserver : bridge library (callbackTable handler) = direct library handler :=
    funext (bridge_callbackTable library handler)
  rw [hserver]
  exact ⟨rfl, rfl⟩

end OpenvpnConnect.Callbacks
