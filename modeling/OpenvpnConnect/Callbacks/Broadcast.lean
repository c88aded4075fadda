import OpenvpnConnect.Callbacks.Direct

-- The handler of the asynchronous client: it publishes what Core reports and hands everything on.
namespace OpenvpnConnect.Callbacks

open Native Tun Dialogue

-- What was sent on one of the three broadcast channels.
inductive Sent where
  | Event (event : Event)
  | Log (text : String)
  | AppControl (message : AppControlMessage)

variable {σ ρ τ ι κ : Type} {α β : Type}

-- A method that leaves the channels alone.
def keeping (method : Method σ α) : Method (σ × List Sent) α :=
  fun state => ((method state.1).1, ((method state.1).2, state.2))

-- A method before which something is sent; that nobody receives is no error.
def sending (message : Sent) (method : Method σ α) : Method (σ × List Sent) α :=
  fun state => keeping method (state.1, state.2 ++ [message])

def TunBuilder.lifted (tun : TunBuilder σ) : TunBuilder (σ × List Sent) where
  newTunnel := keeping tun.newTunnel
  setLayer := fun layer => keeping (tun.setLayer layer)
  setRemoteAddress := fun address ipv6 => keeping (tun.setRemoteAddress address ipv6)
  addAddress := fun address prefixLength gateway ipv6 net30 =>
    keeping (tun.addAddress address prefixLength gateway ipv6 net30)
  setRouteMetricDefault := fun metric => keeping (tun.setRouteMetricDefault metric)
  rerouteGateway := fun ipv4 ipv6 flags => keeping (tun.rerouteGateway ipv4 ipv6 flags)
  addRoute := fun address prefixLength metric ipv6 =>
    keeping (tun.addRoute address prefixLength metric ipv6)
  excludeRoute := fun address prefixLength metric ipv6 =>
    keeping (tun.excludeRoute address prefixLength metric ipv6)
  setDnsOptions := fun dns => keeping (tun.setDnsOptions dns)
  setMtu := fun mtu => keeping (tun.setMtu mtu)
  setSessionName := fun name => keeping (tun.setSessionName name)
  addProxyBypass := fun host => keeping (tun.addProxyBypass host)
  setProxyAutoConfigUrl := fun url => keeping (tun.setProxyAutoConfigUrl url)
  setProxyHttp := fun host port => keeping (tun.setProxyHttp host port)
  setProxyHttps := fun host port => keeping (tun.setProxyHttps host port)
  addWinsServer := fun address => keeping (tun.addWinsServer address)
  setAllowFamily := fun addressFamily allow => keeping (tun.setAllowFamily addressFamily allow)
  setAllowLocalDns := fun allow => keeping (tun.setAllowLocalDns allow)
  persist := keeping tun.persist
  dcoAvailable := keeping tun.dcoAvailable
  establish := keeping tun.establish
  localNetworks := fun ipv6 => keeping (tun.localNetworks ipv6)
  establishLite := keeping tun.establishLite
  teardown := fun disconnect => keeping (tun.teardown disconnect)
  dcoEnable := fun deviceName => keeping (tun.dcoEnable deviceName)
  dcoNewPeer := fun peer => keeping (tun.dcoNewPeer peer)
  dcoSetPeer := fun peerId keepaliveInterval keepaliveTimeout =>
    keeping (tun.dcoSetPeer peerId keepaliveInterval keepaliveTimeout)
  dcoDeletePeer := fun peerId => keeping (tun.dcoDeletePeer peerId)
  dcoGetPeer := fun peerId synchronous => keeping (tun.dcoGetPeer peerId synchronous)
  dcoNewKey := fun keySlot key => keeping (tun.dcoNewKey keySlot key)
  dcoSwapKeys := fun peerId => keeping (tun.dcoSwapKeys peerId)
  dcoDeleteKey := fun peerId keySlot => keeping (tun.dcoDeleteKey peerId keySlot)
  dcoEstablish := keeping tun.dcoEstablish

def ExternalTransport.lifted (transport : ExternalTransport σ) : ExternalTransport (σ × List Sent) where
  configure := fun config => keeping (transport.configure config)
  start := fun io => keeping (transport.start io)
  stop := keeping transport.stop
  send := fun packet => keeping (transport.send packet)
  sendQueueEmpty := keeping transport.sendQueueEmpty
  hasSendQueue := keeping transport.hasSendQueue
  stopRequeueing := keeping transport.stopRequeueing
  sendQueueSize := keeping transport.sendQueueSize
  resetAlignAdjust := fun alignAdjust => keeping (transport.resetAlignAdjust alignAdjust)
  endpoint := keeping transport.endpoint
  nativeHandle := keeping transport.nativeHandle
  isRelay := keeping transport.isRelay
  processPush := fun options => keeping (transport.processPush options)

def ExternalTun.lifted (tun : ExternalTun σ) : ExternalTun (σ × List Sent) where
  configure := fun config => keeping (tun.configure config)
  start := fun config io => keeping (tun.start config io)
  stop := keeping tun.stop
  setDisconnect := keeping tun.setDisconnect
  send := fun packet => keeping (tun.send packet)
  info := keeping tun.info
  adjustMss := fun mss => keeping (tun.adjustMss mss)
  applyPushUpdate := fun options => keeping (tun.applyPushUpdate options)
  layer2Supported := keeping tun.layer2Supported
  supportsEpochData := keeping tun.supportsEpochData
  finalize := fun disconnected => keeping (tun.finalize disconnected)

def broadcastHandler (delegate : EventHandler σ) : EventHandler (σ × List Sent) where
  event := fun event => sending (.Event event) (delegate.event event)
  log := fun text => sending (.Log text) (delegate.log text)
  appControlMessage := fun message => sending (.AppControl message) (delegate.appControlMessage message)
  socketProtect := fun socket remote ipv6 => keeping (delegate.socketProtect socket remote ipv6)
  pauseOnConnectionTimeout := keeping delegate.pauseOnConnectionTimeout
  clockTick := keeping delegate.clockTick
  remoteOverrideEnabled := keeping delegate.remoteOverrideEnabled
  remoteOverride := keeping delegate.remoteOverride
  tunBuilder := keeping (mapped (Option.map TunBuilder.lifted) delegate.tunBuilder)
  externalTransport := keeping (mapped (Option.map ExternalTransport.lifted) delegate.externalTransport)
  externalTun := keeping (mapped (Option.map ExternalTun.lifted) delegate.externalTun)
  externalPkiCertificate := fun request => keeping (delegate.externalPkiCertificate request)
  externalPkiSign := fun request => keeping (delegate.externalPkiSign request)

-- What a call of Core publishes.
def Call.sent : Call → List Sent
  | .Event event =>
      [.Event ⟨event.error, event.fatal, fromUtf8Lossy event.name, fromUtf8Lossy event.info⟩]
  | .AccEvent event => [.AppControl ⟨fromUtf8Lossy event.protocol, fromUtf8Lossy event.payload⟩]
  | .Log text => [.Log (fromUtf8Lossy text)]
  | _ => []

theorem recording_silent (server : Server Call (Call.Answer τ) σ) {call : Call} (hsilent : call.sent = [])
    (state : σ) (sent : List Sent) :
    recording server Call.sent call (state, sent) = ((server call state).1, ((server call state).2, sent)) := by
  unfold recording
  rw [hsilent, List.append_nil]

theorem served_lifted (accessor : Method σ (Option ι)) (lift : ι → κ) (default : ρ) (f : ρ → β)
    (action : ι → Method σ ρ) (liftedAction : κ → Method (σ × List Sent) ρ)
    (haction : ∀ object, liftedAction (lift object) = keeping (action object)) (state : σ) (sent : List Sent) :
    served (keeping (mapped (Option.map lift) accessor)) default f liftedAction (state, sent) =
      ((served accessor default f action state).1, ((served accessor default f action state).2, sent)) := by
  unfold served keeping mapped
  dsimp only
  generalize accessor state = outcome
  obtain ⟨object, after⟩ := outcome
  cases object with
  | none => rfl
  | some object =>
      cases object with
      | none => rfl
      | some object =>
          dsimp only [Option.map_some]
          rw [haction object]
          rfl

theorem requested_lifted (call : TunCall) (tun : TunBuilder σ) :
    requested call tun.lifted = keeping (requested call tun) := by
  cases call <;> rfl

theorem direct_silent (library : Core.Library τ) (delegate : EventHandler σ) {call : Call}
    (hsilent : call.sent = []) (state : σ) (sent : List Sent) :
    direct library (broadcastHandler delegate) call (state, sent) =
      ((direct library delegate call state).1, ((direct library delegate call state).2, sent)) := by
  have htun {ρ β : Type} (default : ρ) (f : ρ → β) (action : TunBuilder σ → Method σ ρ)
      (liftedAction : TunBuilder (σ × List Sent) → Method (σ × List Sent) ρ)
      (haction : ∀ tun, liftedAction tun.lifted = keeping (action tun)) :=
    served_lifted delegate.tunBuilder TunBuilder.lifted default f action liftedAction haction state sent
  have htransport {ρ β : Type} (default : ρ) (f : ρ → β) (action : ExternalTransport σ → Method σ ρ)
      (liftedAction : ExternalTransport (σ × List Sent) → Method (σ × List Sent) ρ)
      (haction : ∀ transport, liftedAction transport.lifted = keeping (action transport)) :=
    served_lifted delegate.externalTransport ExternalTransport.lifted default f action liftedAction haction
      state sent
  have hexternal {ρ β : Type} (default : ρ) (f : ρ → β) (action : ExternalTun σ → Method σ ρ)
      (liftedAction : ExternalTun (σ × List Sent) → Method (σ × List Sent) ρ)
      (haction : ∀ tun, liftedAction tun.lifted = keeping (action tun)) :=
    served_lifted delegate.externalTun ExternalTun.lifted default f action liftedAction haction state sent
  cases call with
  | Event event => cases hsilent
  | AccEvent event => cases hsilent
  | Log text => cases hsilent
  | Tun call => exact htun _ _ _ _ (requested_lifted call)
  | DcoNewPeer peerId transportFd address vpn4 vpn6 =>
      obtain - | ⟨family, port, - | remoteIp⟩ := address
      · rfl
      · rfl
      · exact htun _ _ _ _ fun _ => rfl
  | DcoNewKey keySlot key =>
      cases key with
      | none => rfl
      | some key => exact htun _ _ _ _ fun _ => rfl
  | NewTransportFactory config =>
      obtain ⟨- | ⟨- | current, items⟩, gremlinConfig, serverAddrFloat, synchronousDnsLookup⟩ := config
      · rfl
      · rfl
      · exact htransport _ _ _ _ fun _ => rfl
  | TransportStart retained =>
      cases retained with
      | none => rfl
      | some io => exact htransport _ _ _ _ fun _ => rfl
  | ProcessPush options =>
      cases options with
      | none => rfl
      | some rendered => exact htransport _ _ _ _ fun _ => rfl
  | TunStart retained start =>
      obtain ⟨- | rendered, cipher, digest, keyDerivation, useEpochKeys⟩ := start
      · rfl
      · cases retained with
        | none => rfl
        | some io => exact hexternal _ _ _ _ fun _ => rfl
  | ApplyPushUpdate options =>
      cases options with
      | none => rfl
      | some rendered => exact hexternal _ _ _ _ fun _ => rfl
  | SocketProtect socket remote ipv6 => rfl
  | PauseOnConnectionTimeout => rfl
  | ClockTick => rfl
  | CertRequest request => rfl
  | SignRequest request => rfl
  | RemoteOverrideEnabled => rfl
  | RemoteOverride remote => rfl
  | Establish => exact htun _ _ _ _ fun _ => rfl
  | LocalNetworks ipv6 => exact htun _ _ _ _ fun _ => rfl
  | EstablishLite => exact htun _ _ _ _ fun _ => rfl
  | Teardown disconnect => exact htun _ _ _ _ fun _ => rfl
  | DcoEnable deviceName => exact htun _ _ _ _ fun _ => rfl
  | DcoSetPeer peerId keepaliveInterval keepaliveTimeout => exact htun _ _ _ _ fun _ => rfl
  | DcoDelPeer peerId => exact htun _ _ _ _ fun _ => rfl
  | DcoGetPeer peerId synchronous => exact htun _ _ _ _ fun _ => rfl
  | DcoSwapKeys peerId => exact htun _ _ _ _ fun _ => rfl
  | DcoDelKey peerId keySlot => exact htun _ _ _ _ fun _ => rfl
  | DcoEstablish => exact htun _ _ _ _ fun _ => rfl
  | TransportStop => exact htransport _ _ _ _ fun _ => rfl
  | TransportSend packet => exact htransport _ _ _ _ fun _ => rfl
  | SendQueueEmpty => exact htransport _ _ _ _ fun _ => rfl
  | HasSendQueue => exact htransport _ _ _ _ fun _ => rfl
  | StopRequeueing => exact htransport _ _ _ _ fun _ => rfl
  | SendQueueSize => exact htransport _ _ _ _ fun _ => rfl
  | ResetAlignAdjust alignAdjust => exact htransport _ _ _ _ fun _ => rfl
  | ServerEndpointInfo => exact htransport _ _ _ _ fun _ => rfl
  | ServerEndpointAddr => exact htransport _ _ _ _ fun _ => rfl
  | ServerEndpointPort => exact htransport _ _ _ _ fun _ => rfl
  | NativeHandle => exact htransport none descriptorOf _ _ fun _ => rfl
  | IsRelay => exact htransport _ _ _ _ fun _ => rfl
  | NewTunFactory config => exact hexternal _ _ _ _ fun _ => rfl
  | TunStop => exact hexternal _ _ _ _ fun _ => rfl
  | SetDisconnect => exact hexternal _ _ _ _ fun _ => rfl
  | TunSend packet => exact hexternal _ _ _ _ fun _ => rfl
  | TunInfo => exact hexternal _ _ _ _ fun _ => rfl
  | AdjustMss mss => exact hexternal _ _ _ _ fun _ => rfl
  | Layer2Supported => exact hexternal _ _ _ _ fun _ => rfl
  | SupportsEpochData => exact hexternal _ _ _ _ fun _ => rfl
  | Finalize disconnected => exact hexternal _ _ _ _ fun _ => rfl

theorem direct_broadcastHandler (library : Core.Library τ) (delegate : EventHandler σ) (call : Call) :
    direct library (broadcastHandler delegate) call = recording (direct library delegate) Call.sent call := by
  funext ⟨state, sent⟩
  cases call with
  | Event event => rfl
  | AccEvent event => rfl
  | Log text => rfl
  | _ => exact (direct_silent library delegate rfl state sent).trans (recording_silent _ rfl state sent).symm

-- The asynchronous client: what Core reports is published, each report once and in order, also where the
-- application panics on it; Core and the application see nothing of it.
theorem reports_published (library : Core.Library τ) (delegate : EventHandler σ)
    (core : Program Call (Call.Answer τ) α) (state : σ) :
    run (bridge library (callbackTable (broadcastHandler delegate))) core (state, []) =
      ((run (direct library delegate) core state).1,
        ((run (direct library delegate) core state).2,
          (transcript (direct library delegate) core state).flatMap fun entry => entry.1.sent)) := by
  have hserver : bridge library (callbackTable (broadcastHandler delegate)) =
      recording (direct library delegate) Call.sent :=
    funext fun call =>
      (bridge_callbackTable library (broadcastHandler delegate) call).trans
        (direct_broadcastHandler library delegate call)
  rw [hserver, run_recording, List.nil_append]

end OpenvpnConnect.Callbacks
