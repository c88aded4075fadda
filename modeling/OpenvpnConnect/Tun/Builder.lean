import OpenvpnConnect.Tun.Options

-- The platform's tunnel builder behind the two layers that call it.
namespace OpenvpnConnect.Tun

open Native

-- A call that may panic, or throw, and the state it leaves behind in either case.
abbrev Method (σ α : Type) := σ → Option α × σ

structure TunBuilder (σ : Type) where
  newTunnel : Method σ Bool
  setLayer : Int32 → Method σ Bool
  setRemoteAddress : String → Bool → Method σ Bool
  addAddress : String → Int32 → String → Bool → Bool → Method σ Bool
  setRouteMetricDefault : Int32 → Method σ Bool
  rerouteGateway : Bool → Bool → UInt32 → Method σ Bool
  addRoute : String → Int32 → Int32 → Bool → Method σ Bool
  excludeRoute : String → Int32 → Int32 → Bool → Method σ Bool
  setDnsOptions : DnsOptions → Method σ Bool
  setMtu : Int32 → Method σ Bool
  setSessionName : String → Method σ Bool
  addProxyBypass : String → Method σ Bool
  setProxyAutoConfigUrl : String → Method σ Bool
  setProxyHttp : String → Int32 → Method σ Bool
  setProxyHttps : String → Int32 → Method σ Bool
  addWinsServer : String → Method σ Bool
  setAllowFamily : Int32 → Bool → Method σ Bool
  setAllowLocalDns : Bool → Method σ Bool
  persist : Method σ Bool
  dcoAvailable : Method σ Bool

-- The trait's own methods.
def TunBuilder.defaults {σ : Type} : TunBuilder σ where
  newTunnel := fun state => (some false, state)
  setLayer := fun _ state => (some true, state)
  setRemoteAddress := fun _ _ state => (some false, state)
  addAddress := fun _ _ _ _ _ state => (some false, state)
  setRouteMetricDefault := fun _ state => (some true, state)
  rerouteGateway := fun _ _ _ state => (some false, state)
  addRoute := fun _ _ _ _ state => (some false, state)
  excludeRoute := fun _ _ _ _ state => (some false, state)
  setDnsOptions := fun _ state => (some false, state)
  setMtu := fun _ state => (some false, state)
  setSessionName := fun _ state => (some false, state)
  addProxyBypass := fun _ state => (some false, state)
  setProxyAutoConfigUrl := fun _ state => (some false, state)
  setProxyHttp := fun _ _ state => (some false, state)
  setProxyHttps := fun _ _ state => (some false, state)
  addWinsServer := fun _ state => (some false, state)
  setAllowFamily := fun _ _ state => (some true, state)
  setAllowLocalDns := fun _ state => (some true, state)
  persist := fun state => (some true, state)
  dcoAvailable := fun state => (some false, state)

-- The accessor may panic as well; it need not provide a builder.
structure EventHandler (σ : Type) where
  tunBuilder : Method σ (Option (TunBuilder σ))

-- What the native client holds for its handler; it may be null.
abbrev Context (σ : Type) := Option (EventHandler σ)

variable {σ : Type}

-- Client callbacks

-- `handler.tun_builder().map_or(default, action)`
def builderAction {ρ : Type} (handler : EventHandler σ) (default : ρ) (action : TunBuilder σ → Method σ ρ) :
    Method σ ρ :=
  fun state =>
    match handler.tunBuilder state with
    | (none, after) => (none, after)
    | (some none, after) => (some default, after)
    | (some (some tun), after) => action tun after

def callTun {ρ : Type} (context : Context σ) (default : ρ) (action : TunBuilder σ → Method σ ρ) :
    σ → ρ × σ :=
  fun state =>
    match context with
    | none => (default, state)
    | some handler =>
        -- the caught panic comes out as the default of the absent builder
        let outcome := builderAction handler default action state
        (outcome.1.getD default, outcome.2)

-- A callback that returns `bool_i32(...)`; it never unwinds.
def returnsBool (call : σ → Bool × σ) : Method σ Int32 :=
  fun state => (some (boolI32 (call state).1), (call state).2)

def tunBuilderNewCallback (context : Context σ) : Method σ Int32 :=
  returnsBool (callTun context false TunBuilder.newTunnel)

def tunBuilderSetLayerCallback (context : Context σ) (layer : Int32) : Method σ Int32 :=
  returnsBool (callTun context true (fun tun => tun.setLayer layer))

def tunBuilderSetRemoteAddressCallback (context : Context σ) (address : StringView)
    (ipv6 : Int32) : Method σ Int32 :=
  returnsBool (callTun context false (fun tun => tun.setRemoteAddress (stringFromView address) (ipv6 != 0)))

def tunBuilderAddAddressCallback (context : Context σ) (address : StringView) (prefixLength : Int32)
    (gateway : StringView) (ipv6 : Int32) (net30 : Int32) : Method σ Int32 :=
  returnsBool (callTun context false
    (fun tun =>
      tun.addAddress (stringFromView address) prefixLength (stringFromView gateway) (ipv6 != 0) (net30 != 0)))

def tunBuilderSetRouteMetricDefaultCallback (context : Context σ) (metric : Int32) : Method σ Int32 :=
  returnsBool (callTun context true (fun tun => tun.setRouteMetricDefault metric))

def tunBuilderRerouteGwCallback (context : Context σ) (ipv4 : Int32) (ipv6 : Int32)
    (flags : UInt32) : Method σ Int32 :=
  returnsBool (callTun context false (fun tun => tun.rerouteGateway (ipv4 != 0) (ipv6 != 0) flags))

def tunBuilderAddRouteCallback (context : Context σ) (address : StringView) (prefixLength : Int32)
    (metric : Int32) (ipv6 : Int32) : Method σ Int32 :=
  returnsBool (callTun context false
    (fun tun => tun.addRoute (stringFromView address) prefixLength metric (ipv6 != 0)))

def tunBuilderExcludeRouteCallback (context : Context σ) (address : StringView) (prefixLength : Int32)
    (metric : Int32) (ipv6 : Int32) : Method σ Int32 :=
  returnsBool (callTun context false
    (fun tun => tun.excludeRoute (stringFromView address) prefixLength metric (ipv6 != 0)))

-- A null pointer is answered with 0; the vectors are what the views of the call point into.
def tunBuilderSetDnsOptionsCallback (context : Context σ) (vectors : DnsVectors)
    (dns : Option DnsOptionsView) : Method σ Int32 :=
  match dns with
  | none => fun state => (some 0, state)
  | some raw => returnsBool (callTun context false (fun tun => tun.setDnsOptions (dnsOptionsFrom vectors raw)))

def tunBuilderSetMtuCallback (context : Context σ) (mtu : Int32) : Method σ Int32 :=
  returnsBool (callTun context false (fun tun => tun.setMtu mtu))

def tunBuilderSetSessionNameCallback (context : Context σ) (name : StringView) : Method σ Int32 :=
  returnsBool (callTun context false (fun tun => tun.setSessionName (stringFromView name)))

def tunBuilderAddProxyBypassCallback (context : Context σ) (host : StringView) : Method σ Int32 :=
  returnsBool (callTun context false (fun tun => tun.addProxyBypass (stringFromView host)))

def tunBuilderSetProxyAutoConfigUrlCallback (context : Context σ) (url : StringView) : Method σ Int32 :=
  returnsBool (callTun context false (fun tun => tun.setProxyAutoConfigUrl (stringFromView url)))

def tunBuilderSetProxyHttpCallback (context : Context σ) (host : StringView) (port : Int32) : Method σ Int32 :=
  returnsBool (callTun context false (fun tun => tun.setProxyHttp (stringFromView host) port))

def tunBuilderSetProxyHttpsCallback (context : Context σ) (host : StringView) (port : Int32) : Method σ Int32 :=
  returnsBool (callTun context false (fun tun => tun.setProxyHttps (stringFromView host) port))

def tunBuilderAddWinsServerCallback (context : Context σ) (address : StringView) : Method σ Int32 :=
  returnsBool (callTun context false (fun tun => tun.addWinsServer (stringFromView address)))

def tunBuilderSetAllowFamilyCallback (context : Context σ) (addressFamily : Int32)
    (allow : Int32) : Method σ Int32 :=
  returnsBool (callTun context true (fun tun => tun.setAllowFamily addressFamily (allow != 0)))

def tunBuilderSetAllowLocalDnsCallback (context : Context σ) (allow : Int32) : Method σ Int32 :=
  returnsBool (callTun context true (fun tun => tun.setAllowLocalDns (allow != 0)))

def tunBuilderPersistCallback (context : Context σ) : Method σ Int32 :=
  returnsBool (callTun context true TunBuilder.persist)

def tunBuilderDcoAvailableCallback (context : Context σ) : Method σ Int32 :=
  returnsBool (callTun context false TunBuilder.dcoAvailable)

-- The table of callbacks that a client is created with; entries may be null, and the callbacks may throw.
structure ClientCallbacks (σ : Type) where
  context : Context σ
  tunBuilderNew : Option (Context σ → Method σ Int32) := none
  tunBuilderSetLayer : Option (Context σ → Int32 → Method σ Int32) := none
  tunBuilderSetRemoteAddress : Option (Context σ → StringView → Int32 → Method σ Int32) := none
  tunBuilderAddAddress :
    Option (Context σ → StringView → Int32 → StringView → Int32 → Int32 → Method σ Int32) := none
  tunBuilderSetRouteMetricDefault : Option (Context σ → Int32 → Method σ Int32) := none
  tunBuilderRerouteGw : Option (Context σ → Int32 → Int32 → UInt32 → Method σ Int32) := none
  tunBuilderAddRoute : Option (Context σ → StringView → Int32 → Int32 → Int32 → Method σ Int32) := none
  tunBuilderExcludeRoute : Option (Context σ → StringView → Int32 → Int32 → Int32 → Method σ Int32) := none
  tunBuilderSetDnsOptions : Option (Context σ → DnsVectors → Option DnsOptionsView → Method σ Int32) := none
  tunBuilderSetMtu : Option (Context σ → Int32 → Method σ Int32) := none
  tunBuilderSetSessionName : Option (Context σ → StringView → Method σ Int32) := none
  tunBuilderAddProxyBypass : Option (Context σ → StringView → Method σ Int32) := none
  tunBuilderSetProxyAutoConfigUrl : Option (Context σ → StringView → Method σ Int32) := none
  tunBuilderSetProxyHttp : Option (Context σ → StringView → Int32 → Method σ Int32) := none
  tunBuilderSetProxyHttps : Option (Context σ → StringView → Int32 → Method σ Int32) := none
  tunBuilderAddWinsServer : Option (Context σ → StringView → Method σ Int32) := none
  tunBuilderSetAllowFamily : Option (Context σ → Int32 → Int32 → Method σ Int32) := none
  tunBuilderSetAllowLocalDns : Option (Context σ → Int32 → Method σ Int32) := none
  tunBuilderPersist : Option (Context σ → Method σ Int32) := none
  tunBuilderDcoAvailable : Option (Context σ → Method σ Int32) := none

def callbacks (handler : EventHandler σ) : ClientCallbacks σ where
  context := some handler
  tunBuilderNew := some tunBuilderNewCallback
  tunBuilderSetLayer := some tunBuilderSetLayerCallback
  tunBuilderSetRemoteAddress := some tunBuilderSetRemoteAddressCallback
  tunBuilderAddAddress := some tunBuilderAddAddressCallback
  tunBuilderSetRouteMetricDefault := some tunBuilderSetRouteMetricDefaultCallback
  tunBuilderRerouteGw := some tunBuilderRerouteGwCallback
  tunBuilderAddRoute := some tunBuilderAddRouteCallback
  tunBuilderExcludeRoute := some tunBuilderExcludeRouteCallback
  tunBuilderSetDnsOptions := some tunBuilderSetDnsOptionsCallback
  tunBuilderSetMtu := some tunBuilderSetMtuCallback
  tunBuilderSetSessionName := some tunBuilderSetSessionNameCallback
  tunBuilderAddProxyBypass := some tunBuilderAddProxyBypassCallback
  tunBuilderSetProxyAutoConfigUrl := some tunBuilderSetProxyAutoConfigUrlCallback
  tunBuilderSetProxyHttp := some tunBuilderSetProxyHttpCallback
  tunBuilderSetProxyHttps := some tunBuilderSetProxyHttpsCallback
  tunBuilderAddWinsServer := some tunBuilderAddWinsServerCallback
  tunBuilderSetAllowFamily := some tunBuilderSetAllowFamilyCallback
  tunBuilderSetAllowLocalDns := some tunBuilderSetAllowLocalDnsCallback
  tunBuilderPersist := some tunBuilderPersistCallback
  tunBuilderDcoAvailable := some tunBuilderDcoAvailableCallback

-- Native client

def callBool (callback : Option (Method σ Int32)) (defaultValue : Bool) : σ → Bool × σ :=
  fun state =>
    match callback with
    | none => (defaultValue, state)
    | some callback =>
        match callback state with
        | (some code, after) => (code != 0, after)
        | (none, after) => (false, after)

namespace RustClient

def tunBuilderNew (callbacks : ClientCallbacks σ) : σ → Bool × σ :=
  callBool (callbacks.tunBuilderNew.map (fun callback => callback callbacks.context)) false

def tunBuilderSetLayer (callbacks : ClientCallbacks σ) (layer : Int32) : σ → Bool × σ :=
  callBool (callbacks.tunBuilderSetLayer.map (fun callback => callback callbacks.context layer)) true

def tunBuilderSetRemoteAddress (callbacks : ClientCallbacks σ) (address : CxxString)
    (ipv6 : Bool) : σ → Bool × σ :=
  callBool (callbacks.tunBuilderSetRemoteAddress.map
    (fun callback => callback callbacks.context (viewOf address) (boolI32 ipv6))) false

def tunBuilderAddAddress (callbacks : ClientCallbacks σ) (address : CxxString) (prefixLength : Int32)
    (gateway : CxxString) (ipv6 : Bool) (net30 : Bool) : σ → Bool × σ :=
  callBool (callbacks.tunBuilderAddAddress.map
    (fun callback => callback callbacks.context
      (viewOf address) prefixLength (viewOf gateway) (boolI32 ipv6) (boolI32 net30))) false

def tunBuilderSetRouteMetricDefault (callbacks : ClientCallbacks σ) (metric : Int32) : σ → Bool × σ :=
  callBool (callbacks.tunBuilderSetRouteMetricDefault.map
    (fun callback => callback callbacks.context metric)) true

def tunBuilderRerouteGw (callbacks : ClientCallbacks σ) (ipv4 : Bool) (ipv6 : Bool)
    (flags : UInt32) : σ → Bool × σ :=
  callBool (callbacks.tunBuilderRerouteGw.map
    (fun callback => callback callbacks.context (boolI32 ipv4) (boolI32 ipv6) flags)) false

def tunBuilderAddRoute (callbacks : ClientCallbacks σ) (address : CxxString) (prefixLength : Int32)
    (metric : Int32) (ipv6 : Bool) : σ → Bool × σ :=
  callBool (callbacks.tunBuilderAddRoute.map
    (fun callback => callback callbacks.context (viewOf address) prefixLength metric (boolI32 ipv6))) false

def tunBuilderExcludeRoute (callbacks : ClientCallbacks σ) (address : CxxString) (prefixLength : Int32)
    (metric : Int32) (ipv6 : Bool) : σ → Bool × σ :=
  callBool (callbacks.tunBuilderExcludeRoute.map
    (fun callback => callback callbacks.context (viewOf address) prefixLength metric (boolI32 ipv6))) false

def tunBuilderSetDnsOptions (callbacks : ClientCallbacks σ) (dns : Core.DnsOptions) : σ → Bool × σ :=
  callBool (callbacks.tunBuilderSetDnsOptions.map
    (fun callback => callback callbacks.context (dnsVectors dns) (some (dnsOptionsView dns)))) false

def tunBuilderSetMtu (callbacks : ClientCallbacks σ) (mtu : Int32) : σ → Bool × σ :=
  callBool (callbacks.tunBuilderSetMtu.map (fun callback => callback callbacks.context mtu)) false

def tunBuilderSetSessionName (callbacks : ClientCallbacks σ) (name : CxxString) : σ → Bool × σ :=
  callBool (callbacks.tunBuilderSetSessionName.map
    (fun callback => callback callbacks.context (viewOf name))) false

def tunBuilderAddProxyBypass (callbacks : ClientCallbacks σ) (host : CxxString) : σ → Bool × σ :=
  callBool (callbacks.tunBuilderAddProxyBypass.map
    (fun callback => callback callbacks.context (viewOf host))) false

def tunBuilderSetProxyAutoConfigUrl (callbacks : ClientCallbacks σ) (url : CxxString) : σ → Bool × σ :=
  callBool (callbacks.tunBuilderSetProxyAutoConfigUrl.map
    (fun callback => callback callbacks.context (viewOf url))) false

def tunBuilderSetProxyHttp (callbacks : ClientCallbacks σ) (host : CxxString) (port : Int32) : σ → Bool × σ :=
  callBool (callbacks.tunBuilderSetProxyHttp.map
    (fun callback => callback callbacks.context (viewOf host) port)) false

def tunBuilderSetProxyHttps (callbacks : ClientCallbacks σ) (host : CxxString) (port : Int32) : σ → Bool × σ :=
  callBool (callbacks.tunBuilderSetProxyHttps.map
    (fun callback => callback callbacks.context (viewOf host) port)) false

def tunBuilderAddWinsServer (callbacks : ClientCallbacks σ) (address : CxxString) : σ → Bool × σ :=
  callBool (callbacks.tunBuilderAddWinsServer.map
    (fun callback => callback callbacks.context (viewOf address))) false

def tunBuilderSetAllowFamily (callbacks : ClientCallbacks σ) (addressFamily : Int32)
    (allow : Bool) : σ → Bool × σ :=
  callBool (callbacks.tunBuilderSetAllowFamily.map
    (fun callback => callback callbacks.context addressFamily (boolI32 allow))) true

def tunBuilderSetAllowLocalDns (callbacks : ClientCallbacks σ) (allow : Bool) : σ → Bool × σ :=
  callBool (callbacks.tunBuilderSetAllowLocalDns.map
    (fun callback => callback callbacks.context (boolI32 allow))) true

def tunBuilderPersist (callbacks : ClientCallbacks σ) : σ → Bool × σ :=
  callBool (callbacks.tunBuilderPersist.map (fun callback => callback callbacks.context)) true

def tunBuilderDcoAvailable (callbacks : ClientCallbacks σ) : σ → Bool × σ :=
  callBool (callbacks.tunBuilderDcoAvailable.map (fun callback => callback callbacks.context)) false

end RustClient

-- What OpenVPN Core may ask of the builder that is answered with a boolean.
inductive TunCall where
  | New
  | SetLayer (layer : Int32)
  | SetRemoteAddress (address : CxxString) (ipv6 : Bool)
  | AddAddress (address : CxxString) (prefixLength : Int32) (gateway : CxxString) (ipv6 : Bool) (net30 : Bool)
  | SetRouteMetricDefault (metric : Int32)
  | RerouteGw (ipv4 : Bool) (ipv6 : Bool) (flags : UInt32)
  | AddRoute (address : CxxString) (prefixLength : Int32) (metric : Int32) (ipv6 : Bool)
  | ExcludeRoute (address : CxxString) (prefixLength : Int32) (metric : Int32) (ipv6 : Bool)
  | SetDnsOptions (dns : Core.DnsOptions)
  | SetMtu (mtu : Int32)
  | SetSessionName (name : CxxString)
  | AddProxyBypass (host : CxxString)
  | SetProxyAutoConfigUrl (url : CxxString)
  | SetProxyHttp (host : CxxString) (port : Int32)
  | SetProxyHttps (host : CxxString) (port : Int32)
  | AddWinsServer (address : CxxString)
  | SetAllowFamily (addressFamily : Int32) (allow : Bool)
  | SetAllowLocalDns (allow : Bool)
  | Persist
  | DcoAvailable

def coreCall (callbacks : ClientCallbacks σ) : TunCall → σ → Bool × σ
  | .New => RustClient.tunBuilderNew callbacks
  | .SetLayer layer => RustClient.tunBuilderSetLayer callbacks layer
  | .SetRemoteAddress address ipv6 => RustClient.tunBuilderSetRemoteAddress callbacks address ipv6
  | .AddAddress address prefixLength gateway ipv6 net30 =>
      RustClient.tunBuilderAddAddress callbacks address prefixLength gateway ipv6 net30
  | .SetRouteMetricDefault metric => RustClient.tunBuilderSetRouteMetricDefault callbacks metric
  | .RerouteGw ipv4 ipv6 flags => RustClient.tunBuilderRerouteGw callbacks ipv4 ipv6 flags
  | .AddRoute address prefixLength metric ipv6 =>
      RustClient.tunBuilderAddRoute callbacks address prefixLength metric ipv6
  | .ExcludeRoute address prefixLength metric ipv6 =>
      RustClient.tunBuilderExcludeRoute callbacks address prefixLength metric ipv6
  | .SetDnsOptions dns => RustClient.tunBuilderSetDnsOptions callbacks dns
  | .SetMtu mtu => RustClient.tunBuilderSetMtu callbacks mtu
  | .SetSessionName name => RustClient.tunBuilderSetSessionName callbacks name
  | .AddProxyBypass host => RustClient.tunBuilderAddProxyBypass callbacks host
  | .SetProxyAutoConfigUrl url => RustClient.tunBuilderSetProxyAutoConfigUrl callbacks url
  | .SetProxyHttp host port => RustClient.tunBuilderSetProxyHttp callbacks host port
  | .SetProxyHttps host port => RustClient.tunBuilderSetProxyHttps callbacks host port
  | .AddWinsServer address => RustClient.tunBuilderAddWinsServer callbacks address
  | .SetAllowFamily addressFamily allow => RustClient.tunBuilderSetAllowFamily callbacks addressFamily allow
  | .SetAllowLocalDns allow => RustClient.tunBuilderSetAllowLocalDns callbacks allow
  | .Persist => RustClient.tunBuilderPersist callbacks
  | .DcoAvailable => RustClient.tunBuilderDcoAvailable callbacks

-- The builder's method for a call, with the arguments it is given.
def TunCall.method (tun : TunBuilder σ) : TunCall → Method σ Bool
  | .New => tun.newTunnel
  | .SetLayer layer => tun.setLayer layer
  | .SetRemoteAddress address ipv6 => tun.setRemoteAddress (fromUtf8Lossy address) ipv6
  | .AddAddress address prefixLength gateway ipv6 net30 =>
      tun.addAddress (fromUtf8Lossy address) prefixLength (fromUtf8Lossy gateway) ipv6 net30
  | .SetRouteMetricDefault metric => tun.setRouteMetricDefault metric
  | .RerouteGw ipv4 ipv6 flags => tun.rerouteGateway ipv4 ipv6 flags
  | .AddRoute address prefixLength metric ipv6 => tun.addRoute (fromUtf8Lossy address) prefixLength metric ipv6
  | .ExcludeRoute address prefixLength metric ipv6 =>
      tun.excludeRoute (fromUtf8Lossy address) prefixLength metric ipv6
  | .SetDnsOptions dns => tun.setDnsOptions (dnsOptionsFrom (dnsVectors dns) (dnsOptionsView dns))
  | .SetMtu mtu => tun.setMtu mtu
  | .SetSessionName name => tun.setSessionName (fromUtf8Lossy name)
  | .AddProxyBypass host => tun.addProxyBypass (fromUtf8Lossy host)
  | .SetProxyAutoConfigUrl url => tun.setProxyAutoConfigUrl (fromUtf8Lossy url)
  | .SetProxyHttp host port => tun.setProxyHttp (fromUtf8Lossy host) port
  | .SetProxyHttps host port => tun.setProxyHttps (fromUtf8Lossy host) port
  | .AddWinsServer address => tun.addWinsServer (fromUtf8Lossy address)
  | .SetAllowFamily addressFamily allow => tun.setAllowFamily addressFamily allow
  | .SetAllowLocalDns allow => tun.setAllowLocalDns allow
  | .Persist => tun.persist
  | .DcoAvailable => tun.dcoAvailable

-- The answer where there is no builder.
def TunCall.absentAnswer : TunCall → Bool
  | .SetLayer _ => true
  | .SetRouteMetricDefault _ => true
  | .SetAllowFamily _ _ => true
  | .SetAllowLocalDns _ => true
  | .Persist => true
  | _ => false

-- The callback's code reads back as its boolean.
theorem callBool_returnsBool (call : σ → Bool × σ) (defaultValue : Bool) :
    callBool (some (returnsBool call)) defaultValue = call := by
  funext state
  unfold callBool returnsBool
  dsimp only
  rw [boolI32_ne_zero]

theorem callBool_callTun {handler : EventHandler σ} {default : Bool} {action method : TunBuilder σ → Method σ Bool}
    (same : action = method) :
    callBool (some (returnsBool (callTun (some handler) default action))) default =
      callTun (some handler) default method := by
  rw [callBool_returnsBool, same]

-- Every override ends in the builder's method, with the default of its callback.
theorem coreCall_callbacks (handler : EventHandler σ) (call : TunCall) :
    coreCall (callbacks handler) call =
      callTun (some handler) call.absentAnswer (fun tun => call.method tun) := by
  cases call with
  | New => exact callBool_callTun rfl
  | SetLayer layer => exact callBool_callTun rfl
  | SetRemoteAddress address ipv6 =>
      apply callBool_callTun
      rw [stringFromView_viewOf address, boolI32_ne_zero ipv6]
      rfl
  | AddAddress address prefixLength gateway ipv6 net30 =>
      apply callBool_callTun
      rw [stringFromView_viewOf address, stringFromView_viewOf gateway, boolI32_ne_zero ipv6, boolI32_ne_zero net30]
      rfl
  | SetRouteMetricDefault metric => exact callBool_callTun rfl
  | RerouteGw ipv4 ipv6 flags =>
      apply callBool_callTun
      rw [boolI32_ne_zero ipv4, boolI32_ne_zero ipv6]
      rfl
  | AddRoute address prefixLength metric ipv6 =>
      apply callBool_callTun
      rw [stringFromView_viewOf address, boolI32_ne_zero ipv6]
      rfl
  | ExcludeRoute address prefixLength metric ipv6 =>
      apply callBool_callTun
      rw [stringFromView_viewOf address, boolI32_ne_zero ipv6]
      rfl
  | SetDnsOptions dns => exact callBool_callTun rfl
  | SetMtu mtu => exact callBool_callTun rfl
  | SetSessionName name =>
      apply callBool_callTun
      rw [stringFromView_viewOf name]
      rfl
  | AddProxyBypass host =>
      apply callBool_callTun
      rw [stringFromView_viewOf host]
      rfl
  | SetProxyAutoConfigUrl url =>
      apply callBool_callTun
      rw [stringFromView_viewOf url]
      rfl
  | SetProxyHttp host port =>
      apply callBool_callTun
      rw [stringFromView_viewOf host]
      rfl
  | SetProxyHttps host port =>
      apply callBool_callTun
      rw [stringFromView_viewOf host]
      rfl
  | AddWinsServer address =>
      apply callBool_callTun
      rw [stringFromView_viewOf address]
      rfl
  | SetAllowFamily addressFamily allow =>
      apply callBool_callTun
      rw [boolI32_ne_zero allow]
      rfl
  | SetAllowLocalDns allow =>
      apply callBool_callTun
      rw [boolI32_ne_zero allow]
      rfl
  | Persist => exact callBool_callTun rfl
  | DcoAvailable => exact callBool_callTun rfl

end OpenvpnConnect.Tun
