import OpenvpnConnect.Native.Views

-- The client's settings and credentials on their way to Core.
namespace OpenvpnConnect.Native

structure Config where
  content : String
  (contentList peerInfo : List (String × String))
  (guiVersion ssoMethods appCustomProtocols hwAddrOverride platformVersion serverOverride portOverride : String)
  (protoOverride allowUnusedAddrFamilies compressionMode externalPkiAlias privateKeyPassword : String)
  (tlsVersionMinOverride tlsCertProfileOverride tlsCipherList tlsCiphersuitesList proxyHost proxyPort : String)
  (proxyUsername proxyPassword gremlinConfig : String)
  (connectionTimeoutSeconds sslDebugLevel defaultKeyDirection protocolVersionOverride : Int32)
  clockTickMs : UInt32
  (tunPersist googleDnsFallback dhcpSearchDomainsAsSplitDomains synchronousDnsLookup autologinSessions : Bool)
  (retryOnAuthFailed disableClientCert proxyAllowCleartextAuth alternativeProxy dco echo info : Bool)
  (allowLocalLanAccess enableRouteEmulation wintun allowLocalDnsResolvers enableLegacyAlgorithms : Bool)
  (enableNonPreferredDataChannelAlgorithms generateTunBuilderCaptureEvent : Bool)

structure Credentials where
  (username password httpProxyUsername httpProxyPassword response dynamicChallengeCookie : String)

-- ovpn_key_value_view
structure KeyValueView where
  (key value : StringView)

-- ovpn_config
structure OvpnConfig where
  content : StringView
  contentList : Option (List KeyValueView)
  contentListLen : Nat
  peerInfo : Option (List KeyValueView)
  peerInfoLen : Nat
  (guiVersion ssoMethods appCustomProtocols hwAddrOverride platformVersion serverOverride : StringView)
  (portOverride protoOverride allowUnusedAddrFamilies compressionMode externalPkiAlias : StringView)
  (privateKeyPassword tlsVersionMinOverride tlsCertProfileOverride tlsCipherList : StringView)
  (tlsCiphersuitesList proxyHost proxyPort proxyUsername proxyPassword gremlinConfig : StringView)
  (connTimeout sslDebugLevel defaultKeyDirection protoVersionOverride : Int32)
  clockTickMs : UInt32
  (tunPersist googleDnsFallback dhcpSearchDomainsAsSplitDomains synchronousDnsLookup autologinSessions : Int32)
  (retryOnAuthFailed disableClientCert proxyAllowCleartextAuth altProxy dco echo info : Int32)
  (allowLocalLanAccess enableRouteEmulation wintun allowLocalDnsResolvers enableLegacyAlgorithms : Int32)
  (enableNonPreferredDcAlgorithms generateTunBuilderCaptureEvent : Int32)

-- ovpn_credentials
structure OvpnCredentials where
  (username password httpProxyUsername httpProxyPassword response dynamicChallengeCookie : StringView)

-- ClientAPI::Config; route emulation is there on Android only.
structure Core.Config where
  content : CxxString
  (contentList peerInfo : List (CxxString × CxxString))
  (guiVersion ssoMethods appCustomProtocols hwAddrOverride platformVersion serverOverride : CxxString)
  (portOverride protoOverride allowUnusedAddrFamilies compressionMode externalPkiAlias : CxxString)
  (privateKeyPassword tlsVersionMinOverride tlsCertProfileOverride tlsCipherList : CxxString)
  (tlsCiphersuitesList proxyHost proxyPort proxyUsername proxyPassword gremlinConfig : CxxString)
  (connTimeout sslDebugLevel defaultKeyDirection protoVersionOverride : Int32)
  clockTickMS : UInt32
  (tunPersist googleDnsFallback dhcpSearchDomainsAsSplitDomains synchronousDnsLookup autologinSessions : Bool)
  (retryOnAuthFailed disableClientCert proxyAllowCleartextAuth altProxy dco echo info : Bool)
  (allowLocalLanAccess wintun allowLocalDnsResolvers enableLegacyAlgorithms : Bool)
  (enableNonPreferredDCAlgorithms generateTunBuilderCaptureEvent : Bool)
  enableRouteEmulation : Option Bool

-- ClientAPI::ProvideCreds
structure Core.ProvideCreds where
  (username password httpProxyUser httpProxyPass response dynamicChallengeCookie : CxxString)

def slicePointer {α : Type} (values : List α) : Option (List α) :=
  if values.isEmpty then none else some values

def keyValueViews (pairs : List (String × String)) : List KeyValueView :=
  pairs.map fun pair => ⟨view pair.1, view pair.2⟩

def RawConfig.new (config : Config) : OvpnConfig :=
  let contentList := keyValueViews config.contentList
  let peerInfo := keyValueViews config.peerInfo
  { content := view config.content
    contentList := slicePointer contentList
    contentListLen := contentList.length
    peerInfo := slicePointer peerInfo
    peerInfoLen := peerInfo.length
    guiVersion := view config.guiVersion
    ssoMethods := view config.ssoMethods
    appCustomProtocols := view config.appCustomProtocols
    hwAddrOverride := view config.hwAddrOverride
    platformVersion := view config.platformVersion
    serverOverride := view config.serverOverride
    portOverride := view config.portOverride
    protoOverride := view config.protoOverride
    allowUnusedAddrFamilies := view config.allowUnusedAddrFamilies
    compressionMode := view config.compressionMode
    externalPkiAlias := view config.externalPkiAlias
    privateKeyPassword := view config.privateKeyPassword
    tlsVersionMinOverride := view config.tlsVersionMinOverride
    tlsCertProfileOverride := view config.tlsCertProfileOverride
    tlsCipherList := view config.tlsCipherList
    tlsCiphersuitesList := view config.tlsCiphersuitesList
    proxyHost := view config.proxyHost
    proxyPort := view config.proxyPort
    proxyUsername := view config.proxyUsername
    proxyPassword := view config.proxyPassword
    gremlinConfig := view config.gremlinConfig
    connTimeout := config.connectionTimeoutSeconds
    sslDebugLevel := config.sslDebugLevel
    defaultKeyDirection := config.defaultKeyDirection
    protoVersionOverride := config.protocolVersionOverride
    clockTickMs := config.clockTickMs
    tunPersist := boolI32 config.tunPersist
    googleDnsFallback := boolI32 config.googleDnsFallback
    dhcpSearchDomainsAsSplitDomains := boolI32 config.dhcpSearchDomainsAsSplitDomains
    synchronousDnsLookup := boolI32 config.synchronousDnsLookup
    autologinSessions := boolI32 config.autologinSessions
    retryOnAuthFailed := boolI32 config.retryOnAuthFailed
    disableClientCert := boolI32 config.disableClientCert
    proxyAllowCleartextAuth := boolI32 config.proxyAllowCleartextAuth
    altProxy := boolI32 config.alternativeProxy
    dco := boolI32 config.dco
    echo := boolI32 config.echo
    info := boolI32 config.info
    allowLocalLanAccess := boolI32 config.allowLocalLanAccess
    enableRouteEmulation := boolI32 config.enableRouteEmulation
    wintun := boolI32 config.wintun
    allowLocalDnsResolvers := boolI32 config.allowLocalDnsResolvers
    enableLegacyAlgorithms := boolI32 config.enableLegacyAlgorithms
    enableNonPreferredDcAlgorithms := boolI32 config.enableNonPreferredDataChannelAlgorithms
    generateTunBuilderCaptureEvent := boolI32 config.generateTunBuilderCaptureEvent }

-- The entries of a list that may be null.
def keyValuesFrom (data : Option (List KeyValueView)) (len : Nat) : List (CxxString × CxxString) :=
  match data with
  | none => []
  | some entries => (entries.take len).map fun entry => (stringFrom entry.key, stringFrom entry.value)

def configFrom (android : Bool) (value : OvpnConfig) : Core.Config where
  content := stringFrom value.content
  contentList := keyValuesFrom value.contentList value.contentListLen
  peerInfo := keyValuesFrom value.peerInfo value.peerInfoLen
  guiVersion := stringFrom value.guiVersion
  ssoMethods := stringFrom value.ssoMethods
  appCustomProtocols := stringFrom value.appCustomProtocols
  hwAddrOverride := stringFrom value.hwAddrOverride
  platformVersion := stringFrom value.platformVersion
  serverOverride := stringFrom value.serverOverride
  portOverride := stringFrom value.portOverride
  protoOverride := stringFrom value.protoOverride
  allowUnusedAddrFamilies := stringFrom value.allowUnusedAddrFamilies
  compressionMode := stringFrom value.compressionMode
  externalPkiAlias := stringFrom value.externalPkiAlias
  privateKeyPassword := stringFrom value.privateKeyPassword
  tlsVersionMinOverride := stringFrom value.tlsVersionMinOverride
  tlsCertProfileOverride := stringFrom value.tlsCertProfileOverride
  tlsCipherList := stringFrom value.tlsCipherList
  tlsCiphersuitesList := stringFrom value.tlsCiphersuitesList
  proxyHost := stringFrom value.proxyHost
  proxyPort := stringFrom value.proxyPort
  proxyUsername := stringFrom value.proxyUsername
  proxyPassword := stringFrom value.proxyPassword
  gremlinConfig := stringFrom value.gremlinConfig
  connTimeout := value.connTimeout
  sslDebugLevel := value.sslDebugLevel
  defaultKeyDirection := value.defaultKeyDirection
  protoVersionOverride := value.protoVersionOverride
  clockTickMS := value.clockTickMs
  tunPersist := value.tunPersist != 0
  googleDnsFallback := value.googleDnsFallback != 0
  dhcpSearchDomainsAsSplitDomains := value.dhcpSearchDomainsAsSplitDomains != 0
  synchronousDnsLookup := value.synchronousDnsLookup != 0
  autologinSessions := value.autologinSessions != 0
  retryOnAuthFailed := value.retryOnAuthFailed != 0
  disableClientCert := value.disableClientCert != 0
  proxyAllowCleartextAuth := value.proxyAllowCleartextAuth != 0
  altProxy := value.altProxy != 0
  dco := value.dco != 0
  echo := value.echo != 0
  info := value.info != 0
  allowLocalLanAccess := value.allowLocalLanAccess != 0
  enableRouteEmulation := if android then some (value.enableRouteEmulation != 0) else none
  wintun := value.wintun != 0
  allowLocalDnsResolvers := value.allowLocalDnsResolvers != 0
  enableLegacyAlgorithms := value.enableLegacyAlgorithms != 0
  enableNonPreferredDCAlgorithms := value.enableNonPreferredDcAlgorithms != 0
  generateTunBuilderCaptureEvent := value.generateTunBuilderCaptureEvent != 0

def credentialsFrom (value : OvpnCredentials) : Core.ProvideCreds where
  username := stringFrom value.username
  password := stringFrom value.password
  httpProxyUser := stringFrom value.httpProxyUsername
  httpProxyPass := stringFrom value.httpProxyPassword
  response := stringFrom value.response
  dynamicChallengeCookie := stringFrom value.dynamicChallengeCookie

-- The same settings in Core's type: each text as its bytes.
def Config.core (android : Bool) (config : Config) : Core.Config where
  content := config.content.toByteArray
  contentList := config.contentList.map fun pair => (pair.1.toByteArray, pair.2.toByteArray)
  peerInfo := config.peerInfo.map fun pair => (pair.1.toByteArray, pair.2.toByteArray)
  guiVersion := config.guiVersion.toByteArray
  ssoMethods := config.ssoMethods.toByteArray
  appCustomProtocols := config.appCustomProtocols.toByteArray
  hwAddrOverride := config.hwAddrOverride.toByteArray
  platformVersion := config.platformVersion.toByteArray
  serverOverride := config.serverOverride.toByteArray
  portOverride := config.portOverride.toByteArray
  protoOverride := config.protoOverride.toByteArray
  allowUnusedAddrFamilies := config.allowUnusedAddrFamilies.toByteArray
  compressionMode := config.compressionMode.toByteArray
  externalPkiAlias := config.externalPkiAlias.toByteArray
  privateKeyPassword := config.privateKeyPassword.toByteArray
  tlsVersionMinOverride := config.tlsVersionMinOverride.toByteArray
  tlsCertProfileOverride := config.tlsCertProfileOverride.toByteArray
  tlsCipherList := config.tlsCipherList.toByteArray
  tlsCiphersuitesList := config.tlsCiphersuitesList.toByteArray
  proxyHost := config.proxyHost.toByteArray
  proxyPort := config.proxyPort.toByteArray
  proxyUsername := config.proxyUsername.toByteArray
  proxyPassword := config.proxyPassword.toByteArray
  gremlinConfig := config.gremlinConfig.toByteArray
  connTimeout := config.connectionTimeoutSeconds
  sslDebugLevel := config.sslDebugLevel
  defaultKeyDirection := config.defaultKeyDirection
  protoVersionOverride := config.protocolVersionOverride
  clockTickMS := config.clockTickMs
  tunPersist := config.tunPersist
  googleDnsFallback := config.googleDnsFallback
  dhcpSearchDomainsAsSplitDomains := config.dhcpSearchDomainsAsSplitDomains
  synchronousDnsLookup := config.synchronousDnsLookup
  autologinSessions := config.autologinSessions
  retryOnAuthFailed := config.retryOnAuthFailed
  disableClientCert := config.disableClientCert
  proxyAllowCleartextAuth := config.proxyAllowCleartextAuth
  altProxy := config.alternativeProxy
  dco := config.dco
  echo := config.echo
  info := config.info
  allowLocalLanAccess := config.allowLocalLanAccess
  enableRouteEmulation := if android then some config.enableRouteEmulation else none
  wintun := config.wintun
  allowLocalDnsResolvers := config.allowLocalDnsResolvers
  enableLegacyAlgorithms := config.enableLegacyAlgorithms
  enableNonPreferredDCAlgorithms := config.enableNonPreferredDataChannelAlgorithms
  generateTunBuilderCaptureEvent := config.generateTunBuilderCaptureEvent

theorem keyValuesFrom_slicePointer (entries : List KeyValueView) :
    keyValuesFrom (slicePointer entries) entries.length =
      entries.map fun entry => (stringFrom entry.key, stringFrom entry.value) := by
  cases entries with
  | nil => rfl
  | cons entry rest =>
      have hpointer : slicePointer (entry :: rest) = some (entry :: rest) := rfl
      rw [hpointer, keyValuesFrom, List.take_of_length_le (Nat.le_refl _)]

theorem keyValuesFrom_views (pairs : List (String × String)) :
    keyValuesFrom (slicePointer (keyValueViews pairs)) (keyValueViews pairs).length =
      pairs.map fun pair => (pair.1.toByteArray, pair.2.toByteArray) := by
  rw [keyValuesFrom_slicePointer, keyValueViews, List.map_map]
  simp only [Function.comp_def, stringFrom_view]

-- No setting is lost, changed or put in another's place.
theorem configFrom_rawConfig (android : Bool) (config : Config) :
    configFrom android (RawConfig.new config) = config.core android := by
  simp only [configFrom, RawConfig.new, Config.core, stringFrom_view, keyValuesFrom_views, boolI32_ne_zero]

def Credentials.raw (credentials : Credentials) : OvpnCredentials where
  username := view credentials.username
  password := view credentials.password
  httpProxyUsername := view credentials.httpProxyUsername
  httpProxyPassword := view credentials.httpProxyPassword
  response := view credentials.response
  dynamicChallengeCookie := view credentials.dynamicChallengeCookie

def Credentials.core (credentials : Credentials) : Core.ProvideCreds where
  username := credentials.username.toByteArray
  password := credentials.password.toByteArray
  httpProxyUser := credentials.httpProxyUsername.toByteArray
  httpProxyPass := credentials.httpProxyPassword.toByteArray
  response := credentials.response.toByteArray
  dynamicChallengeCookie := credentials.dynamicChallengeCookie.toByteArray

theorem credentialsFrom_raw (credentials : Credentials) : credentialsFrom credentials.raw = credentials.core := by
  simp only [credentialsFrom, Credentials.raw, Credentials.core, stringFrom_view]

end OpenvpnConnect.Native
