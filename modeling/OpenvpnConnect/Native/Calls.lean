import OpenvpnConnect.Native.Config
import OpenvpnConnect.Native.Details
import OpenvpnConnect.Native.Records

-- The crate's calls into Core, from the client's creation to its end.
namespace OpenvpnConnect.Native

open Memory

-- What the catch clauses of a call make of Core's outcome; `unknown` is their text for an unknown exception.
def Outcome.recover {α : Type} (failed : CxxString → α) (unknown : String) : Outcome α → α
  | .Returns value => value
  | .Throws what => failed what
  | .ThrowsOther => failed unknown.toByteArray

def statusFailed (message : CxxString) : Core.Status := ⟨true, "FFI_ERROR".toByteArray, message⟩

def evaluationFailed (message : CxxString) : Core.EvalConfig where
  error := true
  message := message
  userlockedUsername := .empty
  profileName := .empty
  friendlyName := .empty
  autologin := false
  externalPki := false
  vpnCa := .empty
  staticChallenge := .empty
  staticChallengeEcho := false
  privateKeyPasswordRequired := false
  allowPasswordSave := false
  remoteHost := .empty
  remotePort := .empty
  remoteProto := .empty
  serverList := []
  windowsDriver := .empty
  dcoCompatible := false
  dcoIncompatibilityReason := .empty

def mergeFailed (message : CxxString) : Core.MergeConfig :=
  ⟨"PROFILE_MERGE_EXCEPTION".toByteArray, message, .empty, .empty, []⟩

-- client->implementation
def implementation (client : Nat) : Ffi Unit := do
  match ← load client with
  | .Client => pure ()
  | _ => failure

def nullClientStatus : Ffi OvpnStatus := errorStatus "OpenVPN client pointer is null".toByteArray

section Bridge

def ovpnClientNew (construction : Outcome Unit) : Ffi (Option Nat × OvpnStatus) :=
  match construction with
  | .Returns () => do
      let client ← allocate .Client
      return (some client, .zero)
  | .Throws what => do
      let status ← errorStatus what
      return (none, status)
  | .ThrowsOther => do
      let status ← errorStatus "unknown exception while creating OpenVPN client".toByteArray
      return (none, status)

def ovpnClientFree (client : Option Nat) : Ffi Unit := free client

def ovpnClientEvalConfig (android : Bool) (core : Core.Config → Outcome Core.EvalConfig) (client : Option Nat)
    (config : Option OvpnConfig) : Ffi OvpnEvalConfig :=
  match client, config with
  | none, _ => evaluationFrom (evaluationFailed "OpenVPN client pointer is null".toByteArray)
  | some _, none => evaluationFrom (evaluationFailed "OpenVPN config pointer is null".toByteArray)
  | some client, some config => do
      implementation client
      let outcome := core (configFrom android config)
      evaluationFrom (outcome.recover evaluationFailed "unknown exception while evaluating OpenVPN config")

def ovpnEvalConfigStatic (android : Bool) (core : Core.Config → Outcome Core.EvalConfig)
    (config : Option OvpnConfig) :
    Ffi OvpnEvalConfig :=
  match config with
  | none => evaluationFrom (evaluationFailed "OpenVPN config pointer is null".toByteArray)
  | some config =>
      let outcome := core (configFrom android config)
      evaluationFrom (outcome.recover evaluationFailed "unknown exception while evaluating OpenVPN config")

def ovpnClientProvideCreds (core : Core.ProvideCreds → Outcome Core.Status) (client : Option Nat)
    (credentials : Option OvpnCredentials) : Ffi OvpnStatus :=
  match client, credentials with
  | none, _ => nullClientStatus
  | some _, none => errorStatus "OpenVPN credentials pointer is null".toByteArray
  | some client, some credentials => do
      implementation client
      let outcome := core (credentialsFrom credentials)
      statusFrom (outcome.recover statusFailed "unknown exception while providing OpenVPN credentials")

-- As far as the status goes; the started callback is the lifecycle's.
def ovpnClientConnect (core : Outcome Core.Status) (client : Option Nat) : Ffi OvpnStatus :=
  match client with
  | none => nullClientStatus
  | some client => do
      implementation client
      statusFrom (core.recover statusFailed "unknown exception while connecting OpenVPN client")

def ovpnClientCallbackSelfTest (core : Outcome Unit) (client : Option Nat) : Ffi OvpnStatus :=
  match client with
  | none => nullClientStatus
  | some client => do
      implementation client
      match core with
      | .Returns () => statusFrom ⟨false, "CALLBACK_SELF_TEST_OK".toByteArray, .empty⟩
      | .Throws what => errorStatus what
      | .ThrowsOther => errorStatus "unknown exception during callback self-test".toByteArray

-- The end of both certificate checks.
def checkStarted (unknown : String) : Outcome Unit → Ffi OvpnStatus
  | .Returns () => pure .zero
  | .Throws what => errorStatus what
  | .ThrowsOther => errorStatus unknown.toByteArray

def optionalCa (ca : StringView) (hasCa : Int32) : Option CxxString :=
  if hasCa != 0 then some (stringFrom ca) else none

def ovpnClientStartCertCheck (core : CxxString → CxxString → Option CxxString → Outcome Unit) (client : Option Nat)
    (clientCert clientKey ca : StringView) (hasCa : Int32) : Ffi OvpnStatus :=
  match client with
  | none => nullClientStatus
  | some client => do
      implementation client
      let outcome := core (stringFrom clientCert) (stringFrom clientKey) (optionalCa ca hasCa)
      checkStarted "unknown exception while starting certificate check" outcome

def ovpnClientStartCertCheckEpki (core : CxxString → Option CxxString → Outcome Unit) (client : Option Nat)
    (aliasName ca : StringView) (hasCa : Int32) : Ffi OvpnStatus :=
  match client with
  | none => nullClientStatus
  | some client => do
      implementation client
      let outcome := core (stringFrom aliasName) (optionalCa ca hasCa)
      checkStarted "unknown exception while starting external PKI certificate check" outcome

def ovpnClientConnectionInfo (core : Outcome Core.ConnectionInfo) (client : Option Nat) : Ffi OvpnConnectionInfo :=
  match client with
  | none => pure .zero
  | some client => do
      implementation client
      match core with
      | .Returns value => connectionInfoFrom value
      | _ => return .zero

def ovpnClientSessionToken (core : Outcome (Option Core.SessionToken)) (client : Option Nat) :
    Ffi OvpnSessionToken :=
  match client with
  | none => pure .zero
  | some client => do
      implementation client
      match core with
      | .Returns token => sessionTokenFrom token
      | _ => return .zero

def ovpnClientStatsBundle (core : Outcome (List Int64)) (client : Option Nat) : Ffi OvpnI64Array :=
  match client with
  | none => pure ⟨none, 0⟩
  | some client => do
      implementation client
      match core with
      | .Returns values => bundleFrom values
      | _ => return ⟨none, 0⟩

-- ovpn_platform, ovpn_copyright and ovpn_client_stats_name
def ovpnText (core : Outcome CxxString) : Ffi OwnedString :=
  match core with
  | .Returns text => own text
  | _ => return .null

def ovpnCryptoSelfTest (core : Outcome CxxString) : Ffi OwnedString :=
  own (core.recover id "unknown exception during OpenVPN crypto self-test")

def ovpnParseDynamicChallenge (core : CxxString → Outcome (Option Core.DynamicChallenge)) (cookie : StringView) :
    Ffi OvpnDynamicChallenge :=
  match core (stringFrom cookie) with
  | .Returns challenge => dynamicChallengeFrom challenge
  | _ => pure .zero

def ovpnMergeConfigPath (core : CxxString → Bool → Outcome Core.MergeConfig) (path : StringView)
    (followReferences : Int32) : Ffi OvpnMergeConfig :=
  let outcome := core (stringFrom path) (followReferences != 0)
  mergeConfigFrom (outcome.recover mergeFailed "unknown exception while merging OpenVPN profile")

def ovpnMergeConfigString (core : CxxString → Outcome Core.MergeConfig) (content : StringView) :
    Ffi OvpnMergeConfig :=
  let outcome := core (stringFrom content)
  mergeConfigFrom (outcome.recover mergeFailed "unknown exception while merging OpenVPN profile")

end Bridge

section Client

-- The client in new_client, once the bridge has returned.
def clientResult (native : Option Nat) (status : OvpnStatus) : Ffi (Except Error Nat) :=
  if status.error != 0 then do
    let error ← statusError status
    ovpnStatusFree status
    ovpnClientFree native
    return .error error
  else do
    ovpnStatusFree status
    match native with
    | some client => return .ok client
    | none => return .error (.Initialization "OpenVPN Core returned a null client")

def newClient (construction : Outcome Unit) : Ffi (Except Error Nat) := do
  let created ← ovpnClientNew construction
  clientResult created.1 created.2

def evaluate (android : Bool) (core : Core.Config → Outcome Core.EvalConfig) (client : Nat) (config : Config) :
    Ffi (Except Error Evaluation) := do
  let raw ← ovpnClientEvalConfig android core (some client) (some (RawConfig.new config))
  evaluationResult raw

def evaluateStatic (android : Bool) (core : Core.Config → Outcome Core.EvalConfig) (config : Config) :
    Ffi (Except Error Evaluation) := do
  let raw ← ovpnEvalConfigStatic android core (some (RawConfig.new config))
  evaluationResult raw

def provideCredentials (core : Core.ProvideCreds → Outcome Core.Status) (client : Nat)
    (credentials : Credentials) :
    Ffi (Except Error Status) := do
  let raw ← ovpnClientProvideCreds core (some client) (some credentials.raw)
  statusResult raw

def connect (core : Outcome Core.Status) (client : Nat) : Ffi (Except Error Status) := do
  let raw ← ovpnClientConnect core (some client)
  statusResult raw

def callbackSelfTest (core : Outcome Unit) (client : Nat) : Ffi (Except Error Status) := do
  let raw ← ovpnClientCallbackSelfTest core (some client)
  statusResult raw

def startCertCheck (core : CxxString → CxxString → Option CxxString → Outcome Unit) (client : Nat)
    (clientCertificate clientKey : String) (ca : Option String) : Ffi (Except Error Status) := do
  let raw ← ovpnClientStartCertCheck core (some client) (view clientCertificate) (view clientKey)
    (view (ca.getD "")) (boolI32 ca.isSome)
  statusResult raw

def startCertCheckEpki (core : CxxString → Option CxxString → Outcome Unit) (client : Nat) (aliasName : String)
    (ca : Option String) : Ffi (Except Error Status) := do
  let raw ← ovpnClientStartCertCheckEpki core (some client) (view aliasName) (view (ca.getD ""))
    (boolI32 ca.isSome)
  statusResult raw

def connectionInfo (core : Outcome Core.ConnectionInfo) (client : Nat) : Ffi (Option ConnectionInfo) := do
  let raw ← ovpnClientConnectionInfo core (some client)
  takeConnectionInfo raw

def sessionToken (core : Outcome (Option Core.SessionToken)) (client : Nat) : Ffi (Option SessionToken) := do
  let raw ← ovpnClientSessionToken core (some client)
  takeSessionToken raw

-- The name of one counter.
def statistic (statsName : Int32 → Outcome CxxString) (entry : Nat × Int64) : Ffi Statistic := do
  let owned ← ovpnText (statsName (Int32.ofNat entry.1))
  let name ← takeOwned owned
  return { name, value := entry.2 }

def statistics (statsN : Int32) (statsName : Int32 → Outcome CxxString) (statsBundle : Outcome (List Int64))
    (client : Nat) : Ffi (List Statistic) := do
  let bundle ← ovpnClientStatsBundle statsBundle (some client)
  let values ← readBundle bundle
  let result ← ((List.range statsN.toInt.toNat).zip values).mapM (statistic statsName)
  ovpnI64ArrayFree bundle
  return result

def mergeConfigPath (core : CxxString → Bool → Outcome Core.MergeConfig) (path : String)
    (followReferences : Bool) :
    Ffi MergedConfig := do
  let raw ← ovpnMergeConfigPath core (view path) (boolI32 followReferences)
  takeMergedConfig raw

def mergeConfigString (core : CxxString → Outcome Core.MergeConfig) (content : String) : Ffi MergedConfig := do
  let raw ← ovpnMergeConfigString core (view content)
  takeMergedConfig raw

-- platform and copyright
def text (core : Outcome CxxString) : Ffi String := do
  let owned ← ovpnText core
  takeOwned owned

def cryptoSelfTest (core : Outcome CxxString) : Ffi String := do
  let owned ← ovpnCryptoSelfTest core
  takeOwned owned

def parseDynamicChallenge (core : CxxString → Outcome (Option Core.DynamicChallenge)) (cookie : String) :
    Ffi (Option DynamicChallenge) := do
  let raw ← ovpnParseDynamicChallenge core (view cookie)
  takeDynamicChallenge raw

end Client

end OpenvpnConnect.Native
