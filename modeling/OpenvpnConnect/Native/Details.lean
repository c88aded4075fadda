import OpenvpnConnect.Native.Owned

-- What a running client is asked for: filled from Core's, read by the client and given back.
namespace OpenvpnConnect.Native

open Memory

section Core

structure Core.ConnectionInfo where
  defined : Bool
  (user serverHost serverPort serverProto serverIp vpnIp4 vpnIp6 vpnMtu gw4 gw6 clientIp tunName : CxxString)

structure Core.SessionToken where
  (username sessionId : CxxString)

structure Core.DynamicChallenge where
  challenge : CxxString
  (echo responseRequired : Bool)
  stateID : CxxString

end Core

section ConnectionInfo

structure OvpnConnectionInfo where
  defined : Int32
  (user serverHost serverPort serverProto serverIp vpnIp4 vpnIp6 vpnMtu gatewayIp4 gatewayIp6 clientIp
   tunName : OwnedString)

structure ConnectionInfo where
  (user serverHost serverPort serverProto serverIp vpnIp4 vpnIp6 vpnMtu gatewayIp4 gatewayIp6 clientIp
   tunName : String)
deriving DecidableEq, Repr

def OvpnConnectionInfo.zero : OvpnConnectionInfo :=
  ⟨0, .null, .null, .null, .null, .null, .null, .null, .null, .null, .null, .null, .null⟩

def connectionInfoFrom (value : Core.ConnectionInfo) : Ffi OvpnConnectionInfo := do
  let user ← own value.user
  let serverHost ← own value.serverHost
  let serverPort ← own value.serverPort
  let serverProto ← own value.serverProto
  let serverIp ← own value.serverIp
  let vpnIp4 ← own value.vpnIp4
  let vpnIp6 ← own value.vpnIp6
  let vpnMtu ← own value.vpnMtu
  let gatewayIp4 ← own value.gw4
  let gatewayIp6 ← own value.gw6
  let clientIp ← own value.clientIp
  let tunName ← own value.tunName
  return {
    defined := boolI32 value.defined
    user, serverHost, serverPort, serverProto, serverIp, vpnIp4, vpnIp6, vpnMtu, gatewayIp4, gatewayIp6, clientIp
    tunName
  }

def ovpnConnectionInfoFree (value : OvpnConnectionInfo) : Ffi Unit := do
  ovpnOwnedStringFree value.user
  ovpnOwnedStringFree value.serverHost
  ovpnOwnedStringFree value.serverPort
  ovpnOwnedStringFree value.serverProto
  ovpnOwnedStringFree value.serverIp
  ovpnOwnedStringFree value.vpnIp4
  ovpnOwnedStringFree value.vpnIp6
  ovpnOwnedStringFree value.vpnMtu
  ovpnOwnedStringFree value.gatewayIp4
  ovpnOwnedStringFree value.gatewayIp6
  ovpnOwnedStringFree value.clientIp
  ovpnOwnedStringFree value.tunName

def readConnectionInfo (raw : OvpnConnectionInfo) : Ffi (Option ConnectionInfo) :=
  if raw.defined != 0 then do
    let user ← stringFromOwned raw.user
    let serverHost ← stringFromOwned raw.serverHost
    let serverPort ← stringFromOwned raw.serverPort
    let serverProto ← stringFromOwned raw.serverProto
    let serverIp ← stringFromOwned raw.serverIp
    let vpnIp4 ← stringFromOwned raw.vpnIp4
    let vpnIp6 ← stringFromOwned raw.vpnIp6
    let vpnMtu ← stringFromOwned raw.vpnMtu
    let gatewayIp4 ← stringFromOwned raw.gatewayIp4
    let gatewayIp6 ← stringFromOwned raw.gatewayIp6
    let clientIp ← stringFromOwned raw.clientIp
    let tunName ← stringFromOwned raw.tunName
    return some {
      user, serverHost, serverPort, serverProto, serverIp, vpnIp4, vpnIp6, vpnMtu, gatewayIp4, gatewayIp6, clientIp
      tunName
    }
  else return none

-- connection_info from the raw record on.
def takeConnectionInfo (raw : OvpnConnectionInfo) : Ffi (Option ConnectionInfo) := do
  let result ← readConnectionInfo raw
  ovpnConnectionInfoFree raw
  return result

def OvpnConnectionInfo.strings (value : OvpnConnectionInfo) : List OwnedString :=
  [value.user, value.serverHost, value.serverPort, value.serverProto, value.serverIp, value.vpnIp4,
    value.vpnIp6, value.vpnMtu, value.gatewayIp4, value.gatewayIp6, value.clientIp, value.tunName]

def ConnectionInfo.strings (value : ConnectionInfo) : List String :=
  [value.user, value.serverHost, value.serverPort, value.serverProto, value.serverIp, value.vpnIp4,
    value.vpnIp6, value.vpnMtu, value.gatewayIp4, value.gatewayIp6, value.clientIp, value.tunName]

-- What the client has of the connection's details.
def connectionAnswer (value : Core.ConnectionInfo) : Rationed (Option ConnectionInfo) := do
  let user ← delivered value.user
  let serverHost ← delivered value.serverHost
  let serverPort ← delivered value.serverPort
  let serverProto ← delivered value.serverProto
  let serverIp ← delivered value.serverIp
  let vpnIp4 ← delivered value.vpnIp4
  let vpnIp6 ← delivered value.vpnIp6
  let vpnMtu ← delivered value.vpnMtu
  let gatewayIp4 ← delivered value.gw4
  let gatewayIp6 ← delivered value.gw6
  let clientIp ← delivered value.clientIp
  let tunName ← delivered value.tunName
  let info : ConnectionInfo := {
    user, serverHost, serverPort, serverProto, serverIp, vpnIp4, vpnIp6, vpnMtu, gatewayIp4, gatewayIp6, clientIp
    tunName
  }
  return if value.defined then some info else none

abbrev OwnsConnectionInfo (answer : Option ConnectionInfo) (raw : OvpnConnectionInfo)
    (cells : Cells Block) : Prop :=
  OwnsOptional ConnectionInfo.strings answer raw.defined raw.strings cells

theorem connectionInfoFrom_follows (value : Core.ConnectionInfo) :
    Follows (connectionAnswer value) 0 (connectionInfoFrom value) OwnsConnectionInfo := by
  apply OwnsAll.own .Nil
  intro user _ _ howns
  apply howns.own
  intro serverHost _ _ howns
  apply howns.own
  intro serverPort _ _ howns
  apply howns.own
  intro serverProto _ _ howns
  apply howns.own
  intro serverIp _ _ howns
  apply howns.own
  intro vpnIp4 _ _ howns
  apply howns.own
  intro vpnIp6 _ _ howns
  apply howns.own
  intro vpnMtu _ _ howns
  apply howns.own
  intro gatewayIp4 _ _ howns
  apply howns.own
  intro gatewayIp6 _ _ howns
  apply howns.own
  intro clientIp _ _ howns
  apply howns.own
  intro tunName _ _ howns
  exact Follows.pure (OwnsAll.optional _ value.defined howns)

variable {grants : Nat → Bool}

theorem ovpnConnectionInfoFree_eq (raw : OvpnConnectionInfo) :
    ovpnConnectionInfoFree raw = raw.strings.forM ovpnOwnedStringFree := by
  simp only [ovpnConnectionInfoFree, OvpnConnectionInfo.strings, List.forM, bind_pure_unit]

theorem readConnectionInfo_triple {answer : Option ConnectionInfo} {raw : OvpnConnectionInfo} {cells : Cells Block}
    (howns : OwnsConnectionInfo answer raw cells) :
    Triple grants cells (readConnectionInfo raw) fun result after => result = answer ∧ after = cells := by
  apply howns.read
  intro info _ hread
  apply hread.read
  intro hread
  apply hread.read
  intro hread
  apply hread.read
  intro hread
  apply hread.read
  intro hread
  apply hread.read
  intro hread
  apply hread.read
  intro hread
  apply hread.read
  intro hread
  apply hread.read
  intro hread
  apply hread.read
  intro hread
  apply hread.read
  intro hread
  apply hread.read
  intro hread
  apply hread.read
  intro _
  exact Triple.pure _ ⟨rfl, rfl⟩

theorem takeConnectionInfo_triple {answer : Option ConnectionInfo} {raw : OvpnConnectionInfo} {cells : Cells Block}
    (howns : OwnsConnectionInfo answer raw cells) :
    Triple grants cells (takeConnectionInfo raw) fun result after => result = answer ∧ after = 0 := by
  apply Triple.thenRelease (readConnectionInfo_triple howns)
  obtain ⟨_, texts, hstrings, _⟩ := howns
  rw [ovpnConnectionInfoFree_eq]
  exact hstrings.freeAll

end ConnectionInfo

section SessionToken

structure OvpnSessionToken where
  defined : Int32
  (username sessionId : OwnedString)

structure SessionToken where
  (username sessionId : String)
deriving DecidableEq, Repr

def OvpnSessionToken.zero : OvpnSessionToken := ⟨0, .null, .null⟩

-- The token, where there is one; `defined` is set before the strings are.
def sessionTokenFrom (token : Option Core.SessionToken) : Ffi OvpnSessionToken :=
  match token with
  | none => pure .zero
  | some token => do
      let username ← own token.username
      let sessionId ← own token.sessionId
      return { defined := 1, username, sessionId }

def ovpnSessionTokenFree (value : OvpnSessionToken) : Ffi Unit := do
  ovpnOwnedStringFree value.username
  ovpnOwnedStringFree value.sessionId

def readSessionToken (raw : OvpnSessionToken) : Ffi (Option SessionToken) :=
  if raw.defined != 0 then do
    let username ← stringFromOwned raw.username
    let sessionId ← stringFromOwned raw.sessionId
    return some { username, sessionId }
  else return none

def takeSessionToken (raw : OvpnSessionToken) : Ffi (Option SessionToken) := do
  let result ← readSessionToken raw
  ovpnSessionTokenFree raw
  return result

def SessionToken.strings (value : SessionToken) : List String := [value.username, value.sessionId]

def tokenAnswer : Option Core.SessionToken → Rationed (Option SessionToken)
  | none => return none
  | some token => do
      let username ← delivered token.username
      let sessionId ← delivered token.sessionId
      return some { username, sessionId }

abbrev OwnsToken (answer : Option SessionToken) (raw : OvpnSessionToken) (cells : Cells Block) : Prop :=
  OwnsOptional SessionToken.strings answer raw.defined [raw.username, raw.sessionId] cells

theorem sessionTokenFrom_follows (token : Option Core.SessionToken) :
    Follows (tokenAnswer token) 0 (sessionTokenFrom token) OwnsToken := by
  cases token with
  | none => exact Follows.pure (OwnsOptional.absent 2)
  | some value =>
      apply OwnsAll.own .Nil
      intro username _ _ howns
      apply howns.own
      intro sessionId _ _ howns
      exact Follows.pure (OwnsAll.optional _ true howns)

variable {grants : Nat → Bool} {answer : Option SessionToken} {raw : OvpnSessionToken} {cells : Cells Block}

theorem readSessionToken_triple (howns : OwnsToken answer raw cells) :
    Triple grants cells (readSessionToken raw) fun result after => result = answer ∧ after = cells := by
  apply howns.read
  intro token _ hread
  apply hread.read
  intro hread
  apply hread.read
  intro _
  exact Triple.pure _ ⟨rfl, rfl⟩

theorem takeSessionToken_triple (howns : OwnsToken answer raw cells) :
    Triple grants cells (takeSessionToken raw) fun result after => result = answer ∧ after = 0 := by
  apply Triple.thenRelease (readSessionToken_triple howns)
  obtain ⟨_, texts, hstrings, _⟩ := howns
  exact hstrings.freePair

end SessionToken

section DynamicChallenge

structure OvpnDynamicChallenge where
  defined : Int32
  challenge : OwnedString
  (echo responseRequired : Int32)
  stateId : OwnedString

structure DynamicChallenge where
  challenge : String
  (echo responseRequired : Bool)
  stateId : String
deriving DecidableEq, Repr

def OvpnDynamicChallenge.zero : OvpnDynamicChallenge := ⟨0, .null, 0, 0, .null⟩

def dynamicChallengeFrom (challenge : Option Core.DynamicChallenge) : Ffi OvpnDynamicChallenge :=
  match challenge with
  | none => pure .zero
  | some value => do
      let challenge ← own value.challenge
      let stateId ← own value.stateID
      return ⟨1, challenge, boolI32 value.echo, boolI32 value.responseRequired, stateId⟩

def ovpnDynamicChallengeFree (value : OvpnDynamicChallenge) : Ffi Unit := do
  ovpnOwnedStringFree value.challenge
  ovpnOwnedStringFree value.stateId

def readDynamicChallenge (raw : OvpnDynamicChallenge) : Ffi (Option DynamicChallenge) :=
  if raw.defined != 0 then do
    let challenge ← stringFromOwned raw.challenge
    let stateId ← stringFromOwned raw.stateId
    return some { challenge, echo := raw.echo != 0, responseRequired := raw.responseRequired != 0, stateId }
  else return none

def takeDynamicChallenge (raw : OvpnDynamicChallenge) : Ffi (Option DynamicChallenge) := do
  let result ← readDynamicChallenge raw
  ovpnDynamicChallengeFree raw
  return result

def DynamicChallenge.strings (value : DynamicChallenge) : List String := [value.challenge, value.stateId]

def challengeAnswer : Option Core.DynamicChallenge → Rationed (Option DynamicChallenge)
  | none => return none
  | some value => do
      let challenge ← delivered value.challenge
      let stateId ← delivered value.stateID
      return some { challenge, echo := value.echo, responseRequired := value.responseRequired, stateId }

structure OwnsChallenge (answer : Option DynamicChallenge) (raw : OvpnDynamicChallenge) (cells : Cells Block) :
    Prop where
  record : OwnsOptional DynamicChallenge.strings answer raw.defined [raw.challenge, raw.stateId] cells
  flags : ∀ value, answer = some value →
    raw.echo = boolI32 value.echo ∧ raw.responseRequired = boolI32 value.responseRequired

theorem dynamicChallengeFrom_follows (challenge : Option Core.DynamicChallenge) :
    Follows (challengeAnswer challenge) 0 (dynamicChallengeFrom challenge) OwnsChallenge := by
  cases challenge with
  | none =>
      refine Follows.pure ⟨OwnsOptional.absent 2, ?_⟩
      intro _ hnone
      cases hnone
  | some value =>
      apply OwnsAll.own .Nil
      intro challenge _ _ howns
      apply howns.own
      intro stateId _ _ howns
      refine Follows.pure ⟨OwnsAll.optional _ true howns, ?_⟩
      rintro _ ⟨⟩
      exact ⟨rfl, rfl⟩

variable {grants : Nat → Bool} {answer : Option DynamicChallenge} {raw : OvpnDynamicChallenge}
  {cells : Cells Block}

theorem readDynamicChallenge_triple (howns : OwnsChallenge answer raw cells) :
    Triple grants cells (readDynamicChallenge raw) fun result after => result = answer ∧ after = cells := by
  apply howns.record.read
  intro challenge hanswer hread
  obtain ⟨hecho, hresponse⟩ := howns.flags challenge hanswer
  apply hread.read
  intro hread
  apply hread.read
  intro _
  rw [hecho, hresponse, boolI32_ne_zero, boolI32_ne_zero]
  exact Triple.pure _ ⟨rfl, rfl⟩

theorem takeDynamicChallenge_triple (howns : OwnsChallenge answer raw cells) :
    Triple grants cells (takeDynamicChallenge raw) fun result after => result = answer ∧ after = 0 := by
  apply Triple.thenRelease (readDynamicChallenge_triple howns)
  obtain ⟨⟨_, texts, hstrings, _⟩, _⟩ := howns
  exact hstrings.freePair

end DynamicChallenge

section Statistics

-- ovpn_i64_array
structure OvpnI64Array where
  data : Option Nat
  len : Nat

structure Statistic where
  name : String
  value : Int64
deriving DecidableEq, Repr

-- The values of a bundle in an array of their own.
def bundleFrom (values : List Int64) : Ffi OvpnI64Array := do
  if values.isEmpty then
    return ⟨none, 0⟩
  match ← malloc (.Numbers (List.replicate values.length 0)) with
  | none => return ⟨none, 0⟩
  | some data =>
      store data (.Numbers values)
      return ⟨some data, values.length⟩

def ovpnI64ArrayFree (value : OvpnI64Array) : Ffi Unit := free value.data

def readBundle (bundle : OvpnI64Array) : Ffi (List Int64) :=
  match bundle.data with
  | none => pure []
  | some data => elements Block.numbers data bundle.len

-- The values of a bundle, or none.
def bundleAnswer (values : List Int64) : Rationed (List Int64) := arrayed pure values

inductive OwnsBundle : List Int64 → OvpnI64Array → Cells Block → Prop
  | Null : OwnsBundle [] ⟨none, 0⟩ 0
  | Array {values : List Int64} {place : Nat} :
      OwnsBundle values ⟨some place, values.length⟩ {(place, .Numbers values)}

theorem bundleFrom_follows (values : List Int64) :
    Follows (bundleAnswer values) 0 (bundleFrom values) OwnsBundle := by
  unfold bundleAnswer arrayed bundleFrom
  cases values with
  | nil => exact Follows.pure .Null
  | cons value rest =>
      apply (malloc_follows _).bind
      rintro _ _ _ (⟨rfl, rfl, rfl⟩ | ⟨place, rfl, rfl, rfl⟩)
      · exact Follows.pure .Null
      · apply Follows.after_triple fun _ => store_triple place _ _
        rintro _ _ rfl
        rw [if_pos rfl, List.mapM_pure, List.map_id']
        exact Follows.pure .Array

variable {grants : Nat → Bool} {values : List Int64} {bundle : OvpnI64Array} {cells : Cells Block}

theorem readBundle_triple (howns : OwnsBundle values bundle cells) :
    Triple grants cells (readBundle bundle) fun read after => read = values ∧ after = cells := by
  cases howns with
  | Null => exact Triple.pure _ ⟨rfl, rfl⟩
  | @Array _ place => exact elements_triple (.Numbers values) rfl place

theorem ovpnI64ArrayFree_triple (howns : OwnsBundle values bundle cells) :
    Triple grants cells (ovpnI64ArrayFree bundle) fun _ after => after = 0 := by
  cases howns with
  | Null => exact free_null_triple
  | @Array _ place => exact free_triple place _

end Statistics

end OpenvpnConnect.Native
