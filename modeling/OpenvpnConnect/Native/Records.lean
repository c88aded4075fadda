import OpenvpnConnect.Error
import OpenvpnConnect.Native.Owned

-- Statuses, merged profiles and evaluations: filled from Core's, read by the client and given back.
namespace OpenvpnConnect.Native

open Memory

section Core

structure Core.Status where
  error : Bool
  (status message : CxxString)

structure Core.MergeConfig where
  (status errorText basename profileContent : CxxString)
  refPathList : List CxxString

structure Core.ServerEntry where
  (server friendlyName : CxxString)

structure Core.EvalConfig where
  error : Bool
  (message userlockedUsername profileName friendlyName : CxxString)
  (autologin externalPki : Bool)
  (vpnCa staticChallenge : CxxString)
  (staticChallengeEcho privateKeyPasswordRequired allowPasswordSave : Bool)
  (remoteHost remotePort remoteProto : CxxString)
  serverList : List Core.ServerEntry
  windowsDriver : CxxString
  dcoCompatible : Bool
  dcoIncompatibilityReason : CxxString

end Core

-- How an operation of Core ends: with a value, with a std::exception or with something else.
inductive Outcome (α : Type)
  | Returns (value : α)
  | Throws (what : CxxString)
  | ThrowsOther

section Status

structure OvpnStatus where
  error : Int32
  (status message : OwnedString)

structure Status where
  (status message : String)
deriving DecidableEq, Repr

def OvpnStatus.zero : OvpnStatus := ⟨0, .null, .null⟩

def statusFrom (value : Core.Status) : Ffi OvpnStatus := do
  let status ← own value.status
  let message ← own value.message
  return { error := boolI32 value.error, status, message }

def errorStatus (message : CxxString) : Ffi OvpnStatus :=
  statusFrom { error := true, status := "FFI_ERROR".toByteArray, message }

def ovpnStatusFree (value : OvpnStatus) : Ffi Unit := do
  ovpnOwnedStringFree value.status
  ovpnOwnedStringFree value.message

def statusError (raw : OvpnStatus) : Ffi Error := do
  let status ← stringFromOwned raw.status
  let message ← stringFromOwned raw.message
  return .Core status message

def readStatus (raw : OvpnStatus) : Ffi (Except Error Status) :=
  if raw.error != 0 then do
    let error ← statusError raw
    return .error error
  else do
    let status ← stringFromOwned raw.status
    let message ← stringFromOwned raw.message
    return .ok { status, message }

def statusResult (raw : OvpnStatus) : Ffi (Except Error Status) := do
  let result ← readStatus raw
  ovpnStatusFree raw
  return result

-- What the client has of a status of Core.
def statusAnswer (value : Core.Status) : Rationed (Except Error Status) := do
  let status ← delivered value.status
  let message ← delivered value.message
  return if value.error then .error (.Core status message) else .ok { status, message }

inductive OwnsStatus : Except Error Status → OvpnStatus → Cells Block → Prop
  | Record {error : Bool} {status message : String} {raw : OvpnStatus} {cells : Cells Block} :
      raw.error = boolI32 error → OwnsAll [status, message] [raw.status, raw.message] cells →
      OwnsStatus (if error then .error (.Core status message) else .ok { status, message }) raw cells

theorem statusFrom_follows (value : Core.Status) :
    Follows (statusAnswer value) 0 (statusFrom value) OwnsStatus := by
  apply OwnsAll.own .Nil
  intro status _ _ howns
  apply howns.own
  intro message _ _ howns
  exact Follows.pure (.Record rfl howns)

variable {grants : Nat → Bool} {answer : Except Error Status} {raw : OvpnStatus} {cells : Cells Block}

theorem statusError_triple {status message : String}
    (howns : OwnsAll [status, message] [raw.status, raw.message] cells) :
    Triple grants cells (statusError raw) fun error after => error = .Core status message ∧ after = cells := by
  apply howns.readable_alone.read
  intro hread
  apply hread.read
  intro _
  exact Triple.pure _ ⟨rfl, rfl⟩

theorem readStatus_triple (howns : OwnsStatus answer raw cells) :
    Triple grants cells (readStatus raw) fun result after => result = answer ∧ after = cells := by
  cases howns with
  | @Record error status message _ _ hflag hstrings =>
      unfold readStatus
      rw [hflag, boolI32_ne_zero]
      by_cases herror : error = true
      · rw [if_pos herror, if_pos herror]
        apply (statusError_triple hstrings).bind
        rintro _ _ ⟨rfl, rfl⟩
        exact Triple.pure _ ⟨rfl, rfl⟩
      · rw [if_neg herror, if_neg herror]
        apply hstrings.readable_alone.read
        intro hread
        apply hread.read
        intro _
        exact Triple.pure _ ⟨rfl, rfl⟩

theorem ovpnStatusFree_triple (howns : OwnsStatus answer raw cells) :
    Triple grants cells (ovpnStatusFree raw) fun _ after => after = 0 := by
  cases howns with
  | Record _ hstrings => exact hstrings.freePair

theorem statusResult_triple (howns : OwnsStatus answer raw cells) :
    Triple grants cells (statusResult raw) fun result after => result = answer ∧ after = 0 :=
  (readStatus_triple howns).thenRelease (ovpnStatusFree_triple howns)

end Status

section MergeConfig

structure OvpnMergeConfig where
  (status errorText basename profileContent : OwnedString)
  refPathList : Option Nat
  refPathListLen : Nat

structure MergedConfig where
  (status errorText basename profileContent : String)
  referencedPaths : List String
deriving DecidableEq, Repr

-- An element of ref_path_list.
def ownPath (list i : Nat) (path : CxxString) : Ffi Unit := do
  let owned ← own path
  assign Block.strings .Strings list i fun _ => owned

def mergeConfigFrom (value : Core.MergeConfig) : Ffi OvpnMergeConfig := do
  let status ← own value.status
  let errorText ← own value.errorText
  let basename ← own value.basename
  let profileContent ← own value.profileContent
  let paths ← arrayFrom .Strings .null ownPath value.refPathList
  return { status, errorText, basename, profileContent, refPathList := paths.1, refPathListLen := paths.2 }

def ovpnMergeConfigFree (value : OvpnMergeConfig) : Ffi Unit := do
  ovpnOwnedStringFree value.status
  ovpnOwnedStringFree value.errorText
  ovpnOwnedStringFree value.basename
  ovpnOwnedStringFree value.profileContent
  arrayFree Block.strings ovpnOwnedStringFree value.refPathList value.refPathListLen

def takeMergedConfig (raw : OvpnMergeConfig) : Ffi MergedConfig := do
  let referencedPaths ← arrayRead Block.strings stringFromOwned raw.refPathList raw.refPathListLen
  let status ← stringFromOwned raw.status
  let errorText ← stringFromOwned raw.errorText
  let basename ← stringFromOwned raw.basename
  let profileContent ← stringFromOwned raw.profileContent
  ovpnMergeConfigFree raw
  return { status, errorText, basename, profileContent, referencedPaths }

def OvpnMergeConfig.strings (value : OvpnMergeConfig) : List OwnedString :=
  [value.status, value.errorText, value.basename, value.profileContent]

def MergedConfig.strings (value : MergedConfig) : List String :=
  [value.status, value.errorText, value.basename, value.profileContent]

-- What the client has of a merged profile of Core.
def mergeAnswer (value : Core.MergeConfig) : Rationed MergedConfig := do
  let status ← delivered value.status
  let errorText ← delivered value.errorText
  let basename ← delivered value.basename
  let profileContent ← delivered value.profileContent
  let referencedPaths ← arrayed delivered value.refPathList
  return { status, errorText, basename, profileContent, referencedPaths }

structure OwnsMergeConfig (answer : MergedConfig) (raw : OvpnMergeConfig) (cells : Cells Block) : Prop where
  parts : ∃ strings paths, OwnsAll answer.strings raw.strings strings ∧
    OwnsArray .Strings Owns answer.referencedPaths raw.refPathList raw.refPathListLen paths ∧
    cells = strings + paths

theorem ownPath_follows (place : Nat) (done more : List OwnedString) (path : CxxString) :
    Follows (delivered path) {(place, .Strings (done ++ .null :: more))} (ownPath place done.length path)
      fun text _ cells => ∃ owned block, Owns text owned block ∧
        cells = {(place, .Strings (done ++ owned :: more))} + block :=
  ownInto_follows (fun _ => rfl) (fun owned _ => owned) place done more .null path

theorem mergeConfigFrom_follows (value : Core.MergeConfig) :
    Follows (mergeAnswer value) 0 (mergeConfigFrom value) OwnsMergeConfig := by
  apply OwnsAll.own .Nil
  intro status _ _ howns
  apply howns.own
  intro errorText _ _ howns
  apply howns.own
  intro basename _ _ howns
  apply howns.own
  intro profileContent _ strings howns
  apply (arrayFrom_follows ownPath_follows value.refPathList).step (zero_add strings).symm
  intro referencedPaths paths cells hpaths
  exact Follows.pure ⟨strings, cells, howns, hpaths, add_comm _ _⟩

theorem ovpnMergeConfigFree_eq (raw : OvpnMergeConfig) : ovpnMergeConfigFree raw =
    raw.strings.forM ovpnOwnedStringFree >>= fun _ =>
      arrayFree Block.strings ovpnOwnedStringFree raw.refPathList raw.refPathListLen := by
  simp only [ovpnMergeConfigFree, OvpnMergeConfig.strings, List.forM, bind_assoc, pure_bind]

variable {grants : Nat → Bool} {answer : MergedConfig} {raw : OvpnMergeConfig} {cells : Cells Block}

theorem ovpnMergeConfigFree_triple (howns : OwnsMergeConfig answer raw cells) :
    Triple grants cells (ovpnMergeConfigFree raw) fun _ after => after = 0 := by
  obtain ⟨strings, paths, hstrings, hpaths, rfl⟩ := howns
  rw [ovpnMergeConfigFree_eq]
  apply hstrings.freeAll.step rfl
  rintro _ _ rfl
  rw [zero_add]
  exact arrayFree_triple (fun _ => rfl) (fun _ _ _ hown => ovpnOwnedStringFree_triple hown) hpaths

theorem takeMergedConfig_triple (howns : OwnsMergeConfig answer raw cells) :
    Triple grants cells (takeMergedConfig raw) fun result after => result = answer ∧ after = 0 := by
  obtain ⟨strings, paths, hstrings, hpaths, hcells⟩ := howns.parts
  have hread := hstrings.readable paths
  have hreads : Triple grants paths (arrayRead Block.strings stringFromOwned raw.refPathList raw.refPathListLen)
      fun results after => results = answer.referencedPaths ∧ after = paths :=
    arrayRead_triple (fun _ => rfl) (fun _ _ _ hown => stringFromOwned_triple hown) hpaths
  apply hreads.step (hcells.trans (add_comm _ _))
  rintro _ _ ⟨rfl, rfl⟩
  rw [add_comm] at hread
  apply hread.read
  intro hread
  apply hread.read
  intro hread
  apply hread.read
  intro hread
  apply hread.read
  intro _
  have hcells : cells = _ := hcells.trans (add_comm _ _)
  rw [← hcells]
  apply Triple.bind (ovpnMergeConfigFree_triple howns)
  rintro _ _ rfl
  exact Triple.pure _ ⟨rfl, rfl⟩

end MergeConfig

section Evaluation

structure OvpnEvalConfig where
  error : Int32
  (message userlockedUsername profileName friendlyName : OwnedString)
  (autologin externalPki : Int32)
  (vpnCa staticChallenge : OwnedString)
  (staticChallengeEcho privateKeyPasswordRequired allowPasswordSave : Int32)
  (remoteHost remotePort remoteProto : OwnedString)
  serverList : Option Nat
  serverListLen : Nat
  windowsDriver : OwnedString
  dcoCompatible : Int32
  dcoIncompatibilityReason : OwnedString

structure ServerEntry where
  (server friendlyName : String)
deriving DecidableEq, Repr

structure Evaluation where
  (userlockedUsername profileName friendlyName : String)
  (autologin externalPki : Bool)
  (vpnCa staticChallenge : String)
  (staticChallengeEcho privateKeyPasswordRequired allowPasswordSave : Bool)
  (remoteHost remotePort remoteProto : String)
  servers : List ServerEntry
  windowsDriver : String
  dcoCompatible : Bool
  dcoIncompatibilityReason : String
deriving DecidableEq, Repr

-- An element of server_list.
def ownServer (list i : Nat) (entry : Core.ServerEntry) : Ffi Unit := do
  let server ← own entry.server
  assign Block.servers .Servers list i fun element => { element with server }
  let friendlyName ← own entry.friendlyName
  assign Block.servers .Servers list i fun element => { element with friendlyName }

def evaluationFrom (value : Core.EvalConfig) : Ffi OvpnEvalConfig := do
  let message ← own value.message
  let userlockedUsername ← own value.userlockedUsername
  let profileName ← own value.profileName
  let friendlyName ← own value.friendlyName
  let vpnCa ← own value.vpnCa
  let staticChallenge ← own value.staticChallenge
  let remoteHost ← own value.remoteHost
  let remotePort ← own value.remotePort
  let remoteProto ← own value.remoteProto
  let windowsDriver ← own value.windowsDriver
  let dcoIncompatibilityReason ← own value.dcoIncompatibilityReason
  let servers ← arrayFrom .Servers ⟨.null, .null⟩ ownServer value.serverList
  return {
    error := boolI32 value.error
    message, userlockedUsername, profileName, friendlyName
    autologin := boolI32 value.autologin
    externalPki := boolI32 value.externalPki
    vpnCa, staticChallenge
    staticChallengeEcho := boolI32 value.staticChallengeEcho
    privateKeyPasswordRequired := boolI32 value.privateKeyPasswordRequired
    allowPasswordSave := boolI32 value.allowPasswordSave
    remoteHost, remotePort, remoteProto
    serverList := servers.1
    serverListLen := servers.2
    windowsDriver
    dcoCompatible := boolI32 value.dcoCompatible
    dcoIncompatibilityReason
  }

def freeServer (entry : OvpnServerEntry) : Ffi Unit := do
  ovpnOwnedStringFree entry.server
  ovpnOwnedStringFree entry.friendlyName

def ovpnEvalConfigFree (value : OvpnEvalConfig) : Ffi Unit := do
  ovpnOwnedStringFree value.message
  ovpnOwnedStringFree value.userlockedUsername
  ovpnOwnedStringFree value.profileName
  ovpnOwnedStringFree value.friendlyName
  ovpnOwnedStringFree value.vpnCa
  ovpnOwnedStringFree value.staticChallenge
  ovpnOwnedStringFree value.remoteHost
  ovpnOwnedStringFree value.remotePort
  ovpnOwnedStringFree value.remoteProto
  ovpnOwnedStringFree value.windowsDriver
  ovpnOwnedStringFree value.dcoIncompatibilityReason
  arrayFree Block.servers freeServer value.serverList value.serverListLen

def serverEntry (entry : OvpnServerEntry) : Ffi ServerEntry := do
  let server ← stringFromOwned entry.server
  let friendlyName ← stringFromOwned entry.friendlyName
  return { server, friendlyName }

def readEvaluation (raw : OvpnEvalConfig) : Ffi (Except Error Evaluation) :=
  if raw.error != 0 then do
    let message ← stringFromOwned raw.message
    return .error (.Core "CONFIG_ERROR" message)
  else do
    let servers ← arrayRead Block.servers serverEntry raw.serverList raw.serverListLen
    let userlockedUsername ← stringFromOwned raw.userlockedUsername
    let profileName ← stringFromOwned raw.profileName
    let friendlyName ← stringFromOwned raw.friendlyName
    let vpnCa ← stringFromOwned raw.vpnCa
    let staticChallenge ← stringFromOwned raw.staticChallenge
    let remoteHost ← stringFromOwned raw.remoteHost
    let remotePort ← stringFromOwned raw.remotePort
    let remoteProto ← stringFromOwned raw.remoteProto
    let windowsDriver ← stringFromOwned raw.windowsDriver
    let dcoIncompatibilityReason ← stringFromOwned raw.dcoIncompatibilityReason
    return .ok {
      userlockedUsername, profileName, friendlyName
      autologin := raw.autologin != 0
      externalPki := raw.externalPki != 0
      vpnCa, staticChallenge
      staticChallengeEcho := raw.staticChallengeEcho != 0
      privateKeyPasswordRequired := raw.privateKeyPasswordRequired != 0
      allowPasswordSave := raw.allowPasswordSave != 0
      remoteHost, remotePort, remoteProto, servers, windowsDriver
      dcoCompatible := raw.dcoCompatible != 0
      dcoIncompatibilityReason
    }

-- The end of evaluate and of evaluate_static.
def evaluationResult (raw : OvpnEvalConfig) : Ffi (Except Error Evaluation) := do
  let result ← readEvaluation raw
  ovpnEvalConfigFree raw
  return result

def OvpnEvalConfig.strings (value : OvpnEvalConfig) : List OwnedString :=
  [value.userlockedUsername, value.profileName, value.friendlyName, value.vpnCa, value.staticChallenge,
    value.remoteHost, value.remotePort, value.remoteProto, value.windowsDriver, value.dcoIncompatibilityReason]

def Evaluation.strings (value : Evaluation) : List String :=
  [value.userlockedUsername, value.profileName, value.friendlyName, value.vpnCa, value.staticChallenge,
    value.remoteHost, value.remotePort, value.remoteProto, value.windowsDriver, value.dcoIncompatibilityReason]

def OvpnEvalConfig.flags (value : OvpnEvalConfig) : List Int32 :=
  [value.autologin, value.externalPki, value.staticChallengeEcho, value.privateKeyPasswordRequired,
    value.allowPasswordSave, value.dcoCompatible]

def Evaluation.flags (value : Evaluation) : List Bool :=
  [value.autologin, value.externalPki, value.staticChallengeEcho, value.privateKeyPasswordRequired,
    value.allowPasswordSave, value.dcoCompatible]

-- What the client has of an evaluation of Core.
def serverAnswer (value : Core.ServerEntry) : Rationed ServerEntry := do
  let server ← delivered value.server
  let friendlyName ← delivered value.friendlyName
  return { server, friendlyName }

def evaluationAnswer (value : Core.EvalConfig) : Rationed (Except Error Evaluation) := do
  let message ← delivered value.message
  let userlockedUsername ← delivered value.userlockedUsername
  let profileName ← delivered value.profileName
  let friendlyName ← delivered value.friendlyName
  let vpnCa ← delivered value.vpnCa
  let staticChallenge ← delivered value.staticChallenge
  let remoteHost ← delivered value.remoteHost
  let remotePort ← delivered value.remotePort
  let remoteProto ← delivered value.remoteProto
  let windowsDriver ← delivered value.windowsDriver
  let dcoIncompatibilityReason ← delivered value.dcoIncompatibilityReason
  let servers ← arrayed serverAnswer value.serverList
  let evaluation : Evaluation := {
    userlockedUsername, profileName, friendlyName
    autologin := value.autologin
    externalPki := value.externalPki
    vpnCa, staticChallenge
    staticChallengeEcho := value.staticChallengeEcho
    privateKeyPasswordRequired := value.privateKeyPasswordRequired
    allowPasswordSave := value.allowPasswordSave
    remoteHost, remotePort, remoteProto, servers, windowsDriver
    dcoCompatible := value.dcoCompatible
    dcoIncompatibilityReason
  }
  return if value.error then .error (.Core "CONFIG_ERROR" message) else .ok evaluation

def OwnsServer (answer : ServerEntry) (entry : OvpnServerEntry) (cells : Cells Block) : Prop :=
  OwnsAll [answer.server, answer.friendlyName] [entry.server, entry.friendlyName] cells

inductive OwnsEvalConfig : Except Error Evaluation → OvpnEvalConfig → Cells Block → Prop
  | Record {error : Bool} {message : String} {evaluation : Evaluation} {raw : OvpnEvalConfig}
      {strings servers : Cells Block} :
      raw.error = boolI32 error → raw.flags = evaluation.flags.map boolI32 →
      OwnsAll (message :: evaluation.strings) (raw.message :: raw.strings) strings →
      OwnsArray .Servers OwnsServer evaluation.servers raw.serverList raw.serverListLen servers →
      OwnsEvalConfig (if error then .error (.Core "CONFIG_ERROR" message) else .ok evaluation) raw
        (strings + servers)

theorem ownServer_follows (place : Nat) (done more : List OvpnServerEntry) (value : Core.ServerEntry) :
    Follows (serverAnswer value) {(place, .Servers (done ++ ⟨.null, .null⟩ :: more))}
      (ownServer place done.length value)
      fun answer _ cells => ∃ entry block, OwnsServer answer entry block ∧
        cells = {(place, .Servers (done ++ entry :: more))} + block := by
  have hassign := fun (change : OvpnServerEntry → OvpnServerEntry) (entry : OvpnServerEntry) grants =>
    @assign_triple OvpnServerEntry grants .Servers Block.servers (fun _ => rfl) change place done more entry
  apply (own_follows value.server).step (zero_add _).symm
  intro server owned first hserver
  have hfirst := fun grants =>
    (hassign (fun element => { element with server := owned }) ⟨.null, .null⟩ grants).frame first
  rw [add_comm]
  apply Follows.after_triple hfirst
  rintro _ _ ⟨_, rfl, rfl⟩
  apply (own_follows value.friendlyName).step (zero_add _).symm
  intro friendlyName other second hfriendlyName
  rw [add_left_comm]
  have hsecond := fun grants =>
    (hassign (fun element => { element with friendlyName := other }) ⟨owned, .null⟩ grants).frame (second + first)
  apply (Follows.of_triple hsecond _).weaken
  rintro _ _ _ ⟨rfl, _, rfl, rfl⟩
  refine ⟨⟨owned, other⟩, _, ?_, rfl⟩
  rw [add_comm, ← add_zero second]
  exact .Cons hserver (.Cons hfriendlyName .Nil)

theorem evaluationFrom_follows (value : Core.EvalConfig) :
    Follows (evaluationAnswer value) 0 (evaluationFrom value) OwnsEvalConfig := by
  apply OwnsAll.own .Nil
  intro message _ _ howns
  apply howns.own
  intro userlockedUsername _ _ howns
  apply howns.own
  intro profileName _ _ howns
  apply howns.own
  intro friendlyName _ _ howns
  apply howns.own
  intro vpnCa _ _ howns
  apply howns.own
  intro staticChallenge _ _ howns
  apply howns.own
  intro remoteHost _ _ howns
  apply howns.own
  intro remotePort _ _ howns
  apply howns.own
  intro remoteProto _ _ howns
  apply howns.own
  intro windowsDriver _ _ howns
  apply howns.own
  intro dcoIncompatibilityReason _ strings howns
  apply (arrayFrom_follows ownServer_follows value.serverList).step (zero_add strings).symm
  intro answers servers cells hservers
  rw [add_comm]
  exact Follows.pure (.Record rfl rfl howns hservers)

theorem ovpnEvalConfigFree_eq (raw : OvpnEvalConfig) : ovpnEvalConfigFree raw =
    (raw.message :: raw.strings).forM ovpnOwnedStringFree >>= fun _ =>
      arrayFree Block.servers freeServer raw.serverList raw.serverListLen := by
  simp only [ovpnEvalConfigFree, OvpnEvalConfig.strings, List.forM, bind_assoc, pure_bind]

variable {grants : Nat → Bool} {answer : Except Error Evaluation} {raw : OvpnEvalConfig} {cells : Cells Block}

theorem ovpnEvalConfigFree_triple (howns : OwnsEvalConfig answer raw cells) :
    Triple grants cells (ovpnEvalConfigFree raw) fun _ after => after = 0 := by
  cases howns with
  | @Record _ _ _ _ strings servers _ _ hstrings hservers =>
      rw [ovpnEvalConfigFree_eq]
      apply hstrings.freeAll.step rfl
      rintro _ _ rfl
      rw [zero_add]
      exact arrayFree_triple (fun _ => rfl) (fun _ _ _ hserver => OwnsAll.freePair hserver) hservers

theorem serverEntry_triple {answer : ServerEntry} {entry : OvpnServerEntry}
    (howns : OwnsServer answer entry cells) :
    Triple grants cells (serverEntry entry) fun result after => result = answer ∧ after = cells := by
  apply (OwnsAll.readable_alone howns).read
  intro hread
  apply hread.read
  intro _
  exact Triple.pure _ ⟨rfl, rfl⟩

theorem readEvaluation_triple (howns : OwnsEvalConfig answer raw cells) :
    Triple grants cells (readEvaluation raw) fun result after => result = answer ∧ after = cells := by
  cases howns with
  | @Record error message evaluation _ strings servers hflag hflags hstrings hservers =>
      have hread := hstrings.readable servers
      unfold readEvaluation
      rw [hflag, boolI32_ne_zero]
      by_cases herror : error = true
      · rw [if_pos herror, if_pos herror]
        apply hread.read
        intro _
        exact Triple.pure _ ⟨rfl, rfl⟩
      · rw [if_neg herror, if_neg herror]
        have hreads : Triple grants servers (arrayRead Block.servers serverEntry raw.serverList raw.serverListLen)
            fun results after => results = evaluation.servers ∧ after = servers :=
          arrayRead_triple (fun _ => rfl) (fun _ _ _ hserver => serverEntry_triple hserver) hservers
        apply hreads.step (add_comm _ _)
        rintro _ _ ⟨rfl, rfl⟩
        rw [add_comm]
        apply hread.skip.read
        intro hread
        apply hread.read
        intro hread
        apply hread.read
        intro hread
        apply hread.read
        intro hread
        apply hread.read
        intro hread
        apply hread.read
        intro hread
        apply hread.read
        intro hread
        apply hread.read
        intro hread
        apply hread.read
        intro hread
        apply hread.read
        intro _
        have hbools : raw.flags.map (· != 0) = evaluation.flags := by
          rw [hflags, List.map_map]
          exact List.map_id'' boolI32_ne_zero _
        refine Triple.pure _ ⟨?_, rfl⟩
        simp only [OvpnEvalConfig.flags, Evaluation.flags, List.map_cons, List.map_nil, List.cons.injEq,
          and_true] at hbools
        simp only [hbools]

theorem evaluationResult_triple (howns : OwnsEvalConfig answer raw cells) :
    Triple grants cells (evaluationResult raw) fun result after => result = answer ∧ after = 0 :=
  (readEvaluation_triple howns).thenRelease (ovpnEvalConfigFree_triple howns)

end Evaluation

end OpenvpnConnect.Native
