import OpenvpnConnect.Native.Calls

-- A client's calls from its creation to its end: what they answer, and what they leave on the heap.
namespace OpenvpnConnect.Native

open Memory

section Session

-- A call of the crate, with what Core does in it.
inductive Request
  | EvaluateStatic (core : Core.Config → Outcome Core.EvalConfig) (config : Config)
  | Evaluate (core : Core.Config → Outcome Core.EvalConfig) (config : Config)
  | ProvideCredentials (core : Core.ProvideCreds → Outcome Core.Status) (credentials : Credentials)
  | Connect (core : Outcome Core.Status)
  | CallbackSelfTest (core : Outcome Unit)
  | StartCertCheck (core : CxxString → CxxString → Option CxxString → Outcome Unit) (certificate key : String)
      (ca : Option String)
  | StartCertCheckEpki (core : CxxString → Option CxxString → Outcome Unit) (aliasName : String)
      (ca : Option String)
  | ConnectionInfo (core : Outcome Core.ConnectionInfo)
  | SessionToken (core : Outcome (Option Core.SessionToken))
  | Statistics (statsN : Int32) (statsName : Int32 → Outcome CxxString) (statsBundle : Outcome (List Int64))
  | MergeConfigPath (core : CxxString → Bool → Outcome Core.MergeConfig) (path : String) (followReferences : Bool)
  | MergeConfigString (core : CxxString → Outcome Core.MergeConfig) (content : String)
  | Text (core : Outcome CxxString)
  | CryptoSelfTest (core : Outcome CxxString)
  | ParseDynamicChallenge (core : CxxString → Outcome (Option Core.DynamicChallenge)) (cookie : String)

inductive Answer
  | Evaluation (result : Except Error Evaluation)
  | Status (result : Except Error Status)
  | ConnectionInfo (result : Option ConnectionInfo)
  | SessionToken (result : Option SessionToken)
  | Statistics (result : List Statistic)
  | Merged (result : MergedConfig)
  | Text (result : String)
  | Challenge (result : Option DynamicChallenge)

def perform (android : Bool) (client : Nat) : Request → Ffi Answer
  | .EvaluateStatic core config => .Evaluation <$> evaluateStatic android core config
  | .Evaluate core config => .Evaluation <$> evaluate android core client config
  | .ProvideCredentials core credentials => .Status <$> provideCredentials core client credentials
  | .Connect core => .Status <$> connect core client
  | .CallbackSelfTest core => .Status <$> callbackSelfTest core client
  | .StartCertCheck core certificate key ca => .Status <$> startCertCheck core client certificate key ca
  | .StartCertCheckEpki core aliasName ca => .Status <$> startCertCheckEpki core client aliasName ca
  | .ConnectionInfo core => .ConnectionInfo <$> connectionInfo core client
  | .SessionToken core => .SessionToken <$> sessionToken core client
  | .Statistics statsN statsName statsBundle => .Statistics <$> statistics statsN statsName statsBundle client
  | .MergeConfigPath core path followReferences => .Merged <$> mergeConfigPath core path followReferences
  | .MergeConfigString core content => .Merged <$> mergeConfigString core content
  | .Text core => .Text <$> text core
  | .CryptoSelfTest core => .Text <$> cryptoSelfTest core
  | .ParseDynamicChallenge core cookie => .Challenge <$> parseDynamicChallenge core cookie

-- A client that is created, used and dropped.
def session (android : Bool) (construction : Outcome Unit) (requests : List Request) :
    Ffi (Except Error (List Answer)) := do
  match ← newClient construction with
  | .error error => return .error error
  | .ok client =>
      let answers ← requests.mapM (perform android client)
      ovpnClientFree (some client)
      return .ok answers

end Session

section Ideal

-- Core's value, or what the client is told of an exception.
def Outcome.answer {α δ : Type} (outcome : Outcome α) (unknown : String) (returned : α → Rationed δ)
    (failed : CxxString → Rationed δ) : Rationed δ :=
  match outcome with
  | .Returns value => returned value
  | .Throws what => failed what
  | .ThrowsOther => failed unknown.toByteArray

-- Where an exception is not reported.
def Outcome.answerOr {α δ : Type} (outcome : Outcome α) (returned : α → Rationed δ) (nothing : δ) : Rationed δ :=
  match outcome with
  | .Returns value => returned value
  | .Throws _ | .ThrowsOther => return nothing

def ffiError (what : CxxString) : Rationed Error := do
  let status ← delivered "FFI_ERROR".toByteArray
  let message ← delivered what
  return .Core status message

def statusOf (unknown : String) (outcome : Outcome Core.Status) : Rationed (Except Error Status) :=
  outcome.answer unknown statusAnswer fun what => .error <$> ffiError what

-- A check's status has no text of Core's.
def checkOf (unknown : String) (outcome : Outcome Unit) : Rationed (Except Error Status) :=
  outcome.answer unknown (fun () => return .ok ⟨"", ""⟩) fun what => .error <$> ffiError what

def selfTestOf (outcome : Outcome Unit) : Rationed (Except Error Status) :=
  outcome.answer "unknown exception during callback self-test"
    (fun () => do
      let status ← delivered "CALLBACK_SELF_TEST_OK".toByteArray
      return .ok ⟨status, ""⟩)
    fun what => .error <$> ffiError what

def configError (what : CxxString) : Rationed (Except Error Evaluation) := do
  let message ← delivered what
  return .error (.Core "CONFIG_ERROR" message)

def evaluationOf (outcome : Outcome Core.EvalConfig) : Rationed (Except Error Evaluation) :=
  outcome.answer "unknown exception while evaluating OpenVPN config" evaluationAnswer configError

def mergeError (what : CxxString) : Rationed MergedConfig := do
  let status ← delivered "PROFILE_MERGE_EXCEPTION".toByteArray
  let errorText ← delivered what
  return { status, errorText, basename := "", profileContent := "", referencedPaths := [] }

def mergedOf (outcome : Outcome Core.MergeConfig) : Rationed MergedConfig :=
  outcome.answer "unknown exception while merging OpenVPN profile" mergeAnswer mergeError

def statisticAnswer (statsName : Int32 → Outcome CxxString) (entry : Nat × Int64) : Rationed Statistic := do
  let name ← (statsName (Int32.ofNat entry.1)).answerOr delivered ""
  return { name, value := entry.2 }

-- The counters are numbered from 0 on, as far as the bundle has values for them.
def statisticsOf (statsN : Int32) (statsName : Int32 → Outcome CxxString) (statsBundle : Outcome (List Int64)) :
    Rationed (List Statistic) := do
  let values ← statsBundle.answerOr bundleAnswer []
  ((List.range statsN.toInt.toNat).zip values).mapM (statisticAnswer statsName)

-- Core is asked with what the caller gave, and the answer is Core's.
def answer (android : Bool) : Request → Rationed Answer
  | .EvaluateStatic core config | .Evaluate core config =>
      .Evaluation <$> evaluationOf (core (config.core android))
  | .ProvideCredentials core credentials =>
      .Status <$> statusOf "unknown exception while providing OpenVPN credentials" (core credentials.core)
  | .Connect core => .Status <$> statusOf "unknown exception while connecting OpenVPN client" core
  | .CallbackSelfTest core => .Status <$> selfTestOf core
  | .StartCertCheck core certificate key ca =>
      .Status <$> checkOf "unknown exception while starting certificate check"
        (core certificate.toByteArray key.toByteArray (ca.map String.toByteArray))
  | .StartCertCheckEpki core aliasName ca =>
      .Status <$> checkOf "unknown exception while starting external PKI certificate check"
        (core aliasName.toByteArray (ca.map String.toByteArray))
  | .ConnectionInfo core => .ConnectionInfo <$> core.answerOr connectionAnswer none
  | .SessionToken core => .SessionToken <$> core.answerOr tokenAnswer none
  | .Statistics statsN statsName statsBundle => .Statistics <$> statisticsOf statsN statsName statsBundle
  | .MergeConfigPath core path followReferences => .Merged <$> mergedOf (core path.toByteArray followReferences)
  | .MergeConfigString core content => .Merged <$> mergedOf (core content.toByteArray)
  | .Text core => .Text <$> core.answerOr delivered ""
  | .CryptoSelfTest core =>
      .Text <$> core.answer "unknown exception during OpenVPN crypto self-test" delivered delivered
  | .ParseDynamicChallenge core cookie => .Challenge <$> (core cookie.toByteArray).answerOr challengeAnswer none

def sessionAnswer (android : Bool) (construction : Outcome Unit) (requests : List Request) :
    Rationed (Except Error (List Answer)) :=
  construction.answer "unknown exception while creating OpenVPN client"
    (fun () => .ok <$> requests.mapM (answer android)) fun what => .error <$> ffiError what

end Ideal

section Outcomes

theorem delivered_empty : delivered .empty = pure "" := rfl

theorem Outcome.answer_recover {α δ : Type} (outcome : Outcome α) (unknown : String) {record : CxxString → α}
    {returned : α → Rationed δ} {failed : CxxString → Rationed δ}
    (hfailed : ∀ what, returned (record what) = failed what) :
    returned (outcome.recover record unknown) = outcome.answer unknown returned failed := by
  cases outcome with
  | Returns value => rfl
  | Throws what => exact hfailed what
  | ThrowsOther => exact hfailed unknown.toByteArray

theorem statusAnswer_failed (what : CxxString) : statusAnswer (statusFailed what) = .error <$> ffiError what := by
  simp only [statusAnswer, statusFailed, ffiError, map_eq_pure_bind, bind_assoc, pure_bind, if_true]

theorem evaluationAnswer_failed (what : CxxString) :
    evaluationAnswer (evaluationFailed what) = configError what := by
  simp only [evaluationAnswer, evaluationFailed, delivered_empty, pure_bind]
  rfl

theorem mergeAnswer_bare (status errorText : CxxString) :
    mergeAnswer ⟨status, errorText, .empty, .empty, []⟩ = (do
      let status ← delivered status
      let errorText ← delivered errorText
      return { status, errorText, basename := "", profileContent := "", referencedPaths := [] }) := by
  simp only [mergeAnswer, delivered_empty, pure_bind]
  rfl

theorem mergeAnswer_failed (what : CxxString) : mergeAnswer (mergeFailed what) = mergeError what :=
  mergeAnswer_bare _ what

theorem recoverStatus_follows (unknown : String) (outcome : Outcome Core.Status) :
    Follows (statusOf unknown outcome) 0 (statusFrom (outcome.recover statusFailed unknown)) OwnsStatus := by
  rw [statusOf, ← Outcome.answer_recover outcome unknown statusAnswer_failed]
  exact statusFrom_follows _

theorem recoverEvaluation_follows (outcome : Outcome Core.EvalConfig) :
    Follows (evaluationOf outcome) 0 (evaluationFrom (outcome.recover evaluationFailed
      "unknown exception while evaluating OpenVPN config")) OwnsEvalConfig := by
  rw [evaluationOf, ← Outcome.answer_recover outcome _ evaluationAnswer_failed]
  exact evaluationFrom_follows _

theorem recoverMerged_follows (outcome : Outcome Core.MergeConfig) :
    Follows (mergedOf outcome) 0 (mergeConfigFrom (outcome.recover mergeFailed
      "unknown exception while merging OpenVPN profile")) OwnsMergeConfig := by
  rw [mergedOf, ← Outcome.answer_recover outcome _ mergeAnswer_failed]
  exact mergeConfigFrom_follows _

theorem errorStatus_reports (what : CxxString) :
    Follows (ffiError what) 0 (errorStatus what) fun error => OwnsStatus (.error error) := by
  apply OwnsAll.own .Nil
  intro status _ _ howns
  apply howns.own
  intro message _ _ howns
  have hrecord := @OwnsStatus.Record true status message
  exact Follows.pure (hrecord rfl howns)

theorem errorStatus_follows (what : CxxString) :
    Follows (.error <$> ffiError what) 0 (errorStatus what) OwnsStatus := by
  rw [map_eq_pure_bind]
  exact (errorStatus_reports what).convert fun _ _ _ howns => howns

theorem checkStarted_follows (unknown : String) (outcome : Outcome Unit) :
    Follows (checkOf unknown outcome) 0 (checkStarted unknown outcome) OwnsStatus := by
  cases outcome with
  | Returns _ => exact statusFrom_follows ⟨false, .empty, .empty⟩
  | Throws what => exact errorStatus_follows what
  | ThrowsOther => exact errorStatus_follows _

theorem ovpnText_follows (outcome : Outcome CxxString) :
    Follows (outcome.answerOr delivered "") 0 (ovpnText outcome) Owns := by
  cases outcome with
  | Returns text => exact own_follows text
  | Throws _ => exact Follows.pure .Null
  | ThrowsOther => exact Follows.pure .Null

end Outcomes

section Client

variable {grants : Nat → Bool} {α ρ : Type}

-- The cells of a client that lives.
abbrev live (client : Nat) : Cells Block := {(client, .Client)}

theorem implementation_triple (client : Nat) :
    Triple grants (live client) (implementation client) fun _ cells => cells = live client := by
  apply Triple.bind (load_triple client Block.Client)
  rintro _ _ ⟨rfl, rfl⟩
  exact Triple.pure () rfl

-- A call on a live client: the record is filled beside it, read and given back.
theorem onClient_answers {ideal : Rationed α} {owns : α → ρ → Cells Block → Prop} {acquire : Ffi ρ}
    {consume : ρ → Ffi α} (client : Nat) (hacquire : Follows ideal 0 acquire owns)
    (hconsume : ∀ grants value raw cells, owns value raw cells →
      Triple grants cells (consume raw) fun result after => result = value ∧ after = 0) :
    Answers ideal (live client) ((implementation client >>= fun _ => acquire) >>= consume) := by
  rw [bind_assoc]
  apply Follows.after_triple fun _ => implementation_triple client
  rintro _ _ rfl
  exact (hacquire.bracket hconsume).beside _

theorem takeOwned_triple {text : String} {owned : OwnedString} {cells : Cells Block}
    (howns : Owns text owned cells) :
    Triple grants cells (takeOwned owned) fun answer after => answer = text ∧ after = 0 :=
  (stringFromOwned_triple howns).thenRelease (ovpnOwnedStringFree_triple howns)

theorem text_answers (core : Outcome CxxString) : Answers (core.answerOr delivered "") 0 (text core) :=
  (ovpnText_follows core).bracket fun _ _ _ _ howns => takeOwned_triple howns

theorem cryptoSelfTest_answers (core : Outcome CxxString) :
    Answers (core.answer "unknown exception during OpenVPN crypto self-test" delivered delivered) 0
      (cryptoSelfTest core) := by
  rw [← Outcome.answer_recover core _ fun what => congrArg delivered (id_eq what)]
  exact (own_follows _).bracket fun _ _ _ _ howns => takeOwned_triple howns

theorem mergeConfigPath_answers (core : CxxString → Bool → Outcome Core.MergeConfig) (path : String)
    (followReferences : Bool) :
    Answers (mergedOf (core path.toByteArray followReferences)) 0
      (mergeConfigPath core path followReferences) := by
  have hcall : Answers (mergedOf (core (stringFrom (view path)) (boolI32 followReferences != 0))) 0
      (mergeConfigPath core path followReferences) :=
    (recoverMerged_follows _).bracket fun _ _ _ _ howns => takeMergedConfig_triple howns
  rw [stringFrom_view, boolI32_ne_zero] at hcall
  exact hcall

theorem mergeConfigString_answers (core : CxxString → Outcome Core.MergeConfig) (content : String) :
    Answers (mergedOf (core content.toByteArray)) 0 (mergeConfigString core content) := by
  rw [← stringFrom_view content]
  exact (recoverMerged_follows _).bracket fun _ _ _ _ howns => takeMergedConfig_triple howns

theorem parseDynamicChallenge_answers (core : CxxString → Outcome (Option Core.DynamicChallenge))
    (cookie : String) :
    Answers ((core cookie.toByteArray).answerOr challengeAnswer none) 0 (parseDynamicChallenge core cookie) := by
  apply Follows.bracket _ fun _ _ _ _ howns => takeDynamicChallenge_triple howns
  unfold ovpnParseDynamicChallenge
  rw [stringFrom_view]
  cases core cookie.toByteArray with
  | Returns challenge => exact dynamicChallengeFrom_follows challenge
  | Throws _ => exact dynamicChallengeFrom_follows none
  | ThrowsOther => exact dynamicChallengeFrom_follows none

theorem evaluate_answers (android : Bool) (core : Core.Config → Outcome Core.EvalConfig) (client : Nat)
    (config : Config) :
    Answers (evaluationOf (core (config.core android))) (live client) (evaluate android core client config) := by
  rw [← configFrom_rawConfig]
  exact onClient_answers client (recoverEvaluation_follows _) fun _ _ _ _ howns => evaluationResult_triple howns

theorem evaluateStatic_answers (android : Bool) (core : Core.Config → Outcome Core.EvalConfig) (config : Config) :
    Answers (evaluationOf (core (config.core android))) 0 (evaluateStatic android core config) := by
  rw [← configFrom_rawConfig]
  exact (recoverEvaluation_follows _).bracket fun _ _ _ _ howns => evaluationResult_triple howns

theorem provideCredentials_answers (core : Core.ProvideCreds → Outcome Core.Status) (client : Nat)
    (credentials : Credentials) :
    Answers (statusOf "unknown exception while providing OpenVPN credentials" (core credentials.core))
      (live client) (provideCredentials core client credentials) := by
  rw [← credentialsFrom_raw]
  exact onClient_answers client (recoverStatus_follows _ _) fun _ _ _ _ howns => statusResult_triple howns

theorem connect_answers (core : Outcome Core.Status) (client : Nat) :
    Answers (statusOf "unknown exception while connecting OpenVPN client" core) (live client)
      (connect core client) :=
  onClient_answers client (recoverStatus_follows _ _) fun _ _ _ _ howns => statusResult_triple howns

theorem callbackSelfTest_answers (core : Outcome Unit) (client : Nat) :
    Answers (selfTestOf core) (live client) (callbackSelfTest core client) := by
  cases core with
  | Returns _ =>
      have hstatus := statusFrom_follows ⟨false, "CALLBACK_SELF_TEST_OK".toByteArray, .empty⟩
      exact onClient_answers client hstatus fun _ _ _ _ howns => statusResult_triple howns
  | Throws what =>
      exact onClient_answers client (errorStatus_follows what) fun _ _ _ _ howns => statusResult_triple howns
  | ThrowsOther =>
      exact onClient_answers client (errorStatus_follows _) fun _ _ _ _ howns => statusResult_triple howns

theorem optionalCa_view (ca : Option String) :
    optionalCa (view (ca.getD "")) (boolI32 ca.isSome) = ca.map String.toByteArray := by
  rw [optionalCa, boolI32_ne_zero, stringFrom_view]
  cases ca with
  | none => rfl
  | some _ => rfl

theorem startCertCheck_answers (core : CxxString → CxxString → Option CxxString → Outcome Unit) (client : Nat)
    (certificate key : String) (ca : Option String) :
    Answers (checkOf "unknown exception while starting certificate check"
        (core certificate.toByteArray key.toByteArray (ca.map String.toByteArray)))
      (live client) (startCertCheck core client certificate key ca) := by
  rw [← optionalCa_view, ← stringFrom_view certificate, ← stringFrom_view key]
  exact onClient_answers client (checkStarted_follows _ _) fun _ _ _ _ howns => statusResult_triple howns

theorem startCertCheckEpki_answers (core : CxxString → Option CxxString → Outcome Unit) (client : Nat)
    (aliasName : String) (ca : Option String) :
    Answers (checkOf "unknown exception while starting external PKI certificate check"
        (core aliasName.toByteArray (ca.map String.toByteArray)))
      (live client) (startCertCheckEpki core client aliasName ca) := by
  rw [← optionalCa_view, ← stringFrom_view aliasName]
  exact onClient_answers client (checkStarted_follows _ _) fun _ _ _ _ howns => statusResult_triple howns

theorem connectionInfo_answers (core : Outcome Core.ConnectionInfo) (client : Nat) :
    Answers (core.answerOr connectionAnswer none) (live client) (connectionInfo core client) := by
  have hundefined : Follows (pure none) 0 (pure .zero : Ffi OvpnConnectionInfo) OwnsConnectionInfo :=
    Follows.pure (OwnsOptional.absent 12)
  cases core with
  | Returns value =>
      exact onClient_answers client (connectionInfoFrom_follows value)
        fun _ _ _ _ howns => takeConnectionInfo_triple howns
  | Throws _ => exact onClient_answers client hundefined fun _ _ _ _ howns => takeConnectionInfo_triple howns
  | ThrowsOther => exact onClient_answers client hundefined fun _ _ _ _ howns => takeConnectionInfo_triple howns

theorem sessionToken_answers (core : Outcome (Option Core.SessionToken)) (client : Nat) :
    Answers (core.answerOr tokenAnswer none) (live client) (sessionToken core client) := by
  have hnone := sessionTokenFrom_follows none
  cases core with
  | Returns token =>
      exact onClient_answers client (sessionTokenFrom_follows token)
        fun _ _ _ _ howns => takeSessionToken_triple howns
  | Throws _ => exact onClient_answers client hnone fun _ _ _ _ howns => takeSessionToken_triple howns
  | ThrowsOther => exact onClient_answers client hnone fun _ _ _ _ howns => takeSessionToken_triple howns

theorem statistic_answers (statsName : Int32 → Outcome CxxString) (entry : Nat × Int64) :
    Answers (statisticAnswer statsName entry) 0 (statistic statsName entry) := by
  apply (ovpnText_follows _).bind
  intro text owned cells howns
  apply Follows.after_triple fun _ => takeOwned_triple howns
  rintro _ _ ⟨rfl, rfl⟩
  exact Follows.pure ⟨rfl, rfl⟩

-- What follows the bundle in statistics.
theorem bundle_follows (statsN : Int32) (statsName : Int32 → Outcome CxxString) {values : List Int64}
    {bundle : OvpnI64Array} {cells : Cells Block} (howns : OwnsBundle values bundle cells) :
    Follows (((List.range statsN.toInt.toNat).zip values).mapM (statisticAnswer statsName)) cells
      (do
        let values ← readBundle bundle
        let result ← ((List.range statsN.toInt.toNat).zip values).mapM (statistic statsName)
        ovpnI64ArrayFree bundle
        return result)
      fun value result after => result = value ∧ after = 0 := by
  apply Follows.after_triple fun _ => readBundle_triple howns
  rintro _ _ ⟨rfl, rfl⟩
  rw [← bind_pure (List.mapM (statisticAnswer statsName) _)]
  apply (Answers.mapM (fun entry => (statistic_answers statsName entry).beside _) _).bind
  rintro answers _ _ ⟨rfl, rfl⟩
  apply Follows.after_triple fun _ => ovpnI64ArrayFree_triple howns
  rintro _ _ rfl
  exact Follows.pure ⟨rfl, rfl⟩

theorem ovpnClientStatsBundle_follows (core : Outcome (List Int64)) (client : Nat) :
    Follows (core.answerOr bundleAnswer []) (live client) (ovpnClientStatsBundle core (some client))
      fun values bundle cells => ∃ own, OwnsBundle values bundle own ∧ cells = own + live client := by
  apply Follows.after_triple fun _ => implementation_triple client
  rintro _ _ rfl
  have hframed : ∀ {ideal : Rationed (List Int64)} {program : Ffi OvpnI64Array},
      Follows ideal 0 program OwnsBundle → Follows ideal (live client) program fun values bundle cells =>
        ∃ own, OwnsBundle values bundle own ∧ cells = own + live client := by
    intro ideal program hprogram
    have hbeside := hprogram.frame (live client)
    rwa [zero_add] at hbeside
  cases core with
  | Returns values => exact hframed (bundleFrom_follows values)
  | Throws _ => exact hframed (Follows.pure .Null)
  | ThrowsOther => exact hframed (Follows.pure .Null)

theorem statistics_answers (statsN : Int32) (statsName : Int32 → Outcome CxxString) (core : Outcome (List Int64))
    (client : Nat) :
    Answers (statisticsOf statsN statsName core) (live client) (statistics statsN statsName core client) := by
  apply (ovpnClientStatsBundle_follows core client).bind
  rintro values bundle _ ⟨own, howns, rfl⟩
  apply ((bundle_follows statsN statsName howns).frame (live client)).weaken
  rintro answers _ _ ⟨_, ⟨rfl, rfl⟩, rfl⟩
  exact ⟨rfl, zero_add _⟩

theorem perform_answers (android : Bool) (client : Nat) (request : Request) :
    Answers (answer android request) (live client) (perform android client request) := by
  cases request with
  | EvaluateStatic core config => exact ((evaluateStatic_answers android core config).beside _).map
  | Evaluate core config => exact (evaluate_answers android core client config).map
  | ProvideCredentials core credentials => exact (provideCredentials_answers core client credentials).map
  | Connect core => exact (connect_answers core client).map
  | CallbackSelfTest core => exact (callbackSelfTest_answers core client).map
  | StartCertCheck core certificate key ca => exact (startCertCheck_answers core client certificate key ca).map
  | StartCertCheckEpki core aliasName ca => exact (startCertCheckEpki_answers core client aliasName ca).map
  | ConnectionInfo core => exact (connectionInfo_answers core client).map
  | SessionToken core => exact (sessionToken_answers core client).map
  | Statistics statsN statsName statsBundle => exact (statistics_answers statsN statsName statsBundle client).map
  | MergeConfigPath core path followReferences =>
      exact ((mergeConfigPath_answers core path followReferences).beside _).map
  | MergeConfigString core content => exact ((mergeConfigString_answers core content).beside _).map
  | Text core => exact ((text_answers core).beside _).map
  | CryptoSelfTest core => exact ((cryptoSelfTest_answers core).beside _).map
  | ParseDynamicChallenge core cookie => exact ((parseDynamicChallenge_answers core cookie).beside _).map

end Client

section Whole

theorem clientResult_failed {error : Error} {raw : OvpnStatus} {cells : Cells Block} {grants : Nat → Bool}
    (howns : OwnsStatus (.error error) raw cells) :
    Triple grants cells (clientResult none raw) fun answer after => answer = .error error ∧ after = 0 := by
  have hfree : Triple grants cells (ovpnStatusFree raw) fun _ after => after = 0 := ovpnStatusFree_triple howns
  generalize hanswer : (.error error : Except Error Status) = reported at howns
  cases howns with
  | @Record failed status message _ _ hflag hstrings =>
      unfold clientResult
      rw [hflag, boolI32_ne_zero]
      by_cases hfailed : failed = true
      · rw [if_pos hfailed] at hanswer ⊢
        cases hanswer
        apply (statusError_triple hstrings).bind
        rintro _ _ ⟨rfl, rfl⟩
        apply hfree.bind
        rintro _ _ rfl
        apply (@free_null_triple Block grants).bind
        rintro _ _ rfl
        exact Triple.pure _ ⟨rfl, rfl⟩
      · rw [if_neg hfailed] at hanswer
        cases hanswer

-- Where Core's constructor throws.
theorem failedClient_follows (what : CxxString) :
    Follows (ffiError what) 0 (errorStatus what >>= fun raw => clientResult none raw)
      fun error created cells => created = .error error ∧ cells = 0 := by
  rw [← bind_pure (ffiError what)]
  apply (errorStatus_reports what).bind
  intro error raw cells howns
  apply (Follows.of_triple (fun _ => clientResult_failed howns) error).weaken
  rintro _ _ _ ⟨rfl, hresult⟩
  exact hresult

theorem newClient_throws (construction : Outcome Unit) (what : CxxString)
    (hnew : ovpnClientNew construction = errorStatus what >>= fun raw => return (none, raw)) :
    newClient construction = errorStatus what >>= fun raw => clientResult none raw := by
  rw [newClient, hnew, bind_assoc]
  simp only [pure_bind]

theorem session_failed (android : Bool) (construction : Outcome Unit) (what : CxxString)
    (hnew : ovpnClientNew construction = errorStatus what >>= fun raw => return (none, raw))
    (requests : List Request) :
    Answers (Except.error <$> ffiError what) 0 (session android construction requests) := by
  rw [map_eq_pure_bind, session, newClient_throws construction what hnew]
  apply (failedClient_follows what).bind
  rintro error _ _ ⟨rfl, rfl⟩
  exact Follows.pure ⟨rfl, rfl⟩

theorem newClient_triple {grants : Nat → Bool} : Triple grants 0 (newClient (.Returns ())) fun created cells =>
    ∃ client, created = .ok client ∧ cells = live client := by
  show Triple grants 0 ((allocate Block.Client >>= _) >>= _) _
  rw [bind_assoc]
  apply (allocate_triple Block.Client).bind
  rintro client _ rfl
  exact Triple.pure _ ⟨client, rfl, rfl⟩

theorem session_answers (android : Bool) (construction : Outcome Unit) (requests : List Request) :
    Answers (sessionAnswer android construction requests) 0 (session android construction requests) := by
  cases construction with
  | Returns _ =>
      show Answers (Except.ok <$> requests.mapM (answer android)) 0 _
      rw [map_eq_pure_bind]
      apply Follows.after_triple fun _ => newClient_triple
      rintro _ _ ⟨client, rfl, rfl⟩
      apply (Answers.mapM (perform_answers android client) requests).bind
      rintro answers _ _ ⟨rfl, rfl⟩
      apply Follows.after_triple fun _ => free_triple client Block.Client
      rintro _ _ rfl
      exact Follows.pure ⟨rfl, rfl⟩
  | Throws what => exact session_failed android (.Throws what) what rfl requests
  | ThrowsOther => exact session_failed android .ThrowsOther _ rfl requests

end Whole

-- Whatever Core does and wherever malloc fails, no call touches a block that is not
-- live, every block is given back once, and every answer is Core's: a text of it
-- is missing exactly where malloc had no room for that text, or for its array.
theorem session_balanced (android : Bool) (construction : Outcome Unit) (requests : List Request)
    (heap : Heap Block) :
    ∃ after, session android construction requests heap =
        some (((sessionAnswer android construction requests).run heap.grants).1, after) ∧
      after.blocks = heap.blocks := by
  obtain ⟨after, hrun, _, hblocks⟩ := (session_answers android construction requests).run heap
  exact ⟨after, hrun, hblocks⟩

end OpenvpnConnect.Native
