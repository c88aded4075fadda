import OpenvpnConnect.Tls.Schemes
import OpenvpnConnect.Callbacks.Direct
import OpenvpnConnect.Tls.Pem

-- A signature of the handshake that the application makes with its own key.
namespace OpenvpnConnect.Tls.Signing

open Native Callbacks Dialogue
open Tun (Method)

-- What is relied on of Core's Base64 of a std::string; decode throws for what it cannot read.
structure Codec where
  encode : List UInt8 → CxxString
  decode : CxxString → Option (List UInt8)
  decode_encode : ∀ bytes, decode (encode bytes) = some bytes
  valid : ∀ bytes, (encode bytes).IsValidUTF8

-- Core's `ExternalPKIBase`: whether it signed, and the signature; it may throw.
structure ExternalPKIBase (σ : Type) where
  sign : CxxString → CxxString → CxxString → CxxString → CxxString → Method σ (Bool × CxxString)

-- The part of a TLS configuration that the signing callback reads.
structure Config (σ : Type) where
  externalPki : Option (ExternalPKIBase σ)
  externalPkiAlias : CxxString

variable {σ τ : Type}

structure SchemeNames where
  algorithm : String
  hash : String
  saltLength : String

def schemeNames (signatureScheme : UInt16) : Option SchemeNames :=
  match signatureScheme with
  | 0x0401 => some ⟨"RSA_PKCS1_PADDING", "SHA256", ""⟩
  | 0x0501 => some ⟨"RSA_PKCS1_PADDING", "SHA384", ""⟩
  | 0x0601 => some ⟨"RSA_PKCS1_PADDING", "SHA512", ""⟩
  | 0x0804 => some ⟨"RSA_PKCS1_PSS_PADDING", "SHA256", "digest"⟩
  | 0x0805 => some ⟨"RSA_PKCS1_PSS_PADDING", "SHA384", "digest"⟩
  | 0x0806 => some ⟨"RSA_PKCS1_PSS_PADDING", "SHA512", "digest"⟩
  | 0x0403 => some ⟨"ECDSA", "SHA256", ""⟩
  | 0x0503 => some ⟨"ECDSA", "SHA384", ""⟩
  | 0x0603 => some ⟨"ECDSA", "SHA512", ""⟩
  | 0x0807 => some ⟨"ED25519", "", ""⟩
  | 0x0808 => some ⟨"ED448", "", ""⟩
  | _ => none

-- The length that is returned, and the buffer after it; every exception is -1.
def externalSign (codec : Codec) (config : Option (Config σ)) (signatureScheme : UInt16) (message : List UInt8)
    (signature : List UInt8) : σ → (Int × List UInt8) × σ :=
  fun state =>
    match config.bind Config.externalPki, schemeNames signatureScheme with
    | some externalPki, some names =>
        let encoded := codec.encode message
        let pkiAlias := (config.map Config.externalPkiAlias).getD .empty
        match externalPki.sign pkiAlias encoded names.algorithm.toByteArray names.hash.toByteArray
            names.saltLength.toByteArray state with
        | (some (true, encodedSignature), after) =>
            match codec.decode encodedSignature with
            | none => ((-1, signature), after)
            | some decoded =>
                if decoded.length > signature.length then ((-1, signature), after)
                else ((decoded.length, decoded ++ signature.drop decoded.length), after)
        | (_, after) => ((-1, signature), after)
    | _, _ => ((-1, signature), state)

-- The code points of rustls.
def code : SignatureScheme → UInt16
  | .RSA_PKCS1_SHA1 => 0x0201
  | .ECDSA_SHA1_Legacy => 0x0203
  | .RSA_PKCS1_SHA256 => 0x0401
  | .RSA_PKCS1_SHA384 => 0x0501
  | .RSA_PKCS1_SHA512 => 0x0601
  | .ECDSA_NISTP256_SHA256 => 0x0403
  | .ECDSA_NISTP384_SHA384 => 0x0503
  | .ECDSA_NISTP521_SHA512 => 0x0603
  | .RSA_PSS_SHA256 => 0x0804
  | .RSA_PSS_SHA384 => 0x0805
  | .RSA_PSS_SHA512 => 0x0806
  | .ED25519 => 0x0807
  | .ED448 => 0x0808
  | .Other code => code.val

-- A C function that is given the context, the scheme, the message and a buffer.
abbrev SignFn (σ : Type) := Nat → UInt16 → List UInt8 → List UInt8 → σ → (Int × List UInt8) × σ

def sign (signer : ExternalSigner (Option (SignFn σ))) (message : List UInt8) :
    σ → Except String (List UInt8) × σ :=
  fun state =>
    match signer.callback with
    | none => (.error "external signing callback is unavailable", state)
    | some callback =>
        let buffer := List.replicate 8192 0
        let ((length, signature), after) := callback signer.context (code signer.scheme) message buffer state
        if length < 0 then (.error "external private key signing failed", after)
        else if length.toNat = 0 ∨ length.toNat > buffer.length then
          (.error "external private key signing failed", after)
        else (.ok (signature.take length.toNat), after)

-- The callback as the TLS context installs it; the context is the address of its configuration.
def installed (codec : Codec) (configs : Nat → Option (Config σ)) : SignFn σ :=
  fun context => externalSign codec (configs context)

-- What Core's client does with a signing request: it is passed on as it is, and the signature comes back
-- unless there is an error, of which Core may tell the application more.
structure Forwards (client : Server Call (Call.Answer τ) σ) (pki : ExternalPKIBase σ) : Prop where
  granted : ∀ {pkiAlias data algorithm hashalg saltlen : CxxString} {state after : σ}
    {answer : Callbacks.Core.ExternalPKISignRequest},
    client (.SignRequest ⟨pkiAlias, data, algorithm, hashalg, saltlen, false, false, .empty, .empty⟩) state =
      (answer, after) → answer.error = false →
    pki.sign pkiAlias data algorithm hashalg saltlen state = (some (true, answer.sig), after)
  refused : ∀ {pkiAlias data algorithm hashalg saltlen : CxxString} {state after : σ}
    {answer : Callbacks.Core.ExternalPKISignRequest},
    client (.SignRequest ⟨pkiAlias, data, algorithm, hashalg, saltlen, false, false, .empty, .empty⟩) state =
      (answer, after) → answer.error = true →
    ∃ told sig, pki.sign pkiAlias data algorithm hashalg saltlen state = (some (false, sig), told)

theorem fromUtf8Lossy_toByteArray (text : String) : fromUtf8Lossy text.toByteArray = text :=
  String.toByteArray_inj.mp (fromUtf8Lossy_valid text.isValidUTF8)

section Names

-- Every scheme that an external key prefers has names, and they tell it apart.
theorem schemeNames_preferred {algorithm : SignatureAlgorithm} {scheme : SignatureScheme}
    (hmem : scheme ∈ preferredSchemes algorithm) : ∃ names, schemeNames (code scheme) = some names := by
  obtain ⟨halgorithm, hlegacy⟩ := mem_preferredSchemes.mp hmem
  cases scheme with
  | Other value => cases halgorithm
  | RSA_PKCS1_SHA1 | ECDSA_SHA1_Legacy => cases hlegacy
  | _ => exact ⟨_, rfl⟩

theorem schemeNames_inj {first second : UInt16} {names : SchemeNames} (hfirst : schemeNames first = some names)
    (hsecond : schemeNames second = some names) : first = second := by
  unfold schemeNames at hfirst hsecond
  split at hsecond <;> cases hsecond <;> split at hfirst <;> first | rfl | simp at hfirst

end Names

-- What the application is asked.
def requestOf (codec : Codec) (pkiAlias : CxxString) (names : SchemeNames) (message : List UInt8) :
    ExternalPkiSignRequest :=
  ⟨fromUtf8Lossy pkiAlias, fromUtf8Lossy (codec.encode message), names.algorithm, names.hash, names.saltLength⟩

-- The signature in an answer; a panic, an error and a text without a signature of a length that fits have none.
def signatureIn (codec : Codec) : Option (Except ExternalPkiError String) → Option (List UInt8)
  | some (.ok text) =>
      (codec.decode text.toByteArray).filter fun bytes => 0 < bytes.length ∧ bytes.length ≤ 8192
  | _ => none

def outcome : Option (List UInt8) → Except String (List UInt8)
  | some signature => .ok signature
  | none => .error "external private key signing failed"

theorem signatureIn_eq_some {codec : Codec} {answer : Option (Except ExternalPkiError String)}
    {signature : List UInt8} (hanswer : signatureIn codec answer = some signature) :
    ∃ text, answer = some (.ok text) ∧ codec.decode text.toByteArray = some signature ∧
      signature.length ≤ 8192 := by
  unfold signatureIn at hanswer
  split at hanswer
  · rename_i text
    obtain ⟨hdecode, hlength⟩ := Option.filter_eq_some_iff.mp hanswer
    rw [decide_eq_true_eq] at hlength
    exact ⟨text, rfl, hdecode, hlength.2⟩
  · cases hanswer

-- The application's signatures are valid for what its requests say.
def Honest (codec : Codec) (handler : EventHandler σ) (valid : UInt16 → List UInt8 → List UInt8 → Prop) : Prop :=
  ∀ request state text scheme message signature,
    (handler.externalPkiSign request state).1 = some (.ok text) →
    schemeNames scheme = some ⟨request.algorithm, request.hashAlgorithm, request.saltLength⟩ →
    codec.decode request.data.toByteArray = some message →
    codec.decode text.toByteArray = some signature →
    valid scheme message signature

theorem requestOf_data (codec : Codec) (pkiAlias : CxxString) (names : SchemeNames) (message : List UInt8) :
    codec.decode (requestOf codec pkiAlias names message).data.toByteArray = some message := by
  unfold requestOf
  dsimp only
  rw [fromUtf8Lossy_valid (codec.valid message)]
  exact codec.decode_encode message

section Chain

variable {codec : Codec} {library : Callbacks.Core.Library τ} {handler : EventHandler σ}
  {pki : ExternalPKIBase σ}

-- Core's client passes the request on, and the layers between hand it to the application.
theorem client_sign (library : Callbacks.Core.Library τ) (handler : EventHandler σ) (codec : Codec)
    (pkiAlias : CxxString) (names : SchemeNames) (message : List UInt8) (state : σ) :
    let request : Callbacks.Core.ExternalPKISignRequest :=
      ⟨pkiAlias, codec.encode message, names.algorithm.toByteArray, names.hash.toByteArray,
        names.saltLength.toByteArray, false, false, .empty, .empty⟩
    bridge library (callbackTable handler) (.SignRequest request) state =
      answered (.error pkiPanic) request.filled
        (handler.externalPkiSign (requestOf codec pkiAlias names message)) state := by
  intro request
  rw [bridge_callbackTable]
  show answered _ request.filled (handler.externalPkiSign ⟨_, _, fromUtf8Lossy names.algorithm.toByteArray,
    fromUtf8Lossy names.hash.toByteArray, fromUtf8Lossy names.saltLength.toByteArray⟩) state = _
  rw [fromUtf8Lossy_toByteArray, fromUtf8Lossy_toByteArray, fromUtf8Lossy_toByteArray]
  rfl

theorem sign_granted (hforwards : Forwards (bridge library (callbackTable handler)) pki)
    {pkiAlias : CxxString} {names : SchemeNames} {message : List UInt8} {state : σ} {text : String}
    (hanswer : (handler.externalPkiSign (requestOf codec pkiAlias names message) state).1 = some (.ok text)) :
    ∃ after, pki.sign pkiAlias (codec.encode message) names.algorithm.toByteArray names.hash.toByteArray
      names.saltLength.toByteArray state = (some (true, text.toByteArray), after) := by
  have hclient := client_sign library handler codec pkiAlias names message state
  simp only [answered, hanswer, Option.getD_some] at hclient
  exact ⟨_, hforwards.granted hclient rfl⟩

theorem sign_refused (hforwards : Forwards (bridge library (callbackTable handler)) pki)
    {pkiAlias : CxxString} {names : SchemeNames} {message : List UInt8} {state : σ}
    (hanswer : ∀ text,
      (handler.externalPkiSign (requestOf codec pkiAlias names message) state).1 ≠ some (.ok text)) :
    ∃ told sig, pki.sign pkiAlias (codec.encode message) names.algorithm.toByteArray names.hash.toByteArray
      names.saltLength.toByteArray state = (some (false, sig), told) := by
  have hclient := client_sign library handler codec pkiAlias names message state
  have herror : ∃ error, (handler.externalPkiSign (requestOf codec pkiAlias names message) state).1.getD
      (.error pkiPanic) = .error error := by
    cases hreply : (handler.externalPkiSign (requestOf codec pkiAlias names message) state).1 with
    | none => exact ⟨pkiPanic, rfl⟩
    | some reply =>
        cases reply with
        | ok text => exact absurd hreply (hanswer text)
        | error error => exact ⟨error, rfl⟩
  obtain ⟨error, herror⟩ := herror
  simp only [answered, herror] at hclient
  exact hforwards.refused hclient rfl

-- What the callback of the TLS layer returns and leaves in a buffer that is large enough for `bytes`.
theorem externalSign_granted (hforwards : Forwards (bridge library (callbackTable handler)) pki)
    {config : Config σ} (hpki : config.externalPki = some pki) {scheme : UInt16} {names : SchemeNames}
    (hnames : schemeNames scheme = some names) (buffer : List UInt8) {message bytes : List UInt8} {state : σ}
    {text : String}
    (hanswer : (handler.externalPkiSign (requestOf codec config.externalPkiAlias names message) state).1 =
      some (.ok text))
    (hdecode : codec.decode text.toByteArray = some bytes) (hfits : bytes.length ≤ buffer.length) :
    (externalSign codec (some config) scheme message buffer state).1 =
      ((bytes.length : Int), bytes ++ buffer.drop bytes.length) := by
  obtain ⟨after, hsign⟩ := sign_granted hforwards hanswer
  simp only [externalSign, Option.bind_some, hpki, hnames, Option.map_some, Option.getD_some, hsign, hdecode]
  rw [if_neg (by omega)]

theorem externalSign_refused (hforwards : Forwards (bridge library (callbackTable handler)) pki)
    {config : Config σ} (hpki : config.externalPki = some pki) {scheme : UInt16} {names : SchemeNames}
    (hnames : schemeNames scheme = some names) (buffer : List UInt8) {message : List UInt8} {state : σ}
    (hanswer : ∀ text bytes,
      (handler.externalPkiSign (requestOf codec config.externalPkiAlias names message) state).1 =
        some (.ok text) → codec.decode text.toByteArray = some bytes → buffer.length < bytes.length) :
    (externalSign codec (some config) scheme message buffer state).1 = (-1, buffer) := by
  simp only [externalSign, Option.bind_some, hpki, hnames, Option.map_some, Option.getD_some]
  by_cases hok : ∃ text,
      (handler.externalPkiSign (requestOf codec config.externalPkiAlias names message) state).1 = some (.ok text)
  · obtain ⟨text, htext⟩ := hok
    obtain ⟨after, hsign⟩ := sign_granted hforwards htext
    rw [hsign]
    dsimp only
    cases hdecode : codec.decode text.toByteArray with
    | none => rfl
    | some bytes =>
        have hlong := hanswer text bytes htext hdecode
        dsimp only
        rw [if_pos (by omega)]
  · obtain ⟨told, sig, hsign⟩ := sign_refused hforwards fun text htext => hok ⟨text, htext⟩
    rw [hsign]

-- What the signer makes of the callback's return.
theorem sign_returned {callback : SignFn σ} {context : Nat} {scheme : SignatureScheme} {message : List UInt8}
    {state : σ} {length : Int} {signature : List UInt8}
    (hreturn : (callback context (code scheme) message (List.replicate 8192 0) state).1 = (length, signature)) :
    (sign ⟨context, some callback, scheme⟩ message state).1 =
      if 0 < length ∧ length ≤ 8192 then .ok (signature.take length.toNat)
      else .error "external private key signing failed" := by
  unfold sign
  dsimp only
  rw [List.length_replicate]
  generalize callback context (code scheme) message (List.replicate 8192 0) state = returned at hreturn ⊢
  obtain ⟨result, after⟩ := returned
  dsimp only at hreturn
  subst hreturn
  dsimp only
  by_cases hnegative : length < 0
  · rw [if_pos hnegative, if_neg (by omega)]
  · rw [if_neg hnegative]
    by_cases hunfit : length.toNat = 0 ∨ length.toNat > 8192
    · rw [if_pos hunfit, if_neg (by omega)]
    · rw [if_neg hunfit, if_pos (by omega)]

-- The signer takes a signature of the application as it is, and reports everything else alike.
theorem sign_outcome (hforwards : Forwards (bridge library (callbackTable handler)) pki)
    {configs : Nat → Option (Config σ)} {context : Nat} {config : Config σ}
    (hconfig : configs context = some config) (hpki : config.externalPki = some pki)
    {scheme : SignatureScheme} {names : SchemeNames} (hnames : schemeNames (code scheme) = some names)
    (message : List UInt8) (state : σ) :
    (sign ⟨context, some (installed codec configs), scheme⟩ message state).1 =
      outcome (signatureIn codec
        (handler.externalPkiSign (requestOf codec config.externalPkiAlias names message) state).1) := by
  have hinstalled : (installed codec configs) context = externalSign codec (some config) := by
    rw [installed, hconfig]
  by_cases hgranted : ∃ text bytes,
      (handler.externalPkiSign (requestOf codec config.externalPkiAlias names message) state).1 =
        some (.ok text) ∧ codec.decode text.toByteArray = some bytes ∧ bytes.length ≤ 8192
  · obtain ⟨text, bytes, htext, hdecode, hfits⟩ := hgranted
    have hreturn := externalSign_granted hforwards hpki hnames (List.replicate 8192 0) htext hdecode
      (by rw [List.length_replicate]; exact hfits)
    have hanswer : signatureIn codec (some (.ok text)) =
        if 0 < bytes.length ∧ bytes.length ≤ 8192 then some bytes else none := by
      simp only [signatureIn, hdecode, Option.filter_some, decide_eq_true_eq]
    rw [← hinstalled] at hreturn
    rw [sign_returned hreturn, htext, hanswer]
    by_cases hempty : bytes.length = 0
    · rw [if_neg (by omega), if_neg (by omega)]
      rfl
    · rw [if_pos (by omega), if_pos (by omega), Int.toNat_natCast, List.take_left]
      rfl
  · have hreturn := externalSign_refused hforwards hpki hnames (List.replicate 8192 0)
      fun text bytes htext hdecode => by
        by_contra hfits
        rw [List.length_replicate] at hfits
        exact hgranted ⟨text, bytes, htext, hdecode, by omega⟩
    have hanswer : signatureIn codec
        (handler.externalPkiSign (requestOf codec config.externalPkiAlias names message) state).1 = none := by
      refine Option.eq_none_iff_forall_ne_some.mpr fun bytes hbytes => ?_
      obtain ⟨text, htext, hdecode, hfits⟩ := signatureIn_eq_some hbytes
      exact hgranted ⟨text, bytes, htext, hdecode, hfits⟩
    rw [← hinstalled] at hreturn
    rw [sign_returned hreturn, hanswer, if_neg (by omega)]
    rfl

theorem sign_valid (hforwards : Forwards (bridge library (callbackTable handler)) pki)
    {configs : Nat → Option (Config σ)} {context : Nat} {config : Config σ}
    (hconfig : configs context = some config) (hpki : config.externalPki = some pki)
    {scheme : SignatureScheme} {names : SchemeNames} (hnames : schemeNames (code scheme) = some names)
    {valid : UInt16 → List UInt8 → List UInt8 → Prop} (hhonest : Honest codec handler valid)
    {message signature : List UInt8} {state : σ}
    (hsigned : (sign ⟨context, some (installed codec configs), scheme⟩ message state).1 = .ok signature) :
    valid (code scheme) message signature := by
  rw [sign_outcome hforwards hconfig hpki hnames] at hsigned
  cases hsignature : signatureIn codec
      (handler.externalPkiSign (requestOf codec config.externalPkiAlias names message) state).1 with
  | none =>
      rw [hsignature] at hsigned
      cases hsigned
  | some bytes =>
      rw [hsignature] at hsigned
      obtain rfl : bytes = signature := Except.ok.inj hsigned
      obtain ⟨text, htext, hdecode, -⟩ := signatureIn_eq_some hsignature
      have hdata := requestOf_data codec config.externalPkiAlias names message
      exact hhonest _ state text _ message bytes htext hnames hdata hdecode

end Chain

-- The key of a handshake signs with a scheme that the server offered and that fits the key; the application
-- is asked for that scheme and that message, its signature is what the handshake gets, and there is no other.
theorem signatures_from_application (codec : Codec) (library : Callbacks.Core.Library τ) (handler : EventHandler σ)
    {pki : ExternalPKIBase σ} (hforwards : Forwards (bridge library (callbackTable handler)) pki)
    {configs : Nat → Option (Config σ)} {context : Nat} {config : Config σ}
    (hconfig : configs context = some config) (hpki : config.externalPki = some pki)
    (algorithm : SignatureAlgorithm) (offered : List SignatureScheme)
    {signer : ExternalSigner (Option (SignFn σ))}
    (hchosen : ExternalSigningKey.chooseScheme ⟨context, some (installed codec configs), algorithm⟩ offered =
      some signer) :
    signer.scheme ∈ offered ∧ signer.scheme.algorithm = some algorithm ∧
      ∃ names, schemeNames (code signer.scheme) = some names ∧
        (∀ other, schemeNames other = some names → other = code signer.scheme) ∧
        ∀ message state,
          codec.decode (requestOf codec config.externalPkiAlias names message).data.toByteArray = some message ∧
          (sign signer message state).1 =
            outcome (signatureIn codec
              (handler.externalPkiSign (requestOf codec config.externalPkiAlias names message) state).1) ∧
          ∀ valid, Honest codec handler valid → ∀ signature, (sign signer message state).1 = .ok signature →
            valid (code signer.scheme) message signature := by
  obtain ⟨hoffered, hpreferred⟩ := chooseScheme_some hchosen
  obtain ⟨halgorithm, -⟩ := mem_preferredSchemes.mp hpreferred
  obtain ⟨names, hnames⟩ := schemeNames_preferred hpreferred
  obtain ⟨scheme, -, rfl⟩ := Option.map_eq_some_iff.mp hchosen
  refine ⟨hoffered, halgorithm, names, hnames, fun other hother => schemeNames_inj hother hnames, ?_⟩
  intro message state
  refine ⟨requestOf_data codec config.externalPkiAlias names message,
    sign_outcome hforwards hconfig hpki hnames message state, ?_⟩
  intro valid hhonest signature hsigned
  exact sign_valid hforwards hconfig hpki hnames hhonest hsigned

section Sample

-- The codec of the PEM texts over the bytes of a std::string.
def ofBase64 (codec : Base64Codec) : Codec where
  encode bytes := (String.ofList (codec.encode bytes)).toByteArray
  decode text := (String.fromUTF8? text).bind fun text => codec.decode text.toList
  decode_encode := fun bytes => by
    have hvalid : (String.ofList (codec.encode bytes)).toByteArray.IsValidUTF8 :=
      (String.ofList (codec.encode bytes)).isValidUTF8
    have hread : String.fromUTF8? (String.ofList (codec.encode bytes)).toByteArray =
        some (String.ofList (codec.encode bytes)) := by
      rw [String.fromUTF8?, dif_pos hvalid]
      rfl
    rw [hread, Option.bind_some, String.toList_ofList]
    exact codec.decode_encode bytes
  valid := fun bytes => (String.ofList (codec.encode bytes)).isValidUTF8

def base64 : Codec := ofBase64 standardCodec

-- Core's client without the events that it reports of an error.
def forwarding (client : Server Call (Call.Answer τ) σ) : ExternalPKIBase σ where
  sign := fun pkiAlias data algorithm hashalg saltlen state =>
    let answered :=
      client (.SignRequest ⟨pkiAlias, data, algorithm, hashalg, saltlen, false, false, .empty, .empty⟩) state
    (some (!answered.1.error, answered.1.sig), answered.2)

theorem forwards_forwarding (client : Server Call (Call.Answer τ) σ) : Forwards client (forwarding client) where
  granted := fun hclient herror => by simp only [forwarding, hclient, herror, Bool.not_false]
  refused := fun hclient herror =>
    ⟨_, _, by simp only [forwarding, hclient, herror, Bool.not_true]; rfl⟩

-- A token that counts its signatures, each of one byte.
def token : EventHandler Nat :=
  { EventHandler.defaults with externalPkiSign := fun _ count => (some (.ok "Bw=="), count + 1) }

def tokenLibrary : Callbacks.Core.Library Unit := ⟨false, fun _ => none, fun _ => none, 0⟩

def tokenConfig : Config Nat where
  externalPki := some (forwarding (bridge tokenLibrary (callbackTable token)))
  externalPkiAlias := "token".toByteArray

def tokenConfigs (address : Nat) : Option (Config Nat) := if address = 1 then some tokenConfig else none

def tokenSigner : ExternalSigner (Option (SignFn Nat)) :=
  ⟨1, some (installed base64 tokenConfigs), .ECDSA_NISTP384_SHA384⟩

theorem signatures_from_application_token : (sign tokenSigner [1, 2, 3] 0).1 = .ok [7] := by
  have hchosen : ExternalSigningKey.chooseScheme ⟨1, some (installed base64 tokenConfigs), .ECDSA⟩
      [.RSA_PSS_SHA256, .ECDSA_NISTP384_SHA384] = some tokenSigner := rfl
  have hconfig : tokenConfigs 1 = some tokenConfig := rfl
  have hdecode : base64.decode "Bw==".toByteArray = some [7] := base64.decode_encode [7]
  obtain ⟨-, -, names, -, -, hsigns⟩ := signatures_from_application base64 tokenLibrary token
    (forwards_forwarding _) hconfig rfl .ECDSA _ hchosen
  rw [(hsigns [1, 2, 3] 0).2.1]
  have hanswer : ∀ request, (token.externalPkiSign request 0).1 = some (.ok "Bw==") := fun _ => rfl
  rw [hanswer]
  simp only [signatureIn, hdecode]
  rfl

end Sample

end OpenvpnConnect.Tls.Signing
