import OpenvpnConnect.Tls.Setup

-- The context that C++ makes of a configuration, and Rust's side of it.
namespace OpenvpnConnect.Tls.Setup

open Native Text Signing Loading
open Throwing (Member)

-- What rustls, webpki and x509-parser do for config_new, beside the verifier.
structure Libraries (δ γ ρ κ ε τ : Type) extends webpki : WebPki δ γ ρ κ ε τ where
  readers : Readers
  withProtocolVersions : CryptoProvider → List ProtocolVersion → Except String Unit
  publicKey : δ → Except String PublicKey
  clientAuthCert : List δ → List UInt8 → Except String Unit

-- How the client proves who it is, if it does; `φ` is the type of the function that signs with an external key.
inductive ClientAuth (δ φ : Type)
  | NoClientAuth
  | External (chain : List δ) (key : ExternalSigningKey (Option φ))
  | Internal (chain : List δ) (key : List UInt8)

structure ClientConfig (δ ρ κ φ : Type) where
  provider : CryptoProvider
  versions : List ProtocolVersion
  verifier : OpenVpnServerVerifier ρ κ
  clientAuth : ClientAuth δ φ
  enableSni : Bool

-- The arguments of config_new.
structure Arguments (φ : Type) where
  ca : StringView
  crl : StringView
  cert : StringView
  extraCerts : StringView
  privateKey : StringView
  privateKeyPassword : StringView
  peerFingerprints : StringView
  nsCertType : UInt32
  keyUsageSelector : StringView
  extendedUsageSelector : StringView
  tlsRemote : StringView
  verifyX509NameMode : UInt32
  verifyX509Name : StringView
  tlsCipherList : StringView
  tlsCiphersuiteList : StringView
  tlsGroups : StringView
  tlsVersionMin : UInt32
  tlsVersionMax : UInt32
  flags : UInt32
  localCertEnabled : Int32
  externalSignContext : Nat
  externalSign : Option φ

def TLS_VERSION_1_2 : UInt32 := 3
def TLS_VERSION_1_3 : UInt32 := 4

def protocolVersions (minimum maximum : UInt32) : Except String (List ProtocolVersion) :=
  let minimum := if minimum = 0 then TLS_VERSION_1_2 else max minimum TLS_VERSION_1_2
  let maximum := if maximum = 0 then TLS_VERSION_1_3 else maximum
  let versions :=
    (if minimum ≤ TLS_VERSION_1_3 ∧ maximum ≥ TLS_VERSION_1_3 then [ProtocolVersion.TLSv1_3] else []) ++
      (if minimum ≤ TLS_VERSION_1_2 ∧ maximum ≥ TLS_VERSION_1_2 then [ProtocolVersion.TLSv1_2] else [])
  if versions.isEmpty then .error "rustls supports TLS 1.2 and TLS 1.3" else .ok versions

section ConfigNew

variable {δ γ ρ κ ε τ σ φ : Type}

def viewStr (readers : Readers) (value : StringView) : Parsed Str := do
  let bytes ← viewBytes value
  match String.fromUTF8? ⟨bytes.toArray⟩ with
  | some text => pure text.toList
  | none => throw (readers.utf8Error bytes)

-- The roots, without which a peer cannot be verified that has no fingerprint to match.
def trustedRoots (libraries : Libraries δ γ ρ κ ε τ) (flags : UInt32) (peerFingerprints : List Digest)
    (ca : List UInt8) : Except String (List ρ) := do
  let roots ← rootStore libraries.webpki ca
  if flags &&& NO_VERIFY_PEER = 0 ∧ peerFingerprints = [] ∧ roots.isEmpty then
    throw "CA certificate is required when peer verification is enabled"
  return roots

def clientAuth (libraries : Libraries δ γ ρ κ ε τ) (localCertEnabled : Int32) (externalSignContext : Nat)
    (externalSign : Option φ) (cert extraCerts privateKey password : List UInt8) :
    Parsed (ClientAuth δ φ) :=
  if localCertEnabled = 0 then pure .NoClientAuth
  else do
    let first ← Tls.parseCertificates libraries.webpki cert
    let others ← Tls.parseCertificates libraries.webpki extraCerts
    match first ++ others with
    | [] => throw "client certificate is required"
    | leaf :: issuers =>
        if externalSign.isSome then do
          let certificate ← libraries.publicKey leaf
          let key ← configNewKey certificate externalSignContext externalSign
          return .External (leaf :: issuers) key
        else do
          let key ← parsePrivateKey libraries.readers privateKey password
          mapErr "invalid client certificate/private key: " (libraries.clientAuthCert (leaf :: issuers) key)
          return .Internal (leaf :: issuers) key

def configNew (libraries : Libraries δ γ ρ κ ε τ) (arguments : Arguments φ) : Parsed (ClientConfig δ ρ κ φ) := do
  let tlsCipherList ← viewStr libraries.readers arguments.tlsCipherList
  let tlsCiphersuiteList ← viewStr libraries.readers arguments.tlsCiphersuiteList
  let tlsGroups ← viewStr libraries.readers arguments.tlsGroups
  let provider ← configureProvider defaultProvider tlsCipherList tlsCiphersuiteList tlsGroups
  let versions ← protocolVersions arguments.tlsVersionMin arguments.tlsVersionMax
  let ca ← viewBytes arguments.ca
  let crl ← viewBytes arguments.crl
  let cert ← viewBytes arguments.cert
  let extraCerts ← viewBytes arguments.extraCerts
  let privateKey ← viewBytes arguments.privateKey
  let password ← viewBytes arguments.privateKeyPassword
  let fingerprintText ← viewStr libraries.readers arguments.peerFingerprints
  let peerFingerprints ← parseFingerprints fingerprintText
  let keyUsageSelector ← viewStr libraries.readers arguments.keyUsageSelector
  let keyUsages ← parseKeyUsages keyUsageSelector
  let extendedKeyUsage ← viewStr libraries.readers arguments.extendedUsageSelector
  let tlsRemote ← viewStr libraries.readers arguments.tlsRemote
  let verifyX509Name ← viewStr libraries.readers arguments.verifyX509Name
  let policy : CertificatePolicy :=
    { nsCertType := arguments.nsCertType
      keyUsages, extendedKeyUsage, tlsRemote
      verifyX509NameMode := arguments.verifyX509NameMode
      verifyX509Name }
  policy.validate
  let roots ← trustedRoots libraries arguments.flags peerFingerprints ca
  let crls ← revocationLists libraries.webpki crl
  let verifier : OpenVpnServerVerifier ρ κ :=
    { roots, crls, peerFingerprints
      verifyChain := arguments.flags &&& NO_VERIFY_PEER = 0 ∨ arguments.flags &&& VERIFY_PEER_FINGERPRINT ≠ 0
      policy }
  libraries.withProtocolVersions provider versions
  let clientAuth ← clientAuth libraries arguments.localCertEnabled arguments.externalSignContext
    arguments.externalSign cert extraCerts privateKey password
  return { provider, versions, verifier, clientAuth, enableSni := false }

-- What the handle points to, where there is one, and the error buffer.
def ffiPointer {α : Type} (error : List UInt8) (function : Parsed α) : Option α × List UInt8 :=
  match function.run with
  | some (.ok value) => (some value, error)
  | some (.error message) => (none, writeError error message)
  | none => (none, writeError error "Rust TLS callback panicked")

end ConfigNew

section Context

variable {δ γ ρ κ ε τ σ φ : Type}

-- The callback table, with the constructors of Rust's objects.
structure Vtable (δ ρ κ φ : Type) extends Loading.Vtable where
  tlsConfigNew : Option (Arguments φ → List UInt8 → Option (ClientConfig δ ρ κ φ) × List UInt8)

-- The arguments that the constructor of a context passes; `address` is where its configuration is.
def Config.arguments (config : Config σ) (address : Nat) (externalSign : φ) (joined : CxxString) :
    Arguments φ where
  ca := viewOf config.ca
  crl := viewOf config.crl
  cert := viewOf config.cert
  extraCerts := viewOf config.extraCerts
  privateKey := viewOf config.privateKey
  privateKeyPassword := viewOf config.privateKeyPassword
  peerFingerprints := viewOf config.peerFingerprints
  nsCertType := config.nsCertType
  keyUsageSelector := viewOf joined
  extendedUsageSelector := viewOf config.eku
  tlsRemote := viewOf config.tlsRemote
  verifyX509NameMode := config.verifyX509NameMode
  verifyX509Name := viewOf config.verifyX509NameValue
  tlsCipherList := viewOf config.tlsCipherList
  tlsCiphersuiteList := viewOf config.tlsCiphersuiteList
  tlsGroups := viewOf config.tlsGroups
  tlsVersionMin := config.tlsVersionMin
  tlsVersionMax := config.tlsVersionMax
  flags := config.flags
  localCertEnabled := if config.localCertEnabled then 1 else 0
  externalSignContext := address
  externalSign := if config.externalPki.isSome then some externalSign else none

-- The constructor of RustTLSContext; the exception's text, where it throws.
def newContext (backend : Option (Vtable δ ρ κ φ)) (externalSign : φ) (address : Nat) (config : Config σ) :
    Except CxxString (ClientConfig δ ρ κ φ) :=
  if config.mode ≠ .Client then .error "Rust TLS context requires client mode".toByteArray
  else
    match backend with
    | none => .error "Rust crypto backend is not registered".toByteArray
    | some callbacks =>
        match callbacks.tlsConfigNew with
        | none => .error "Rust TLS configuration constructor is unavailable".toByteArray
        | some tlsConfigNew =>
            let remoteCertKu := (String.ofList (joinKeyUsages config.ku)).toByteArray
            match tlsConfigNew (config.arguments address externalSign remoteCertKu) (List.replicate 1024 0) with
            | (some handle, _) => .ok handle
            | (none, error) => .error ("Rust TLS configuration failed: ".toByteArray ++ errorText error)

-- The table that Rust registers.
def registered (libraries : Libraries δ γ ρ κ ε τ) : Option (Vtable δ ρ κ φ) :=
  some { tlsValidate := some (validate libraries.readers)
         tlsConfigNew := some fun arguments error => ffiPointer error (configNew libraries arguments) }

end Context

section Parses

variable {α β : Type}

-- A result of Rust that is neither an error nor a panic.
def Parses (parsed : Parsed α) (value : α) : Prop := parsed.run = some (.ok value)

theorem parses_pure {value result : α} : Parses (pure value) result ↔ value = result := by
  show (some (Except.ok value) : Option (Except String α)) = _ ↔ _
  rw [Option.some_inj, Except.ok.injEq]

theorem parses_bind {first : Parsed α} {next : α → Parsed β} {result : β} :
    Parses (first >>= next) result ↔ ∃ value, Parses first value ∧ Parses (next value) result := by
  unfold Parses
  rw [ExceptT.run_bind]
  match first.run with
  | none => exact ⟨nofun, fun ⟨_, hfirst, _⟩ => nomatch hfirst⟩
  | some (.error error) => exact ⟨nofun, fun ⟨_, hfirst, _⟩ => nomatch hfirst⟩
  | some (.ok value) =>
      constructor
      · intro hnext
        exact ⟨value, rfl, hnext⟩
      · rintro ⟨_, hfirst, hnext⟩
        obtain rfl : value = _ := by simpa using hfirst
        exact hnext

theorem parses_lift {result : Except String α} {value : α} :
    Parses (liftM result) value ↔ result = .ok value := by
  show (some result : Option (Except String α)) = _ ↔ _
  rw [Option.some_inj]

theorem parses_throw {error : String} {value : α} : ¬Parses (throw error) value := by
  intro hthrow
  cases hthrow

-- An error that is put in other words is still one.
theorem parses_rethrow {parsed : Parsed α} {context : String → String} {value : α}
    (hparses : Parses (tryCatch parsed fun error => throw (context error)) value) : Parses parsed value := by
  match parsed with
  | none => exact hparses
  | some (.error error) => cases hparses
  | some (.ok result) => exact hparses

end Parses

section Built

variable {δ γ ρ κ ε τ σ φ : Type}

-- The text of a std::string in UTF-8.
def Spells (value : CxxString) (text : Str) : Prop := (String.ofList text).toByteArray = value

theorem viewBytes_viewOf (value : CxxString) : viewBytes (viewOf value) = pure value.data.toList := by
  unfold viewBytes viewOf
  by_cases hempty : value.size = 0
  · rw [if_pos hempty, ByteArray.size_eq_zero_iff.mp hempty]
    rfl
  · have htake : value.data.toList.take value.size = value.data.toList := by
      apply List.take_of_length_le
      exact Nat.le_of_eq (Array.length_toList)
    simp only [if_neg hempty, htake]

theorem parses_viewStr {readers : Readers} {value : CxxString} {text : Str} :
    Parses (viewStr readers (viewOf value)) text ↔ Spells value text := by
  unfold viewStr
  rw [viewBytes_viewOf, pure_bind]
  have hsame : (⟨value.data.toList.toArray⟩ : ByteArray) = value := by rw [Array.toArray_toList]
  rw [hsame]
  by_cases hvalid : value.IsValidUTF8
  · rw [String.fromUTF8?, dif_pos hvalid]
    show Parses (pure (String.fromUTF8 value hvalid).toList) text ↔ _
    rw [parses_pure, Spells]
    constructor
    · rintro rfl
      rw [String.ofList_toList]
      rfl
    · rintro rfl
      have hread : String.fromUTF8 (String.ofList text).toByteArray hvalid = String.ofList text := rfl
      rw [hread, String.toList_ofList]
  · rw [String.fromUTF8?, dif_neg hvalid]
    constructor
    · exact fun hparses => absurd hparses parses_throw
    · rintro rfl
      exact absurd (String.ofList text).isValidUTF8 hvalid

theorem spells_inj {value : CxxString} {first second : Str} (hfirst : Spells value first)
    (hsecond : Spells value second) : first = second := by
  have hsame : String.ofList first = String.ofList second := String.toByteArray_inj.mp (hfirst.trans hsecond.symm)
  rw [← String.toList_ofList (l := first), hsame, String.toList_ofList]

-- The inputs of the verifier, as the texts of a configuration spell them.
structure Config.Writes (config : Config σ) (inputs : Inputs) : Prop where
  ca : inputs.ca = config.ca.data.toList
  crl : inputs.crl = config.crl.data.toList
  peerFingerprints : Spells config.peerFingerprints inputs.peerFingerprints
  nsCertType : inputs.nsCertType = config.nsCertType
  keyUsageSelector : inputs.keyUsageSelector = joinKeyUsages config.ku
  extendedUsageSelector : Spells config.eku inputs.extendedUsageSelector
  tlsRemote : Spells config.tlsRemote inputs.tlsRemote
  verifyX509NameMode : inputs.verifyX509NameMode = config.verifyX509NameMode
  verifyX509Name : Spells config.verifyX509NameValue inputs.verifyX509Name
  flags : inputs.flags = config.flags

-- What a rustls configuration has of the configuration that it is made of.
structure Built (libraries : Libraries δ γ ρ κ ε τ) (config : Config σ) (address : Nat) (externalSign : φ)
    (clientConfig : ClientConfig δ ρ κ φ) : Prop where
  provider : ∃ tls12 tls13 groups, Spells config.tlsCipherList tls12 ∧ Spells config.tlsCiphersuiteList tls13 ∧
    Spells config.tlsGroups groups ∧
    configureProvider defaultProvider tls12 tls13 groups = .ok clientConfig.provider
  versions : protocolVersions config.tlsVersionMin config.tlsVersionMax = .ok clientConfig.versions
  verifier : ∃ inputs, config.Writes inputs ∧
    configNewVerifier libraries.webpki inputs = .ok clientConfig.verifier
  clientAuth : Parses
    (clientAuth libraries (if config.localCertEnabled then 1 else 0) address
      (if config.externalPki.isSome then some externalSign else none) config.cert.data.toList
      config.extraCerts.data.toList config.privateKey.data.toList config.privateKeyPassword.data.toList)
    clientConfig.clientAuth
  enableSni : clientConfig.enableSni = false

-- The verifier of a configuration is the one that its inputs make.
theorem configNewVerifier_eq {libraries : Libraries δ γ ρ κ ε τ} {inputs : Inputs} {peerFingerprints : List Digest}
    {policy : CertificatePolicy} {roots : List ρ} {crls : List κ}
    (hfingerprints : parseFingerprints inputs.peerFingerprints = .ok peerFingerprints)
    (hpolicy : inputs.policy = .ok policy) (hvalid : policy.validate = .ok ())
    (hroots : trustedRoots libraries inputs.flags peerFingerprints inputs.ca = .ok roots)
    (hcrls : revocationLists libraries.webpki inputs.crl = .ok crls) :
    configNewVerifier libraries.webpki inputs = .ok
      { roots, crls, peerFingerprints
        verifyChain := inputs.flags &&& NO_VERIFY_PEER = 0 ∨ inputs.flags &&& VERIFY_PEER_FINGERPRINT ≠ 0
        policy } := by
  obtain ⟨found, hfound, hchecked⟩ := bind_eq_ok.mp hroots
  simp only [configNewVerifier, bind_eq_ok]
  refine ⟨_, hfingerprints, _, hpolicy, (), hvalid, found, hfound, ?_⟩
  split at hchecked
  · cases hchecked
  · rename_i htrusted
    obtain rfl := Except.ok.inj hchecked
    rw [if_neg htrusted]
    exact bind_eq_ok.mpr ⟨crls, hcrls, rfl⟩

theorem configNew_parses {libraries : Libraries δ γ ρ κ ε τ} {config : Config σ} {address : Nat}
    {externalSign : φ} {clientConfig : ClientConfig δ ρ κ φ}
    (hparses : Parses (configNew libraries (config.arguments address externalSign
      (String.ofList (joinKeyUsages config.ku)).toByteArray)) clientConfig) :
    Built libraries config address externalSign clientConfig := by
  simp only [configNew, Config.arguments, parses_bind, parses_viewStr, viewBytes_viewOf, parses_pure, parses_lift]
    at hparses
  obtain ⟨tls12, htls12, tls13, htls13, groups, hgroups, provider, hprovider, versions, hversions, _, rfl, _, rfl,
    _, rfl, _, rfl, _, rfl, _, rfl, fingerprintText, hfingerprintText, peerFingerprints, hfingerprints, usageText,
    husageText, usages, husages, eku, heku, tlsRemote, hremote, name, hname, _, hvalid, roots, hroots, crls, hcrls,
    _, _, auth, hauth, rfl⟩ := hparses
  obtain rfl := spells_inj husageText rfl
  let inputs : Inputs :=
    { ca := config.ca.data.toList
      crl := config.crl.data.toList
      peerFingerprints := fingerprintText
      nsCertType := config.nsCertType
      keyUsageSelector := joinKeyUsages config.ku
      extendedUsageSelector := eku
      tlsRemote
      verifyX509NameMode := config.verifyX509NameMode
      verifyX509Name := name
      flags := config.flags }
  have hwrites : config.Writes inputs := ⟨rfl, rfl, hfingerprintText, rfl, rfl, heku, hremote, rfl, hname, rfl⟩
  have hpolicy : inputs.policy = .ok _ := bind_eq_ok.mpr ⟨usages, husages, rfl⟩
  exact {
    provider := ⟨tls12, tls13, groups, htls12, htls13, hgroups, hprovider⟩
    versions := hversions
    verifier := ⟨inputs, hwrites, configNewVerifier_eq hfingerprints hpolicy hvalid hroots hcrls⟩
    clientAuth := hauth
    enableSni := rfl }

theorem ffiPointer_parses {α : Type} {error : List UInt8} {function : Parsed α} {value : α}
    (hpointer : (ffiPointer error function).1 = some value) : Parses function value := by
  unfold ffiPointer at hpointer
  unfold Parses
  match hrun : function.run with
  | some (.ok result) =>
      rw [hrun] at hpointer
      rw [Option.some.inj hpointer]
  | some (.error message) =>
      rw [hrun] at hpointer
      cases hpointer
  | none =>
      rw [hrun] at hpointer
      cases hpointer

theorem newContext_built {libraries : Libraries δ γ ρ κ ε τ} {config : Config σ} {address : Nat}
    {externalSign : φ} {clientConfig : ClientConfig δ ρ κ φ}
    (hnew : newContext (registered libraries) externalSign address config = .ok clientConfig) :
    Built libraries config address externalSign clientConfig := by
  unfold newContext at hnew
  by_cases hclient : config.mode = .Client
  · rw [if_neg (not_not_intro hclient)] at hnew
    dsimp only [registered] at hnew
    match hpointer : ffiPointer (List.replicate 1024 0) (configNew libraries (config.arguments address externalSign
        (String.ofList (joinKeyUsages config.ku)).toByteArray)) with
    | (some handle, error) =>
        rw [hpointer] at hnew
        obtain rfl := Except.ok.inj hnew
        exact configNew_parses (ffiPointer_parses (congrArg Prod.fst hpointer))
    | (none, error) =>
        rw [hpointer] at hnew
        cases hnew
  · rw [if_pos hclient] at hnew
    cases hnew

end Built

end OpenvpnConnect.Tls.Setup
