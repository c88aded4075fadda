import OpenvpnConnect.Tls.Context
import OpenvpnConnect.Tls.Demands

-- What a profile asks of a TLS session, and that every session keeps it.
namespace OpenvpnConnect.Tls

open Text

section Provider

-- The names under which tls-groups finds a group.
def NamedGroup.names : NamedGroup → List Str
  | .X25519 => ["X25519".toList]
  | .Secp256r1 => ["SECP256R1".toList, "PRIME256V1".toList, "P_256".toList]
  | .Secp384r1 => ["SECP384R1".toList, "P_384".toList]

theorem any_group_matches (group : NamedGroup) (value : Str) :
    (selectorNames value).any (keyExchangeGroupMatches group) = true ↔ ∃ name ∈ group.names, lists value name := by
  have hnames : ∀ name, keyExchangeGroupMatches group name = true ↔ name ∈ group.names := by
    intro name
    cases group with
    | X25519 => simp [keyExchangeGroupMatches, NamedGroup.names]
    | Secp256r1 => simp [keyExchangeGroupMatches, NamedGroup.names, or_assoc]
    | Secp384r1 => simp [keyExchangeGroupMatches, NamedGroup.names]
  have hfound : ∀ name ∈ group.names, name ∈ selectorNames value ↔ lists value name := by
    intro name hname
    apply mem_selectorNames
    · revert name
      cases group <;> decide
    · revert name
      cases group <;> decide
  simp only [List.any_eq_true, hnames]
  constructor
  · rintro ⟨name, hmem, hname⟩
    exact ⟨name, hname, (hfound name hname).mp hmem⟩
  · rintro ⟨name, hname, hlists⟩
    exact ⟨name, (hfound name hname).mpr hlists, hname⟩

-- The suites and groups that are left are those that the three lists ask for.
theorem configureProvider_ok {provider after : CryptoProvider} {tls12 tls13 groups : Str}
    (hok : configureProvider provider tls12 tls13 groups = .ok after) :
    (∀ suite ∈ after.cipherSuites, suite ∈ provider.cipherSuites ∧ kept tls12 tls13 suite = true) ∧
      ∀ group ∈ after.kxGroups, group ∈ provider.kxGroups ∧
        (unrestricted groups = true ∨ ∃ name ∈ group.names, lists groups name) := by
  simp only [configureProvider, retain_kept] at hok
  have hsuites : ∀ suite ∈ provider.cipherSuites.filter (kept tls12 tls13),
      suite ∈ provider.cipherSuites ∧ kept tls12 tls13 suite = true := fun suite => List.mem_filter.mp
  cases hempty : (provider.cipherSuites.filter (kept tls12 tls13)).isEmpty with
  | true =>
      rw [hempty] at hok
      cases hok
  | false =>
      rw [hempty] at hok
      cases hgroups : restricts (selectorNames groups) with
      | false =>
          rw [hgroups] at hok
          obtain rfl := Except.ok.inj hok
          rw [restricts_selectorNames, Bool.not_eq_false'] at hgroups
          exact ⟨hsuites, fun group hmem => ⟨hmem, .inl hgroups⟩⟩
      | true =>
          rw [hgroups] at hok
          cases hnone : (provider.kxGroups.filter fun group =>
              (selectorNames groups).any (keyExchangeGroupMatches group)).isEmpty with
          | true =>
              simp only [hnone] at hok
              cases hok
          | false =>
              simp only [hnone] at hok
              obtain rfl := Except.ok.inj hok
              refine ⟨hsuites, fun group hmem => ?_⟩
              obtain ⟨hgroup, hmatches⟩ := List.mem_filter.mp hmem
              exact ⟨hgroup, .inr ((any_group_matches group groups).mp hmatches)⟩

end Provider

namespace Setup

open Native Signing Throwing

-- The number of a version in OpenVPN's enumeration.
def number : ProtocolVersion → UInt32
  | .TLSv1_2 => TLS_VERSION_1_2
  | .TLSv1_3 => TLS_VERSION_1_3

-- The versions between two bounds, of which 0 is none.
def Permitted (minimum maximum : UInt32) (version : ProtocolVersion) : Prop :=
  (minimum = 0 ∨ minimum ≤ number version) ∧ (maximum = 0 ∨ number version ≤ maximum)

instance decidablePermitted (minimum maximum : UInt32) (version : ProtocolVersion) :
    Decidable (Permitted minimum maximum version) :=
  inferInstanceAs (Decidable (_ ∧ _))

theorem lower_le {minimum bound : UInt32} (hbound : TLS_VERSION_1_2 ≤ bound) :
    (if minimum = 0 then TLS_VERSION_1_2 else max minimum TLS_VERSION_1_2) ≤ bound ↔
      minimum = 0 ∨ minimum ≤ bound := by
  by_cases hnone : minimum = 0
  · rw [if_pos hnone]
    exact ⟨fun _ => .inl hnone, fun _ => hbound⟩
  · rw [if_neg hnone, or_iff_right hnone]
    show (if minimum ≤ TLS_VERSION_1_2 then TLS_VERSION_1_2 else minimum) ≤ bound ↔ _
    by_cases hlow : minimum ≤ TLS_VERSION_1_2
    · rw [if_pos hlow]
      exact ⟨fun _ => UInt32.le_trans hlow hbound, fun _ => hbound⟩
    · rw [if_neg hlow]

theorem le_upper {maximum bound : UInt32} (hbound : bound ≤ TLS_VERSION_1_3) :
    (if maximum = 0 then TLS_VERSION_1_3 else maximum) ≥ bound ↔ maximum = 0 ∨ bound ≤ maximum := by
  by_cases hnone : maximum = 0
  · rw [if_pos hnone]
    exact ⟨fun _ => .inl hnone, fun _ => hbound⟩
  · rw [if_neg hnone, or_iff_right hnone]

theorem mem_protocolVersions {minimum maximum : UInt32} {versions : List ProtocolVersion}
    (hok : protocolVersions minimum maximum = .ok versions) (version : ProtocolVersion) :
    version ∈ versions ↔ Permitted minimum maximum version := by
  have hbounds : TLS_VERSION_1_2 ≤ TLS_VERSION_1_2 ∧ TLS_VERSION_1_2 ≤ TLS_VERSION_1_3 ∧
      TLS_VERSION_1_3 ≤ TLS_VERSION_1_3 := by decide
  simp only [protocolVersions, lower_le hbounds.1, lower_le hbounds.2.1, le_upper hbounds.2.1,
    le_upper hbounds.2.2] at hok
  have hversions :
      (if Permitted minimum maximum .TLSv1_3 then [ProtocolVersion.TLSv1_3] else []) ++
        (if Permitted minimum maximum .TLSv1_2 then [ProtocolVersion.TLSv1_2] else []) = versions := by
    change (if List.isEmpty ((if Permitted minimum maximum .TLSv1_3 then [ProtocolVersion.TLSv1_3] else []) ++
        (if Permitted minimum maximum .TLSv1_2 then [ProtocolVersion.TLSv1_2] else [])) = true
      then Except.error _ else Except.ok _) = _ at hok
    by_cases hempty : List.isEmpty
        ((if Permitted minimum maximum .TLSv1_3 then [ProtocolVersion.TLSv1_3] else []) ++
          (if Permitted minimum maximum .TLSv1_2 then [ProtocolVersion.TLSv1_2] else [])) = true
    · rw [if_pos hempty] at hok
      cases hok
    · rw [if_neg hempty] at hok
      exact Except.ok.inj hok
  rw [← hversions, List.mem_append]
  cases version with
  | TLSv1_2 =>
      have hother : ProtocolVersion.TLSv1_2 ∉ (if Permitted minimum maximum .TLSv1_3 then [.TLSv1_3] else []) := by
        split <;> simp
      rw [or_iff_right hother, List.mem_ite_nil_right]
      simp
  | TLSv1_3 =>
      have hother : ProtocolVersion.TLSv1_3 ∉ (if Permitted minimum maximum .TLSv1_2 then [.TLSv1_2] else []) := by
        split <;> simp
      rw [or_iff_left hother, List.mem_ite_nil_right]
      simp

section Sessions

variable {δ γ ρ κ ε τ σ φ : Type}

-- A handshake that rustls has completed.
structure Session (δ φ : Type) where
  version : ProtocolVersion
  cipherSuite : CipherSuite
  group : NamedGroup
  endEntity : δ
  intermediates : List δ
  serverNameSent : Bool
  clientAuth : ClientAuth δ φ

-- What rustls documents of its handshakes. A resumed one rests on an earlier verification.
structure Honours (libraries : Libraries δ γ ρ κ ε τ)
    (completes : ClientConfig δ ρ κ φ → Session δ φ → Prop) : Prop where
  version : ∀ {config session}, completes config session → session.version ∈ config.versions
  cipherSuite : ∀ {config session}, completes config session →
    session.cipherSuite ∈ config.provider.cipherSuites ∧ session.cipherSuite.version = session.version
  group : ∀ {config session}, completes config session → session.group ∈ config.provider.kxGroups
  verified : ∀ {config session}, completes config session → ∃ now,
    config.verifier.verifyServerCert libraries.webpki session.endEntity session.intermediates now = .ok ()
  serverName : ∀ {config session}, completes config session → config.enableSni = false →
    session.serverNameSent = false
  clientAuth : ∀ {config session}, completes config session →
    session.clientAuth = .NoClientAuth ∨ session.clientAuth = config.clientAuth

-- What a profile asks of its sessions.
structure Terms (ρ κ : Type) where
  verifies : Bool
  peerFingerprints : List Digest
  roots : List ρ
  crls : List κ
  demands : Demands
  tlsVersionMin : UInt32
  tlsVersionMax : UInt32
  tls12 : Str
  tls13 : Str
  groups : Str

-- The server's certificate is checked unless a flag says otherwise, and always where fingerprints are given.
def Verifying (opt : OptionList) (loadFlags : LoadFlags) (flags : UInt32) (peerFingerprints : CxxString) : Prop :=
  (flags &&& NO_VERIFY_PEER = 0 ∧
    ¬(loadFlags.allowClientCertNotRequired = true ∧ opt.present "client-cert-not-required" = true)) ∨
  flags &&& VERIFY_PEER_FINGERPRINT ≠ 0 ∨ peerFingerprints.isEmpty = false

-- What the names of a relay's options begin with.
def scope (loadFlags : LoadFlags) : String := if loadFlags.relayMode = true then "relay-" else ""

-- The authorities of the profile; a relay may have more of them.
def Authorities (opt : OptionList) (loadFlags : LoadFlags) (ca : CxxString) : Prop :=
  ∃ own, opt.cat "ca" = .ok own ∧
    (loadFlags.relayMode = false ∧ ca = own ∨
      loadFlags.relayMode = true ∧ ∃ extra, opt.cat "relay-extra-ca" = .ok extra ∧ ca = own ++ extra)

-- The check of a name that each type stands for; Core's reader refuses any other type.
inductive CheckType : CxxString → (Str → NameCheck) → Prop
  | Subject : CheckType "subject".toByteArray .Subject
  | Name : CheckType "name".toByteArray .CommonName
  | NamePrefix : CheckType "name-prefix".toByteArray .CommonNameStart
  | Other {type : CxxString} :
      type ∉ ["subject".toByteArray, "name".toByteArray, "name-prefix".toByteArray] →
      CheckType type fun _ => .Anything

-- What verify-x509-name asks: its first argument is the name, the second one the type.
inductive Checks (opt : OptionList) (option : String) : NameCheck → Prop
  | Unasked : opt.getPtr option = none → Checks opt option .Anything
  | Asked {verify : Directive} {value type : CxxString} {name : Str} {check : Str → NameCheck} :
      opt.getPtr option = some verify → verify.get 1 = .ok value → Spells value name →
      verify.getDefault 2 "subject".toByteArray = .ok type → CheckType type check →
      Checks opt option (check name)

-- The terms of a profile that is loaded into a configuration. The maximum version is the configuration's.
structure Asks (libraries : Libraries δ γ ρ κ ε τ) (core : Core) (opt : OptionList) (loadFlags : LoadFlags)
    (before : Config σ) (terms : Terms ρ κ) : Prop where
  peerFingerprints : ∃ value text, opt.cat "peer-fingerprint" = .ok value ∧ Spells value text ∧
    List.Forall₂ SpellsDigest (fingerprintLines text) terms.peerFingerprints ∧
    (terms.verifies = true ↔ Verifying opt loadFlags before.flags value)
  roots : ∃ ca, Authorities opt loadFlags ca ∧
    Holds libraries.pemCertificates libraries.trustAnchor (chosen ca before.ca).data.toList terms.roots
  crls : ∃ crl, opt.cat "crl-verify" = .ok crl ∧
    Holds libraries.pemCrls libraries.revocationList (chosen crl before.crl).data.toList terms.crls
  nsCertType : core.nsCertType opt (scope loadFlags) = .ok terms.demands.nsCertType
  usages : ∃ eku, Usages core opt (scope loadFlags) (before.ku, before.eku) terms.demands.keyUsages eku ∧
    Spells eku terms.demands.extendedKeyUsage
  tlsRemote : ∃ value, opt.getOptional (scope loadFlags ++ "tls-remote") = .ok value ∧
    Spells value terms.demands.tlsRemote
  verifyX509Name : Checks opt (scope loadFlags ++ "verify-x509-name") terms.demands.name
  tlsVersionMin :
    core.parseTlsVersionMin opt (scope loadFlags) (number .TLSv1_3) = .ok terms.tlsVersionMin
  tlsVersionMax : terms.tlsVersionMax = before.tlsVersionMax
  tls12 : ∃ value, Listed opt "tls-cipher" before.tlsCipherList value ∧ Spells value terms.tls12
  tls13 : ∃ value, Listed opt "tls-ciphersuites" before.tlsCiphersuiteList value ∧ Spells value terms.tls13
  groups : ∃ value, Listed opt "tls-groups" before.tlsGroups value ∧ Spells value terms.groups

-- The certificates that the client shows.
def Shows (libraries : Libraries δ γ ρ κ ε τ) (opt : OptionList) (chain : List δ) : Prop :=
  ∃ cert extraCerts first others, opt.get "cert" = .ok cert ∧ opt.cat "extra-certs" = .ok extraCerts ∧
    Holds libraries.pemCertificates .ok cert.data.toList first ∧
    Holds libraries.pemCertificates .ok extraCerts.data.toList others ∧ chain = first ++ others

-- The key of a PEM text, which may be an encrypted one.
def HoldsKey (readers : Loading.Readers) (text password key : List UInt8) : Prop :=
  ("BEGIN ENCRYPTED PRIVATE KEY".toByteArray.data.toList <:+: text ∧ ∃ pem document encrypted,
    String.fromUTF8? ⟨text.toArray⟩ = some pem ∧ Parses (readers.secretDocument pem) document ∧
    Parses (readers.encryptedKey document) encrypted ∧ Parses (readers.decrypt encrypted password) key) ∨
  (¬"BEGIN ENCRYPTED PRIVATE KEY".toByteArray.data.toList <:+: text ∧ Parses (readers.privateKey text) (some key))

-- Who the client says it is: nobody, or the one of the profile's certificate, with the key of the profile or of
-- the application.
inductive Identifies (libraries : Libraries δ γ ρ κ ε τ) (opt : OptionList) (before : Config σ) (address : Nat)
    (externalSign : φ) : ClientAuth δ φ → Prop
  | Nobody : Identifies libraries opt before address externalSign .NoClientAuth
  | External {leaf : δ} {issuers : List δ} {certificate : PublicKey} {algorithm : SignatureAlgorithm} :
      before.localCertEnabled = true → before.externalPki.isSome = true → Shows libraries opt (leaf :: issuers) →
      libraries.publicKey leaf = .ok certificate → Signs certificate algorithm →
      Identifies libraries opt before address externalSign
        (.External (leaf :: issuers) ⟨address, some externalSign, algorithm⟩)
  | Internal {chain : List δ} {text : CxxString} {key : List UInt8} :
      before.localCertEnabled = true → before.externalPki.isSome = false → Shows libraries opt chain →
      opt.get "key" = .ok text →
      HoldsKey libraries.readers text.data.toList before.privateKeyPassword.data.toList key →
      libraries.clientAuthCert chain key = .ok () →
      Identifies libraries opt before address externalSign (.Internal chain key)

-- A session that is as the terms ask for it.
structure Keeps (libraries : Libraries δ γ ρ κ ε τ) (terms : Terms ρ κ) (session : Session δ φ) : Prop where
  demands : ∃ certificate, libraries.parseX509Certificate session.endEntity = .ok certificate ∧
    terms.demands.Met certificate
  fingerprint : terms.verifies = true → terms.peerFingerprints ≠ [] →
    libraries.sha256 session.endEntity ∈ terms.peerFingerprints
  chain : terms.verifies = true → terms.peerFingerprints = [] → ∃ cert now,
    libraries.endEntityCert session.endEntity = .ok cert ∧
      libraries.verifyForUsage cert terms.roots session.intermediates now
        (if terms.crls.isEmpty then none else some terms.crls) = .ok ()
  version : Permitted terms.tlsVersionMin terms.tlsVersionMax session.version
  cipherSuite : session.cipherSuite.version = session.version ∧
    kept terms.tls12 terms.tls13 session.cipherSuite = true
  group : unrestricted terms.groups = true ∨ ∃ name ∈ session.group.names, lists terms.groups name
  serverName : session.serverNameSent = false

section Flags

theorem and_or_apart {value added mask : UInt32} (hapart : added &&& mask = 0) :
    (value ||| added) &&& mask = value &&& mask := by
  apply UInt32.toBitVec_inj.mp
  rw [UInt32.toBitVec_and, UInt32.toBitVec_or, BitVec.and_or_distrib_right, ← UInt32.toBitVec_and added, hapart]
  simp

theorem and_or_self (value mask : UInt32) : (value ||| mask) &&& mask = mask := by
  apply UInt32.toBitVec_inj.mp
  apply BitVec.eq_of_getLsbD_eq
  intro bit _
  simp only [UInt32.toBitVec_and, UInt32.toBitVec_or, BitVec.getLsbD_and, BitVec.getLsbD_or]
  cases value.toBitVec.getLsbD bit <;> cases mask.toBitVec.getLsbD bit <;> rfl

-- The flags of a profile that may do without a certificate of the server's.
def allowedFlags (opt : OptionList) (loadFlags : LoadFlags) (flags : UInt32) : UInt32 :=
  if loadFlags.allowClientCertNotRequired ∧ opt.present "client-cert-not-required" then flags ||| NO_VERIFY_PEER
  else flags

-- What becomes of the flags while a profile is loaded.
def loadedFlags (opt : OptionList) (loadFlags : LoadFlags) (flags : UInt32) (peerFingerprints : CxxString) :
    UInt32 :=
  if ¬peerFingerprints.isEmpty then allowedFlags opt loadFlags flags ||| VERIFY_PEER_FINGERPRINT
  else allowedFlags opt loadFlags flags

theorem spells_isEmpty {value : CxxString} {text : Str} (hspells : Spells value text) :
    value.isEmpty = true ↔ text = [] := by
  have hempty : Spells .empty [] := rfl
  show (value.size == 0) = true ↔ _
  rw [beq_iff_eq, ByteArray.size_eq_zero_iff]
  constructor
  · rintro rfl
    exact spells_inj hspells hempty
  · rintro rfl
    exact hspells.symm.trans hempty

-- The flags are those that the verifier's inputs have.
theorem loadedFlags_loadFlags (opt : OptionList) (loadFlags : LoadFlags) (flags : UInt32) {value : CxxString}
    {text : Str} (hspells : Spells value text) :
    loadedFlags opt loadFlags flags value = Tls.loadFlags (allowedFlags opt loadFlags flags) text := by
  unfold loadedFlags Tls.loadFlags
  simp only [spells_isEmpty hspells, ne_eq]

theorem verifying_loadFlags (opt : OptionList) (loadFlags : LoadFlags) (flags : UInt32) {value : CxxString}
    {text : Str} (hspells : Spells value text) :
    (Tls.loadFlags (allowedFlags opt loadFlags flags) text &&& NO_VERIFY_PEER = 0 ∨
      Tls.loadFlags (allowedFlags opt loadFlags flags) text &&& VERIFY_PEER_FINGERPRINT ≠ 0) ↔
      Verifying opt loadFlags flags value := by
  have hapart : NO_VERIFY_PEER &&& VERIFY_PEER_FINGERPRINT = 0 ∧ VERIFY_PEER_FINGERPRINT ≠ 0 ∧
      NO_VERIFY_PEER ≠ 0 := by decide
  have hempty := spells_isEmpty hspells
  rw [loadFlags_noVerifyPeer]
  unfold Tls.loadFlags allowedFlags Verifying
  by_cases hsome : text = []
  · rw [if_neg (not_not_intro hsome), hempty.mpr hsome]
    by_cases hallowed : loadFlags.allowClientCertNotRequired = true ∧ opt.present "client-cert-not-required" = true
    · simp [hallowed, and_or_self, and_or_apart hapart.1, hapart.2.2]
    · simp [hallowed]
  · rw [if_pos hsome, Bool.eq_false_iff.mpr (mt hempty.mp hsome)]
    simp [and_or_self, hapart.2.1]

end Flags

section Loaded

variable {core : Core} {backend : Loading.Backend} {opt : OptionList} {loadFlags : LoadFlags}
  {before after : Config σ}

-- What a load that succeeds leaves: the material and the checks of the profile, in a configuration for clients.
structure Loaded (core : Core) (opt : OptionList) (loadFlags : LoadFlags) (before after : Config σ) : Prop where
  ca : ∃ ca, caText opt loadFlags = .ok ca ∧ after.ca = chosen ca before.ca
  crl : ∃ crl, opt.cat "crl-verify" = .ok crl ∧ after.crl = chosen crl before.crl
  identity : before.localCertEnabled = true → opt.get "cert" = .ok after.cert ∧
    opt.cat "extra-certs" = .ok after.extraCerts ∧
    (before.externalPki.isNone = true → opt.get "key" = .ok after.privateKey)
  nsCertType : core.nsCertType opt loadFlags.relayPrefix = .ok after.nsCertType
  usages : Usages core opt loadFlags.relayPrefix (before.ku, before.eku) after.ku after.eku
  tlsRemote : opt.getOptional (loadFlags.relayPrefix ++ "tls-remote") = .ok after.tlsRemote
  verifyX509Name : Verifies core opt loadFlags.relayPrefix after.verifyX509NameMode after.verifyX509NameValue
  peerFingerprints : opt.cat "peer-fingerprint" = .ok after.peerFingerprints
  flags : after.flags = loadedFlags opt loadFlags before.flags after.peerFingerprints
  tlsVersionMin : core.parseTlsVersionMin opt loadFlags.relayPrefix V1_3 = .ok after.tlsVersionMin
  tlsVersionMax : after.tlsVersionMax = before.tlsVersionMax
  tls12 : Listed opt "tls-cipher" before.tlsCipherList after.tlsCipherList
  tls13 : Listed opt "tls-ciphersuites" before.tlsCiphersuiteList after.tlsCiphersuiteList
  groups : Listed opt "tls-groups" before.tlsGroups after.tlsGroups
  kept : after.localCertEnabled = before.localCertEnabled ∧ after.toKey = before.toKey ∧
    after.privateKeyPassword = before.privateKeyPassword

theorem load_returns (hreturns : Returns (load core backend opt loadFlags) before () after) :
    Loaded core opt loadFlags before after := by
  simp only [load, returns_bind] at hreturns
  obtain ⟨_, c₁, hmode, _, c₂, hsni, _, c₃, htrust, _, c₄, hidentity, _, c₅, hchecks, hlimits⟩ := hreturns
  have h₁ := loadMode_returns hmode
  obtain ⟨sniName, h₂⟩ := loadSni_returns hsni
  obtain ⟨ca, crl, hca, hcrl, h₃⟩ := loadTrust_returns htrust
  obtain ⟨cert, extraCerts, privateKey, hmaterial, h₄⟩ := loadIdentity_returns hidentity
  obtain ⟨nsCertType, ku, eku, tlsRemote, mode, value, peerFingerprints, hns, husages, hremote, hverifies,
    hfingerprints, h₅⟩ := loadChecks_returns hchecks
  obtain ⟨tlsVersionMin, tlsCertProfile, tlsCipherList, tlsCiphersuiteList, tlsGroups, hversion, hcipherList,
    hsuiteList, hgroupList, h₆⟩ := loadLimits_returns hlimits
  clear hmode hsni htrust hidentity hchecks hlimits
  subst h₁
  dsimp only at h₂
  subst h₂
  dsimp only at h₃
  subst h₃
  dsimp only at h₄ hmaterial
  subst h₄
  dsimp only at h₅ husages
  subst h₅
  dsimp only at h₆ hcipherList hsuiteList hgroupList
  subst h₆
  exact {
    ca := ⟨ca, hca, rfl⟩
    crl := ⟨crl, hcrl, rfl⟩
    identity := hmaterial
    nsCertType := hns
    usages := husages
    tlsRemote := hremote
    verifyX509Name := hverifies
    peerFingerprints := hfingerprints
    flags := rfl
    tlsVersionMin := hversion
    tlsVersionMax := rfl
    tls12 := hcipherList
    tls13 := hsuiteList
    groups := hgroupList
    kept := ⟨rfl, rfl, rfl⟩ }

end Loaded

section Kept

variable {libraries : Libraries δ γ ρ κ ε τ} {core : Core} {backend : Loading.Backend} {opt : OptionList}
  {loadFlags : LoadFlags} {before config : Config σ} {address : Nat} {externalSign : φ}
  {clientConfig : ClientConfig δ ρ κ φ}

theorem equals_iff {value : CxxString} {literal : String} :
    equals value literal = true ↔ value = literal.toByteArray := by
  unfold equals
  rw [beq_iff_eq]
  exact ⟨fun hdata => by rw [← ByteArray.mk.injEq] at hdata; exact hdata, fun h => by rw [h]⟩

-- The mode that is configured is that of the type.
theorem checkType_verifyMode (type : CxxString) : CheckType type (nameCheck (verifyMode type)) := by
  unfold verifyMode
  by_cases hsubject : equals type "subject" = true
  · rw [if_pos hsubject, equals_iff.mp hsubject]
    exact .Subject
  · rw [if_neg hsubject]
    by_cases hname : equals type "name" = true
    · rw [if_pos hname, equals_iff.mp hname]
      exact .Name
    · rw [if_neg hname]
      by_cases hstart : equals type "name-prefix" = true
      · rw [if_pos hstart, equals_iff.mp hstart]
        exact .NamePrefix
      · rw [if_neg hstart]
        apply CheckType.Other
        rw [equals_iff] at hsubject hname hstart
        simp [hsubject, hname, hstart]

theorem Verifies.checks {mode : UInt32} {value : CxxString} {name : Str}
    (hverifies : Verifies core opt loadFlags.relayPrefix mode value) (hspells : Spells value name) :
    Checks opt (scope loadFlags ++ "verify-x509-name") (nameCheck mode name) := by
  cases hverifies with
  | Nothing hnone => exact .Unasked hnone
  | Name hverify hvalue htype => exact .Asked hverify hvalue hspells htype (checkType_verifyMode _)

theorem caText_authorities {ca : CxxString} (hca : caText opt loadFlags = .ok ca) :
    Authorities opt loadFlags ca := by
  obtain ⟨own, hown, hrest⟩ := bind_eq_ok.mp hca
  refine ⟨own, hown, ?_⟩
  by_cases hrelay : loadFlags.relayMode = true
  · rw [if_pos hrelay] at hrest
    obtain ⟨extra, hextra, hboth⟩ := bind_eq_ok.mp hrest
    exact .inr ⟨hrelay, extra, hextra, (Except.ok.inj hboth).symm⟩
  · rw [if_neg hrelay] at hrest
    exact .inl ⟨Bool.eq_false_iff.mpr hrelay, (Except.ok.inj hrest).symm⟩

theorem parsePrivateKey_holdsKey {readers : Loading.Readers} {text password key : List UInt8}
    (hparses : Parses (Loading.parsePrivateKey readers text password) key) :
    HoldsKey readers text password key := by
  unfold Loading.parsePrivateKey at hparses
  by_cases hempty : text.isEmpty = true
  · rw [if_pos hempty] at hparses
    exact absurd hparses parses_throw
  · rw [if_neg hempty] at hparses
    by_cases hmarked : Loading.holds text "BEGIN ENCRYPTED PRIVATE KEY" = true
    · have hencrypted := of_decide_eq_true hmarked
      simp only [if_pos hmarked] at hparses
      cases hpem : String.fromUTF8? ⟨text.toArray⟩ with
      | none =>
          rw [hpem] at hparses
          exact absurd hparses parses_throw
      | some pem =>
          simp only [hpem, pure_bind, parses_bind] at hparses
          obtain ⟨document, hdocument, encrypted, hkey, hdecrypted⟩ := hparses
          exact .inl ⟨hencrypted, pem, document, encrypted, hpem, hdocument, hkey, parses_rethrow hdecrypted⟩
    · simp only [if_neg hmarked, parses_bind] at hparses
      have hplain := fun h => hmarked (decide_eq_true h)
      obtain ⟨found, hfound, hparses⟩ := hparses
      cases found with
      | none => exact absurd hparses parses_throw
      | some key =>
          obtain rfl := parses_pure.mp hparses
          exact .inr ⟨hplain, hfound⟩

theorem clientAuth_identifies (hloaded : Loaded core opt loadFlags before config)
    (hbuilt : Built libraries config address externalSign clientConfig) :
    Identifies libraries opt before address externalSign clientConfig.clientAuth := by
  have hauth := hbuilt.clientAuth
  obtain ⟨henabled, hkey, hpassword⟩ := hloaded.kept
  have hpki : config.externalPki = before.externalPki := congrArg Signing.Config.externalPki hkey
  rw [henabled, hpki, hpassword] at hauth
  unfold clientAuth at hauth
  by_cases hlocal : before.localCertEnabled = true
  · obtain ⟨hcert, hextra, hprivate⟩ := hloaded.identity hlocal
    have hnonzero : ¬((if before.localCertEnabled then 1 else 0 : Int32) = 0) := by
      rw [if_pos hlocal]
      decide
    rw [if_neg hnonzero] at hauth
    simp only [parses_bind, parses_lift] at hauth
    obtain ⟨first, hfirst, others, hothers, hauth⟩ := hauth
    have hshows : Shows libraries opt (first ++ others) :=
      ⟨_, _, first, others, hcert, hextra, parseCertificates_holds hfirst, parseCertificates_holds hothers, rfl⟩
    cases hchain : first ++ others with
    | nil =>
        rw [hchain] at hauth
        exact absurd hauth parses_throw
    | cons leaf issuers =>
        rw [hchain] at hauth hshows
        by_cases hexternal : before.externalPki.isSome = true
        · rw [if_pos hexternal] at hauth
          simp only [Option.isSome_some, if_true, parses_bind, parses_lift, parses_pure, configNewKey, bind_eq_ok]
            at hauth
          obtain ⟨certificate, hcertificate, key, ⟨algorithm, halgorithm, hkey⟩, hauth⟩ := hauth
          obtain rfl := Except.ok.inj hkey
          rw [← hauth]
          exact .External hlocal hexternal hshows hcertificate (certificateSignatureAlgorithm_iff.mp halgorithm)
        · rw [if_neg hexternal] at hauth
          have hinternal : before.externalPki.isSome = false := Bool.eq_false_iff.mpr hexternal
          simp only [Option.isSome_none, Bool.false_eq_true, if_false, parses_bind, parses_lift, parses_pure,
            mapErr_ok] at hauth
          obtain ⟨key, hparses, _, hpair, hauth⟩ := hauth
          rw [← hauth]
          exact .Internal hlocal hinternal hshows (hprivate (by simpa using hinternal))
            (parsePrivateKey_holdsKey hparses) hpair
  · have hzero : (if before.localCertEnabled then 1 else 0 : Int32) = 0 := if_neg hlocal
    rw [if_pos hzero, parses_pure] at hauth
    rw [← hauth]
    exact .Nobody

-- The terms that a rustls configuration has been made with.
def ClientConfig.terms (clientConfig : ClientConfig δ ρ κ φ) (config : Config σ) (tls12 tls13 groups : Str) :
    Terms ρ κ where
  verifies := clientConfig.verifier.verifyChain
  peerFingerprints := clientConfig.verifier.peerFingerprints
  roots := clientConfig.verifier.roots
  crls := clientConfig.verifier.crls
  demands := clientConfig.verifier.policy.demands
  tlsVersionMin := config.tlsVersionMin
  tlsVersionMax := config.tlsVersionMax
  tls12 := tls12
  tls13 := tls13
  groups := groups

theorem terms_asked (hloaded : Loaded core opt loadFlags before config)
    (hbuilt : Built libraries config address externalSign clientConfig) {tls12 tls13 groups : Str}
    (htls12 : Spells config.tlsCipherList tls12) (htls13 : Spells config.tlsCiphersuiteList tls13)
    (hgroups : Spells config.tlsGroups groups) :
    Asks libraries core opt loadFlags before (clientConfig.terms config tls12 tls13 groups) := by
  obtain ⟨inputs, hwrites, hnew⟩ := hbuilt.verifier
  have hmakes := configNewVerifier_makes hnew
  obtain ⟨keyUsages, hkeyUsages, hpolicy⟩ := bind_eq_ok.mp hmakes.policy
  rw [hwrites.keyUsageSelector, parseKeyUsages_joinKeyUsages] at hkeyUsages
  obtain rfl := Except.ok.inj hkeyUsages
  replace hpolicy := Except.ok.inj hpolicy
  obtain ⟨ca, hca, hchosen⟩ := hloaded.ca
  obtain ⟨crl, hcrl, hlist⟩ := hloaded.crl
  have hroots := rootStore_holds hmakes.roots
  have hcrls := revocationLists_holds hmakes.crls
  rw [hwrites.ca, hchosen] at hroots
  rw [hwrites.crl, hlist] at hcrls
  have hverifies : clientConfig.verifier.verifyChain = true ↔
      Verifying opt loadFlags before.flags config.peerFingerprints := by
    rw [hmakes.verifyChain, hwrites.flags, hloaded.flags, loadedFlags_loadFlags _ _ _ hwrites.peerFingerprints]
    exact verifying_loadFlags opt loadFlags before.flags hwrites.peerFingerprints
  unfold ClientConfig.terms
  rw [← hpolicy]
  exact {
    peerFingerprints := ⟨_, _, hloaded.peerFingerprints, hwrites.peerFingerprints,
      parseFingerprints_eq_ok.mp hmakes.peerFingerprints, hverifies⟩
    roots := ⟨ca, caText_authorities hca, hroots⟩
    crls := ⟨crl, hcrl, hcrls⟩
    nsCertType := hloaded.nsCertType.trans (congrArg Except.ok hwrites.nsCertType.symm)
    usages := ⟨config.eku, hloaded.usages, hwrites.extendedUsageSelector⟩
    tlsRemote := ⟨_, hloaded.tlsRemote, hwrites.tlsRemote⟩
    verifyX509Name := (hwrites.verifyX509NameMode ▸ hloaded.verifyX509Name).checks hwrites.verifyX509Name
    tlsVersionMin := hloaded.tlsVersionMin
    tlsVersionMax := hloaded.tlsVersionMax
    tls12 := ⟨_, hloaded.tls12, htls12⟩
    tls13 := ⟨_, hloaded.tls13, htls13⟩
    groups := ⟨_, hloaded.groups, hgroups⟩ }

-- Whatever else is asked of a certificate, the policy is.
theorem accepted_policy {webpki : WebPki δ γ ρ κ ε τ} {verifier : OpenVpnServerVerifier ρ κ} {endEntity : δ}
    {intermediates : List δ} {now : τ}
    (haccepted : verifier.verifyServerCert webpki endEntity intermediates now = .ok ()) :
    verifier.policy.verify webpki.parseX509Certificate endEntity = .ok () := by
  by_cases hchain : verifier.verifyChain = true
  · by_cases hlist : verifier.peerFingerprints = []
    · exact ((accepted_by_chain hchain hlist).mp haccepted).2
    · exact ((accepted_by_fingerprint hchain hlist).mp haccepted).2
  · unfold OpenVpnServerVerifier.verifyServerCert at haccepted
    rw [if_neg (fun h => hchain h.1), if_neg hchain] at haccepted
    exact haccepted

theorem session_keeps {completes : ClientConfig δ ρ κ φ → Session δ φ → Prop}
    (hhonours : Honours libraries completes)
    (hbuilt : Built libraries config address externalSign clientConfig) {tls12 tls13 groups : Str}
    (hprovider : configureProvider defaultProvider tls12 tls13 groups = .ok clientConfig.provider)
    {session : Session δ φ} (hcompletes : completes clientConfig session) :
    Keeps libraries (clientConfig.terms config tls12 tls13 groups) session := by
  obtain ⟨hsuites, hnamed⟩ := configureProvider_ok hprovider
  obtain ⟨hsuite, hversion⟩ := hhonours.cipherSuite hcompletes
  obtain ⟨now, haccepted⟩ := hhonours.verified hcompletes
  have hpolicy := accepted_policy haccepted
  exact {
    demands := verify_met hpolicy
    fingerprint := fun hverifies hlist => ((accepted_by_fingerprint hverifies hlist).mp haccepted).1
    chain := fun hverifies hlist => by
      obtain ⟨⟨cert, hcert, hverified⟩, _⟩ := (accepted_by_chain hverifies hlist).mp haccepted
      rw [revocation_eq] at hverified
      exact ⟨cert, now, hcert, hverified⟩
    version := (mem_protocolVersions hbuilt.versions session.version).mp (hhonours.version hcompletes)
    cipherSuite := ⟨hversion, (hsuites _ hsuite).2⟩
    group := (hnamed _ (hhonours.group hcompletes)).2
    serverName := hhonours.serverName hcompletes hbuilt.enableSni }

-- Every session of a context is as the profile asks for it: the server's certificate is the one of a fingerprint
-- or has a good chain, meets every check, and version, suite and group are among the allowed ones; and the client
-- shows the profile's certificate or none.
theorem profile_kept {completes : ClientConfig δ ρ κ φ → Session δ φ → Prop}
    (hhonours : Honours libraries completes)
    (hload : Returns (load core backend opt loadFlags) before () config)
    (hcontext : newContext (registered libraries) externalSign address config = .ok clientConfig) :
    ∃ terms, Asks libraries core opt loadFlags before terms ∧
      ∀ session, completes clientConfig session →
        Keeps libraries terms session ∧
          Identifies libraries opt before address externalSign session.clientAuth := by
  have hloaded := load_returns hload
  have hbuilt := newContext_built hcontext
  obtain ⟨tls12, tls13, groups, htls12, htls13, hgroups, hprovider⟩ := hbuilt.provider
  refine ⟨_, terms_asked hloaded hbuilt htls12 htls13 hgroups, fun session hcompletes => ⟨?_, ?_⟩⟩
  · exact session_keeps hhonours hbuilt hprovider hcompletes
  · rcases hhonours.clientAuth hcompletes with hnobody | hsame
    · rw [hnobody]
      exact .Nobody
    · rw [hsame]
      exact clientAuth_identifies hloaded hbuilt

end Kept

end Sessions

section Sample

-- The certificates of three bytes, each its own PEM text.
def sampleLibraries : Libraries (List UInt8) UInt8 UInt8 UInt8 (List UInt8) UInt8 :=
  { threeByteCertificates with
    readers := { Loading.sampleReaders with certs := fun value => pure [value] }
    withProtocolVersions := fun _ _ => .ok ()
    publicKey := fun _ => .ok .RSA
    clientAuthCert := fun _ _ => .ok () }

-- A profile with a CA, and nothing else.
def sampleOptions : OptionList where
  present name := name == "ca"
  cat name := .ok (if name = "ca" then ⟨caCertificate.toArray⟩ else .empty)
  get _ := .error "option not present".toByteArray
  getOptional _ := .ok .empty
  getPtr _ := none

-- Core's readers where no option is given.
def sampleCore : Core where
  nsCertType _ _ := .ok NS_CERT_NONE
  remoteCertTls _ _ := pure ()
  remoteCertKu _ _ := pure ()
  remoteCertEku _ _ := pure ()
  verifyX509Name _ _ := .ok ()
  parseTlsVersionMin _ _ _ := .ok 0
  parseTlsCertProfile _ _ := .ok 0

def sampleFlags : LoadFlags := ⟨false, false, false⟩

def sampleConfig : Config Unit :=
  { toMaterial := ⟨.empty, .empty, .empty, .empty, .empty, .empty, .empty⟩
    toKey := ⟨none, .empty⟩
    mode := .Client
    sniName := .empty
    flags := 0
    nsCertType := NS_CERT_NONE
    ku := []
    eku := .empty
    tlsRemote := .empty
    peerFingerprints := .empty
    verifyX509NameMode := VERIFY_X509_NONE
    verifyX509NameValue := .empty
    tlsVersionMin := 0
    tlsVersionMax := 0
    tlsCertProfile := 0
    tlsCipherList := .empty
    tlsCiphersuiteList := .empty
    tlsGroups := .empty
    localCertEnabled := false }

def sampleLoaded : Config Unit := { sampleConfig with ca := ⟨caCertificate.toArray⟩ }

def sampleContext : ClientConfig (List UInt8) UInt8 UInt8 Unit where
  provider := defaultProvider
  versions := [.TLSv1_3, .TLSv1_2]
  verifier := ⟨[1], [], [], true, ⟨NS_CERT_NONE, [], [], [], VERIFY_X509_NONE, []⟩⟩
  clientAuth := .NoClientAuth
  enableSni := false

-- Handshakes that are as rustls documents them.
def documented (config : ClientConfig (List UInt8) UInt8 UInt8 Unit) (session : Session (List UInt8) Unit) :
    Prop :=
  session.version ∈ config.versions ∧
    (session.cipherSuite ∈ config.provider.cipherSuites ∧ session.cipherSuite.version = session.version) ∧
    session.group ∈ config.provider.kxGroups ∧
    (∃ now, config.verifier.verifyServerCert sampleLibraries.webpki session.endEntity session.intermediates now =
      .ok ()) ∧
    (config.enableSni = false → session.serverNameSent = false) ∧
    (session.clientAuth = .NoClientAuth ∨ session.clientAuth = config.clientAuth)

theorem documented_honours : Honours sampleLibraries documented where
  version := fun h => h.1
  cipherSuite := fun h => h.2.1
  group := fun h => h.2.2.1
  verified := fun h => h.2.2.2.1
  serverName := fun h => h.2.2.2.2.1
  clientAuth := fun h => h.2.2.2.2.2

def sampleSession : Session (List UInt8) Unit where
  version := .TLSv1_3
  cipherSuite := .TLS13_AES_128_GCM_SHA256
  group := .X25519
  endEntity := serverCertificate
  intermediates := []
  serverNameSent := false
  clientAuth := .NoClientAuth

theorem profile_kept_server : ∃ terms : Terms UInt8 UInt8,
    Asks sampleLibraries sampleCore sampleOptions sampleFlags sampleConfig terms ∧
      Keeps sampleLibraries terms sampleSession := by
  have hload : Returns (load sampleCore (Loading.installed sampleLibraries.readers) sampleOptions sampleFlags)
      sampleConfig () sampleLoaded := by
    rfl
  have hcontext : newContext (registered sampleLibraries) () 1 sampleLoaded = .ok sampleContext := by
    rfl
  have hcompletes : documented sampleContext sampleSession := by
    refine ⟨by decide, ⟨by decide, rfl⟩, by decide, ⟨1, ?_⟩, fun _ => rfl, .inl rfl⟩
    rfl
  obtain ⟨terms, hasks, hkeeps⟩ := profile_kept documented_honours hload hcontext
  exact ⟨terms, hasks, (hkeeps sampleSession hcompletes).1⟩

end Sample

end Setup

end OpenvpnConnect.Tls
