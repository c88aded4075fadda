import OpenvpnConnect.Throwing
import OpenvpnConnect.Tls.KeyUsages
import OpenvpnConnect.Tls.Loading
import OpenvpnConnect.Tls.Signing
import OpenvpnConnect.Tls.Suites

-- The TLS configuration of a profile, and the rustls configuration that a context makes of it.
namespace OpenvpnConnect.Tls.Setup

open Native Throwing Text Signing

inductive Mode
  | Client
  | Server
deriving DecidableEq, Repr

-- One option of a profile, by the number of its argument.
structure Directive where
  get : Nat → Except CxxString CxxString
  getDefault : Nat → CxxString → Except CxxString CxxString

-- The options of a profile. Core's readers throw for an option that is not of the form that they expect.
structure OptionList where
  present : String → Bool
  cat : String → Except CxxString CxxString
  get : String → Except CxxString CxxString
  getOptional : String → Except CxxString CxxString
  getPtr : String → Option Directive

-- Core's readers of single options; the first argument that follows the options is the prefix of their names.
structure Core where
  nsCertType : OptionList → String → Except CxxString UInt32
  remoteCertTls : OptionList → String → Member CxxString (List UInt32 × CxxString) Unit
  remoteCertKu : OptionList → String → Member CxxString (List UInt32) Unit
  remoteCertEku : OptionList → String → Member CxxString CxxString Unit
  verifyX509Name : OptionList → String → Except CxxString Unit
  parseTlsVersionMin : OptionList → String → UInt32 → Except CxxString UInt32
  parseTlsCertProfile : OptionList → String → Except CxxString UInt32

structure LoadFlags where
  parseMode : Bool
  allowClientCertNotRequired : Bool
  relayMode : Bool
deriving DecidableEq, Repr

structure Config (σ : Type) extends toMaterial : Loading.Config, toKey : Signing.Config σ where
  mode : Mode
  sniName : CxxString
  flags : UInt32
  nsCertType : UInt32
  ku : List UInt32
  eku : CxxString
  tlsRemote : CxxString
  peerFingerprints : CxxString
  verifyX509NameMode : UInt32
  verifyX509NameValue : CxxString
  tlsVersionMin : UInt32
  tlsVersionMax : UInt32
  tlsCertProfile : UInt32
  tlsCipherList : CxxString
  tlsCiphersuiteList : CxxString
  tlsGroups : CxxString
  localCertEnabled : Bool

section Load

variable {σ : Type}

-- A loader of the material, as a member of the whole configuration.
def loader (member : Loading.Member) : Member CxxString (Config σ) Unit :=
  part Config.toMaterial (fun loaded config => { config with toMaterial := loaded }) member

def LoadFlags.relayPrefix (loadFlags : LoadFlags) : String := if loadFlags.relayMode then "relay-" else ""

def loadMode (opt : OptionList) (loadFlags : LoadFlags) : Member CxxString (Config σ) Unit := do
  whenever loadFlags.parseMode
    (update fun config => { config with mode := if opt.present "client" then .Client else .Server })
  let config ← look
  whenever (config.mode ≠ .Client) (raise "Rust TLS backend currently supports OpenVPN client mode".toByteArray)
  whenever (loadFlags.allowClientCertNotRequired ∧ opt.present "client-cert-not-required")
    (update fun config => { config with flags := config.flags ||| NO_VERIFY_PEER })

def loadSni (opt : OptionList) : Member CxxString (Config σ) Unit := do
  let configuredSni ← call (opt.getOptional "sni")
  whenever (¬configuredSni.isEmpty) (update fun config => { config with sniName := configuredSni })

def caText (opt : OptionList) (loadFlags : LoadFlags) : Except CxxString CxxString := do
  let text ← opt.cat "ca"
  if loadFlags.relayMode then
    return text ++ (← opt.cat "relay-extra-ca")
  return text

def loadTrust (backend : Loading.Backend) (opt : OptionList) (loadFlags : LoadFlags) :
    Member CxxString (Config σ) Unit := do
  let caText ← call (caText opt loadFlags)
  whenever (¬caText.isEmpty) (loader (Loading.loadCa backend caText))
  let crlText ← call (opt.cat "crl-verify")
  whenever (¬crlText.isEmpty) (loader (Loading.loadCrl backend crlText))

def loadIdentity (backend : Loading.Backend) (opt : OptionList) : Member CxxString (Config σ) Unit := do
  let config ← look
  whenever config.localCertEnabled do
    let certText ← call (opt.get "cert")
    let extraText ← call (opt.cat "extra-certs")
    loader (Loading.loadCertExtra backend certText extraText)
    whenever config.externalPki.isNone do
      let keyText ← call (opt.get "key")
      loader (Loading.loadPrivateKey backend keyText)

-- A std::string against a literal.
def equals (value : CxxString) (literal : String) : Bool := value.data == literal.toByteArray.data

def verifyMode (type : CxxString) : UInt32 :=
  if equals type "subject" then VERIFY_X509_SUBJECT_DN
  else if equals type "name" then VERIFY_X509_SUBJECT_RDN
  else if equals type "name-prefix" then VERIFY_X509_SUBJECT_RDN_PREFIX
  else VERIFY_X509_NONE

def loadVerifyX509Name (core : Core) (opt : OptionList) (relayPrefix : String) :
    Member CxxString (Config σ) Unit := do
  call (core.verifyX509Name opt relayPrefix)
  update fun config => { config with verifyX509NameMode := VERIFY_X509_NONE, verifyX509NameValue := .empty }
  match opt.getPtr (relayPrefix ++ "verify-x509-name") with
  | none => pure ()
  | some verify => do
      let value ← call (verify.get 1)
      update fun config => { config with verifyX509NameValue := value }
      let type ← call (verify.getDefault 2 "subject".toByteArray)
      update fun config => { config with verifyX509NameMode := verifyMode type }

def loadChecks (core : Core) (opt : OptionList) (relayPrefix : String) : Member CxxString (Config σ) Unit := do
  let nsCertType ← call (core.nsCertType opt relayPrefix)
  update fun config => { config with nsCertType := nsCertType }
  part (fun config => (config.ku, config.eku))
    (fun usages config => { config with ku := usages.1, eku := usages.2 }) (core.remoteCertTls opt relayPrefix)
  part Config.ku (fun ku config => { config with ku := ku }) (core.remoteCertKu opt relayPrefix)
  part Config.eku (fun eku config => { config with eku := eku }) (core.remoteCertEku opt relayPrefix)
  let tlsRemote ← call (opt.getOptional (relayPrefix ++ "tls-remote"))
  update fun config => { config with tlsRemote := tlsRemote }
  loadVerifyX509Name core opt relayPrefix
  let peerFingerprints ← call (opt.cat "peer-fingerprint")
  update fun config => { config with peerFingerprints := peerFingerprints }
  whenever (¬peerFingerprints.isEmpty)
    (update fun config => { config with flags := config.flags ||| VERIFY_PEER_FINGERPRINT })

-- TLSVersion::Type
def V1_3 : UInt32 := 4

-- A list that the profile may give.
def loadList (opt : OptionList) (name : String) (put : CxxString → Config σ → Config σ) :
    Member CxxString (Config σ) Unit := do
  whenever (opt.present name) do
    let list ← call (opt.getOptional name)
    update (put list)

def loadLimits (core : Core) (opt : OptionList) (relayPrefix : String) : Member CxxString (Config σ) Unit := do
  let tlsVersionMin ← call (core.parseTlsVersionMin opt relayPrefix V1_3)
  update fun config => { config with tlsVersionMin := tlsVersionMin }
  let tlsCertProfile ← call (core.parseTlsCertProfile opt relayPrefix)
  update fun config => { config with tlsCertProfile := tlsCertProfile }
  loadList opt "tls-cipher" fun list config => { config with tlsCipherList := list }
  loadList opt "tls-ciphersuites" fun list config => { config with tlsCiphersuiteList := list }
  loadList opt "tls-groups" fun list config => { config with tlsGroups := list }

def load (core : Core) (backend : Loading.Backend) (opt : OptionList) (loadFlags : LoadFlags) :
    Member CxxString (Config σ) Unit := do
  loadMode opt loadFlags
  loadSni opt
  loadTrust backend opt loadFlags
  loadIdentity backend opt
  loadChecks core opt loadFlags.relayPrefix
  loadLimits core opt loadFlags.relayPrefix

end Load

section Loaded

variable {σ : Type} {before after : Config σ}

theorem loadMode_returns {opt : OptionList} {loadFlags : LoadFlags}
    (hreturns : Returns (loadMode opt loadFlags) before () after) :
    after = { before with
      mode := .Client
      flags := if loadFlags.allowClientCertNotRequired ∧ opt.present "client-cert-not-required" then
        before.flags ||| NO_VERIFY_PEER else before.flags } := by
  simp only [loadMode, returns_bind, returns_whenever, returns_look, returns_update] at hreturns
  obtain ⟨_, parsed, hparsed, _, _, ⟨rfl, rfl⟩, _, checked, hclient, hflags⟩ := hreturns
  have hmode : parsed = { before with mode := parsed.mode } := by
    split at hparsed
    · rw [← hparsed]
    · rw [← hparsed]
  have hchecked : parsed.mode = .Client ∧ parsed = checked := by
    split at hclient
    · exact absurd hclient returns_raise
    · exact ⟨not_not.mp ‹_›, hclient⟩
  obtain ⟨hmine, rfl⟩ := hchecked
  rw [hmine] at hmode
  subst hmode
  by_cases hrequested : loadFlags.allowClientCertNotRequired ∧ opt.present "client-cert-not-required"
  · rw [if_pos hrequested] at hflags
    rw [if_pos hrequested, ← hflags]
  · rw [if_neg hrequested] at hflags
    rw [if_neg hrequested, ← hflags]

theorem loadSni_returns {opt : OptionList} (hreturns : Returns (loadSni opt) before () after) :
    ∃ sniName, after = { before with sniName := sniName } := by
  simp only [loadSni, returns_bind, returns_call, returns_whenever, returns_update] at hreturns
  obtain ⟨sniName, _, ⟨_, rfl⟩, hafter⟩ := hreturns
  split at hafter
  · exact ⟨sniName, hafter.symm⟩
  · exact ⟨before.sniName, hafter.symm⟩

theorem loader_returns {member : Loading.Member} {result : Unit} :
    Returns (loader member) before result after ↔
      ∃ loaded, member before.toMaterial = (.ok (), loaded) ∧ { before with toMaterial := loaded } = after :=
  returns_part

theorem loadPem_returns {backend : Loading.Backend} {kind : UInt32} {value password : CxxString}
    {description : String} {assign : Loading.Config → Loading.Config} {loaded : Loading.Config}
    {material : Loading.Config}
    (hreturns : Loading.loadPem backend kind value password description assign material = (.ok (), loaded)) :
    loaded = assign material := by
  rcases Loading.loadPem_cases backend kind value password description assign material with
    ⟨_, hloads⟩ | ⟨_, thrown, hloads⟩
  · exact (congrArg Prod.snd (hloads.symm.trans hreturns)).symm
  · cases hloads.symm.trans hreturns

theorem loadCertExtra_returns {backend : Loading.Backend} {value extra : CxxString}
    {material loaded : Loading.Config}
    (hreturns : Loading.loadCertExtra backend value extra material = (.ok (), loaded)) :
    loaded = { material with cert := value, extraCerts := extra } := by
  rcases Loading.loadCertExtra_cases backend value extra material with
    ⟨_, thrown, hloads⟩ | ⟨_, _, _, thrown, hloads⟩ | ⟨_, hloads⟩
  · cases hloads.symm.trans hreturns
  · cases hloads.symm.trans hreturns
  · exact (congrArg Prod.snd (hloads.symm.trans hreturns)).symm

-- A text of the profile where it has one.
def chosen (text held : CxxString) : CxxString := if text.isEmpty then held else text

theorem chosen_empty {text held : CxxString} (hempty : text.isEmpty = true) : chosen text held = held :=
  if_pos hempty

theorem chosen_some {text held : CxxString} (hsome : ¬text.isEmpty = true) : chosen text held = text :=
  if_neg hsome

theorem loadTrust_returns {backend : Loading.Backend} {opt : OptionList} {loadFlags : LoadFlags}
    (hreturns : Returns (loadTrust backend opt loadFlags) before () after) :
    ∃ ca crl, caText opt loadFlags = .ok ca ∧ opt.cat "crl-verify" = .ok crl ∧
      after = { before with ca := chosen ca before.ca, crl := chosen crl before.crl } := by
  simp only [loadTrust, returns_bind, returns_call, returns_whenever, loader_returns] at hreturns
  obtain ⟨ca, _, ⟨hca, rfl⟩, _, between, hloaded, crl, _, ⟨hcrl, rfl⟩, hafter⟩ := hreturns
  refine ⟨ca, crl, hca, hcrl, ?_⟩
  have hbetween : between = { before with ca := chosen ca before.ca } := by
    by_cases hempty : ca.isEmpty = true
    · rw [if_neg (not_not_intro hempty)] at hloaded
      rw [chosen_empty hempty, ← hloaded]
    · rw [if_pos hempty] at hloaded
      obtain ⟨loaded, hloads, rfl⟩ := hloaded
      rw [chosen_some hempty, loadPem_returns hloads]
  subst hbetween
  by_cases hempty : crl.isEmpty = true
  · rw [if_neg (not_not_intro hempty)] at hafter
    rw [chosen_empty hempty, ← hafter]
  · rw [if_pos hempty] at hafter
    obtain ⟨loaded, hloads, rfl⟩ := hafter
    rw [chosen_some hempty, loadPem_returns hloads]

-- A certificate with its chain, and a key where the application does not sign.
theorem loadIdentity_returns {backend : Loading.Backend} {opt : OptionList}
    (hreturns : Returns (loadIdentity backend opt) before () after) :
    ∃ cert extraCerts privateKey,
      (before.localCertEnabled = true → opt.get "cert" = .ok cert ∧ opt.cat "extra-certs" = .ok extraCerts ∧
        (before.externalPki.isNone = true → opt.get "key" = .ok privateKey)) ∧
      after = { before with cert := cert, extraCerts := extraCerts, privateKey := privateKey } := by
  simp only [loadIdentity, returns_bind, returns_look, returns_call, returns_whenever, loader_returns]
    at hreturns
  obtain ⟨_, _, ⟨rfl, rfl⟩, hafter⟩ := hreturns
  by_cases henabled : before.localCertEnabled = true
  · rw [if_pos henabled] at hafter
    obtain ⟨cert, _, ⟨hcert, rfl⟩, extra, _, ⟨hextra, rfl⟩, _, between, ⟨loaded, hloads, rfl⟩, hkey⟩ := hafter
    rw [loadCertExtra_returns hloads] at hkey
    by_cases hinternal : before.externalPki.isNone = true
    · rw [if_pos hinternal] at hkey
      obtain ⟨key, _, ⟨hget, rfl⟩, loaded, hloads, rfl⟩ := hkey
      have hlast : loaded = _ := loadPem_returns hloads
      exact ⟨cert, extra, key, fun _ => ⟨hcert, hextra, fun _ => hget⟩, by rw [hlast]⟩
    · rw [if_neg hinternal] at hkey
      exact ⟨cert, extra, before.privateKey, fun _ => ⟨hcert, hextra, fun hnone => absurd hnone hinternal⟩,
        hkey.symm⟩
  · rw [if_neg henabled] at hafter
    exact ⟨before.cert, before.extraCerts, before.privateKey, fun h => absurd h henabled, hafter.symm⟩

-- What is asked of a peer's name.
inductive Verifies (core : Core) (opt : OptionList) (relayPrefix : String) : UInt32 → CxxString → Prop
  | Nothing : opt.getPtr (relayPrefix ++ "verify-x509-name") = none →
      Verifies core opt relayPrefix VERIFY_X509_NONE .empty
  | Name {verify : Directive} {value type : CxxString} :
      opt.getPtr (relayPrefix ++ "verify-x509-name") = some verify → verify.get 1 = .ok value →
      verify.getDefault 2 "subject".toByteArray = .ok type → Verifies core opt relayPrefix (verifyMode type) value

theorem loadVerifyX509Name_returns {core : Core} {opt : OptionList} {relayPrefix : String}
    (hreturns : Returns (loadVerifyX509Name core opt relayPrefix) before () after) :
    ∃ mode value, Verifies core opt relayPrefix mode value ∧
      after = { before with verifyX509NameMode := mode, verifyX509NameValue := value } := by
  simp only [loadVerifyX509Name, returns_bind, returns_call, returns_update] at hreturns
  obtain ⟨_, _, ⟨_, rfl⟩, _, _, rfl, hafter⟩ := hreturns
  cases hverify : opt.getPtr (relayPrefix ++ "verify-x509-name") with
  | none =>
      rw [hverify] at hafter
      exact ⟨_, _, .Nothing hverify, (returns_pure.mp hafter).2.symm⟩
  | some verify =>
      rw [hverify] at hafter
      simp only [returns_bind, returns_call, returns_update] at hafter
      obtain ⟨value, _, ⟨hvalue, rfl⟩, _, _, rfl, type, _, ⟨htype, rfl⟩, rfl⟩ := hafter
      exact ⟨_, _, .Name hverify hvalue htype, rfl⟩

-- The usages that the profile asks of a peer's certificate, from those that are there before.
def Usages (core : Core) (opt : OptionList) (relayPrefix : String) (held : List UInt32 × CxxString)
    (ku : List UInt32) (eku : CxxString) : Prop :=
  ∃ purpose, Returns (core.remoteCertTls opt relayPrefix) held () purpose ∧
    Returns (core.remoteCertKu opt relayPrefix) purpose.1 () ku ∧
    Returns (core.remoteCertEku opt relayPrefix) purpose.2 () eku

theorem loadChecks_returns {core : Core} {opt : OptionList} {relayPrefix : String}
    (hreturns : Returns (loadChecks core opt relayPrefix) before () after) :
    ∃ nsCertType ku eku tlsRemote mode value peerFingerprints,
      core.nsCertType opt relayPrefix = .ok nsCertType ∧
      Usages core opt relayPrefix (before.ku, before.eku) ku eku ∧
      opt.getOptional (relayPrefix ++ "tls-remote") = .ok tlsRemote ∧
      Verifies core opt relayPrefix mode value ∧
      opt.cat "peer-fingerprint" = .ok peerFingerprints ∧
      after = { before with
        nsCertType, ku, eku, tlsRemote, peerFingerprints
        verifyX509NameMode := mode
        verifyX509NameValue := value
        flags :=
          if ¬peerFingerprints.isEmpty then before.flags ||| VERIFY_PEER_FINGERPRINT else before.flags } := by
  simp only [loadChecks, returns_bind, returns_call, returns_whenever, returns_part, returns_update] at hreturns
  obtain ⟨nsCertType, _, ⟨hns, rfl⟩, _, _, rfl, _, _, ⟨purpose, hpurpose, rfl⟩, _, _, ⟨ku, hku, rfl⟩, _, _,
    ⟨eku, heku, rfl⟩, tlsRemote, _, ⟨hremote, rfl⟩, _, _, rfl, _, named, hname, peerFingerprints, _,
    ⟨hfingerprints, rfl⟩, _, _, rfl, hafter⟩ := hreturns
  obtain ⟨mode, value, hverifies, rfl⟩ := loadVerifyX509Name_returns hname
  refine ⟨nsCertType, ku, eku, tlsRemote, mode, value, peerFingerprints, hns, ⟨purpose, hpurpose, hku, heku⟩,
    hremote, hverifies, hfingerprints, ?_⟩
  by_cases hsome : ¬peerFingerprints.isEmpty = true
  · rw [if_pos hsome] at hafter
    rw [if_pos hsome, ← hafter]
  · rw [if_neg hsome] at hafter
    rw [if_neg hsome, ← hafter]

-- A list of the profile, or the one that is there before.
def Listed (opt : OptionList) (name : String) (held list : CxxString) : Prop :=
  if opt.present name then opt.getOptional name = .ok list else held = list

theorem loadList_returns {opt : OptionList} {name : String} {put : CxxString → Config σ → Config σ}
    {held : CxxString} (hheld : put held before = before)
    (hreturns : Returns (loadList opt name put) before () after) :
    ∃ list, Listed opt name held list ∧ after = put list before := by
  simp only [loadList, returns_whenever, returns_bind, returns_call, returns_update] at hreturns
  by_cases hpresent : opt.present name = true
  · rw [if_pos hpresent] at hreturns
    obtain ⟨list, _, ⟨hlist, rfl⟩, rfl⟩ := hreturns
    exact ⟨list, by rw [Listed, if_pos hpresent, hlist], rfl⟩
  · rw [if_neg hpresent] at hreturns
    exact ⟨held, by rw [Listed, if_neg hpresent], by rw [hheld, hreturns]⟩

theorem loadLimits_returns {core : Core} {opt : OptionList} {relayPrefix : String}
    (hreturns : Returns (loadLimits core opt relayPrefix) before () after) :
    ∃ tlsVersionMin tlsCertProfile tlsCipherList tlsCiphersuiteList tlsGroups,
      core.parseTlsVersionMin opt relayPrefix V1_3 = .ok tlsVersionMin ∧
      Listed opt "tls-cipher" before.tlsCipherList tlsCipherList ∧
      Listed opt "tls-ciphersuites" before.tlsCiphersuiteList tlsCiphersuiteList ∧
      Listed opt "tls-groups" before.tlsGroups tlsGroups ∧
      after = { before with tlsVersionMin, tlsCertProfile, tlsCipherList, tlsCiphersuiteList, tlsGroups } := by
  simp only [loadLimits, returns_bind, returns_call, returns_update] at hreturns
  obtain ⟨tlsVersionMin, _, ⟨hversion, rfl⟩, _, _, rfl, tlsCertProfile, _, ⟨_, rfl⟩, _, _, rfl, _, _, hciphers,
    _, _, hsuites, hgroups⟩ := hreturns
  obtain ⟨tlsCipherList, hcipherList, rfl⟩ := loadList_returns rfl hciphers
  obtain ⟨tlsCiphersuiteList, hsuiteList, rfl⟩ := loadList_returns rfl hsuites
  obtain ⟨tlsGroups, hgroupList, rfl⟩ := loadList_returns rfl hgroups
  exact ⟨tlsVersionMin, tlsCertProfile, tlsCipherList, tlsCiphersuiteList, tlsGroups, hversion, hcipherList,
    hsuiteList, hgroupList, rfl⟩

end Loaded

end OpenvpnConnect.Tls.Setup
