import OpenvpnConnect.Tls.Policy

namespace OpenvpnConnect.Tls

open Text

def NO_VERIFY_PEER : UInt32 := (1 : UInt32) <<< 1
def VERIFY_PEER_FINGERPRINT : UInt32 := (1 : UInt32) <<< 8

-- A SHA-256 digest.
abbrev Digest := { bytes : List UInt8 // bytes.length = 32 }

def parseFingerprint (line : Str) : Except String Digest := do
  let bytes ← (line.splitOn ':').mapM fun part =>
    match fromStrRadix 16 255 part with
    | .ok byte => .ok (UInt8.ofNat byte)
    | .error error => .error ("invalid peer fingerprint: " ++ error)
  if hlength : bytes.length = 32 then .ok ⟨bytes, hlength⟩
  else .error "peer fingerprint must contain 32 bytes"

def parseFingerprints (value : Str) : Except String (List Digest) :=
  (((lines value).map trim).filter fun line => !line.isEmpty && !(['#', ';'].contains (line.headD ' '))).mapM
    parseFingerprint

-- The libraries under the verifier: certificates and CRLs as DER (`δ`, `γ`), the
-- roots and CRLs that are ready for use (`ρ`, `κ`), end-entity certificates (`ε`)
-- and the time (`τ`).
structure WebPki (δ γ ρ κ ε τ : Type) where
  sha256 : δ → Digest
  parseX509Certificate : δ → Except String Certificate
  pemCertificates : List UInt8 → Except String (List δ)
  pemCrls : List UInt8 → Except String (List γ)
  trustAnchor : δ → Except String ρ
  revocationList : γ → Except String κ
  endEntityCert : δ → Except String ε
  verifyForUsage : ε → List ρ → List δ → τ → Option (List κ) → Except String Unit
  -- A chain that is accepted with a check of its revocation is accepted without.
  unrevoked : ∀ cert roots intermediates now crls,
    verifyForUsage cert roots intermediates now (some crls) = .ok () →
      verifyForUsage cert roots intermediates now none = .ok ()

-- The arguments of config_new that the verifier depends on.
structure Inputs where
  ca : List UInt8
  crl : List UInt8
  peerFingerprints : Str
  nsCertType : UInt32
  keyUsageSelector : Str
  extendedUsageSelector : Str
  tlsRemote : Str
  verifyX509NameMode : UInt32
  verifyX509Name : Str
  flags : UInt32
deriving DecidableEq, Repr

-- What Config::load makes of the flags.
def loadFlags (flags : UInt32) (peerFingerprints : Str) : UInt32 :=
  if peerFingerprints ≠ [] then flags ||| VERIFY_PEER_FINGERPRINT else flags

structure OpenVpnServerVerifier (ρ κ : Type) where
  roots : List ρ
  crls : List κ
  peerFingerprints : List Digest
  verifyChain : Bool
  policy : CertificatePolicy
deriving DecidableEq

section Verifier

variable {δ γ ρ κ ε τ : Type}

def mapErr {α : Type} (context : String) : Except String α → Except String α
  | .ok value => .ok value
  | .error error => .error (context ++ error)

def parseCertificates (webpki : WebPki δ γ ρ κ ε τ) (value : List UInt8) : Except String (List δ) :=
  if value = [] then .ok [] else webpki.pemCertificates value

def parseCrls (webpki : WebPki δ γ ρ κ ε τ) (value : List UInt8) : Except String (List γ) :=
  if value = [] then .ok [] else webpki.pemCrls value

def Inputs.policy (inputs : Inputs) : Except String CertificatePolicy := do
  let keyUsages ← parseKeyUsages inputs.keyUsageSelector
  return {
    nsCertType := inputs.nsCertType
    keyUsages
    extendedKeyUsage := inputs.extendedUsageSelector
    tlsRemote := inputs.tlsRemote
    verifyX509NameMode := inputs.verifyX509NameMode
    verifyX509Name := inputs.verifyX509Name }

def rootStore (webpki : WebPki δ γ ρ κ ε τ) (ca : List UInt8) : Except String (List ρ) := do
  let rootCerts ← parseCertificates webpki ca
  rootCerts.mapM fun root => mapErr "invalid CA certificate: " (webpki.trustAnchor root)

def revocationLists (webpki : WebPki δ γ ρ κ ε τ) (crl : List UInt8) : Except String (List κ) := do
  let crls ← parseCrls webpki crl
  crls.mapM fun value => mapErr "invalid certificate revocation list: " (webpki.revocationList value)

-- The part of config_new that makes the verifier.
def configNewVerifier (webpki : WebPki δ γ ρ κ ε τ) (inputs : Inputs) :
    Except String (OpenVpnServerVerifier ρ κ) := do
  let peerFingerprints ← parseFingerprints inputs.peerFingerprints
  let policy ← inputs.policy
  policy.validate
  let roots ← rootStore webpki inputs.ca
  if inputs.flags &&& NO_VERIFY_PEER = 0 ∧ peerFingerprints = [] ∧ roots.isEmpty then
    throw "CA certificate is required when peer verification is enabled"
  let crls ← revocationLists webpki inputs.crl
  return {
    roots, crls, peerFingerprints
    verifyChain := inputs.flags &&& NO_VERIFY_PEER = 0 ∨ inputs.flags &&& VERIFY_PEER_FINGERPRINT ≠ 0
    policy }

-- The revocation options of a list of CRLs.
def revocation (crls : List κ) : Option (List κ) :=
  match crls with
  | [] => none
  | _ => some crls

def OpenVpnServerVerifier.verifyServerCert (webpki : WebPki δ γ ρ κ ε τ) (verifier : OpenVpnServerVerifier ρ κ)
    (endEntity : δ) (intermediates : List δ) (now : τ) : Except String Unit := do
  if verifier.verifyChain ∧ verifier.peerFingerprints ≠ [] then
    if webpki.sha256 endEntity ∉ verifier.peerFingerprints then
      throw "peer certificate fingerprint does not match"
  else if verifier.verifyChain then
    let cert ← mapErr "invalid peer certificate: " (webpki.endEntityCert endEntity)
    mapErr "peer certificate verification failed: "
      (webpki.verifyForUsage cert verifier.roots intermediates now (revocation verifier.crls))
  verifier.policy.verify webpki.parseX509Certificate endEntity

-- What a verifier has of its inputs.
structure Inputs.Makes (webpki : WebPki δ γ ρ κ ε τ) (inputs : Inputs) (verifier : OpenVpnServerVerifier ρ κ) :
    Prop where
  peerFingerprints : parseFingerprints inputs.peerFingerprints = .ok verifier.peerFingerprints
  policy : inputs.policy = .ok verifier.policy
  roots : rootStore webpki inputs.ca = .ok verifier.roots
  crls : revocationLists webpki inputs.crl = .ok verifier.crls
  verifyChain : verifier.verifyChain = true ↔
    inputs.flags &&& NO_VERIFY_PEER = 0 ∨ inputs.flags &&& VERIFY_PEER_FINGERPRINT ≠ 0

theorem configNewVerifier_makes {webpki : WebPki δ γ ρ κ ε τ} {inputs : Inputs}
    {verifier : OpenVpnServerVerifier ρ κ} (hok : configNewVerifier webpki inputs = .ok verifier) :
    inputs.Makes webpki verifier := by
  simp only [configNewVerifier, bind_eq_ok] at hok
  obtain ⟨fingerprints, hfingerprints, policy, hpolicy, _, _, roots, hroots, hok⟩ := hok
  split at hok
  · cases hok
  · obtain ⟨crls, hcrls, hpure⟩ := bind_eq_ok.mp hok
    obtain rfl := Except.ok.inj hpure
    exact ⟨hfingerprints, hpolicy, hroots, hcrls, decide_eq_true_iff⟩

-- The second configuration has what the first has, and restrictions where the
-- first has none.
structure Inputs.Adds (first second : Inputs) : Prop where
  ca : second.ca = first.ca
  crl : second.crl = first.crl ∨ first.crl = []
  peerFingerprints : second.peerFingerprints = first.peerFingerprints ∨ first.peerFingerprints = []
  flags : second.flags = loadFlags first.flags second.peerFingerprints
  nsCertType : second.nsCertType = first.nsCertType ∨ first.nsCertType = NS_CERT_NONE
  keyUsageSelector : second.keyUsageSelector = first.keyUsageSelector ∨ first.keyUsageSelector = []
  extendedUsageSelector : second.extendedUsageSelector = first.extendedUsageSelector ∨
    first.extendedUsageSelector = []
  tlsRemote : second.tlsRemote = first.tlsRemote ∨ first.tlsRemote = []
  verifyX509Name : second.verifyX509NameMode = first.verifyX509NameMode ∧
    second.verifyX509Name = first.verifyX509Name ∨ first.verifyX509NameMode = VERIFY_X509_NONE

theorem parseKeyUsages_nil : parseKeyUsages [] = .ok [] := by
  rfl

theorem parseFingerprints_nil : parseFingerprints [] = .ok [] := by
  rfl

theorem revocationLists_nil (webpki : WebPki δ γ ρ κ ε τ) : revocationLists webpki [] = .ok [] := by
  rfl

theorem loadFlags_noVerifyPeer (flags : UInt32) (peerFingerprints : Str) :
    loadFlags flags peerFingerprints &&& NO_VERIFY_PEER = flags &&& NO_VERIFY_PEER := by
  unfold loadFlags
  split
  · have hbits : VERIFY_PEER_FINGERPRINT &&& NO_VERIFY_PEER = 0 := by decide
    apply UInt32.toBitVec_inj.mp
    rw [UInt32.toBitVec_and, UInt32.toBitVec_or, BitVec.and_or_distrib_right, ← UInt32.toBitVec_and VERIFY_PEER_FINGERPRINT,
      hbits]
    simp
  · rfl

theorem Inputs.Adds.policy {first second : Inputs} (ha : first.Adds second) {before after : CertificatePolicy}
    (hfirst : first.policy = .ok before) (hsecond : second.policy = .ok after) : before.Adds after := by
  obtain ⟨usages, husages, hbefore⟩ := bind_eq_ok.mp hfirst
  obtain ⟨added, hadded, hafter⟩ := bind_eq_ok.mp hsecond
  obtain rfl := Except.ok.inj hbefore
  obtain rfl := Except.ok.inj hafter
  refine ⟨ha.nsCertType, ?_, ha.extendedUsageSelector, ha.tlsRemote, ha.verifyX509Name⟩
  rcases ha.keyUsageSelector with he | hnone
  · rw [he] at hadded
    exact .inl (Except.ok.inj (hadded.symm.trans husages))
  · rw [hnone, parseKeyUsages_nil] at husages
    exact .inr (Except.ok.inj husages).symm

theorem mapErr_ok {α : Type} {context : String} {result : Except String α} {value : α} :
    mapErr context result = .ok value ↔ result = .ok value := by
  cases result with
  | ok _ => exact Iff.rfl
  | error _ => exact ⟨fun h => (by cases h), fun h => (by cases h)⟩

-- The chain of a certificate is good.
def OpenVpnServerVerifier.Chains (webpki : WebPki δ γ ρ κ ε τ) (verifier : OpenVpnServerVerifier ρ κ)
    (endEntity : δ) (intermediates : List δ) (now : τ) : Prop :=
  ∃ cert, webpki.endEntityCert endEntity = .ok cert ∧
    webpki.verifyForUsage cert verifier.roots intermediates now (revocation verifier.crls) = .ok ()

section Accepted

variable {webpki : WebPki δ γ ρ κ ε τ} {verifier : OpenVpnServerVerifier ρ κ} {endEntity : δ}
  {intermediates : List δ} {now : τ}

-- With fingerprints nothing else is asked of the certificate than the policy.
theorem accepted_by_fingerprint (hchain : verifier.verifyChain = true) (hlist : verifier.peerFingerprints ≠ []) :
    verifier.verifyServerCert webpki endEntity intermediates now = .ok () ↔
      webpki.sha256 endEntity ∈ verifier.peerFingerprints ∧
        verifier.policy.verify webpki.parseX509Certificate endEntity = .ok () := by
  unfold OpenVpnServerVerifier.verifyServerCert
  rw [if_pos ⟨hchain, hlist⟩]
  by_cases hmem : webpki.sha256 endEntity ∈ verifier.peerFingerprints
  · rw [if_neg (not_not_intro hmem)]
    exact ⟨fun h => ⟨hmem, h⟩, fun h => h.2⟩
  · rw [if_pos hmem]
    exact ⟨fun h => (by cases h), fun h => absurd h.1 hmem⟩

theorem accepted_by_chain (hchain : verifier.verifyChain = true) (hlist : verifier.peerFingerprints = []) :
    verifier.verifyServerCert webpki endEntity intermediates now = .ok () ↔
      verifier.Chains webpki endEntity intermediates now ∧
        verifier.policy.verify webpki.parseX509Certificate endEntity = .ok () := by
  unfold OpenVpnServerVerifier.verifyServerCert
  rw [if_neg (fun h => h.2 hlist), if_pos hchain]
  simp only [bind_eq_ok, mapErr_ok]
  constructor
  · rintro ⟨cert, hcert, _, hverified, hpolicy⟩
    exact ⟨⟨cert, hcert, hverified⟩, hpolicy⟩
  · rintro ⟨⟨cert, hcert, hverified⟩, hpolicy⟩
    exact ⟨cert, hcert, (), hverified, hpolicy⟩

end Accepted

section Adds

variable {webpki : WebPki δ γ ρ κ ε τ} {first second : Inputs} {before after : OpenVpnServerVerifier ρ κ}

theorem Inputs.Adds.roots (ha : first.Adds second) (hfirst : first.Makes webpki before)
    (hsecond : second.Makes webpki after) : after.roots = before.roots := by
  have hroots := hsecond.roots
  rw [ha.ca, hfirst.roots] at hroots
  exact (Except.ok.inj hroots).symm

theorem Inputs.Adds.crls (ha : first.Adds second) (hfirst : first.Makes webpki before)
    (hsecond : second.Makes webpki after) : after.crls = before.crls ∨ before.crls = [] := by
  rcases ha.crl with he | hnone
  · have hcrls := hsecond.crls
    rw [he, hfirst.crls] at hcrls
    exact .inl (Except.ok.inj hcrls).symm
  · have hcrls := hfirst.crls
    rw [hnone, revocationLists_nil] at hcrls
    exact .inr (Except.ok.inj hcrls).symm

theorem Inputs.Adds.fingerprints (ha : first.Adds second) (hfirst : first.Makes webpki before)
    (hsecond : second.Makes webpki after) :
    after.peerFingerprints = before.peerFingerprints ∨ before.peerFingerprints = [] := by
  rcases ha.peerFingerprints with he | hnone
  · have hlist := hsecond.peerFingerprints
    rw [he, hfirst.peerFingerprints] at hlist
    exact .inl (Except.ok.inj hlist).symm
  · have hlist := hfirst.peerFingerprints
    rw [hnone, parseFingerprints_nil] at hlist
    exact .inr (Except.ok.inj hlist).symm

-- Added CRLs accept no chain that is refused without them.
theorem Inputs.Adds.chains (ha : first.Adds second) (hfirst : first.Makes webpki before)
    (hsecond : second.Makes webpki after) {endEntity : δ} {intermediates : List δ} {now : τ}
    (hchains : after.Chains webpki endEntity intermediates now) :
    before.Chains webpki endEntity intermediates now := by
  obtain ⟨cert, hcert, hverified⟩ := hchains
  refine ⟨cert, hcert, ?_⟩
  rw [ha.roots hfirst hsecond] at hverified
  rcases ha.crls hfirst hsecond with he | hnone
  · rw [he] at hverified
    exact hverified
  · rw [hnone]
    cases hcrls : after.crls with
    | nil =>
        rw [hcrls] at hverified
        exact hverified
    | cons crl rest =>
        rw [hcrls] at hverified
        exact webpki.unrevoked cert before.roots intermediates now (crl :: rest) hverified

-- What is added never widens trust, except that a list of fingerprints takes the
-- place of the chain: then the certificates that are accepted are those on the
-- list that meet the policy.
theorem added_restriction (ha : first.Adds second) (hpeer : first.flags &&& NO_VERIFY_PEER = 0)
    (hfirst : configNewVerifier webpki first = .ok before)
    (hsecond : configNewVerifier webpki second = .ok after)
    (endEntity : δ) (intermediates : List δ) (now : τ) :
    (¬(before.peerFingerprints = [] ∧ after.peerFingerprints ≠ []) →
      after.verifyServerCert webpki endEntity intermediates now = .ok () →
      before.verifyServerCert webpki endEntity intermediates now = .ok ()) ∧
    (before.peerFingerprints = [] ∧ after.peerFingerprints ≠ [] →
      (after.verifyServerCert webpki endEntity intermediates now = .ok () ↔
        webpki.sha256 endEntity ∈ after.peerFingerprints ∧
          after.policy.verify webpki.parseX509Certificate endEntity = .ok ()) ∧
      (after.policy.verify webpki.parseX509Certificate endEntity = .ok () →
        before.policy.verify webpki.parseX509Certificate endEntity = .ok ())) := by
  have hbefore := configNewVerifier_makes hfirst
  have hafter := configNewVerifier_makes hsecond
  have hpolicy := ha.policy hbefore.policy hafter.policy
  have hchain : after.verifyChain = true := by
    apply hafter.verifyChain.mpr
    rw [ha.flags, loadFlags_noVerifyPeer, hpeer]
    exact .inl rfl
  constructor
  · intro hadded haccepted
    have hsame : after.peerFingerprints = before.peerFingerprints := by
      rcases ha.fingerprints hbefore hafter with he | hnone
      · exact he
      · by_cases hlist : after.peerFingerprints = []
        · rw [hlist, hnone]
        · exact absurd ⟨hnone, hlist⟩ hadded
    by_cases hlist : after.peerFingerprints = []
    · obtain ⟨hchains, haccepted⟩ := (accepted_by_chain hchain hlist).mp haccepted
      exact (accepted_by_chain (hbefore.verifyChain.mpr (.inl hpeer)) (hsame ▸ hlist)).mpr
        ⟨ha.chains hbefore hafter hchains, hpolicy.verify haccepted⟩
    · obtain ⟨hmem, haccepted⟩ := (accepted_by_fingerprint hchain hlist).mp haccepted
      rw [hsame] at hmem hlist
      exact (accepted_by_fingerprint (hbefore.verifyChain.mpr (.inl hpeer)) hlist).mpr ⟨hmem, hpolicy.verify haccepted⟩
  · rintro ⟨_, hlist⟩
    exact ⟨accepted_by_fingerprint hchain hlist, hpolicy.verify⟩

end Adds

end Verifier

section Stranger

-- Certificates of three bytes: a serial number, the serial number of the issuer
-- and the last day. The digests are SHA-256's of the two certificates below.
def threeByteCertificates : WebPki (List UInt8) UInt8 UInt8 UInt8 (List UInt8) UInt8 where
  sha256 der :=
    if der = [5, 1, 99] then
      ⟨[76, 156, 146, 34, 204, 177, 129, 34, 13, 51, 123, 227, 115, 45, 7, 21, 227, 132, 251, 161, 244, 5, 92, 88,
        135, 98, 58, 187, 115, 211, 94, 56], rfl⟩
    else
      ⟨[151, 7, 18, 223, 188, 187, 59, 10, 94, 69, 138, 85, 53, 5, 201, 51, 254, 28, 15, 211, 207, 18, 40, 74, 0, 1,
        27, 167, 71, 194, 79, 112], rfl⟩
  parseX509Certificate _ := .ok ⟨[], [], [], .ok none, .ok none⟩
  pemCertificates value := .ok [value]
  pemCrls value := .ok value
  trustAnchor der := .ok (der.headD 0)
  revocationList serial := .ok serial
  endEntityCert der := .ok der
  verifyForUsage cert roots _ now crls :=
    match cert with
    | [serial, issuer, last] =>
        if issuer ∈ roots ∧ now ≤ last ∧ serial ∉ crls.getD [] then .ok () else .error "UnknownIssuer"
    | _ => .error "BadDer"
  unrevoked := by
    intro cert roots _ now crls haccepted
    split at haccepted
    · obtain ⟨hissuer, hnow, _⟩ : _ ∈ roots ∧ now ≤ _ ∧ _ ∉ (some crls).getD [] := by
        by_contra hrefused
        rw [if_neg hrefused] at haccepted
        cases haccepted
      exact if_pos ⟨hissuer, hnow, List.not_mem_nil⟩
    · cases haccepted

-- An issuer, a certificate that it has signed, and one that it has not.
def caCertificate : List UInt8 := [1, 1, 200]
def serverCertificate : List UInt8 := [5, 1, 99]
def strangerCertificate : List UInt8 := [7, 2, 99]

def withCa : Inputs := ⟨caCertificate, [], [], 0, [], [], [], 0, [], 0⟩

def strangerFingerprint : Str :=
  "97:07:12:df:bc:bb:3b:0a:5e:45:8a:55:35:05:c9:33:fe:1c:0f:d3:cf:12:28:4a:00:01:1b:a7:47:c2:4f:70".toList

def withFingerprint (peerFingerprints : Str) : Inputs :=
  { withCa with peerFingerprints, flags := loadFlags 0 peerFingerprints }

theorem withFingerprint_adds (peerFingerprints : Str) : withCa.Adds (withFingerprint peerFingerprints) :=
  ⟨rfl, .inl rfl, .inr rfl, rfl, .inl rfl, .inl rfl, .inl rfl, .inl rfl, .inl ⟨rfl, rfl⟩⟩

-- A certificate of an unknown issuer is accepted once its fingerprint is listed.
theorem fingerprint_replaces_chain : ∃ before after,
    configNewVerifier threeByteCertificates withCa = .ok before ∧
      configNewVerifier threeByteCertificates (withFingerprint strangerFingerprint) = .ok after ∧
      withCa.flags &&& NO_VERIFY_PEER = 0 ∧ before.roots ≠ [] ∧
      withCa.Adds (withFingerprint strangerFingerprint) ∧
      after.verifyServerCert threeByteCertificates strangerCertificate [] 1 = .ok () ∧
      before.verifyServerCert threeByteCertificates strangerCertificate [] 1 ≠ .ok () := by
  refine ⟨⟨[1], [], [], true, ⟨0, [], [], [], 0, []⟩⟩,
    ⟨[1], [], [threeByteCertificates.sha256 strangerCertificate], true, ⟨0, [], [], [], 0, []⟩⟩, ?_, ?_, ?_, ?_,
    withFingerprint_adds _, ?_, ?_⟩ <;> decide +kernel

def withRevoked : Inputs := { withCa with crl := [9] }

theorem added_restriction_server : ∃ before after,
    configNewVerifier threeByteCertificates withCa = .ok before ∧
      configNewVerifier threeByteCertificates withRevoked = .ok after ∧
      after.verifyServerCert threeByteCertificates serverCertificate [] 1 = .ok () ∧
      before.verifyServerCert threeByteCertificates serverCertificate [] 1 = .ok () := by
  have hfirst : configNewVerifier threeByteCertificates withCa =
      .ok ⟨[1], [], [], true, ⟨0, [], [], [], 0, []⟩⟩ := by decide +kernel
  have hsecond : configNewVerifier threeByteCertificates withRevoked =
      .ok ⟨[1], [9], [], true, ⟨0, [], [], [], 0, []⟩⟩ := by decide +kernel
  have hadds : withCa.Adds withRevoked :=
    ⟨rfl, .inr rfl, .inl rfl, rfl, .inl rfl, .inl rfl, .inl rfl, .inl rfl, .inl ⟨rfl, rfl⟩⟩
  refine ⟨_, _, hfirst, hsecond, by decide +kernel, ?_⟩
  exact (added_restriction hadds (by decide) hfirst hsecond serverCertificate [] 1).1 (by decide) (by decide +kernel)

end Stranger

end OpenvpnConnect.Tls
