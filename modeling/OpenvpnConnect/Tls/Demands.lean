import OpenvpnConnect.Tls.Fingerprints
import OpenvpnConnect.Tls.KeyUsages

-- What a profile asks of a server's certificate, in words of its own.
namespace OpenvpnConnect.Tls

open Text

section Names

-- What verify-x509-name asks.
inductive NameCheck
  | Anything
  | Subject (name : Str)
  | CommonName (name : Str)
  | CommonNameStart (start : Str)
deriving DecidableEq, Repr

-- The first common name; one that is no string is empty, as is one that is missing.
def Certificate.firstName (certificate : Certificate) : Str :=
  match certificate.commonNames with
  | some name :: _ => name
  | _ => []

def NameCheck.Met (certificate : Certificate) : NameCheck → Prop
  | .Anything => True
  | .Subject name => name = certificate.subject
  | .CommonName name => name = certificate.firstName
  | .CommonNameStart start => start <+: certificate.firstName

-- Every other character than a letter, a digit and the given ones is an underscore.
def underscored (allowed : Str) (name : Str) : Str :=
  name.map fun c => if isAsciiAlphanumeric c = true ∨ c ∈ allowed then c else '_'

-- The subject on one line, its parts after slashes, as tls-remote takes it.
def Certificate.oneLine (certificate : Certificate) : Str :=
  underscored "_-.@:/=".toList
    ('/' :: replaceAll (replaceAll certificate.subject ", ".toList "/".toList) " + ".toList "+".toList)

end Names

section Usages

-- The certificate is for the purpose that ns-cert-type names, by Netscape's extension or by the usual one.
def Certificate.Purpose (certificate : Certificate) (nsCertType : UInt32) : Prop :=
  (∃ value ∈ certificate.nsCertTypes,
    nsCertType = NS_CERT_SERVER ∧ value.sslServer = true ∨ nsCertType = NS_CERT_CLIENT ∧ value.sslClient = true) ∨
  ∃ usage, certificate.extendedKeyUsage = .ok (some usage) ∧
    (usage.any = true ∨ nsCertType = NS_CERT_SERVER ∧ usage.serverAuth = true ∨
      nsCertType = NS_CERT_CLIENT ∧ usage.clientAuth = true)

-- One of the masks has exactly the bits of the certificate's extension, in OpenSSL's order.
def Certificate.UsedAs (certificate : Certificate) (masks : List UInt32) : Prop :=
  ∃ flags, certificate.keyUsage = .ok (some flags) ∧ ∃ mask ∈ masks,
    ∀ place, mask.toNat.testBit place = (decide (place ≤ 7) && flags.toNat.testBit (7 - place))

-- The usages that have a flag, with their names and object identifiers.
def ExtendedKeyUsage.flagged (usage : ExtendedKeyUsage) : List (Bool × Str × Str) :=
  [(usage.serverAuth, "TLS Web Server Authentication".toList, "1.3.6.1.5.5.7.3.1".toList),
    (usage.clientAuth, "TLS Web Client Authentication".toList, "1.3.6.1.5.5.7.3.2".toList),
    (usage.codeSigning, "Code Signing".toList, "1.3.6.1.5.5.7.3.3".toList),
    (usage.emailProtection, "E-mail Protection".toList, "1.3.6.1.5.5.7.3.4".toList),
    (usage.timeStamping, "Time Stamping".toList, "1.3.6.1.5.5.7.3.8".toList),
    (usage.ocspSigning, "OCSP Signing".toList, "1.3.6.1.5.5.7.3.9".toList)]

-- A usage is asked for by its name or its identifier.
def ExtendedKeyUsage.Includes (usage : ExtendedKeyUsage) (expected : Str) : Prop :=
  usage.any = true ∨
    (∃ entry ∈ usage.flagged, entry.1 = true ∧ (expected = entry.2.1 ∨ expected = entry.2.2)) ∨
    expected ∈ usage.other

end Usages

-- What is asked of a certificate.
structure Demands where
  nsCertType : UInt32
  keyUsages : List UInt32
  extendedKeyUsage : Str
  name : NameCheck
  tlsRemote : Str

structure Demands.Met (demands : Demands) (certificate : Certificate) : Prop where
  nsCertType : demands.nsCertType = NS_CERT_NONE ∨ certificate.Purpose demands.nsCertType
  keyUsages : demands.keyUsages = [] ∨ certificate.UsedAs demands.keyUsages
  extendedKeyUsage : demands.extendedKeyUsage = [] ∨
    ∃ usage, certificate.extendedKeyUsage = .ok (some usage) ∧ usage.Includes demands.extendedKeyUsage
  name : demands.name.Met certificate
  tlsRemote : demands.tlsRemote = [] ∨ demands.tlsRemote = certificate.oneLine ∨
    demands.tlsRemote <+: underscored "_-.@/".toList certificate.firstName

section Policy

variable {policy : CertificatePolicy} {certificate : Certificate}

-- The check that the number of a mode stands for.
def nameCheck (mode : UInt32) (name : Str) : NameCheck :=
  if mode = VERIFY_X509_SUBJECT_DN then .Subject name
  else if mode = VERIFY_X509_SUBJECT_RDN then .CommonName name
  else if mode = VERIFY_X509_SUBJECT_RDN_PREFIX then .CommonNameStart name
  else .Anything

def CertificatePolicy.demands (policy : CertificatePolicy) : Demands where
  nsCertType := policy.nsCertType
  keyUsages := policy.keyUsages
  extendedKeyUsage := policy.extendedKeyUsage
  name := nameCheck policy.verifyX509NameMode policy.verifyX509Name
  tlsRemote := policy.tlsRemote

theorem commonName_firstName (certificate : Certificate) : certificate.commonName = certificate.firstName := by
  unfold Certificate.commonName Certificate.firstName
  match certificate.commonNames with
  | [] => rfl
  | none :: _ => rfl
  | some _ :: _ => rfl

-- Behind a slash no dash is a leading one.
theorem sanitizeX509Name_slash (rest : Str) :
    sanitizeX509Name ('/' :: rest) = underscored "_-.@:/=".toList ('/' :: rest) := by
  have hplain : ∀ name : Str, sanitizeFrom false name = underscored "_-.@:/=".toList name := by
    intro name
    induction name with
    | nil => rfl
    | cons c name ih =>
        rw [sanitizeFrom, if_neg (fun h => Bool.false_ne_true h.2), ih]
        rfl
  have hslash : ¬('/' = '-' ∧ true = true) := by decide
  rw [sanitizeX509Name, sanitizeFrom, if_neg hslash, hplain]
  rfl

theorem sanitizeCommonName_underscored (name : Str) :
    sanitizeCommonName name = underscored "_-.@/".toList name := rfl

theorem extendedKeyUsageMatches_iff {usage : ExtendedKeyUsage} {expected : Str} :
    extendedKeyUsageMatches usage expected = true ↔ usage.Includes expected := by
  have hother : (usage.other.any (· == expected)) = true ↔ expected ∈ usage.other := by
    simp only [List.any_eq_true, beq_iff_eq, exists_eq_right]
  unfold extendedKeyUsageMatches ExtendedKeyUsage.Includes ExtendedKeyUsage.flagged
  simp only [List.exists_mem_cons_iff, List.not_mem_nil, false_and, exists_false, or_false, Bool.or_eq_true,
    Bool.and_eq_true, beq_iff_eq, hother, or_assoc]
  simp only [and_comm]

theorem refused_if {condition : Prop} [Decidable condition] {error : String} :
    (if condition then throw error else pure () : Except String Unit) = .ok () ↔ ¬condition := by
  by_cases hcondition : condition
  · rw [if_pos hcondition]
    exact ⟨nofun, fun h => absurd hcondition h⟩
  · rw [if_neg hcondition]
    exact ⟨fun _ => hcondition, fun _ => rfl⟩

theorem verifyNsCertType_ok : policy.verifyNsCertType certificate = .ok () ↔
    policy.nsCertType = NS_CERT_NONE ∨ certificate.Purpose policy.nsCertType := by
  unfold CertificatePolicy.verifyNsCertType Certificate.Purpose
  by_cases hnone : policy.nsCertType = NS_CERT_NONE
  · rw [if_neg (not_not_intro hnone)]
    exact ⟨fun _ => .inl hnone, fun _ => rfl⟩
  · rw [if_pos hnone]
    have htypes : (certificate.nsCertTypes.any fun value =>
        policy.nsCertType == NS_CERT_SERVER && value.sslServer ||
          policy.nsCertType == NS_CERT_CLIENT && value.sslClient) = true ↔
        ∃ value ∈ certificate.nsCertTypes, policy.nsCertType = NS_CERT_SERVER ∧ value.sslServer = true ∨
          policy.nsCertType = NS_CERT_CLIENT ∧ value.sslClient = true := by
      simp only [List.any_eq_true, Bool.or_eq_true, Bool.and_eq_true, beq_iff_eq]
    by_cases htype : (certificate.nsCertTypes.any fun value =>
        policy.nsCertType == NS_CERT_SERVER && value.sslServer ||
          policy.nsCertType == NS_CERT_CLIENT && value.sslClient) = true
    · rw [htype]
      exact ⟨fun _ => .inr (.inl (htypes.mp htype)), fun _ => rfl⟩
    · rw [Bool.eq_false_iff.mpr htype]
      simp only [hnone, mt htypes.mpr htype, false_or]
      cases husage : certificate.extendedKeyUsage with
      | error error => exact ⟨nofun, fun ⟨_, herror, _⟩ => nomatch herror⟩
      | ok usage =>
          show (if _ then throw _ else pure () : Except String Unit) = _ ↔ _
          rw [refused_if]
          cases usage with
          | none => simp
          | some usage =>
              rw [Bool.not_eq_true', Bool.not_eq_false, Option.any_some]
              simp [or_assoc]

theorem verifyKeyUsage_usedAs : policy.verifyKeyUsage certificate = .ok () ↔
    policy.keyUsages = [] ∨ certificate.UsedAs policy.keyUsages := by
  rw [verifyKeyUsage_ok]
  unfold Certificate.UsedAs
  simp only [← encodeKeyUsage_eq_iff, exists_eq_right']

theorem verifyExtendedKeyUsage_ok : policy.verifyExtendedKeyUsage certificate = .ok () ↔
    policy.extendedKeyUsage = [] ∨
      ∃ usage, certificate.extendedKeyUsage = .ok (some usage) ∧ usage.Includes policy.extendedKeyUsage := by
  unfold CertificatePolicy.verifyExtendedKeyUsage
  by_cases hnone : policy.extendedKeyUsage = []
  · rw [if_neg (not_not_intro hnone)]
    exact ⟨fun _ => .inl hnone, fun _ => rfl⟩
  · rw [if_pos hnone]
    simp only [hnone, false_or, ← extendedKeyUsageMatches_iff]
    cases husage : certificate.extendedKeyUsage with
    | error error => exact ⟨nofun, fun ⟨_, herror, _⟩ => nomatch herror⟩
    | ok usage =>
        cases usage with
        | none => exact ⟨nofun, fun ⟨_, hsome, _⟩ => nomatch hsome⟩
        | some usage =>
            show (if _ then throw _ else pure () : Except String Unit) = _ ↔ _
            rw [refused_if]
            simp

theorem verifyName_met (hok : policy.verifyName certificate = .ok ()) : policy.demands.name.Met certificate := by
  unfold CertificatePolicy.verifyName at hok
  replace hok := refused_if.mp hok
  rw [commonName_firstName] at hok
  show NameCheck.Met certificate (nameCheck policy.verifyX509NameMode policy.verifyX509Name)
  unfold nameCheck
  by_cases hsubject : policy.verifyX509NameMode = VERIFY_X509_SUBJECT_DN
  · rw [hsubject] at hok
    rw [if_pos hsubject]
    simpa [VERIFY_X509_NONE, VERIFY_X509_SUBJECT_DN, NameCheck.Met] using hok
  · rw [if_neg hsubject]
    by_cases hname : policy.verifyX509NameMode = VERIFY_X509_SUBJECT_RDN
    · rw [hname] at hok
      rw [if_pos hname]
      simpa [VERIFY_X509_NONE, VERIFY_X509_SUBJECT_DN, VERIFY_X509_SUBJECT_RDN, NameCheck.Met] using hok
    · rw [if_neg hname]
      by_cases hstart : policy.verifyX509NameMode = VERIFY_X509_SUBJECT_RDN_PREFIX
      · rw [hstart] at hok
        rw [if_pos hstart]
        simpa [VERIFY_X509_NONE, VERIFY_X509_SUBJECT_DN, VERIFY_X509_SUBJECT_RDN, VERIFY_X509_SUBJECT_RDN_PREFIX,
          NameCheck.Met] using hok
      · rw [if_neg hstart]
        trivial

theorem verifyTlsRemote_ok : policy.verifyTlsRemote certificate = .ok () ↔
    policy.tlsRemote = [] ∨ policy.tlsRemote = certificate.oneLine ∨
      policy.tlsRemote <+: underscored "_-.@/".toList certificate.firstName := by
  unfold CertificatePolicy.verifyTlsRemote Certificate.oneLine
  by_cases hnone : policy.tlsRemote = []
  · rw [if_neg (not_not_intro hnone)]
    exact ⟨fun _ => .inl hnone, fun _ => rfl⟩
  · rw [if_pos hnone]
    show (if _ then throw _ else pure () : Except String Unit) = _ ↔ _
    rw [refused_if]
    simp only [hnone, false_or, List.isPrefixOf_iff_prefix, not_and, not_not, sanitizeX509Name_slash,
      sanitizeCommonName_underscored, commonName_firstName]
    exact Classical.or_iff_not_imp_left.symm

-- The policy accepts no certificate that does not meet its demands.
theorem verify_met {δ : Type} {parse : δ → Except String Certificate} {der : δ}
    (hok : policy.verify parse der = .ok ()) :
    ∃ certificate, parse der = .ok certificate ∧ policy.demands.Met certificate := by
  simp only [CertificatePolicy.verify, bind_eq_ok] at hok
  obtain ⟨certificate, hparse, _, hns, _, hku, _, heku, _, hname, hremote⟩ := hok
  exact ⟨certificate, hparse, verifyNsCertType_ok.mp hns, verifyKeyUsage_usedAs.mp hku,
    verifyExtendedKeyUsage_ok.mp heku, verifyName_met hname, verifyTlsRemote_ok.mp hremote⟩

end Policy

section Material

variable {α β δ γ ρ κ ε τ : Type}

-- The values of a text: none where it is empty, else one for each part that is read out of it.
def Holds (parse : List UInt8 → Except String (List α)) (convert : α → Except String β) (text : List UInt8)
    (values : List β) : Prop :=
  text = [] ∧ values = [] ∨
    text ≠ [] ∧ ∃ parts, parse text = .ok parts ∧
      List.Forall₂ (fun part value => convert part = .ok value) parts values

theorem holds_parts {parse : List UInt8 → Except String (List α)} {convert : α → Except String β}
    {context : String} {text : List UInt8} {values : List β}
    (hok : ((if text = [] then .ok [] else parse text) >>= fun parts =>
      parts.mapM fun part => mapErr context (convert part)) = .ok values) :
    Holds parse convert text values := by
  obtain ⟨parts, hparts, hvalues⟩ := bind_eq_ok.mp hok
  have hall : List.Forall₂ (fun part value => convert part = .ok value) parts values :=
    (mapM_eq_ok.mp hvalues).imp fun _ _ => mapErr_ok.mp
  by_cases hempty : text = []
  · rw [if_pos hempty] at hparts
    obtain rfl := Except.ok.inj hparts
    exact .inl ⟨hempty, List.forall₂_nil_left_iff.mp hall⟩
  · rw [if_neg hempty] at hparts
    exact .inr ⟨hempty, parts, hparts, hall⟩

variable {webpki : WebPki δ γ ρ κ ε τ}

theorem parseCertificates_holds {text : List UInt8} {certs : List δ}
    (hok : parseCertificates webpki text = .ok certs) : Holds webpki.pemCertificates .ok text certs := by
  by_cases hempty : text = []
  · rw [parseCertificates, if_pos hempty] at hok
    exact .inl ⟨hempty, (Except.ok.inj hok).symm⟩
  · rw [parseCertificates, if_neg hempty] at hok
    exact .inr ⟨hempty, certs, hok, List.forall₂_same.mpr fun _ _ => rfl⟩

theorem rootStore_holds {ca : List UInt8} {roots : List ρ} (hok : rootStore webpki ca = .ok roots) :
    Holds webpki.pemCertificates webpki.trustAnchor ca roots := holds_parts hok

theorem revocationLists_holds {crl : List UInt8} {lists : List κ}
    (hok : revocationLists webpki crl = .ok lists) :
    Holds webpki.pemCrls webpki.revocationList crl lists := holds_parts hok

theorem revocation_eq (crls : List κ) : revocation crls = if crls.isEmpty then none else some crls := by
  cases crls <;> rfl

end Material

end OpenvpnConnect.Tls
