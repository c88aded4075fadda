import OpenvpnConnect.Error
import OpenvpnConnect.Text
import Mathlib.Algebra.Group.Nat.Defs

namespace OpenvpnConnect.Tls

open Text

def NS_CERT_NONE : UInt32 := 0
def NS_CERT_CLIENT : UInt32 := 1
def NS_CERT_SERVER : UInt32 := 2
def VERIFY_X509_NONE : UInt32 := 0
def VERIFY_X509_SUBJECT_DN : UInt32 := 1
def VERIFY_X509_SUBJECT_RDN : UInt32 := 2
def VERIFY_X509_SUBJECT_RDN_PREFIX : UInt32 := 3

structure CertificatePolicy where
  nsCertType : UInt32
  keyUsages : List UInt32
  extendedKeyUsage : Str
  tlsRemote : Str
  verifyX509NameMode : UInt32
  verifyX509Name : Str
deriving DecidableEq, Repr

structure NsCertType where
  sslClient : Bool
  sslServer : Bool
deriving DecidableEq, Repr

-- `other` are the identifiers that x509-parser does not know, as OID strings.
structure ExtendedKeyUsage where
  any : Bool
  serverAuth : Bool
  clientAuth : Bool
  codeSigning : Bool
  emailProtection : Bool
  timeStamping : Bool
  ocspSigning : Bool
  other : List Str
deriving DecidableEq, Repr

-- A parsed certificate, as far as the policy looks at it. A common name that is
-- not a string is none; an extension that occurs twice is an error.
structure Certificate where
  commonNames : List (Option Str)
  subject : Str
  nsCertTypes : List NsCertType
  extendedKeyUsage : Except String (Option ExtendedKeyUsage)
  keyUsage : Except String (Option UInt16)

def CertificatePolicy.validate (policy : CertificatePolicy) : Except String Unit := do
  if ¬(policy.nsCertType = NS_CERT_NONE ∨ policy.nsCertType = NS_CERT_CLIENT ∨
      policy.nsCertType = NS_CERT_SERVER) then
    throw "invalid ns-cert-type value"
  if ¬(policy.verifyX509NameMode = VERIFY_X509_NONE ∨ policy.verifyX509NameMode = VERIFY_X509_SUBJECT_DN ∨
      policy.verifyX509NameMode = VERIFY_X509_SUBJECT_RDN ∨
      policy.verifyX509NameMode = VERIFY_X509_SUBJECT_RDN_PREFIX) then
    throw "invalid verify-x509-name mode"
  if policy.verifyX509NameMode ≠ VERIFY_X509_NONE ∧ policy.verifyX509Name = [] then
    throw "verify-x509-name value is empty"

def extendedKeyUsageMatches (usage : ExtendedKeyUsage) (expected : Str) : Bool :=
  let oneOf (name oid : String) := expected == name.toList || expected == oid.toList
  usage.any ||
    oneOf "TLS Web Server Authentication" "1.3.6.1.5.5.7.3.1" && usage.serverAuth ||
    oneOf "TLS Web Client Authentication" "1.3.6.1.5.5.7.3.2" && usage.clientAuth ||
    oneOf "Code Signing" "1.3.6.1.5.5.7.3.3" && usage.codeSigning ||
    oneOf "E-mail Protection" "1.3.6.1.5.5.7.3.4" && usage.emailProtection ||
    oneOf "Time Stamping" "1.3.6.1.5.5.7.3.8" && usage.timeStamping ||
    oneOf "OCSP Signing" "1.3.6.1.5.5.7.3.9" && usage.ocspSigning ||
    usage.other.any (· == expected)

-- Dashes are underscores as long as nothing else has come.
def sanitizeFrom (leadingDash : Bool) : Str → Str
  | [] => []
  | c :: rest =>
      if c = '-' ∧ leadingDash then '_' :: sanitizeFrom true rest
      else
        (if isAsciiAlphanumeric c ∨ c ∈ "_-.@:/=".toList then c else '_') :: sanitizeFrom false rest

def sanitizeX509Name (value : Str) : Str := sanitizeFrom true value

def sanitizeCommonName (value : Str) : Str :=
  value.map fun c => if isAsciiAlphanumeric c ∨ c ∈ "_-.@/".toList then c else '_'

-- The first common name, or nothing.
def Certificate.commonName (certificate : Certificate) : Str :=
  (certificate.commonNames.head?.join).getD []

-- The bits of a key usage in the order in which OpenSSL prints them.
def encodeKeyUsage (flags : UInt16) : UInt32 :=
  (List.range 8).foldl (fun encoded bit =>
    if flags.toNat.testBit bit then encoded ||| UInt32.ofNat (2 ^ (7 - bit)) else encoded) 0

def hexDigits (value : Nat) : String :=
  String.ofList ((Nat.toDigits 16 (value / 16 % 16)) ++ (Nat.toDigits 16 (value % 16)))

-- The checks of CertificatePolicy::verify, in their order.
def CertificatePolicy.verifyNsCertType (policy : CertificatePolicy) (certificate : Certificate) :
    Except String Unit := do
  if policy.nsCertType ≠ NS_CERT_NONE then
    let byType := certificate.nsCertTypes.any fun value =>
      policy.nsCertType == NS_CERT_SERVER && value.sslServer ||
        policy.nsCertType == NS_CERT_CLIENT && value.sslClient
    if !byType then
      let usage ← certificate.extendedKeyUsage
      let byUsage := usage.any fun value => value.any ||
        policy.nsCertType == NS_CERT_SERVER && value.serverAuth ||
        policy.nsCertType == NS_CERT_CLIENT && value.clientAuth
      if !byUsage then
        throw "peer certificate has the wrong ns-cert-type"

def CertificatePolicy.verifyKeyUsage (policy : CertificatePolicy) (certificate : Certificate) :
    Except String Unit := do
  if policy.keyUsages ≠ [] then
    match ← certificate.keyUsage with
    | none => throw "peer certificate has no key usage extension"
    | some flags =>
        if encodeKeyUsage flags ∉ policy.keyUsages then
          throw ("peer certificate key usage 0x" ++ hexDigits (encodeKeyUsage flags).toNat ++ " is not allowed")

def CertificatePolicy.verifyExtendedKeyUsage (policy : CertificatePolicy) (certificate : Certificate) :
    Except String Unit := do
  if policy.extendedKeyUsage ≠ [] then
    match ← certificate.extendedKeyUsage with
    | none => throw "peer certificate has no extended key usage extension"
    | some usage =>
        if !extendedKeyUsageMatches usage policy.extendedKeyUsage then
          throw ("peer certificate extended key usage does not include " ++
            String.ofList policy.extendedKeyUsage)

def CertificatePolicy.verifyName (policy : CertificatePolicy) (certificate : Certificate) :
    Except String Unit := do
  let verified :=
    if policy.verifyX509NameMode = VERIFY_X509_NONE then true
    else if policy.verifyX509NameMode = VERIFY_X509_SUBJECT_DN then
      policy.verifyX509Name == certificate.subject
    else if policy.verifyX509NameMode = VERIFY_X509_SUBJECT_RDN then
      policy.verifyX509Name == certificate.commonName
    else if policy.verifyX509NameMode = VERIFY_X509_SUBJECT_RDN_PREFIX then
      policy.verifyX509Name.isPrefixOf certificate.commonName
    else false
  if !verified then
    throw "verify-x509-name did not match the peer certificate"

def CertificatePolicy.verifyTlsRemote (policy : CertificatePolicy) (certificate : Certificate) :
    Except String Unit := do
  if policy.tlsRemote ≠ [] then
    let legacySubject := sanitizeX509Name
      ('/' :: replaceAll (replaceAll certificate.subject ", ".toList "/".toList) " + ".toList "+".toList)
    let legacyCommonName := sanitizeCommonName certificate.commonName
    if policy.tlsRemote ≠ legacySubject ∧ ¬policy.tlsRemote.isPrefixOf legacyCommonName then
      throw "tls-remote did not match the peer certificate"

-- `parse` is parse_x509_certificate on the certificate's DER.
def CertificatePolicy.verify {δ : Type} (parse : δ → Except String Certificate) (policy : CertificatePolicy)
    (der : δ) : Except String Unit := do
  let certificate ← parse der
  policy.verifyNsCertType certificate
  policy.verifyKeyUsage certificate
  policy.verifyExtendedKeyUsage certificate
  policy.verifyName certificate
  policy.verifyTlsRemote certificate

def parseKeyUsages (value : Str) : Except String (List UInt32) :=
  (((value.splitOn ',').map trim).filter fun part => !part.isEmpty).mapM fun part =>
    match fromStrRadix 10 (2 ^ 32 - 1) part with
    | .ok usage => .ok (UInt32.ofNat usage)
    | .error error => .error ("invalid remote-cert-ku value: " ++ error)

section Added

-- The restrictions of the second policy are those of the first, or are added
-- where the first has none.
structure CertificatePolicy.Adds (first second : CertificatePolicy) : Prop where
  nsCertType : second.nsCertType = first.nsCertType ∨ first.nsCertType = NS_CERT_NONE
  keyUsages : second.keyUsages = first.keyUsages ∨ first.keyUsages = []
  extendedKeyUsage : second.extendedKeyUsage = first.extendedKeyUsage ∨ first.extendedKeyUsage = []
  tlsRemote : second.tlsRemote = first.tlsRemote ∨ first.tlsRemote = []
  verifyX509Name : second.verifyX509NameMode = first.verifyX509NameMode ∧
    second.verifyX509Name = first.verifyX509Name ∨ first.verifyX509NameMode = VERIFY_X509_NONE

-- A policy with an added restriction accepts no certificate that the first refuses.
theorem CertificatePolicy.Adds.verify {δ : Type} {parse : δ → Except String Certificate}
    {first second : CertificatePolicy} {der : δ} (ha : first.Adds second)
    (hok : second.verify parse der = .ok ()) : first.verify parse der = .ok () := by
  simp only [CertificatePolicy.verify, bind_eq_ok] at hok ⊢
  obtain ⟨certificate, hparse, _, hns, _, hku, _, heku, _, hname, hremote⟩ := hok
  refine ⟨certificate, hparse, (), ?_, (), ?_, (), ?_, (), ?_, ?_⟩
  · rcases ha.nsCertType with he | hnone
    · rw [verifyNsCertType, ← he]
      exact hns
    · simp [verifyNsCertType, hnone]
      rfl
  · rcases ha.keyUsages with he | hnone
    · rw [verifyKeyUsage, ← he]
      exact hku
    · simp [verifyKeyUsage, hnone]
      rfl
  · rcases ha.extendedKeyUsage with he | hnone
    · rw [verifyExtendedKeyUsage, ← he]
      exact heku
    · simp [verifyExtendedKeyUsage, hnone]
      rfl
  · rcases ha.verifyX509Name with ⟨hmode, he⟩ | hnone
    · rw [verifyName, ← hmode, ← he]
      exact hname
    · simp [verifyName, hnone]
      rfl
  · rcases ha.tlsRemote with he | hnone
    · rw [verifyTlsRemote, ← he]
      exact hremote
    · simp [verifyTlsRemote, hnone]
      rfl

end Added

end OpenvpnConnect.Tls
