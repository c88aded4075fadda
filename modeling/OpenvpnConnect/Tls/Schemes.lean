import Mathlib.Data.List.Basic

namespace OpenvpnConnect.Tls

-- The schemes of rustls that are for the keys of this file, the legacy ones with SHA-1 among them. Every
-- other one is told apart by its code point only.
inductive SignatureScheme
  | RSA_PKCS1_SHA1
  | ECDSA_SHA1_Legacy
  | RSA_PKCS1_SHA256
  | ECDSA_NISTP256_SHA256
  | RSA_PKCS1_SHA384
  | ECDSA_NISTP384_SHA384
  | RSA_PKCS1_SHA512
  | ECDSA_NISTP521_SHA512
  | RSA_PSS_SHA256
  | RSA_PSS_SHA384
  | RSA_PSS_SHA512
  | ED25519
  | ED448
  | Other (code : { code : UInt16 // code ∉ ([0x0201, 0x0203, 0x0401, 0x0403, 0x0501, 0x0503, 0x0601, 0x0603,
      0x0804, 0x0805, 0x0806, 0x0807, 0x0808] : List UInt16) })
deriving DecidableEq, Repr

inductive SignatureAlgorithm
  | RSA
  | ECDSA
  | ED25519
  | ED448
deriving DecidableEq, Repr

inductive Curve
  | P256
  | P384
  | P521
deriving DecidableEq, Repr

-- The public key of a parsed certificate; x509-parser leaves the keys that it
-- does not know as they are, with the OID of their algorithm.
inductive PublicKey
  | RSA
  | EC (curve : Curve)
  | Unknown (oid : String)
deriving DecidableEq, Repr

def certificateSignatureAlgorithm : PublicKey → Except String SignatureAlgorithm
  | .RSA => .ok .RSA
  | .EC _ => .ok .ECDSA
  | .Unknown oid =>
      if oid = "1.3.101.112" then .ok .ED25519
      else if oid = "1.3.101.113" then .ok .ED448
      else .error ("unsupported external private key algorithm " ++ oid)

def preferredSchemes : SignatureAlgorithm → List SignatureScheme
  | .RSA => [.RSA_PSS_SHA256, .RSA_PSS_SHA384, .RSA_PSS_SHA512, .RSA_PKCS1_SHA256, .RSA_PKCS1_SHA384,
      .RSA_PKCS1_SHA512]
  | .ECDSA => [.ECDSA_NISTP256_SHA256, .ECDSA_NISTP384_SHA384, .ECDSA_NISTP521_SHA512]
  | .ED25519 => [.ED25519]
  | .ED448 => [.ED448]

section Signing

-- `γ` is the callback's type.
variable {γ : Type}

structure ExternalSigningKey (γ : Type) where
  context : Nat
  callback : γ
  algorithm : SignatureAlgorithm

structure ExternalSigner (γ : Type) where
  context : Nat
  callback : γ
  scheme : SignatureScheme

-- The part of config_new that is for an external key.
def configNewKey (certificate : PublicKey) (externalSignContext : Nat) (externalSign : γ) :
    Except String (ExternalSigningKey γ) := do
  let algorithm ← certificateSignatureAlgorithm certificate
  return ⟨externalSignContext, externalSign, algorithm⟩

def ExternalSigningKey.chooseScheme (key : ExternalSigningKey γ) (offered : List SignatureScheme) :
    Option (ExternalSigner γ) :=
  ((preferredSchemes key.algorithm).find? fun scheme => offered.contains scheme).map fun scheme =>
    ⟨key.context, key.callback, scheme⟩

-- The scheme that TLS 1.3 binds to a curve.
def Curve.scheme : Curve → SignatureScheme
  | .P256 => .ECDSA_NISTP256_SHA256
  | .P384 => .ECDSA_NISTP384_SHA384
  | .P521 => .ECDSA_NISTP521_SHA512

def SignatureScheme.algorithm : SignatureScheme → Option SignatureAlgorithm
  | .RSA_PKCS1_SHA1 | .RSA_PKCS1_SHA256 | .RSA_PKCS1_SHA384 | .RSA_PKCS1_SHA512 | .RSA_PSS_SHA256
  | .RSA_PSS_SHA384 | .RSA_PSS_SHA512 => some .RSA
  | .ECDSA_SHA1_Legacy | .ECDSA_NISTP256_SHA256 | .ECDSA_NISTP384_SHA384 | .ECDSA_NISTP521_SHA512 => some .ECDSA
  | .ED25519 => some .ED25519
  | .ED448 => some .ED448
  | .Other _ => none

def SignatureScheme.legacy : SignatureScheme → Bool
  | .RSA_PKCS1_SHA1 | .ECDSA_SHA1_Legacy => true
  | _ => false

-- Among the schemes of one algorithm the smaller is preferred: the PSS padding,
-- then the shorter hash, and SHA-1 last of all.
def SignatureScheme.rank : SignatureScheme → Nat
  | .RSA_PSS_SHA256 | .ECDSA_NISTP256_SHA256 | .ED25519 | .ED448 => 0
  | .RSA_PSS_SHA384 | .ECDSA_NISTP384_SHA384 => 1
  | .RSA_PSS_SHA512 | .ECDSA_NISTP521_SHA512 => 2
  | .RSA_PKCS1_SHA256 => 3
  | .RSA_PKCS1_SHA384 => 4
  | .RSA_PKCS1_SHA512 => 5
  | .RSA_PKCS1_SHA1 | .ECDSA_SHA1_Legacy => 6
  | .Other _ => 7

-- The algorithm that a key of a certificate signs with; the OIDs are those of
-- Ed25519 and Ed448.
inductive Signs : PublicKey → SignatureAlgorithm → Prop
  | RSA : Signs .RSA .RSA
  | EC (curve : Curve) : Signs (.EC curve) .ECDSA
  | Ed25519 : Signs (.Unknown "1.3.101.112") .ED25519
  | Ed448 : Signs (.Unknown "1.3.101.113") .ED448

-- The scheme is the most preferred of the algorithm's that are offered; there
-- is one whenever some scheme of the algorithm is offered.
def Chooses (algorithm : SignatureAlgorithm) (offered : List SignatureScheme) :
    Option SignatureScheme → Prop
  | some scheme => scheme ∈ offered ∧ scheme.algorithm = some algorithm ∧
      ∀ other ∈ offered, other.algorithm = some algorithm → other ≠ scheme → scheme.rank < other.rank
  | none => ∀ scheme ∈ offered, scheme.algorithm ≠ some algorithm

-- Where some scheme of the algorithm is offered, one that is not legacy is.
def Current (algorithm : SignatureAlgorithm) (offered : List SignatureScheme) : Prop :=
  (∃ scheme ∈ offered, scheme.algorithm = some algorithm) →
    ∃ scheme ∈ offered, scheme.algorithm = some algorithm ∧ scheme.legacy = false

theorem mem_preferredSchemes {scheme : SignatureScheme} {algorithm : SignatureAlgorithm} :
    scheme ∈ preferredSchemes algorithm ↔ scheme.algorithm = some algorithm ∧ scheme.legacy = false := by
  cases algorithm <;> cases scheme <;>
    simp [preferredSchemes, SignatureScheme.algorithm, SignatureScheme.legacy]

theorem preferredSchemes_sorted (algorithm : SignatureAlgorithm) :
    (preferredSchemes algorithm).Pairwise fun scheme other => scheme.rank < other.rank := by
  cases algorithm <;> decide

theorem rank_lt_legacy {scheme other : SignatureScheme} {algorithm : SignatureAlgorithm}
    (hscheme : scheme ∈ preferredSchemes algorithm) (hother : other.legacy = true) : scheme.rank < other.rank := by
  obtain ⟨halgorithm, hlegacy⟩ := mem_preferredSchemes.mp hscheme
  have hlast : other.rank = 6 := by
    cases other <;> first | rfl | cases hother
  rw [hlast]
  cases scheme with
  | RSA_PKCS1_SHA1 | ECDSA_SHA1_Legacy => cases hlegacy
  | Other code => cases halgorithm
  | _ => decide

theorem chooseScheme_some {key : ExternalSigningKey γ} {offered : List SignatureScheme} {signer : ExternalSigner γ}
    (hchosen : key.chooseScheme offered = some signer) :
    signer.scheme ∈ offered ∧ signer.scheme ∈ preferredSchemes key.algorithm := by
  obtain ⟨scheme, hfind, rfl⟩ := Option.map_eq_some_iff.mp hchosen
  exact ⟨List.contains_iff_mem.mp (List.find?_some hfind), List.mem_of_find?_eq_some hfind⟩

theorem chooseScheme_chooses_iff (key : ExternalSigningKey γ) (offered : List SignatureScheme) :
    Chooses key.algorithm offered ((key.chooseScheme offered).map ExternalSigner.scheme) ↔
      Current key.algorithm offered := by
  unfold ExternalSigningKey.chooseScheme
  cases hfind : (preferredSchemes key.algorithm).find? fun scheme => offered.contains scheme with
  | none =>
      have hnone : ∀ scheme ∈ offered, scheme.algorithm = some key.algorithm → scheme.legacy = true := by
        intro scheme hoffered halgorithm
        by_contra hlegacy
        have hnot := List.find?_eq_none.mp hfind scheme
          (mem_preferredSchemes.mpr ⟨halgorithm, Bool.eq_false_iff.mpr hlegacy⟩)
        exact hnot (List.contains_iff_mem.mpr hoffered)
      constructor
      · intro hchooses hsome
        obtain ⟨scheme, hoffered, halgorithm⟩ := hsome
        exact absurd halgorithm (hchooses scheme hoffered)
      · intro hcurrent scheme hoffered halgorithm
        obtain ⟨other, hother, hsame, hlegacy⟩ := hcurrent ⟨scheme, hoffered, halgorithm⟩
        rw [hnone other hother hsame] at hlegacy
        cases hlegacy
  | some scheme =>
      have hmem := List.mem_of_find?_eq_some hfind
      obtain ⟨halgorithm, hlegacy⟩ := mem_preferredSchemes.mp hmem
      obtain ⟨hcontains, before, after, hsplit, hbefore⟩ := List.find?_eq_some_iff_append.mp hfind
      have hoffered := List.contains_iff_mem.mp hcontains
      refine ⟨fun _ _ => ⟨scheme, hoffered, halgorithm, hlegacy⟩, fun _ => ⟨hoffered, halgorithm, ?_⟩⟩
      intro other hother hsame hne
      by_cases hold : other.legacy = true
      · exact rank_lt_legacy hmem hold
      · -- what is offered of the algorithm comes after the first that is found
        have hpreferred := mem_preferredSchemes.mpr ⟨hsame, Bool.eq_false_iff.mpr hold⟩
        have hsorted := preferredSchemes_sorted key.algorithm
        rw [hsplit] at hpreferred hsorted
        rcases List.mem_append.mp hpreferred with hfirst | hlater
        · have hnot := hbefore other hfirst
          rw [Bool.not_eq_true', ← Bool.not_eq_true, List.contains_iff_mem] at hnot
          exact absurd hother hnot
        · have hafter := (List.mem_cons.mp hlater).resolve_left hne
          exact List.rel_of_pairwise_cons (List.pairwise_append.mp hsorted).2.1 hafter

-- What is asked of the choice for the key of a certificate.
def Produces (certificate : PublicKey) (offered : List SignatureScheme) (chosen : Option SignatureScheme) : Prop :=
  match certificate with
  | .EC curve => chosen = if curve.scheme ∈ offered then some curve.scheme else none
  | key => ∃ algorithm, Signs key algorithm ∧ Chooses algorithm offered chosen

def Curve.smaller : Curve → List Curve
  | .P256 => []
  | .P384 => [.P256]
  | .P521 => [.P256, .P384]

def Curve.larger : Curve → List Curve
  | .P256 => [.P384, .P521]
  | .P384 => [.P521]
  | .P521 => []

-- For a key on a curve no scheme of a smaller curve is offered, and those of
-- larger curves only beside that of its own. For any other key the legacy
-- scheme of its algorithm is not the only one that is offered.
def Suits (certificate : PublicKey) (offered : List SignatureScheme) : Prop :=
  match certificate with
  | .EC curve => (∀ other ∈ curve.smaller, other.scheme ∉ offered) ∧
      (curve.scheme ∈ offered ∨ ∀ other ∈ curve.larger, other.scheme ∉ offered)
  | key => ∀ algorithm, Signs key algorithm → Current algorithm offered

theorem chosen_of_curve (curve : Curve) (key : ExternalSigningKey γ) (offered : List SignatureScheme)
    (halgorithm : key.algorithm = .ECDSA) :
    (key.chooseScheme offered).map ExternalSigner.scheme =
        (if curve.scheme ∈ offered then some curve.scheme else none) ↔
      Suits (.EC curve) offered := by
  have hmap : (key.chooseScheme offered).map ExternalSigner.scheme =
      [.ECDSA_NISTP256_SHA256, .ECDSA_NISTP384_SHA384, .ECDSA_NISTP521_SHA512].find? fun scheme =>
        offered.contains scheme := by
    simp [ExternalSigningKey.chooseScheme, halgorithm, preferredSchemes, Function.comp_def]
  rw [hmap]
  by_cases h256 : SignatureScheme.ECDSA_NISTP256_SHA256 ∈ offered <;>
    by_cases h384 : SignatureScheme.ECDSA_NISTP384_SHA384 ∈ offered <;>
    by_cases h521 : SignatureScheme.ECDSA_NISTP521_SHA512 ∈ offered <;>
    cases curve <;>
    simp [List.find?, h256, h384, h521, Suits, Curve.scheme, Curve.smaller, Curve.larger]

theorem certificateSignatureAlgorithm_iff {key : PublicKey} {algorithm : SignatureAlgorithm} :
    certificateSignatureAlgorithm key = .ok algorithm ↔ Signs key algorithm := by
  constructor
  · intro halgorithm
    cases key with
    | RSA =>
        obtain rfl := Except.ok.inj halgorithm
        exact .RSA
    | EC curve =>
        obtain rfl := Except.ok.inj halgorithm
        exact .EC curve
    | Unknown oid =>
        simp only [certificateSignatureAlgorithm] at halgorithm
        split at halgorithm
        · rename_i hoid
          obtain rfl := Except.ok.inj halgorithm
          rw [hoid]
          exact .Ed25519
        · split at halgorithm
          · rename_i hoid
            obtain rfl := Except.ok.inj halgorithm
            rw [hoid]
            exact .Ed448
          · cases halgorithm
  · intro hsigns
    cases hsigns with
    | RSA | EC | Ed25519 | Ed448 => rfl

theorem Signs.unique {key : PublicKey} {first second : SignatureAlgorithm} (hfirst : Signs key first)
    (hsecond : Signs key second) : first = second :=
  Except.ok.inj
    ((certificateSignatureAlgorithm_iff.mpr hfirst).symm.trans (certificateSignatureAlgorithm_iff.mpr hsecond))

-- The algorithm of the configured key is that of the certificate's.
theorem configNewKey_signs {certificate : PublicKey} {externalSignContext : Nat} {externalSign : γ}
    {key : ExternalSigningKey γ} (hkey : configNewKey certificate externalSignContext externalSign = .ok key) :
    Signs certificate key.algorithm := by
  apply certificateSignatureAlgorithm_iff.mp
  unfold configNewKey at hkey
  cases hresult : certificateSignatureAlgorithm certificate with
  | error error =>
      rw [hresult] at hkey
      cases hkey
  | ok algorithm =>
      rw [hresult] at hkey
      obtain rfl := Except.ok.inj hkey
      rfl

-- The choice for a key that is on no curve.
theorem chosen_of_algorithm {certificate : PublicKey} {key : ExternalSigningKey γ}
    (hsigns : Signs certificate key.algorithm) (offered : List SignatureScheme) :
    (∃ algorithm, Signs certificate algorithm ∧
        Chooses algorithm offered ((key.chooseScheme offered).map ExternalSigner.scheme)) ↔
      ∀ algorithm, Signs certificate algorithm → Current algorithm offered := by
  constructor
  · intro ⟨algorithm, hown, hchooses⟩ other hother
    obtain rfl := hown.unique hsigns
    obtain rfl := hother.unique hsigns
    exact (chooseScheme_chooses_iff key offered).mp hchooses
  · intro hcurrent
    exact ⟨_, hsigns, (chooseScheme_chooses_iff key offered).mpr (hcurrent _ hsigns)⟩

theorem choose_scheme_produces (certificate : PublicKey) (externalSignContext : Nat) (externalSign : γ)
    (key : ExternalSigningKey γ) (offered : List SignatureScheme)
    (hkey : configNewKey certificate externalSignContext externalSign = .ok key) :
    Produces certificate offered ((key.chooseScheme offered).map ExternalSigner.scheme) ↔
      Suits certificate offered := by
  have hsigns := configNewKey_signs hkey
  cases certificate with
  | EC curve =>
      obtain rfl := Except.ok.inj hkey
      exact chosen_of_curve curve _ offered rfl
  | RSA | Unknown oid => exact chosen_of_algorithm hsigns offered

theorem choose_scheme_produces_p256 : ∃ key : ExternalSigningKey Unit,
    configNewKey (.EC .P256) 0 () = .ok key ∧
      Produces (.EC .P256) [.ECDSA_NISTP384_SHA384, .ECDSA_NISTP256_SHA256]
        ((key.chooseScheme [.ECDSA_NISTP384_SHA384, .ECDSA_NISTP256_SHA256]).map ExternalSigner.scheme) :=
  ⟨⟨0, (), .ECDSA⟩, rfl, (choose_scheme_produces (.EC .P256) 0 () _ _ rfl).mpr
    ⟨fun _ hmem => (by cases hmem), .inl (by decide)⟩⟩

-- A P-384 key is asked for an ecdsa_secp256r1_sha256 signature, and an RSA key
-- for none where rsa_pkcs1_sha1 is all that is offered.
theorem scheme_of_other_curve :
    (∃ key : ExternalSigningKey Unit, configNewKey (.EC .P384) 0 () = .ok key ∧
      (key.chooseScheme [.ECDSA_NISTP384_SHA384, .ECDSA_NISTP256_SHA256]).map ExternalSigner.scheme =
        some .ECDSA_NISTP256_SHA256 ∧
      ¬Produces (.EC .P384) [.ECDSA_NISTP384_SHA384, .ECDSA_NISTP256_SHA256]
        ((key.chooseScheme [.ECDSA_NISTP384_SHA384, .ECDSA_NISTP256_SHA256]).map ExternalSigner.scheme)) ∧
    ∃ key : ExternalSigningKey Unit, configNewKey .RSA 0 () = .ok key ∧
      (key.chooseScheme [.RSA_PKCS1_SHA1]).map ExternalSigner.scheme = none ∧
      ¬Produces .RSA [.RSA_PKCS1_SHA1] ((key.chooseScheme [.RSA_PKCS1_SHA1]).map ExternalSigner.scheme) := by
  refine ⟨⟨⟨0, (), .ECDSA⟩, rfl, rfl, ?_⟩, ⟨0, (), .RSA⟩, rfl, rfl, ?_⟩
  · intro hproduces
    have hscheme : some SignatureScheme.ECDSA_NISTP256_SHA256 = some .ECDSA_NISTP384_SHA384 := hproduces
    cases hscheme
  · intro ⟨algorithm, hsigns, hchooses⟩
    cases hsigns
    exact hchooses .RSA_PKCS1_SHA1 (List.mem_singleton.mpr rfl) rfl

end Signing

end OpenvpnConnect.Tls
