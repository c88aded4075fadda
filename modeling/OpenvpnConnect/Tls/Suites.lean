import OpenvpnConnect.Text

namespace OpenvpnConnect.Tls

open Text

-- The suites that rustls implements, by their enum identifiers.
inductive CipherSuite
  | TLS13_AES_128_GCM_SHA256
  | TLS13_AES_256_GCM_SHA384
  | TLS13_CHACHA20_POLY1305_SHA256
  | TLS_ECDHE_RSA_WITH_AES_128_GCM_SHA256
  | TLS_ECDHE_RSA_WITH_AES_256_GCM_SHA384
  | TLS_ECDHE_RSA_WITH_CHACHA20_POLY1305_SHA256
  | TLS_ECDHE_ECDSA_WITH_AES_128_GCM_SHA256
  | TLS_ECDHE_ECDSA_WITH_AES_256_GCM_SHA384
  | TLS_ECDHE_ECDSA_WITH_CHACHA20_POLY1305_SHA256
deriving DecidableEq, Repr

inductive ProtocolVersion
  | TLSv1_2
  | TLSv1_3
deriving DecidableEq, Repr

inductive NamedGroup
  | X25519
  | Secp256r1
  | Secp384r1
deriving DecidableEq, Repr

def CipherSuite.version : CipherSuite → ProtocolVersion
  | .TLS13_AES_128_GCM_SHA256 | .TLS13_AES_256_GCM_SHA384 | .TLS13_CHACHA20_POLY1305_SHA256 => .TLSv1_3
  | _ => .TLSv1_2

-- The Debug text of a suite is its identifier.
def CipherSuite.debug : CipherSuite → Str
  | .TLS13_AES_128_GCM_SHA256 => "TLS13_AES_128_GCM_SHA256".toList
  | .TLS13_AES_256_GCM_SHA384 => "TLS13_AES_256_GCM_SHA384".toList
  | .TLS13_CHACHA20_POLY1305_SHA256 => "TLS13_CHACHA20_POLY1305_SHA256".toList
  | .TLS_ECDHE_RSA_WITH_AES_128_GCM_SHA256 => "TLS_ECDHE_RSA_WITH_AES_128_GCM_SHA256".toList
  | .TLS_ECDHE_RSA_WITH_AES_256_GCM_SHA384 => "TLS_ECDHE_RSA_WITH_AES_256_GCM_SHA384".toList
  | .TLS_ECDHE_RSA_WITH_CHACHA20_POLY1305_SHA256 => "TLS_ECDHE_RSA_WITH_CHACHA20_POLY1305_SHA256".toList
  | .TLS_ECDHE_ECDSA_WITH_AES_128_GCM_SHA256 => "TLS_ECDHE_ECDSA_WITH_AES_128_GCM_SHA256".toList
  | .TLS_ECDHE_ECDSA_WITH_AES_256_GCM_SHA384 => "TLS_ECDHE_ECDSA_WITH_AES_256_GCM_SHA384".toList
  | .TLS_ECDHE_ECDSA_WITH_CHACHA20_POLY1305_SHA256 =>
      "TLS_ECDHE_ECDSA_WITH_CHACHA20_POLY1305_SHA256".toList

structure CryptoProvider where
  cipherSuites : List CipherSuite
  kxGroups : List NamedGroup
deriving DecidableEq, Repr

def selectorNames (value : Str) : List Str :=
  (((value.splitOn ':').map trim).filter fun name => !name.isEmpty).map fun name =>
    replace (toAsciiUppercase name) '-' '_'

def cipherSuiteMatches (suite : CipherSuite) (name : Str) : Bool :=
  if suite.debug = name then true
  else
    match suite with
    | .TLS_ECDHE_RSA_WITH_AES_128_GCM_SHA256 => name == "ECDHE_RSA_AES128_GCM_SHA256".toList
    | .TLS_ECDHE_RSA_WITH_AES_256_GCM_SHA384 => name == "ECDHE_RSA_AES256_GCM_SHA384".toList
    | .TLS_ECDHE_ECDSA_WITH_AES_128_GCM_SHA256 => name == "ECDHE_ECDSA_AES128_GCM_SHA256".toList
    | .TLS_ECDHE_ECDSA_WITH_AES_256_GCM_SHA384 => name == "ECDHE_ECDSA_AES256_GCM_SHA384".toList
    | .TLS_ECDHE_RSA_WITH_CHACHA20_POLY1305_SHA256 => name == "ECDHE_RSA_CHACHA20_POLY1305".toList
    | .TLS_ECDHE_ECDSA_WITH_CHACHA20_POLY1305_SHA256 => name == "ECDHE_ECDSA_CHACHA20_POLY1305".toList
    | _ => false

def keyExchangeGroupMatches (group : NamedGroup) (name : Str) : Bool :=
  match group with
  | .X25519 => name == "X25519".toList
  | .Secp256r1 => name == "SECP256R1".toList || name == "PRIME256V1".toList || name == "P_256".toList
  | .Secp384r1 => name == "SECP384R1".toList || name == "P_384".toList

-- A list of names restricts unless it is empty or contains DEFAULT.
def restricts (names : List Str) : Bool :=
  !names.isEmpty && !names.any fun name => name == "DEFAULT".toList

-- The suites of the other version are not touched.
def retainNamed (names : List Str) (other : ProtocolVersion) (suites : List CipherSuite) :
    List CipherSuite :=
  if restricts names then
    suites.filter fun suite => suite.version == other || names.any (cipherSuiteMatches suite)
  else suites

def configureProvider (provider : CryptoProvider) (tls12 tls13 groups : Str) :
    Except String CryptoProvider := do
  let tls12Names := selectorNames tls12
  let tls13Names := selectorNames tls13
  let suites := retainNamed tls13Names .TLSv1_2 (retainNamed tls12Names .TLSv1_3 provider.cipherSuites)
  if suites.isEmpty then
    throw "configured TLS cipher lists contain no rustls-supported suites"
  let groupNames := selectorNames groups
  if restricts groupNames then
    let kept := provider.kxGroups.filter fun group => groupNames.any (keyExchangeGroupMatches group)
    if kept.isEmpty then
      throw "configured tls-groups contains no rustls-supported group"
    return ⟨suites, kept⟩
  return ⟨suites, provider.kxGroups⟩

section Selection

-- The name of a suite in the IANA registry.
def CipherSuite.standardName : CipherSuite → Str
  | .TLS13_AES_128_GCM_SHA256 => "TLS_AES_128_GCM_SHA256".toList
  | .TLS13_AES_256_GCM_SHA384 => "TLS_AES_256_GCM_SHA384".toList
  | .TLS13_CHACHA20_POLY1305_SHA256 => "TLS_CHACHA20_POLY1305_SHA256".toList
  | suite => suite.debug

-- The name of a suite in OpenSSL, where TLS 1.3 has no names of its own.
def CipherSuite.opensslName : CipherSuite → Str
  | .TLS_ECDHE_RSA_WITH_AES_128_GCM_SHA256 => "ECDHE-RSA-AES128-GCM-SHA256".toList
  | .TLS_ECDHE_RSA_WITH_AES_256_GCM_SHA384 => "ECDHE-RSA-AES256-GCM-SHA384".toList
  | .TLS_ECDHE_RSA_WITH_CHACHA20_POLY1305_SHA256 => "ECDHE-RSA-CHACHA20-POLY1305".toList
  | .TLS_ECDHE_ECDSA_WITH_AES_128_GCM_SHA256 => "ECDHE-ECDSA-AES128-GCM-SHA256".toList
  | .TLS_ECDHE_ECDSA_WITH_AES_256_GCM_SHA384 => "ECDHE-ECDSA-AES256-GCM-SHA384".toList
  | .TLS_ECDHE_ECDSA_WITH_CHACHA20_POLY1305_SHA256 => "ECDHE-ECDSA-CHACHA20-POLY1305".toList
  | suite => suite.standardName

-- Upper and lower case are one, and so are '-' and '_'.
def fold (c : Char) : Char :=
  let upper := if 'a' ≤ c ∧ c ≤ 'z' then c.toUpper else c
  if upper = '-' then '_' else upper

-- An entry of the list is the name, whatever stands around it.
def lists (value name : Str) : Bool :=
  (value.splitOn ':').any fun entry => (trim entry).map fold == name.map fold

def unrestricted (value : Str) : Bool :=
  ((value.splitOn ':').all fun entry => (trim entry).isEmpty) || lists value "DEFAULT".toList

-- What tls-cipher and tls-ciphersuites ask for.
def selected (tls12 tls13 : Str) (suite : CipherSuite) : Bool :=
  match suite.version with
  | .TLSv1_2 => unrestricted tls12 || lists tls12 suite.standardName || lists tls12 suite.opensslName
  | .TLSv1_3 => unrestricted tls13 || lists tls13 suite.standardName

theorem replace_upper (value : Str) : replace (toAsciiUppercase value) '-' '_' = value.map fold := by
  simp [replace, toAsciiUppercase, fold, Function.comp_def]

theorem toNat_toUpper {c : Char} (hlower : 'a' ≤ c ∧ c ≤ 'z') : c.toUpper.toNat + 32 = c.toNat := by
  have hbounds : 'a'.val ≤ c.val ∧ c.val ≤ 'z'.val := hlower
  have hlow : 97 ≤ c.val.toNat := UInt32.le_iff_toNat_le.mp hlower.1
  have hhigh : c.val.toNat ≤ 122 := UInt32.le_iff_toNat_le.mp hlower.2
  have hvalue : c.toUpper.val = c.val + ('A'.val - 'a'.val) := by
    unfold Char.toUpper
    rw [dif_pos hbounds]
  have hsum : c.toUpper.val.toNat = (c.val.toNat + 4294967264) % 4294967296 := by
    rw [hvalue, UInt32.toNat_add]
    rfl
  show c.toUpper.val.toNat + 32 = c.val.toNat
  omega

theorem fold_fold (c : Char) : fold (fold c) = fold c := by
  unfold fold
  dsimp only
  by_cases hlower : 'a' ≤ c ∧ c ≤ 'z'
  · have hupper := toNat_toUpper hlower
    have hlow : 97 ≤ c.toNat := UInt32.le_iff_toNat_le.mp hlower.1
    have hhigh : c.toNat ≤ 122 := UInt32.le_iff_toNat_le.mp hlower.2
    have hsame : ¬('a' ≤ c.toUpper ∧ c.toUpper ≤ 'z') := by
      rintro ⟨habove, _⟩
      have hnumber : 97 ≤ c.toUpper.toNat := UInt32.le_iff_toNat_le.mp habove
      omega
    have hletter : c.toUpper ≠ '-' := by
      intro hdash
      have hnumber : c.toUpper.toNat = 45 := congrArg Char.toNat hdash
      omega
    rw [if_pos hlower, if_neg hletter, if_neg hsame, if_neg hletter]
  · rw [if_neg hlower]
    by_cases hdash : c = '-'
    · subst hdash
      decide
    · rw [if_neg hdash, if_neg hlower, if_neg hdash]

theorem map_fold_fold (value : Str) : (value.map fold).map fold = value.map fold := by
  rw [List.map_map]
  exact List.map_congr_left fun c _ => fold_fold c

theorem mem_selectorNames {value name : Str} (hname : name.map fold = name) (hne : name ≠ []) :
    name ∈ selectorNames value ↔ lists value name := by
  simp only [selectorNames, List.mem_map, List.mem_filter, replace_upper, lists, List.any_eq_true,
    beq_iff_eq, hname]
  constructor
  · rintro ⟨trimmed, ⟨⟨entry, hentry, rfl⟩, -⟩, he⟩
    exact ⟨entry, hentry, he⟩
  · rintro ⟨entry, hentry, he⟩
    refine ⟨trim entry, ⟨⟨entry, hentry, rfl⟩, ?_⟩, he⟩
    cases htrim : trim entry with
    | nil =>
        rw [htrim] at he
        exact absurd he.symm hne
    | cons => rfl

theorem selectorNames_isEmpty (value : Str) :
    (selectorNames value).isEmpty = (value.splitOn ':').all fun entry => (trim entry).isEmpty := by
  rw [Bool.eq_iff_iff]
  simp [selectorNames, List.filter_eq_nil_iff]

theorem restricts_selectorNames (value : Str) : restricts (selectorNames value) = !unrestricted value := by
  have hdefault : (selectorNames value).any (fun name => name == "DEFAULT".toList) =
      lists value "DEFAULT".toList := by
    rw [Bool.eq_iff_iff, ← mem_selectorNames (by decide) (by decide)]
    simp
  rw [restricts, unrestricted, selectorNames_isEmpty, hdefault, Bool.not_or]

-- A name matches a TLS 1.2 suite by either of its names, a TLS 1.3 suite by its
-- identifier alone.
theorem cipherSuiteMatches_eq (suite : CipherSuite) (name : Str) :
    cipherSuiteMatches suite name =
      (name == suite.debug || (suite.version == .TLSv1_2 && name == suite.opensslName.map fold)) := by
  unfold cipherSuiteMatches
  by_cases he : suite.debug = name
  · subst he
    rw [if_pos rfl, beq_self_eq_true, Bool.true_or]
  · have hne : (name == suite.debug) = false := beq_false_of_ne (Ne.symm he)
    rw [if_neg he, hne, Bool.false_or]
    cases suite with
    | TLS13_AES_128_GCM_SHA256 | TLS13_AES_256_GCM_SHA384 | TLS13_CHACHA20_POLY1305_SHA256 => rfl
    | _ => rfl

theorem any_matches (suite : CipherSuite) (value : Str) :
    (selectorNames value).any (cipherSuiteMatches suite) =
      (lists value suite.debug || (suite.version == .TLSv1_2 && lists value suite.opensslName)) := by
  have hdebug : suite.debug ∈ selectorNames value ↔ lists value suite.debug :=
    mem_selectorNames (by cases suite <;> decide) (by cases suite <;> decide)
  have hopenssl : suite.opensslName.map fold ∈ selectorNames value ↔ lists value suite.opensslName := by
    have hfold := map_fold_fold suite.opensslName
    rw [mem_selectorNames hfold (by cases suite <;> decide), lists, lists, hfold]
  rw [Bool.eq_iff_iff, List.any_eq_true, Bool.or_eq_true, Bool.and_eq_true, ← hdebug, ← hopenssl]
  constructor
  · rintro ⟨name, hmem, hmatch⟩
    rw [cipherSuiteMatches_eq, Bool.or_eq_true, Bool.and_eq_true] at hmatch
    rcases hmatch with he | ⟨hversion, he⟩
    · exact .inl (eq_of_beq he ▸ hmem)
    · exact .inr ⟨hversion, eq_of_beq he ▸ hmem⟩
  · rintro (hmem | ⟨hversion, hmem⟩)
    · exact ⟨_, hmem, by simp [cipherSuiteMatches_eq]⟩
    · exact ⟨_, hmem, by simp [cipherSuiteMatches_eq, hversion]⟩

-- What the two filters keep.
def kept (tls12 tls13 : Str) (suite : CipherSuite) : Bool :=
  match suite.version with
  | .TLSv1_2 => selected tls12 tls13 suite
  | .TLSv1_3 => unrestricted tls13 || lists tls13 suite.debug

theorem retainNamed_eq (value : Str) (other : ProtocolVersion) (suites : List CipherSuite) :
    retainNamed (selectorNames value) other suites = suites.filter fun suite =>
      unrestricted value || suite.version == other ||
        (lists value suite.debug || (suite.version == .TLSv1_2 && lists value suite.opensslName)) := by
  unfold retainNamed
  rw [restricts_selectorNames]
  cases hall : unrestricted value with
  | true => simp
  | false => simp [any_matches]

theorem standardName_eq_debug {suite : CipherSuite} (hversion : suite.version = .TLSv1_2) :
    suite.standardName = suite.debug := by
  cases suite with
  | TLS13_AES_128_GCM_SHA256 | TLS13_AES_256_GCM_SHA384 | TLS13_CHACHA20_POLY1305_SHA256 => cases hversion
  | _ => rfl

theorem retain_kept (tls12 tls13 : Str) (suites : List CipherSuite) :
    retainNamed (selectorNames tls13) .TLSv1_2 (retainNamed (selectorNames tls12) .TLSv1_3 suites) =
      suites.filter (kept tls12 tls13) := by
  rw [retainNamed_eq, retainNamed_eq, List.filter_filter]
  apply List.filter_congr
  intro suite _
  cases hversion : suite.version with
  | TLSv1_2 =>
      have hname := standardName_eq_debug hversion
      have hother : (ProtocolVersion.TLSv1_2 == .TLSv1_3) = false := rfl
      simp [kept, selected, hversion, hname, hother, Bool.or_assoc]
  | TLSv1_3 =>
      have hother : (ProtocolVersion.TLSv1_3 == .TLSv1_2) = false := rfl
      simp [kept, hversion, hother]

-- The suites that are left are those that are asked for, and there is an error
-- for the two lists exactly where none is left.
def Selects (provider : CryptoProvider) (tls12 tls13 : Str) : Prop :=
  ∀ groups, (∀ after, configureProvider provider tls12 tls13 groups = .ok after →
      after.cipherSuites = provider.cipherSuites.filter (selected tls12 tls13)) ∧
    (configureProvider provider tls12 tls13 groups =
        .error "configured TLS cipher lists contain no rustls-supported suites" ↔
      provider.cipherSuites.filter (selected tls12 tls13) = [])

theorem configureProvider_empty {provider : CryptoProvider} {tls12 tls13 : Str} (groups : Str)
    (hnone : provider.cipherSuites.filter (kept tls12 tls13) = []) :
    configureProvider provider tls12 tls13 groups =
      .error "configured TLS cipher lists contain no rustls-supported suites" := by
  simp only [configureProvider, retain_kept, hnone]
  rfl

-- With some suite left the groups decide.
theorem configureProvider_some {provider : CryptoProvider} {tls12 tls13 : Str} (groups : Str)
    (hsome : provider.cipherSuites.filter (kept tls12 tls13) ≠ []) :
    (∃ after, configureProvider provider tls12 tls13 groups = .ok after ∧
        after.cipherSuites = provider.cipherSuites.filter (kept tls12 tls13)) ∨
      restricts (selectorNames groups) ∧ configureProvider provider tls12 tls13 groups =
        .error "configured tls-groups contains no rustls-supported group" := by
  have hempty : (provider.cipherSuites.filter (kept tls12 tls13)).isEmpty = false := by
    simpa using hsome
  simp only [configureProvider, retain_kept, hempty]
  cases hgroups : restricts (selectorNames groups) with
  | false => exact .inl ⟨⟨_, provider.kxGroups⟩, rfl, rfl⟩
  | true =>
      cases hkept : (provider.kxGroups.filter fun group =>
          (selectorNames groups).any (keyExchangeGroupMatches group)).isEmpty with
      | true => exact .inr ⟨rfl, rfl⟩
      | false => exact .inl ⟨⟨_, provider.kxGroups.filter fun group =>
          (selectorNames groups).any (keyExchangeGroupMatches group)⟩, rfl, rfl⟩

theorem selects_iff_kept (provider : CryptoProvider) (tls12 tls13 : Str) :
    Selects provider tls12 tls13 ↔ provider.cipherSuites.filter (kept tls12 tls13) =
      provider.cipherSuites.filter (selected tls12 tls13) := by
  have hmessages : "configured tls-groups contains no rustls-supported group" ≠
      "configured TLS cipher lists contain no rustls-supported suites" := by decide
  constructor
  · intro h
    obtain ⟨hok, herror⟩ := h []
    by_cases hnone : provider.cipherSuites.filter (kept tls12 tls13) = []
    · rw [hnone, herror.mp (configureProvider_empty [] hnone)]
    · rcases configureProvider_some [] hnone with ⟨after, hafter, hsuites⟩ | ⟨hgroups, -⟩
      · rw [← hsuites]
        exact hok after hafter
      · exact absurd hgroups (by decide)
  · intro he groups
    by_cases hnone : provider.cipherSuites.filter (kept tls12 tls13) = []
    · have herror := configureProvider_empty groups hnone
      rw [← he, herror]
      exact ⟨fun _ h => (by cases h), fun _ => hnone, fun _ => rfl⟩
    · rw [← he]
      rcases configureProvider_some groups hnone with ⟨after, hafter, hsuites⟩ | ⟨-, herror⟩
      · rw [hafter]
        refine ⟨?_, fun h => (by cases h), fun h => absurd h hnone⟩
        intro other hother
        obtain rfl := Except.ok.inj hother
        exact hsuites
      · rw [herror]
        refine ⟨fun _ h => (by cases h), fun h => ?_, fun h => absurd h hnone⟩
        exact absurd (Except.error.inj h) hmessages

-- A TLS 1.3 suite is found by its identifier where it is asked for by its name.
def NamedAlike (provider : CryptoProvider) (tls13 : Str) : Prop :=
  unrestricted tls13 ∨ ∀ suite ∈ provider.cipherSuites, suite.version = .TLSv1_3 →
    lists tls13 suite.debug = lists tls13 suite.standardName

theorem filter_eq_filter_iff {α : Type} (first second : α → Bool) (values : List α) :
    values.filter first = values.filter second ↔ ∀ value ∈ values, first value = second value := by
  constructor
  · intro he value hmem
    have hiff : value ∈ values.filter first ↔ value ∈ values.filter second := by rw [he]
    rw [Bool.eq_iff_iff]
    simpa [List.mem_filter, hmem] using hiff
  · exact List.filter_congr

theorem configure_provider_selects (provider : CryptoProvider) (tls12 tls13 : Str) :
    Selects provider tls12 tls13 ↔ NamedAlike provider tls13 := by
  rw [selects_iff_kept, filter_eq_filter_iff, NamedAlike]
  cases hall : unrestricted tls13 with
  | true =>
      refine ⟨fun _ => .inl rfl, fun _ suite _ => ?_⟩
      cases hversion : suite.version <;> simp [kept, selected, hversion, hall]
  | false =>
      simp only [Bool.false_eq_true, false_or]
      refine forall₂_congr fun suite _ => ?_
      cases hversion : suite.version <;> simp [kept, selected, hversion, hall]

-- rustls::crypto::ring::default_provider()
def defaultProvider : CryptoProvider where
  cipherSuites :=
    [.TLS13_AES_256_GCM_SHA384, .TLS13_AES_128_GCM_SHA256, .TLS13_CHACHA20_POLY1305_SHA256,
      .TLS_ECDHE_ECDSA_WITH_AES_256_GCM_SHA384, .TLS_ECDHE_ECDSA_WITH_AES_128_GCM_SHA256,
      .TLS_ECDHE_ECDSA_WITH_CHACHA20_POLY1305_SHA256, .TLS_ECDHE_RSA_WITH_AES_256_GCM_SHA384,
      .TLS_ECDHE_RSA_WITH_AES_128_GCM_SHA256, .TLS_ECDHE_RSA_WITH_CHACHA20_POLY1305_SHA256]
  kxGroups := [.X25519, .Secp256r1, .Secp384r1]

theorem standard_name_removed :
    ¬Selects defaultProvider "ECDHE-RSA-AES256-GCM-SHA384".toList "TLS_AES_256_GCM_SHA384".toList ∧
      configureProvider defaultProvider "ECDHE-RSA-AES256-GCM-SHA384".toList
          "TLS_AES_256_GCM_SHA384".toList "X25519:secp256r1".toList =
        .ok ⟨[.TLS_ECDHE_RSA_WITH_AES_256_GCM_SHA384], [.X25519, .Secp256r1]⟩ := by
  constructor
  · rw [selects_iff_kept]
    decide
  · decide

end Selection

end OpenvpnConnect.Tls
