import OpenvpnConnect.Tls.Validate
import OpenvpnConnect.Transition.Run

-- The loaders of TLS material into a configuration.
namespace OpenvpnConnect.Tls.Loading

open Native Transition

-- The fields that the loaders read and write.
structure Config where
  privateKeyPassword : CxxString
  ca : CxxString
  crl : CxxString
  cert : CxxString
  extraCerts : CxxString
  privateKey : CxxString
  dh : CxxString

-- A member function that may throw, with the object it leaves behind in either case.
abbrev Member := Config → Except CxxString Unit × Config

-- `validate_pem(...)` and then an assignment.
def loadPem (backend : Backend) (kind : UInt32) (value password : CxxString) (description : String)
    (assign : Config → Config) : Member :=
  fun config =>
    match validatePem backend kind value password description with
    | .error thrown => (.error thrown, config)
    | .ok () => (.ok (), assign config)

def loadCa (backend : Backend) (value : CxxString) : Member :=
  loadPem backend 2 value .empty "CA certificate list" (fun config => { config with ca := value })

def loadCrl (backend : Backend) (value : CxxString) : Member :=
  loadPem backend 4 value .empty "certificate revocation list" (fun config => { config with crl := value })

def loadCert (backend : Backend) (value : CxxString) : Member :=
  loadPem backend 1 value .empty "client certificate"
    (fun config => { config with cert := value, extraCerts := .empty })

def loadCertExtra (backend : Backend) (value extra : CxxString) : Member :=
  fun config =>
    match loadCert backend value config with
    | (.error thrown, after) => (.error thrown, after)
    | (.ok (), after) =>
        if extra.isEmpty then (.ok (), after)
        else
          loadPem backend 2 extra .empty "supporting certificate list"
            (fun config => { config with extraCerts := extra }) after

def loadPrivateKey (backend : Backend) (value : CxxString) : Member :=
  fun config =>
    loadPem backend 3 value config.privateKeyPassword "private key"
      (fun config => { config with privateKey := value }) config

def loadDh (backend : Backend) (value : CxxString) : Member :=
  loadPem backend 5 value .empty "DH parameters" (fun config => { config with dh := value })

inductive Call
  | LoadCa (value : CxxString)
  | LoadCrl (value : CxxString)
  | LoadCert (value : CxxString)
  | LoadCertExtra (value extra : CxxString)
  | LoadPrivateKey (value : CxxString)
  | LoadDh (value : CxxString)

def load (backend : Backend) : Call → Member
  | .LoadCa value => loadCa backend value
  | .LoadCrl value => loadCrl backend value
  | .LoadCert value => loadCert backend value
  | .LoadCertExtra value extra => loadCertExtra backend value extra
  | .LoadPrivateKey value => loadPrivateKey backend value
  | .LoadDh value => loadDh backend value

-- The fields of a call with its texts; a certificate comes with its chain, that may be empty.
def Call.loaded : Call → Config → Config
  | .LoadCa value, config => { config with ca := value }
  | .LoadCrl value, config => { config with crl := value }
  | .LoadCert value, config => { config with cert := value, extraCerts := .empty }
  | .LoadCertExtra value extra, config => { config with cert := value, extraCerts := extra }
  | .LoadPrivateKey value, config => { config with privateKey := value }
  | .LoadDh value, config => { config with dh := value }

-- A call that throws has changed nothing, a call that returns has loaded its fields and no others.
def Atomic (backend : Backend) (call : Call) (config : Config) : Prop :=
  match load backend call config with
  | (.error _, after) => after = config
  | (.ok (), after) => after = call.loaded config

-- The certificate passes, its chain does not, and the configuration holds
-- something else than that certificate without a chain.
def HalfLoads (backend : Backend) : Call → Config → Prop
  | .LoadCertExtra value extra, config =>
      accepts backend 1 value .empty = true ∧ extra.isEmpty = false ∧ accepts backend 2 extra .empty = false ∧
        ¬(config.cert = value ∧ config.extraCerts = .empty)
  | _, _ => False

section Steps

theorem loadPem_cases (backend : Backend) (kind : UInt32) (value password : CxxString) (description : String)
    (assign : Config → Config) (config : Config) :
    (accepts backend kind value password = true ∧
      loadPem backend kind value password description assign config = (.ok (), assign config)) ∨
    (accepts backend kind value password = false ∧
      ∃ thrown, loadPem backend kind value password description assign config = (.error thrown, config)) := by
  cases accepted : accepts backend kind value password with
  | true =>
      refine .inl ⟨rfl, ?_⟩
      rw [loadPem, validatePem_accepted accepted]
  | false =>
      obtain ⟨thrown, refused⟩ := validatePem_refused accepted description
      refine .inr ⟨rfl, thrown, ?_⟩
      rw [loadPem, refused]

theorem isEmpty_iff (text : CxxString) : text.isEmpty = true ↔ text = .empty := by
  rw [ByteArray.isEmpty, beq_iff_eq, ByteArray.size_eq_zero_iff]

-- What a load of a certificate with a chain can do: refuse the certificate, keep
-- the certificate and refuse the chain, or load both.
theorem loadCertExtra_cases (backend : Backend) (value extra : CxxString) (config : Config) :
    (accepts backend 1 value .empty = false ∧
      ∃ thrown, loadCertExtra backend value extra config = (.error thrown, config)) ∨
    (accepts backend 1 value .empty = true ∧ extra.isEmpty = false ∧ accepts backend 2 extra .empty = false ∧
      ∃ thrown, loadCertExtra backend value extra config =
        (.error thrown, { config with cert := value, extraCerts := .empty })) ∨
    (¬(extra.isEmpty = false ∧ accepts backend 2 extra .empty = false) ∧
      loadCertExtra backend value extra config =
        (.ok (), { config with cert := value, extraCerts := extra })) := by
  unfold loadCertExtra loadCert
  rcases loadPem_cases backend 1 value .empty "client certificate"
    (fun config => { config with cert := value, extraCerts := .empty }) config with
    ⟨accepted, certificate⟩ | ⟨refused, thrown, certificate⟩
  · rw [certificate]
    dsimp only
    by_cases alone : extra.isEmpty = true
    · refine .inr (.inr ⟨fun chain => ?_, ?_⟩)
      · rw [alone] at chain
        cases chain.1
      · rw [if_pos alone, (isEmpty_iff extra).mp alone]
    · have some : extra.isEmpty = false := Bool.eq_false_iff.mpr alone
      rw [if_neg alone]
      rcases loadPem_cases backend 2 extra .empty "supporting certificate list"
        (fun config => { config with extraCerts := extra })
        { config with cert := value, extraCerts := .empty } with ⟨chain, loaded⟩ | ⟨chain, thrown, loaded⟩
      · refine .inr (.inr ⟨fun rejected => ?_, loaded⟩)
        rw [chain] at rejected
        cases rejected.2
      · exact .inr (.inl ⟨accepted, some, chain, thrown, loaded⟩)
  · rw [certificate]
    exact .inl ⟨refused, thrown, rfl⟩

end Steps

section Atomicity

theorem loadPem_atomic {backend : Backend} {call : Call} {kind : UInt32} {value password : CxxString}
    {description : String} {assign : Config → Config} {config : Config}
    (same : load backend call config = loadPem backend kind value password description assign config)
    (assigned : assign config = call.loaded config) : Atomic backend call config := by
  unfold Atomic
  rw [same]
  rcases loadPem_cases backend kind value password description assign config with
    ⟨_, loaded⟩ | ⟨_, thrown, loaded⟩
  · rw [loaded]
    exact assigned
  · rw [loaded]

theorem loadCertExtra_atomic (backend : Backend) (value extra : CxxString) (config : Config) :
    Atomic backend (.LoadCertExtra value extra) config ↔ ¬HalfLoads backend (.LoadCertExtra value extra) config := by
  have unfolded : load backend (.LoadCertExtra value extra) config = loadCertExtra backend value extra config := rfl
  unfold Atomic
  rw [unfolded]
  rcases loadCertExtra_cases backend value extra config with
    ⟨refused, thrown, outcome⟩ | ⟨accepted, some, chain, thrown, outcome⟩ | ⟨loadable, outcome⟩
  · rw [outcome]
    exact iff_of_true rfl (fun half => Bool.noConfusion (refused.symm.trans half.1))
  · rw [outcome]
    constructor
    · intro kept half
      have cert : value = config.cert := congrArg Config.cert kept
      have extraCerts : ByteArray.empty = config.extraCerts := congrArg Config.extraCerts kept
      exact half.2.2.2 ⟨cert.symm, extraCerts.symm⟩
    · intro whole
      have held : config.cert = value ∧ config.extraCerts = .empty := by
        by_contra other
        exact whole ⟨accepted, some, chain, other⟩
      dsimp only
      rw [← held.1, ← held.2]
  · rw [outcome]
    exact iff_of_true rfl (fun half => loadable ⟨half.2.1, half.2.2.1⟩)

theorem atomic_iff (backend : Backend) (call : Call) (config : Config) :
    Atomic backend call config ↔ ¬HalfLoads backend call config := by
  cases call with
  | LoadCertExtra value extra => exact loadCertExtra_atomic backend value extra config
  | LoadCa value => exact iff_of_true (loadPem_atomic rfl rfl) not_false
  | LoadCrl value => exact iff_of_true (loadPem_atomic rfl rfl) not_false
  | LoadCert value => exact iff_of_true (loadPem_atomic rfl rfl) not_false
  | LoadPrivateKey value => exact iff_of_true (loadPem_atomic rfl rfl) not_false
  | LoadDh value => exact iff_of_true (loadPem_atomic rfl rfl) not_false

end Atomicity

section Runs

inductive Event
  | Returned (call : Call)
  | Threw (call : Call)

def machine (backend : Backend) : Machine Config Call Event where
  step config call :=
    match load backend call config with
    | (.error _, after) => some (after, [.Threw call])
    | (.ok (), after) => some (after, [.Returned call])

-- What a call that returned has loaded as certificate and chain.
def Event.certificate : Event → Option (CxxString × CxxString)
  | .Returned (.LoadCert value) => some (value, .empty)
  | .Returned (.LoadCertExtra value extra) => some (value, extra)
  | _ => none

-- The certificate and the chain of the last successful load.
def lastCertificate (start : Config) (trace : List Event) : CxxString × CxxString :=
  ((trace.filterMap Event.certificate).getLast?).getD (start.cert, start.extraCerts)

def Whole (backend : Backend) (_ : List Event) (config : Config) (call : Call) : Prop :=
  ¬HalfLoads backend call config

theorem lastCertificate_none {start : Config} {trace : List Event} {event : Event}
    (other : event.certificate = none) :
    lastCertificate start (trace ++ [event]) = lastCertificate start trace := by
  rw [lastCertificate, lastCertificate, List.filterMap_append, List.filterMap_cons_none other, List.filterMap_nil,
    List.append_nil]

theorem lastCertificate_some {start : Config} {trace : List Event} {event : Event} {loaded : CxxString × CxxString}
    (certificate : event.certificate = some loaded) :
    lastCertificate start (trace ++ [event]) = loaded := by
  rw [lastCertificate, List.filterMap_append, List.filterMap_cons_some certificate, List.filterMap_nil,
    List.getLast?_concat, Option.getD_some]

-- What a call loads as certificate and chain is what it reports.
theorem loaded_certificate (call : Call) (config : Config) :
    ((call.loaded config).cert, (call.loaded config).extraCerts) =
      ((Event.Returned call).certificate).getD (config.cert, config.extraCerts) := by
  cases call with
  | LoadCa value => rfl
  | LoadCrl value => rfl
  | LoadCert value => rfl
  | LoadCertExtra value extra => rfl
  | LoadPrivateKey value => rfl
  | LoadDh value => rfl

-- A step that is not a half load changes nothing, or loads all of its fields.
theorem step_cases {backend : Backend} {config after : Config} {call : Call} {seen : List Event}
    (whole : ¬HalfLoads backend call config) (step : (machine backend).step config call = some (after, seen)) :
    (after = config ∧ seen = [.Threw call]) ∨ (after = call.loaded config ∧ seen = [.Returned call]) := by
  have atomic := (atomic_iff backend call config).mpr whole
  unfold Atomic at atomic
  unfold machine at step
  dsimp only at step
  match outcome : load backend call config with
  | (.error thrown, next) =>
      rw [outcome] at atomic step
      cases step
      exact .inl ⟨atomic, rfl⟩
  | (.ok (), next) =>
      rw [outcome] at atomic step
      cases step
      exact .inr ⟨atomic, rfl⟩

theorem run_certificate {backend : Backend} {start last : Config} {trace : List Event}
    (run : Run (machine backend) (Whole backend) start trace last) :
    (last.cert, last.extraCerts) = lastCertificate start trace := by
  apply run.invariant (fun trace last => (last.cert, last.extraCerts) = lastCertificate start trace)
  · rfl
  · intro trace before call after seen same whole step
    rcases step_cases whole step with ⟨rfl, rfl⟩ | ⟨rfl, rfl⟩
    · rw [lastCertificate_none rfl]
      exact same
    · rw [loaded_certificate]
      cases certificate : (Event.Returned call).certificate with
      | none => rw [lastCertificate_none certificate, Option.getD_none, same]
      | some loaded => rw [lastCertificate_some certificate, Option.getD_some]

end Runs

theorem load_atomic (backend : Backend) :
    (∀ call config, Atomic backend call config ↔ ¬HalfLoads backend call config) ∧
      ∀ start trace last, Run (machine backend) (Whole backend) start trace last →
        (last.cert, last.extraCerts) = lastCertificate start trace :=
  ⟨atomic_iff backend, fun _ _ _ run => run_certificate run⟩

section Sample

def certificatePem : CxxString := "-----BEGIN CERTIFICATE-----\nMAA=\n-----END CERTIFICATE-----\n".toByteArray

-- One certificate in the text above, and nothing in any other text.
def sampleReaders : Readers where
  certs := fun value => if value = certificatePem.data.toList then pure [[0x30, 0x00]] else pure []
  crls := fun _ => pure []
  privateKey := fun _ => pure none
  secretDocument := fun _ => throw "PEM error"
  encryptedKey := fun _ => throw "ASN.1 error"
  decrypt := fun _ _ => throw "decryption failed"
  utf8Error := fun _ => "invalid utf-8 sequence"

def sampleBackend : Backend := installed sampleReaders

def freshConfig : Config := ⟨.empty, .empty, .empty, .empty, .empty, .empty, .empty⟩

def pairConfig : Config := { freshConfig with cert := certificatePem, extraCerts := certificatePem }

theorem certificatePem_accepted (kind : UInt32) (either : kind = PEM_CERT ∨ kind = PEM_CERT_LIST) :
    accepts sampleBackend kind certificatePem .empty = true := by
  rcases either with rfl | rfl
  · decide
  · decide

theorem load_atomic_pair :
    Atomic sampleBackend (.LoadCertExtra certificatePem certificatePem) freshConfig ∧
      (certificatePem, certificatePem) =
        lastCertificate freshConfig [.Returned (.LoadCertExtra certificatePem certificatePem)] := by
  have whole : ¬HalfLoads sampleBackend (.LoadCertExtra certificatePem certificatePem) freshConfig := by
    rintro ⟨_, _, refused, _⟩
    exact Bool.noConfusion (refused.symm.trans (certificatePem_accepted _ (.inr rfl)))
  have step : (machine sampleBackend).step freshConfig (.LoadCertExtra certificatePem certificatePem) =
      some (pairConfig, [.Returned (.LoadCertExtra certificatePem certificatePem)]) := rfl
  have atomic := (load_atomic sampleBackend).1 (.LoadCertExtra certificatePem certificatePem) freshConfig
  have loaded := (load_atomic sampleBackend).2 freshConfig _ pairConfig (.Step .Start whole step)
  exact ⟨atomic.mpr whole, loaded⟩

theorem rejected_chain_keeps_certificate :
    ¬∀ (backend : Backend) (call : Call) (config : Config), Atomic backend call config := by
  intro claimed
  have atomic := claimed sampleBackend (.LoadCertExtra certificatePem "x".toByteArray) freshConfig
  have whole := (atomic_iff _ _ _).mp atomic
  apply whole
  refine ⟨certificatePem_accepted _ (.inl rfl), by decide, by decide, ?_⟩
  rintro ⟨held, _⟩
  exact absurd held (by decide)

end Sample

end OpenvpnConnect.Tls.Loading
