import OpenvpnConnect.Tls.Objects
import OpenvpnConnect.Tls.Contract

-- Which of the TLS adapter's objects exist, and what is used that does not.
namespace OpenvpnConnect.Tls.Objects

open Native Text Signing Setup Memory.Counted

variable {δ γ ρ κ ε τ π ι ω σ : Type}

-- Where an object leads. An external key knows nothing but the address of its configuration.
def Object.points : Object δ ρ κ π σ → List (Nat × Kind)
  | .Config _ => []
  | .Context config handle => [(handle, .TlsConfig), (config, .Config)]
  | .Ssl handle => [(handle, .TlsConnection)]
  | .TlsConfig config => [(config, .ClientConfig)]
  | .TlsConnection config _ => [(config, .ClientConfig)]
  | .ClientConfig config =>
      match config.clientAuth with
      | .External _ key => [(key.context, .Config)]
      | _ => []

section Typing

variable {store after kept : Store (Object δ ρ κ π σ)} {roots : Multiset Nat} {address : Nat}
  {object : Object δ ρ κ π σ}

-- If there is something at the address, then it is of that kind; and never will be anything else.
def IsA (store : Store (Object δ ρ κ π σ)) (point : Nat × Kind) : Prop :=
  point.1 < store.length ∧ ∀ other, read store point.1 = some other → other.kind = point.2

def Typed (store : Store (Object δ ρ κ π σ)) : Prop :=
  ∀ address object, read store address = some object → ∀ point ∈ object.points, IsA store point

-- What is known of addresses stays true.
def Extends (store after : Store (Object δ ρ κ π σ)) : Prop := ∀ point, IsA store point → IsA after point

theorem Extends.trans {last : Store (Object δ ρ κ π σ)} (hfirst : Extends store after)
    (hsecond : Extends after last) : Extends store last :=
  fun point hpoint => hsecond point (hfirst point hpoint)

theorem extends_within (hwithin : Within after store) : Extends store after := by
  intro point hpoint
  refine ⟨?_, fun other hread => hpoint.2 other (hwithin.read hread)⟩
  rw [hwithin.length]
  exact hpoint.1

theorem extends_create (store : Store (Object δ ρ κ π σ)) (object : Object δ ρ κ π σ) :
    Extends store (create store object) := by
  intro point ⟨hlt, hkind⟩
  refine ⟨?_, ?_⟩
  · rw [Memory.Counted.create, List.length_append]
    omega
  · intro other hread
    rw [read_create, if_neg (by omega)] at hread
    exact hkind other hread

theorem extends_write {old : Object δ ρ κ π σ} (hread : read store address = some old)
    (hkind : object.kind = old.kind) (hwrite : write store address object = some after) : Extends store after := by
  have hlength : after.length = store.length := by
    obtain ⟨cell, hget, rfl⟩ := Option.map_eq_some_iff.mp hwrite
    exact List.length_set
  intro point hpoint
  refine ⟨hlength ▸ hpoint.1, ?_⟩
  intro other hother
  rw [read_write hwrite] at hother
  by_cases hsame : point.1 = address
  · rw [if_pos hsame] at hother
    obtain rfl := Option.some.inj hother
    rw [hkind]
    exact hpoint.2 old (hsame ▸ hread)
  · rw [if_neg hsame] at hother
    exact hpoint.2 other hother

theorem Typed.within (htyped : Typed store) (hwithin : Within after store) : Typed after :=
  fun address object hread point hmem =>
    extends_within hwithin point (htyped address object (hwithin.read hread) point hmem)

theorem isA_created (store : Store (Object δ ρ κ π σ)) (object : Object δ ρ κ π σ) :
    IsA (create store object) (store.length, object.kind) := by
  refine ⟨?_, ?_⟩
  · rw [Memory.Counted.create, List.length_append]
    exact Nat.lt_succ_self _
  · intro other hread
    rw [read_create, if_pos rfl] at hread
    rw [Option.some.inj hread]

theorem Typed.create (htyped : Typed store) (hpoints : ∀ point ∈ object.points, IsA store point) :
    Typed (create store object) := by
  intro address found hread point hmem
  rw [read_create] at hread
  by_cases hsame : address = store.length
  · rw [if_pos hsame] at hread
    obtain rfl := Option.some.inj hread
    exact extends_create store object point (hpoints point hmem)
  · rw [if_neg hsame] at hread
    exact extends_create store object point (htyped address found hread point hmem)

theorem Typed.write {old : Object δ ρ κ π σ} (htyped : Typed store) (hread : read store address = some old)
    (hkind : object.kind = old.kind) (hpoints : object.points = old.points)
    (hwrite : write store address object = some after) : Typed after := by
  have hextends := extends_write hread hkind hwrite
  intro target found hfound point hmem
  rw [read_write hwrite] at hfound
  by_cases hsame : target = address
  · rw [if_pos hsame] at hfound
    obtain rfl := Option.some.inj hfound
    rw [hpoints] at hmem
    exact hextends point (htyped address old hread point hmem)
  · rw [if_neg hsame] at hfound
    exact hextends point (htyped target found hfound point hmem)

-- The invariant: the counts are right, and every address is one of the kind of object that is expected there.
structure Sound (store : Store (Object δ ρ κ π σ)) (roots : Multiset Nat) : Prop where
  counts : Counts layout store roots
  typed : Typed store

theorem sound_empty : Sound ([] : Store (Object δ ρ κ π σ)) 0 :=
  ⟨counts_empty, fun _ _ hread => by cases hread⟩

theorem Sound.retain (hsound : Sound store roots) (hread : read store address = some object)
    (hcounted : layout.counted object = true) :
    ∃ after, retain layout store address = some after ∧ Sound after ({address} + roots) ∧ Within after store := by
  obtain ⟨cell, hget, rfl⟩ := read_eq_some.mp hread
  obtain ⟨after, hretain, hcounts, hwithin⟩ := hsound.counts.retain hget hcounted
  exact ⟨after, hretain, ⟨hcounts, hsound.typed.within hwithin⟩, hwithin⟩

theorem Sound.reset (hsound : Sound store ({address} + roots)) :
    ∃ after, reset true store address = some after ∧ Sound after roots ∧ Within after store := by
  obtain ⟨after, hrelease, hcounts, hwithin⟩ := hsound.counts.release
  exact ⟨after, by rw [Objects.reset, if_pos rfl, hrelease], ⟨hcounts, hsound.typed.within hwithin⟩, hwithin⟩

theorem Sound.create (hsound : Sound store ((object.refs : Multiset Nat) + roots))
    (hpoints : ∀ point ∈ object.points, IsA store point) : Sound (create store object) ({store.length} + roots) :=
  ⟨hsound.counts.create, hsound.typed.create hpoints⟩

theorem Sound.write {old : Object δ ρ κ π σ} (hsound : Sound store roots) (hread : read store address = some old)
    (hkind : object.kind = old.kind) (hrefs : object.refs = old.refs) (hpoints : object.points = old.points) :
    ∃ after, write store address object = some after ∧ Sound after roots ∧ Extends store after := by
  obtain ⟨cell, hget, rfl⟩ := read_eq_some.mp hread
  have hwrite : Memory.Counted.write store address object =
      some (store.set address (some { cell with value := object })) := by
    rw [Memory.Counted.write, hget, Option.map_some]
  have hcounted : layout.counted object = layout.counted cell.value := by
    simp only [layout, hkind]
  exact ⟨_, hwrite, ⟨hsound.counts.write hget hrefs hcounted, hsound.typed.write hread hkind hpoints hwrite⟩,
    extends_write hread hkind hwrite⟩

-- What an object holds is there.
theorem Sound.target {target : Nat} {kind : Kind} (hsound : Sound store roots)
    (hread : read store address = some object) (href : target ∈ object.refs)
    (hpoint : (target, kind) ∈ object.points) : ∃ other, read store target = some other ∧ other.kind = kind := by
  obtain ⟨cell, hget, rfl⟩ := read_eq_some.mp hread
  have hheld : target ∈ held layout store := mem_held_of_ref hget href
  obtain ⟨other, hother⟩ := hsound.counts.alive (Multiset.mem_add.mpr (.inr hheld))
  exact ⟨other.value, read_get hother, (hsound.typed address _ hread _ hpoint).2 _ (read_get hother)⟩

theorem Sound.configuration {config handle : Nat} (hsound : Sound store roots)
    (hread : read store address = some (.Context config handle)) :
    ∃ fields, read store config = some (.Config fields) := by
  have hpoint : (config, Kind.Config) ∈ (Object.Context config handle : Object δ ρ κ π σ).points := by
    simp [Object.points]
  obtain ⟨other, hother, hkind⟩ := hsound.target hread (by simp [Object.refs]) hpoint
  cases other <;> cases hkind
  exact ⟨_, hother⟩

theorem Sound.tlsConfig {config handle : Nat} (hsound : Sound store roots)
    (hread : read store address = some (.Context config handle)) :
    ∃ shared, read store handle = some (.TlsConfig shared) := by
  have hpoint : (handle, Kind.TlsConfig) ∈ (Object.Context config handle : Object δ ρ κ π σ).points := by
    simp [Object.points]
  obtain ⟨other, hother, hkind⟩ := hsound.target hread (by simp [Object.refs]) hpoint
  cases other <;> cases hkind
  exact ⟨_, hother⟩

theorem Sound.tlsConnection {handle : Nat} (hsound : Sound store roots)
    (hread : read store address = some (.Ssl handle)) :
    ∃ shared connection, read store handle = some (.TlsConnection shared connection) := by
  obtain ⟨other, hother, hkind⟩ := hsound.target hread (List.mem_singleton_self handle)
    (List.mem_singleton_self (handle, Kind.TlsConnection))
  cases other <;> cases hkind
  exact ⟨_, _, hother⟩

-- The boxes of both kinds share a configuration of rustls.
theorem Sound.clientConfig {shared : Nat} (hsound : Sound store roots) (hread : read store address = some object)
    (hrefs : object.refs = [shared]) (hpoints : object.points = [(shared, .ClientConfig)]) :
    ∃ clientConfig, read store shared = some (.ClientConfig clientConfig) := by
  obtain ⟨other, hother, hkind⟩ := hsound.target hread (by rw [hrefs]; exact List.mem_singleton_self shared)
    (by rw [hpoints]; exact List.mem_singleton_self (shared, Kind.ClientConfig))
  cases other <;> cases hkind
  exact ⟨_, hother⟩

end Typing

section Constructors

variable {environment : Environment δ γ ρ κ ε τ π ι ω} {store kept : Store (Object δ ρ κ π σ)}
  {roots : Multiset Nat} {address : Nat}

-- The references that whoever asked for an object has then.
def obtained (roots : Multiset Nat) : Except CxxString Nat → Multiset Nat
  | .ok address => {address} + roots
  | .error _ => roots

-- Counted pointers are to counted objects.
def IsPointed (store : Store (Object δ ρ κ π σ)) (address : Nat) : Prop :=
  ∃ kind, IsA store (address, kind) ∧ kind ≠ .TlsConfig ∧ kind ≠ .TlsConnection

theorem IsPointed.extends {after : Store (Object δ ρ κ π σ)} (hpointed : IsPointed store address)
    (hextends : Extends store after) : IsPointed after address := by
  obtain ⟨kind, hkind, hcounted⟩ := hpointed
  exact ⟨kind, hextends _ hkind, hcounted⟩

-- A constructor ends in the same way where nothing is ever reclaimed.
def Constructs (store : Store (Object δ ρ κ π σ)) (roots : Multiset Nat)
    (reclaimed unreclaimed : Option (Except CxxString Nat × Store (Object δ ρ κ π σ))) : Prop :=
  ∃ result after keptAfter, reclaimed = some (result, after) ∧ unreclaimed = some (result, keptAfter) ∧
    Sound after (obtained roots result) ∧ Within after keptAfter ∧ Extends store after ∧
    ∀ address, result = .ok address → IsPointed after address

theorem clientAuth_context {libraries : Libraries δ γ ρ κ ε τ} {localCertEnabled : Int32} {address : Nat}
    {externalSign : Option Unit} {cert extraCerts privateKey password : List UInt8} {chain : List δ}
    {key : ExternalSigningKey (Option Unit)}
    (hparses : Parses (clientAuth libraries localCertEnabled address externalSign cert extraCerts privateKey
      password) (.External chain key)) : key.context = address := by
  unfold clientAuth at hparses
  by_cases hlocal : localCertEnabled = 0
  · rw [if_pos hlocal, parses_pure] at hparses
    cases hparses
  · rw [if_neg hlocal] at hparses
    simp only [parses_bind] at hparses
    obtain ⟨first, _, others, _, hparses⟩ := hparses
    cases hchain : first ++ others with
    | nil =>
        rw [hchain] at hparses
        exact absurd hparses parses_throw
    | cons leaf issuers =>
        rw [hchain] at hparses
        dsimp only at hparses
        by_cases hexternal : externalSign.isSome = true
        · rw [if_pos hexternal] at hparses
          simp only [parses_bind, parses_lift, parses_pure, configNewKey, bind_eq_ok] at hparses
          obtain ⟨_, _, made, ⟨_, _, hmade⟩, hparses⟩ := hparses
          obtain rfl := Except.ok.inj hmade
          cases hparses
          rfl
        · rw [if_neg hexternal] at hparses
          simp only [parses_bind, parses_pure] at hparses
          obtain ⟨_, _, _, _, hparses⟩ := hparses
          cases hparses

-- The signer of a configuration's context is told where the configuration is.
theorem newContext_points {libraries : Libraries δ γ ρ κ ε τ} {config : Setup.Config σ}
    {clientConfig : ClientConfig δ ρ κ Unit}
    (hnew : newContext (registered libraries) () address config = .ok clientConfig) :
    ∀ point ∈ (Object.ClientConfig clientConfig : Object δ ρ κ π σ).points, point = (address, .Config) := by
  have hauth := (newContext_built hnew).clientAuth
  intro point hmem
  unfold Object.points at hmem
  cases hclient : clientConfig.clientAuth with
  | External chain key =>
      rw [hclient] at hauth
      simp only [hclient, List.mem_singleton] at hmem
      rw [hmem, clientAuth_context hauth]
  | NoClientAuth | Internal =>
      simp only [hclient, List.not_mem_nil] at hmem

-- How far a constructor has come.
structure Stage (origin store kept : Store (Object δ ρ κ π σ)) (roots : Multiset Nat) : Prop where
  sound : Sound store roots
  within : Within store kept
  grown : Extends origin store

theorem Stage.create {origin : Store (Object δ ρ κ π σ)} (object : Object δ ρ κ π σ)
    (hstage : Stage origin store kept ((object.refs : Multiset Nat) + roots))
    (hpoints : ∀ point ∈ object.points, IsA store point) :
    Stage origin (Memory.Counted.create store object) (Memory.Counted.create kept object)
      ({store.length} + roots) :=
  ⟨hstage.sound.create hpoints, hstage.within.create object, hstage.grown.trans (extends_create store object)⟩

theorem Stage.retain {object : Object δ ρ κ π σ} (hsound : Sound store roots) (hwithin : Within store kept)
    (hread : read store address = some object) (hcounted : layout.counted object = true) :
    ∃ first keptFirst, retain layout store address = some first ∧ retain layout kept address = some keptFirst ∧
      Stage store first keptFirst ({address} + roots) := by
  obtain ⟨first, hfirst, hsoundFirst, hwithinFirst⟩ := hsound.retain hread hcounted
  obtain ⟨keptFirst, hkeptFirst, hboth⟩ := hwithin.retain hfirst
  exact ⟨first, keptFirst, hfirst, hkeptFirst, hsoundFirst, hboth, extends_within hwithinFirst⟩

-- The reference that a constructor has taken ends with what it throws.
theorem Stage.throws {origin : Store (Object δ ρ κ π σ)} (hstage : Stage origin store kept ({address} + roots))
    (thrown : CxxString) :
    Constructs origin roots ((reset true store address).bind fun store => some (.error thrown, store))
      ((reset false kept address).bind fun store => some (.error thrown, store)) := by
  obtain ⟨after, hreset, hsound, hwithin⟩ := hstage.sound.reset
  refine ⟨.error thrown, after, kept, ?_, rfl, hsound, hwithin.trans hstage.within,
    hstage.grown.trans (extends_within hwithin), fun _ hok => by cases hok⟩
  rw [hreset, Option.bind_some]

theorem Stage.made {origin : Store (Object δ ρ κ π σ)} (object : Object δ ρ κ π σ)
    (hstage : Stage origin store kept ((object.refs : Multiset Nat) + roots))
    (hpoints : ∀ point ∈ object.points, IsA store point) (hbox : object.kind ≠ .TlsConfig)
    (hconnection : object.kind ≠ .TlsConnection) :
    Constructs origin roots (some (.ok store.length, Memory.Counted.create store object))
      (some (.ok store.length, Memory.Counted.create kept object)) := by
  obtain ⟨hsound, hwithin, hgrown⟩ := hstage.create object hpoints
  refine ⟨.ok store.length, _, _, rfl, rfl, hsound, hwithin, hgrown, ?_⟩
  intro address hok
  obtain rfl := Except.ok.inj hok
  exact ⟨object.kind, isA_created store object, hbox, hconnection⟩

theorem isA_read {object : Object δ ρ κ π σ} (hread : read store address = some object) :
    IsA store (address, object.kind) := by
  obtain ⟨cell, hget, _⟩ := read_eq_some.mp hread
  refine ⟨get_lt hget, ?_⟩
  intro other hother
  rw [hread] at hother
  rw [Option.some.inj hother]

theorem newFactory_constructs {config : Setup.Config σ} (hsound : Sound store roots)
    (hwithin : Within store kept) (hread : read store address = some (.Config config)) :
    Constructs store roots (newFactory true environment store address config)
      (newFactory false environment kept address config) := by
  obtain ⟨first, keptFirst, hfirst, hkeptFirst, hstage⟩ := Stage.retain hsound hwithin hread rfl
  unfold newFactory
  rw [hfirst, hkeptFirst]
  dsimp only [bind, Option.bind]
  cases hnew : newContext (registered environment.libraries) () address config with
  | error thrown => exact hstage.throws thrown
  | ok clientConfig =>
      have haddress : IsA first (address, .Config) := hstage.grown _ (isA_read hread)
      have hshared : Stage store (create first (.ClientConfig clientConfig))
          (create keptFirst (.ClientConfig clientConfig)) ({first.length} + ({address} + roots)) := by
        apply Stage.create (.ClientConfig clientConfig)
        · rw [Object.refs, Multiset.coe_nil, zero_add]
          exact hstage
        · intro point hmem
          rw [newContext_points hnew point hmem]
          exact haddress
      have hconfig := isA_created first (.ClientConfig clientConfig)
      dsimp only [pure]
      rw [← hstage.within.length, ← hshared.within.length]
      generalize create first (.ClientConfig clientConfig) = shared at hshared hconfig ⊢
      generalize create keptFirst (.ClientConfig clientConfig) = keptShared at hshared ⊢
      have hboxed : Stage store (create shared (.TlsConfig first.length))
          (create keptShared (.TlsConfig first.length)) ({shared.length} + ({address} + roots)) := by
        apply Stage.create (.TlsConfig first.length) hshared
        intro point hmem
        rw [List.mem_singleton.mp hmem]
        exact hconfig
      have hhandle := isA_created shared (.TlsConfig first.length)
      rw [← hboxed.within.length]
      generalize create shared (.TlsConfig first.length) = boxed at hboxed hhandle ⊢
      generalize create keptShared (.TlsConfig first.length) = keptBoxed at hboxed ⊢
      rw [← add_assoc] at hboxed
      refine Stage.made (.Context address shared.length) hboxed ?_ nofun nofun
      intro point hmem
      rcases List.mem_cons.mp hmem with rfl | hmem
      · exact hhandle
      · rw [List.mem_singleton.mp hmem]
        exact hboxed.grown _ (isA_read hread)

theorem newSsl_constructs {config handle : Nat} (hsound : Sound store roots) (hwithin : Within store kept)
    (hread : read store address = some (.Context config handle)) (hostname : Option CxxString) :
    Constructs store roots (newSsl true environment store config handle hostname)
      (newSsl false environment kept config handle hostname) := by
  obtain ⟨fields, hfields⟩ := hsound.configuration hread
  obtain ⟨shared, hshared⟩ := hsound.tlsConfig hread
  obtain ⟨clientConfig, hclientConfig⟩ := hsound.clientConfig hshared rfl rfl
  obtain ⟨first, keptFirst, hfirst, hkeptFirst, hstage⟩ := Stage.retain hsound hwithin hclientConfig rfl
  unfold newSsl
  rw [hfields, hshared, hwithin.read hfields, hwithin.read hshared]
  dsimp only [bind, Option.bind]
  rw [hclientConfig, hwithin.read hclientConfig]
  dsimp only
  rw [hfirst, hkeptFirst]
  dsimp only
  match ffiPointer (List.replicate 1024 0) (connectionNew environment clientConfig
      (viewOf (hostname.getD fields.sniName))) with
  | (none, error) => exact hstage.throws _
  | (some connection, _) =>
      have hboxed : Stage store (create first (.TlsConnection shared connection))
          (create keptFirst (.TlsConnection shared connection)) ({first.length} + roots) := by
        apply Stage.create (.TlsConnection shared connection) hstage
        intro point hmem
        rw [List.mem_singleton.mp hmem]
        exact hstage.grown _ (isA_read hclientConfig)
      have hconnection := isA_created first (.TlsConnection shared connection)
      dsimp only [pure]
      rw [← hstage.within.length, ← hboxed.within.length]
      generalize create first (.TlsConnection shared connection) = boxed at hboxed hconnection ⊢
      refine Stage.made (.Ssl first.length) hboxed ?_ nofun nofun
      intro point hmem
      rw [List.mem_singleton.mp hmem]
      exact hconnection

end Constructors

section Calls

variable {environment : Environment δ γ ρ κ ε τ π ι ω} {store kept : Store (Object δ ρ κ π σ)}
  {roots : Multiset Nat} {address : Nat} {app : σ}

-- The signature is asked for with the configuration at this address.
def Uses (clientAuth : ClientAuth δ Unit) (offered : List SignatureScheme) (config : Nat) : Prop :=
  match clientAuth with
  | .External _ key => key.context = config ∧ (key.chooseScheme offered).isSome
  | _ => False

theorem Uses.points {clientConfig : ClientConfig δ ρ κ Unit} {offered : List SignatureScheme} {config : Nat}
    (huses : Uses clientConfig.clientAuth offered config) :
    (config, Kind.Config) ∈ (Object.ClientConfig clientConfig : Object δ ρ κ π σ).points := by
  unfold Uses at huses
  unfold Object.points
  cases hclient : clientConfig.clientAuth with
  | NoClientAuth | Internal =>
      rw [hclient] at huses
      exact huses.elim
  | External chain key =>
      rw [hclient] at huses
      simp only [hclient, List.mem_singleton, huses.1]

theorem chooseScheme_context {key : ExternalSigningKey (Option Unit)} {offered : List SignatureScheme}
    {signer : ExternalSigner (Option Unit)} (hchoose : key.chooseScheme offered = some signer) :
    signer.context = key.context := by
  obtain ⟨_, _, rfl⟩ := Option.map_eq_some_iff.mp hchoose
  rfl

theorem signature_within {clientAuth : ClientAuth δ Unit} {offered : List SignatureScheme} {message : List UInt8}
    {result : Option (Except String (List UInt8)) × σ} (hwithin : Within store kept)
    (hsignature : signature environment store clientAuth offered message app = some result) :
    signature environment kept clientAuth offered message app = some result := by
  unfold signature at hsignature ⊢
  cases clientAuth with
  | NoClientAuth | Internal => exact hsignature
  | External chain key =>
      dsimp only at hsignature ⊢
      cases hchoose : key.chooseScheme offered with
      | none =>
          rw [hchoose] at hsignature
          exact hsignature
      | some signer =>
          rw [hchoose] at hsignature
          dsimp only [bind, Option.bind] at hsignature ⊢
          cases hread : read store signer.context with
          | none =>
              rw [hread] at hsignature
              cases hsignature
          | some object =>
              rw [hread] at hsignature
              rw [hwithin.read hread]
              exact hsignature

-- There is no signature exactly where the configuration is gone.
theorem signature_eq_none {clientAuth : ClientAuth δ Unit} {offered : List SignatureScheme} {message : List UInt8}
    (hkind : ∀ config, Uses clientAuth offered config → IsA store (config, .Config)) :
    signature environment store clientAuth offered message app = none ↔
      ∃ config, Uses clientAuth offered config ∧ read store config = none := by
  unfold signature
  cases clientAuth with
  | NoClientAuth | Internal => exact ⟨nofun, fun ⟨_, huses, _⟩ => huses.elim⟩
  | External chain key =>
      dsimp only
      cases hchoose : key.chooseScheme offered with
      | none =>
          refine ⟨nofun, fun ⟨_, huses, _⟩ => ?_⟩
          have hsome := huses.2
          rw [hchoose] at hsome
          cases hsome
      | some signer =>
          have hcontext := chooseScheme_context hchoose
          have huses : Uses (.External chain key) offered signer.context :=
            ⟨hcontext.symm, by rw [hchoose, Option.isSome_some]⟩
          dsimp only [bind, Option.bind]
          cases hread : read store signer.context with
          | none => exact ⟨fun _ => ⟨signer.context, huses, hread⟩, fun _ => rfl⟩
          | some object =>
              have hconfig := (hkind _ huses).2 object hread
              cases object <;> cases hconfig
              refine ⟨nofun, ?_⟩
              rintro ⟨config, ⟨rfl, _⟩, hnone⟩
              rw [← hcontext, hread] at hnone
              cases hnone

-- The call asks for a signature with a configuration that is gone.
def Misses (environment : Environment δ γ ρ κ ε τ π ι ω) (store : Store (Object δ ρ κ π σ)) (handle : Nat)
    (operation : ι) : Prop :=
  ∃ shared connection clientConfig offered message resume config,
    read store handle = some (.TlsConnection shared connection) ∧
    read store shared = some (.ClientConfig clientConfig) ∧
    environment.rustls.call clientConfig connection operation = .Asks offered message resume ∧
    Uses clientConfig.clientAuth offered config ∧ read store config = none

variable (app) in
theorem call_agrees {handle : Nat} (hsound : Sound store roots) (hwithin : Within store kept)
    (hread : read store address = some (.Ssl handle)) (operation : ι) :
    (Misses environment store handle operation ∧ call environment store handle operation app = none) ∨
      ¬Misses environment store handle operation ∧ ∃ result next after keptAfter,
        call environment store handle operation app = some (result, after, next) ∧
        call environment kept handle operation app = some (result, keptAfter, next) ∧
        Sound after roots ∧ Within after keptAfter ∧ Extends store after := by
  obtain ⟨shared, connection, hconnection⟩ := hsound.tlsConnection hread
  obtain ⟨clientConfig, hclientConfig⟩ := hsound.clientConfig hconnection rfl rfl
  have hwrites : ∀ next : π, ∃ after keptAfter,
      write store handle (.TlsConnection shared next) = some after ∧
      write kept handle (.TlsConnection shared next) = some keptAfter ∧ Sound after roots ∧
      Within after keptAfter ∧ Extends store after := by
    intro next
    obtain ⟨after, hwrite, hafter, hextends⟩ := hsound.write hconnection
      (show (Object.TlsConnection shared next : Object δ ρ κ π σ).kind = _ from rfl) rfl rfl
    obtain ⟨keptAfter, hkeptWrite, hkeptAfter⟩ := hwithin.write hwrite
    exact ⟨after, keptAfter, hwrite, hkeptWrite, hafter, hkeptAfter, hextends⟩
  unfold call
  rw [hconnection, hwithin.read hconnection]
  dsimp only [bind, Option.bind]
  rw [hclientConfig, hwithin.read hclientConfig]
  dsimp only
  cases hcall : environment.rustls.call clientConfig connection operation with
  | Answers result next =>
      obtain ⟨after, keptAfter, hwrite, hkeptWrite, hafter, hkeptAfter⟩ := hwrites next
      refine .inr ⟨?_, result, app, after, keptAfter, ?_, ?_, hafter, hkeptAfter⟩
      · rintro ⟨_, _, _, _, _, _, _, hother, hshared, hasks, _, _⟩
        rw [hconnection] at hother
        cases hother
        rw [hclientConfig] at hshared
        cases hshared
        rw [hcall] at hasks
        cases hasks
      · simp only [hwrite]
        rfl
      · simp only [hkeptWrite]
        rfl
  | Asks offered message resume =>
      have hmisses : Misses environment store handle operation ↔
          ∃ config, Uses clientConfig.clientAuth offered config ∧ read store config = none := by
        constructor
        · rintro ⟨_, _, _, _, _, _, config, hother, hshared, hasks, huses, hgone⟩
          rw [hconnection] at hother
          cases hother
          rw [hclientConfig] at hshared
          cases hshared
          rw [hcall] at hasks
          cases hasks
          exact ⟨config, huses, hgone⟩
        · rintro ⟨config, huses, hgone⟩
          exact ⟨_, _, _, _, _, _, config, hconnection, hclientConfig, hcall, huses, hgone⟩
      have hkind : ∀ config, Uses clientConfig.clientAuth offered config → IsA store (config, .Config) := by
        intro config huses
        apply hsound.typed shared _ hclientConfig
        exact huses.points
      dsimp only
      cases hsignature : signature environment store clientConfig.clientAuth offered message app with
      | none => exact .inl ⟨hmisses.mpr ((signature_eq_none hkind).mp hsignature), rfl⟩
      | some signed =>
          obtain ⟨after, keptAfter, hwrite, hkeptWrite, hafter, hkeptAfter⟩ := hwrites (resume signed.1).2
          refine .inr ⟨?_, (resume signed.1).1, signed.2, after, keptAfter, ?_, ?_, hafter, hkeptAfter⟩
          · intro hmiss
            rw [(signature_eq_none hkind).mpr (hmisses.mp hmiss)] at hsignature
            cases hsignature
          · simp only [hwrite]
            rfl
          · rw [signature_within hwithin hsignature]
            simp only [hkeptWrite]
            rfl

end Calls

section Steps

variable {environment : Environment δ γ ρ κ ε τ π ι ω} {machine kept : Machine δ ρ κ π σ}

-- Core has a pointer to the configuration, or to a context that was made of it.
def Holds (machine : Machine δ ρ κ π σ) (config : Nat) : Prop :=
  ∃ var address : Nat, machine.vars[var]?.join = some address ∧
    (address = config ∨ ∃ handle, read machine.store address = some (.Context config handle))

-- The one use of something that is gone: a connection whose peer asks for a signature by the application's key,
-- after Core has given up the key's configuration and all contexts that were made of it.
def Dangles (environment : Environment δ γ ρ κ ε τ π ι ω) (machine : Machine δ ρ κ π σ) : Operation σ ι → Prop
  | .Call var operation => ∃ address handle shared connection clientConfig offered message resume config,
      machine.vars[var]?.join = some address ∧ read machine.store address = some (.Ssl handle) ∧
      read machine.store handle = some (.TlsConnection shared connection) ∧
      read machine.store shared = some (.ClientConfig clientConfig) ∧
      environment.rustls.call clientConfig connection operation = .Asks offered message resume ∧
      Uses clientConfig.clientAuth offered config ∧ ¬Holds machine config
  | _ => False

-- Nothing owns a context, and only a context owns a configuration.
theorem Object.ref_kind {object : Object δ ρ κ π σ} {target : Nat} (hmem : target ∈ object.refs) :
    ∃ kind, (target, kind) ∈ object.points ∧ kind ≠ .Context ∧
      (kind = .Config → ∃ handle, object = .Context target handle) := by
  cases object with
  | Config config => cases hmem
  | ClientConfig config => cases hmem
  | Context config handle =>
      rcases List.mem_cons.mp hmem with rfl | hmem
      · exact ⟨.TlsConfig, List.mem_cons_self, nofun, nofun⟩
      · obtain rfl := List.mem_singleton.mp hmem
        exact ⟨.Config, List.mem_cons_of_mem _ List.mem_cons_self, nofun, fun _ => ⟨handle, rfl⟩⟩
  | Ssl handle =>
      obtain rfl := List.mem_singleton.mp hmem
      exact ⟨.TlsConnection, List.mem_cons_self, nofun, nofun⟩
  | TlsConfig config =>
      obtain rfl := List.mem_singleton.mp hmem
      exact ⟨.ClientConfig, List.mem_cons_self, nofun, nofun⟩
  | TlsConnection config connection =>
      obtain rfl := List.mem_singleton.mp hmem
      exact ⟨.ClientConfig, List.mem_cons_self, nofun, nofun⟩

theorem Sound.holds_iff {config : Nat} (hsound : Sound machine.store (roots machine.vars))
    (hconfig : IsA machine.store (config, .Config)) :
    Holds machine config ↔ ∃ object, read machine.store config = some object := by
  constructor
  · rintro ⟨var, address, hvar, rfl | ⟨handle, hcontext⟩⟩
    · have hroot := mem_roots.mpr ⟨var, hvar⟩
      obtain ⟨cell, hget⟩ := hsound.counts.alive (Multiset.mem_add.mpr (.inl hroot))
      exact ⟨cell.value, read_get hget⟩
    · obtain ⟨fields, hfields⟩ := hsound.configuration hcontext
      exact ⟨_, hfields⟩
  · rintro ⟨object, hread⟩
    obtain ⟨cell, hget, rfl⟩ := read_eq_some.mp hread
    cases hsound.counts.reachable hget with
    | Root hmem =>
        obtain ⟨var, hvar⟩ := mem_roots.mp hmem
        exact ⟨var, config, hvar, .inl rfl⟩
    | @Ref holder _ other hreach hholder hmem =>
        obtain ⟨kind, hpoint, _, hcontext⟩ := Object.ref_kind hmem
        have hkind := (hsound.typed holder _ (read_get hholder) _ hpoint).2 _ hread
        rw [hconfig.2 _ hread] at hkind
        obtain ⟨handle, hvalue⟩ := hcontext hkind.symm
        -- Core itself has the context.
        cases hreach with
        | Root hmem =>
            obtain ⟨var, hvar⟩ := mem_roots.mp hmem
            exact ⟨var, holder, hvar, .inr ⟨handle, hvalue ▸ read_get hholder⟩⟩
        | @Ref owner _ third _ howner hmem =>
            obtain ⟨kind, hpoint, hnot, _⟩ := Object.ref_kind hmem
            have hsame := (hsound.typed owner _ (read_get howner) _ hpoint).2 _ (read_get hholder)
            rw [hvalue] at hsame
            exact absurd hsame.symm hnot

-- The invariant of a run and of the one in which nothing is reclaimed.
structure Agrees (machine kept : Machine δ ρ κ π σ) : Prop where
  sound : Sound machine.store (roots machine.vars)
  within : Within machine.store kept.store
  pointed : ∀ address ∈ roots machine.vars, IsPointed machine.store address
  vars : kept.vars = machine.vars
  app : kept.app = machine.app

def Follows (environment : Environment δ γ ρ κ ε τ π ι ω) (machine kept : Machine δ ρ κ π σ)
    (operation : Operation σ ι) : Prop :=
  ∃ answer after keptAfter, step true environment machine operation = some (answer, after) ∧
    step false environment kept operation = some (answer, keptAfter) ∧ Agrees after keptAfter

variable (ω) in
theorem Agrees.made (hagrees : Agrees machine kept) {result : Except CxxString Nat}
    {after keptAfter : Store (Object δ ρ κ π σ)} (hsound : Sound after (obtained (roots machine.vars) result))
    (hwithin : Within after keptAfter) (hextends : Extends machine.store after)
    (hpointed : ∀ address, result = .ok address → IsPointed after address) :
    ∃ (answer : Answer ω) (next keptNext : Machine δ ρ κ π σ), machine.made (result, after) = (answer, next) ∧
      kept.made (result, keptAfter) = (answer, keptNext) ∧ Agrees next keptNext := by
  have hold : ∀ address ∈ roots machine.vars, IsPointed after address :=
    fun address hmem => (hagrees.pointed address hmem).extends hextends
  cases result with
  | error thrown => exact ⟨_, _, _, rfl, rfl, hsound, hwithin, hold, hagrees.vars, hagrees.app⟩
  | ok address =>
      have hroots := roots_concat machine.vars address
      refine ⟨_, _, { kept with store := keptAfter, vars := kept.vars ++ [some address] }, rfl, ?_, ?_⟩
      · simp only [Machine.made, hagrees.vars]
      · constructor
        · show Sound after (roots (machine.vars ++ [some address]))
          rw [hroots]
          exact hsound
        · exact hwithin
        · show ∀ other ∈ roots (machine.vars ++ [some address]), IsPointed after other
          intro other hmem
          rw [hroots] at hmem
          rcases Multiset.mem_add.mp hmem with hnew | hbefore
          · rw [Multiset.mem_singleton.mp hnew]
            exact hpointed address rfl
          · exact hold other hbefore
        · show kept.vars ++ [some address] = machine.vars ++ [some address]
          rw [hagrees.vars]
        · exact hagrees.app

theorem Agrees.alive (hagrees : Agrees machine kept) {var address : Nat}
    (hvar : machine.vars[var]?.join = some address) : ∃ object, read machine.store address = some object ∧
      read kept.store address = some object ∧ layout.counted object = true := by
  have hroot := mem_roots.mpr ⟨var, hvar⟩
  obtain ⟨cell, hget⟩ := hagrees.sound.counts.alive (Multiset.mem_add.mpr (.inl hroot))
  obtain ⟨kind, hkind, hcounted⟩ := hagrees.pointed address hroot
  refine ⟨cell.value, read_get hget, hagrees.within.read (read_get hget), ?_⟩
  simp only [layout, hkind.2 _ (read_get hget)]
  exact decide_eq_true hcounted

-- The operations, on a variable that has a pointer or none.
section Operations

variable (hagrees : Agrees machine kept) (var : Nat)
include hagrees

theorem follows_newConfig (config : Setup.Config σ) : Follows environment machine kept (.NewConfig config) := by
  have hsound : Sound (create machine.store (.Config config))
      (obtained (roots machine.vars) (.ok machine.store.length)) := by
    apply Sound.create
    · rw [Object.refs, Multiset.coe_nil, zero_add]
      exact hagrees.sound
    · exact fun _ hmem => by cases hmem
  have hpointed : ∀ address, (.ok machine.store.length : Except CxxString Nat) = .ok address →
      IsPointed (create machine.store (.Config config)) address := by
    intro address hok
    obtain rfl := Except.ok.inj hok
    exact ⟨.Config, isA_created machine.store _, nofun, nofun⟩
  obtain ⟨answer, next, keptNext, hmade, hkeptMade, hnext⟩ := hagrees.made ω hsound
    (hagrees.within.create (.Config config)) (extends_create machine.store (.Config config)) hpointed
  refine ⟨answer, next, keptNext, congrArg some hmade, ?_, hnext⟩
  rw [step, ← hagrees.within.length]
  exact congrArg some hkeptMade

theorem follows_change (change : Setup.Config σ → Setup.Config σ) :
    Follows environment machine kept (.Change var change) := by
  unfold Follows
  dsimp only [step]
  rw [hagrees.vars]
  cases hvar : machine.vars[var]?.join with
  | none => exact ⟨.Absent, machine, kept, rfl, rfl, hagrees⟩
  | some address =>
      obtain ⟨object, hread, hkept, _⟩ := hagrees.alive hvar
      dsimp only [bind, Option.bind]
      rw [hread, hkept]
      cases object with
      | Config config =>
          obtain ⟨after, hwrite, hsound, hextends⟩ := hagrees.sound.write hread
            (show (Object.Config (change config) : Object δ ρ κ π σ).kind = _ from rfl) rfl rfl
          obtain ⟨keptAfter, hkeptWrite, hwithin⟩ := hagrees.within.write hwrite
          dsimp only
          rw [hwrite, hkeptWrite]
          exact ⟨.Done, _, _, rfl, rfl, hsound, hwithin,
            fun other hmem => (hagrees.pointed other hmem).extends hextends, rfl, hagrees.app⟩
      | _ => exact ⟨.Absent, machine, _, rfl, rfl, hagrees⟩

theorem follows_copy : Follows environment machine kept (.Copy var) := by
  unfold Follows
  dsimp only [step]
  rw [hagrees.vars]
  cases hvar : machine.vars[var]?.join with
  | none => exact ⟨.Absent, machine, kept, rfl, rfl, hagrees⟩
  | some address =>
      obtain ⟨object, hread, hkept, hcounted⟩ := hagrees.alive hvar
      obtain ⟨after, keptAfter, hretain, hkeptRetain, hsound, hwithin, hextends⟩ :=
        Stage.retain hagrees.sound hagrees.within hread hcounted
      have hpointed : ∀ other, (.ok address : Except CxxString Nat) = .ok other → IsPointed after other := by
        intro other hok
        obtain rfl := Except.ok.inj hok
        exact (hagrees.pointed address (mem_roots.mpr ⟨var, hvar⟩)).extends hextends
      obtain ⟨answer, next, keptNext, hmade, hkeptMade, hnext⟩ :=
        hagrees.made ω hsound hwithin hextends hpointed
      dsimp only [bind, Option.bind]
      rw [hretain, hkeptRetain]
      exact ⟨answer, next, keptNext, congrArg some hmade, congrArg some hkeptMade, hnext⟩

theorem follows_reset : Follows environment machine kept (.Reset var) := by
  unfold Follows
  dsimp only [step]
  rw [hagrees.vars]
  cases hvar : machine.vars[var]?.join with
  | none => exact ⟨.Absent, machine, kept, rfl, rfl, hagrees⟩
  | some address =>
      have hroots := roots_set hvar
      have hsound := hagrees.sound
      rw [hroots] at hsound
      obtain ⟨after, hreset, hsoundAfter, hwithin⟩ := hsound.reset
      dsimp only [bind, Option.bind]
      rw [hreset]
      refine ⟨.Done, _, _, rfl, rfl, hsoundAfter, hwithin.trans hagrees.within, ?_, rfl, hagrees.app⟩
      intro other hmem
      apply (hagrees.pointed other _).extends (extends_within hwithin)
      rw [hroots]
      exact Multiset.mem_add.mpr (.inr hmem)

theorem follows_newFactory : Follows environment machine kept (.NewFactory var) := by
  unfold Follows
  dsimp only [step]
  rw [hagrees.vars]
  cases hvar : machine.vars[var]?.join with
  | none => exact ⟨.Absent, machine, kept, rfl, rfl, hagrees⟩
  | some address =>
      obtain ⟨object, hread, hkept, _⟩ := hagrees.alive hvar
      dsimp only [bind, Option.bind]
      rw [hread, hkept]
      cases object with
      | Config config =>
          obtain ⟨result, after, keptAfter, hnew, hkeptNew, hsound, hwithin, hextends, hpointed⟩ :=
            newFactory_constructs hagrees.sound hagrees.within hread
          obtain ⟨answer, next, keptNext, hmade, hkeptMade, hnext⟩ :=
            hagrees.made ω hsound hwithin hextends hpointed
          dsimp only
          rw [hnew, hkeptNew]
          exact ⟨answer, next, keptNext, congrArg some hmade, congrArg some hkeptMade, hnext⟩
      | _ => exact ⟨.Absent, machine, kept, rfl, rfl, hagrees⟩

theorem follows_newSsl (hostname : Option CxxString) :
    Follows environment machine kept (.NewSsl var hostname) := by
  unfold Follows
  dsimp only [step]
  rw [hagrees.vars]
  cases hvar : machine.vars[var]?.join with
  | none => exact ⟨.Absent, machine, kept, rfl, rfl, hagrees⟩
  | some address =>
      obtain ⟨object, hread, hkept, _⟩ := hagrees.alive hvar
      dsimp only [bind, Option.bind]
      rw [hread, hkept]
      cases object with
      | Context config handle =>
          obtain ⟨result, after, keptAfter, hnew, hkeptNew, hsound, hwithin, hextends, hpointed⟩ :=
            newSsl_constructs hagrees.sound hagrees.within hread hostname
          obtain ⟨answer, next, keptNext, hmade, hkeptMade, hnext⟩ :=
            hagrees.made ω hsound hwithin hextends hpointed
          dsimp only
          rw [hnew, hkeptNew]
          exact ⟨answer, next, keptNext, congrArg some hmade, congrArg some hkeptMade, hnext⟩
      | _ => exact ⟨.Absent, machine, kept, rfl, rfl, hagrees⟩

end Operations

theorem dangles_iff_misses (hagrees : Agrees machine kept) {var address handle : Nat} (operation : ι)
    (hvar : machine.vars[var]?.join = some address) (hread : read machine.store address = some (.Ssl handle)) :
    Dangles environment machine (.Call var operation) ↔ Misses environment machine.store handle operation := by
  have hgone : ∀ {shared clientConfig offered config},
      read machine.store shared = some (.ClientConfig clientConfig) →
      Uses clientConfig.clientAuth offered config →
        (¬Holds machine config ↔ read machine.store config = none) := by
    intro shared clientConfig offered config hclientConfig huses
    have hconfig := hagrees.sound.typed shared _ hclientConfig _ huses.points
    rw [hagrees.sound.holds_iff hconfig, ← Option.isSome_iff_exists, Bool.not_eq_true, Option.isSome_eq_false_iff,
      Option.isNone_iff_eq_none]
  constructor
  · rintro ⟨_, _, shared, connection, clientConfig, offered, message, resume, config, hother, hssl, hconnection,
      hclientConfig, hasks, huses, hnot⟩
    rw [hvar] at hother
    obtain rfl := Option.some.inj hother
    rw [hread] at hssl
    cases hssl
    exact ⟨shared, connection, clientConfig, offered, message, resume, config, hconnection, hclientConfig, hasks,
      huses, (hgone hclientConfig huses).mp hnot⟩
  · rintro ⟨shared, connection, clientConfig, offered, message, resume, config, hconnection, hclientConfig, hasks,
      huses, hnone⟩
    exact ⟨address, handle, shared, connection, clientConfig, offered, message, resume, config, hvar, hread,
      hconnection, hclientConfig, hasks, huses, (hgone hclientConfig huses).mpr hnone⟩

-- A call fails exactly where it dangles.
theorem follows_call (hagrees : Agrees machine kept) (var : Nat) (operation : ι) :
    (Dangles environment machine (.Call var operation) ∧
      step true environment machine (.Call var operation) = none) ∨
      ¬Dangles environment machine (.Call var operation) ∧
        Follows environment machine kept (.Call var operation) := by
  cases hvar : machine.vars[var]?.join with
  | none =>
      refine .inr ⟨?_, ?_⟩
      · rintro ⟨_, _, _, _, _, _, _, _, _, hother, _⟩
        rw [hvar] at hother
        cases hother
      · unfold Follows
        dsimp only [step]
        rw [hagrees.vars, hvar]
        exact ⟨.Absent, machine, kept, rfl, rfl, hagrees⟩
  | some address =>
      obtain ⟨object, hread, hkept, _⟩ := hagrees.alive hvar
      unfold Follows
      dsimp only [step]
      rw [hagrees.vars, hvar]
      dsimp only [bind, Option.bind]
      rw [hread, hkept]
      cases object with
      | Ssl handle =>
          rw [dangles_iff_misses hagrees operation hvar hread, hagrees.app]
          dsimp only
          rcases call_agrees machine.app hagrees.sound hagrees.within hread operation with
            ⟨hmisses, hcall⟩ | ⟨hnot, result, next, after, keptAfter, hcall, hkeptCall, hsound, hwithin, hextends⟩
          · rw [hcall]
            exact .inl ⟨hmisses, rfl⟩
          · rw [hcall, hkeptCall]
            refine .inr ⟨hnot, .Told result, _, _, rfl, rfl, hsound, hwithin, ?_, rfl, rfl⟩
            exact fun other hmem => (hagrees.pointed other hmem).extends hextends
      | _ =>
          refine .inr ⟨?_, .Absent, machine, _, rfl, rfl, hagrees⟩
          rintro ⟨_, _, _, _, _, _, _, _, _, hother, hssl, _⟩
          rw [hvar] at hother
          obtain rfl := Option.some.inj hother
          rw [hread] at hssl
          cases hssl

theorem step_agrees (hagrees : Agrees machine kept) (operation : Operation σ ι) :
    (Dangles environment machine operation ∧ step true environment machine operation = none) ∨
      ¬Dangles environment machine operation ∧ Follows environment machine kept operation := by
  cases operation with
  | NewConfig config => exact .inr ⟨id, follows_newConfig hagrees config⟩
  | Change var change => exact .inr ⟨id, follows_change hagrees var change⟩
  | Copy var => exact .inr ⟨id, follows_copy hagrees var⟩
  | Reset var => exact .inr ⟨id, follows_reset hagrees var⟩
  | NewFactory var => exact .inr ⟨id, follows_newFactory hagrees var⟩
  | NewSsl var hostname => exact .inr ⟨id, follows_newSsl hagrees var hostname⟩
  | Call var operation => exact follows_call hagrees var operation

end Steps

section Runs

variable {environment : Environment δ γ ρ κ ε τ π ι ω} {machine kept : Machine δ ρ κ π σ}

-- At some point of the run an operation dangles.
def DanglesIn (environment : Environment δ γ ρ κ ε τ π ι ω) (machine : Machine δ ρ κ π σ)
    (operations : List (Operation σ ι)) : Prop :=
  ∃ before operation rest answers reached, operations = before ++ operation :: rest ∧
    run true environment machine before = some (answers, reached) ∧ Dangles environment reached operation

theorem run_cons {reclaim : Bool} {operation : Operation σ ι} {answer : Answer ω} {after : Machine δ ρ κ π σ}
    (hstep : step reclaim environment machine operation = some (answer, after)) (rest : List (Operation σ ι)) :
    run reclaim environment machine (operation :: rest) =
      (run reclaim environment after rest).map fun (answers, last) => (answer :: answers, last) := by
  rw [run, hstep]
  cases hrun : run reclaim environment after rest with
  | none =>
      dsimp only [bind, Option.bind]
      rw [hrun, Option.map_none]
  | some result =>
      dsimp only [bind, Option.bind]
      rw [hrun, Option.map_some]
      rfl

variable (environment) in
theorem run_agrees (hagrees : Agrees machine kept) (operations : List (Operation σ ι)) :
    (DanglesIn environment machine operations ∧ run true environment machine operations = none) ∨
      ¬DanglesIn environment machine operations ∧ ∃ answers after keptAfter,
        run true environment machine operations = some (answers, after) ∧
        run false environment kept operations = some (answers, keptAfter) ∧ Agrees after keptAfter := by
  induction operations generalizing machine kept with
  | nil =>
      refine .inr ⟨?_, [], machine, kept, rfl, rfl, hagrees⟩
      rintro ⟨before, operation, rest, _, _, hsplit, _⟩
      cases before <;> cases hsplit
  | cons operation rest ih =>
      rcases step_agrees hagrees operation with ⟨hdangles, hnone⟩ |
        ⟨hnot, answer, after, keptAfter, hstep, hkeptStep, hnext⟩
      · refine .inl ⟨⟨[], operation, rest, [], machine, rfl, rfl, hdangles⟩, ?_⟩
        rw [run, hnone]
        rfl
      · have hcons : DanglesIn environment machine (operation :: rest) ↔ DanglesIn environment after rest := by
          constructor
          · rintro ⟨before, other, others, answers, reached, hsplit, hrun, hdangles⟩
            cases before with
            | nil =>
                cases hsplit
                cases hrun
                exact absurd hdangles hnot
            | cons first before =>
                cases hsplit
                rw [run_cons hstep] at hrun
                obtain ⟨result, hbefore, hmade⟩ := Option.map_eq_some_iff.mp hrun
                cases hmade
                exact ⟨before, other, others, result.1, result.2, rfl, hbefore, hdangles⟩
          · rintro ⟨before, other, others, answers, reached, rfl, hrun, hdangles⟩
            refine ⟨operation :: before, other, others, answer :: answers, reached, rfl, ?_, hdangles⟩
            rw [run_cons hstep, hrun, Option.map_some]
        rw [hcons]
        rcases ih hnext with ⟨hdangles, hnone⟩ | ⟨hnone, answers, last, keptLast, hrun, hkeptRun, hlast⟩
        · refine .inl ⟨hdangles, ?_⟩
          rw [run_cons hstep, hnone, Option.map_none]
        · refine .inr ⟨hnone, answer :: answers, last, keptLast, ?_, ?_, hlast⟩
          · rw [run_cons hstep, hrun, Option.map_some]
          · rw [run_cons hkeptStep, hkeptRun, Option.map_some]

-- What exists is what Core's pointers lead to, and a box has one owner.
structure Tidy (machine : Machine δ ρ κ π σ) : Prop where
  reachable : ∀ address, (∃ object, read machine.store address = some object) ↔
    Reachable layout machine.store (roots machine.vars) address
  owned : ∀ address object, read machine.store address = some object → layout.counted object = false →
    (roots machine.vars + held layout machine.store).count address = 1

theorem Agrees.tidy (hagrees : Agrees machine kept) : Tidy machine := by
  constructor
  · intro address
    rw [← hagrees.sound.counts.alive_iff_reachable]
    constructor
    · rintro ⟨object, hread⟩
      obtain ⟨cell, hget, _⟩ := read_eq_some.mp hread
      exact ⟨cell, hget⟩
    · rintro ⟨cell, hget⟩
      exact ⟨cell.value, read_get hget⟩
  · intro address object hread hbox
    obtain ⟨cell, hget, rfl⟩ := read_eq_some.mp hread
    rw [← (hagrees.sound.counts.count hget).1]
    exact hagrees.sound.counts.sole hget hbox

theorem agrees_empty (app : σ) : Agrees (⟨[], [], app⟩ : Machine δ ρ κ π σ) ⟨[], [], app⟩ where
  sound := sound_empty
  within := .refl _
  pointed := fun _ hmem => absurd hmem (Multiset.notMem_zero _)
  vars := rfl
  app := rfl

theorem objects_live_as_used (environment : Environment δ γ ρ κ ε τ π ι ω) (app : σ)
    (operations : List (Operation σ ι)) :
    let start : Machine δ ρ κ π σ := ⟨[], [], app⟩
    (run true environment start operations = none ↔ DanglesIn environment start operations) ∧
      ∀ answers machine, run true environment start operations = some (answers, machine) → Tidy machine ∧
        ∃ kept, run false environment start operations = some (answers, kept) ∧ kept.app = machine.app := by
  intro start
  rcases run_agrees environment (agrees_empty app) operations with
    ⟨hdangles, hnone⟩ | ⟨hnot, answers, after, keptAfter, hrun, hkeptRun, hagrees⟩
  · refine ⟨⟨fun _ => hdangles, fun _ => hnone⟩, ?_⟩
    intro answers machine hsome
    rw [hnone] at hsome
    cases hsome
  · refine ⟨⟨fun hnone => ?_, fun hdangles => absurd hdangles hnot⟩, ?_⟩
    · rw [hrun] at hnone
      cases hnone
    · intro others machine hsome
      rw [hrun] at hsome
      cases hsome
      exact ⟨hagrees.tidy, keptAfter, hkeptRun, hagrees.app⟩

end Runs

end OpenvpnConnect.Tls.Objects
