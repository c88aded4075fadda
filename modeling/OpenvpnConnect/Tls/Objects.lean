import OpenvpnConnect.Memory.Counted
import OpenvpnConnect.Tls.Context

-- The life of the TLS adapter's objects: C++'s counted ones and the boxes of Rust that they own.
namespace OpenvpnConnect.Tls.Objects

open Native Text Signing Setup Memory.Counted

-- What a call on a connection does: it answers, or it asks for a signature first.
inductive Reaction (π ω : Type)
  | Answers (result : ω) (connection : π)
  | Asks (offered : List SignatureScheme) (message : List UInt8)
      (resume : Option (Except String (List UInt8)) → ω × π)

-- What is relied on of rustls: a connection's state (`π`) changes with the calls on it (`ι`).
structure Rustls (δ ρ κ π ι ω : Type) where
  serverName : Str → Except String Unit
  connectionNew : ClientConfig δ ρ κ Unit → Str → Except String π
  call : ClientConfig δ ρ κ Unit → π → ι → Reaction π ω

-- The objects, with the addresses that they hold.
inductive Object (δ ρ κ π σ : Type)
  | Config (config : Setup.Config σ)
  | Context (config handle : Nat)
  | Ssl (handle : Nat)
  | TlsConfig (config : Nat)
  | TlsConnection (config : Nat) (connection : π)
  | ClientConfig (config : ClientConfig δ ρ κ Unit)

inductive Kind
  | Config
  | Context
  | Ssl
  | TlsConfig
  | TlsConnection
  | ClientConfig
deriving DecidableEq, Repr

section Objects

variable {δ γ ρ κ ε τ π ι ω σ : Type}

def Object.kind : Object δ ρ κ π σ → Kind
  | .Config _ => .Config
  | .Context _ _ => .Context
  | .Ssl _ => .Ssl
  | .TlsConfig _ => .TlsConfig
  | .TlsConnection _ _ => .TlsConnection
  | .ClientConfig _ => .ClientConfig

-- The members of a context are destroyed after its destructor has given its handle back.
def Object.refs : Object δ ρ κ π σ → List Nat
  | .Config _ => []
  | .Context config handle => [handle, config]
  | .Ssl handle => [handle]
  | .TlsConfig config => [config]
  | .TlsConnection config _ => [config]
  | .ClientConfig _ => []

-- A box has no counter: who frees it owns it.
def layout : Layout (Object δ ρ κ π σ) where
  refs := Object.refs
  counted object := object.kind ≠ .TlsConfig ∧ object.kind ≠ .TlsConnection

-- The libraries under both sides.
structure Environment (δ γ ρ κ ε τ π ι ω : Type) where
  libraries : Libraries δ γ ρ κ ε τ
  codec : Codec
  rustls : Rustls δ ρ κ π ι ω

-- What Core does: `change` is any member function of a configuration, and a variable is a counted pointer.
inductive Operation (σ ι : Type)
  | NewConfig (config : Setup.Config σ)
  | Change (var : Nat) (change : Setup.Config σ → Setup.Config σ)
  | Copy (var : Nat)
  | Reset (var : Nat)
  | NewFactory (var : Nat)
  | NewSsl (var : Nat) (hostname : Option CxxString)
  | Call (var : Nat) (call : ι)

inductive Answer (ω : Type)
  | Created (var : Nat)
  | Done
  | Threw (text : CxxString)
  | Told (result : ω)
  | Absent

structure Machine (δ ρ κ π σ : Type) where
  store : Store (Object δ ρ κ π σ)
  vars : List (Option Nat)
  app : σ

-- A pointer ends. Without reclaiming, objects stay for ever.
def reset (reclaim : Bool) (store : Store (Object δ ρ κ π σ)) (address : Nat) :
    Option (Store (Object δ ρ κ π σ)) :=
  if reclaim then release layout store address else some store

-- The constructor of a context; what it throws ends the pointer that it has taken.
def newFactory (reclaim : Bool) (environment : Environment δ γ ρ κ ε τ π ι ω) (store : Store (Object δ ρ κ π σ))
    (address : Nat) (config : Setup.Config σ) : Option (Except CxxString Nat × Store (Object δ ρ κ π σ)) := do
  let store ← retain layout store address
  match newContext (registered environment.libraries) () address config with
  | .error thrown =>
      let store ← reset reclaim store address
      return (.error thrown, store)
  | .ok clientConfig =>
      let shared := create store (.ClientConfig clientConfig)
      let boxed := create shared (.TlsConfig store.length)
      return (.ok boxed.length, create boxed (.Context address shared.length))

def connectionNew (environment : Environment δ γ ρ κ ε τ π ι ω) (clientConfig : ClientConfig δ ρ κ Unit)
    (name : StringView) : Loading.Parsed π := do
  let name ← viewStr environment.libraries.readers name
  let serverName := if name.isEmpty then "openvpn.invalid".toList else name
  mapErr "invalid TLS server name: " (environment.rustls.serverName serverName)
  let connection ← environment.rustls.connectionNew clientConfig serverName
  return connection

-- The constructor of SSL; the clone of the shared configuration is dropped where there is no connection.
def newSsl (reclaim : Bool) (environment : Environment δ γ ρ κ ε τ π ι ω) (store : Store (Object δ ρ κ π σ))
    (config handle : Nat) (hostname : Option CxxString) :
    Option (Except CxxString Nat × Store (Object δ ρ κ π σ)) := do
  let .Config fields ← read store config | none
  let .TlsConfig shared ← read store handle | none
  let .ClientConfig clientConfig ← read store shared | none
  let store ← retain layout store shared
  let name := hostname.getD fields.sniName
  match ffiPointer (List.replicate 1024 0) (connectionNew environment clientConfig (viewOf name)) with
  | (none, error) =>
      let store ← reset reclaim store shared
      return (.error ("Rust TLS connection setup failed: ".toByteArray ++ Loading.errorText error), store)
  | (some connection, _) =>
      let boxed := create store (.TlsConnection shared connection)
      return (.ok boxed.length, create boxed (.Ssl store.length))

-- The signature of an external key, whose signer reads the configuration where it was when the context was made.
def signature (environment : Environment δ γ ρ κ ε τ π ι ω) (store : Store (Object δ ρ κ π σ))
    (clientAuth : ClientAuth δ Unit) (offered : List SignatureScheme) (message : List UInt8) (app : σ) :
    Option (Option (Except String (List UInt8)) × σ) :=
  match clientAuth with
  | .External _ key =>
      match key.chooseScheme offered with
      | none => some (none, app)
      | some signer => do
          let .Config fields ← read store signer.context | none
          let callback := signer.callback.map fun _ => installed environment.codec fun _ => some fields.toKey
          let (signed, app) := sign ⟨signer.context, callback, signer.scheme⟩ message app
          return (some signed, app)
  | _ => some (none, app)

def call (environment : Environment δ γ ρ κ ε τ π ι ω) (store : Store (Object δ ρ κ π σ)) (handle : Nat)
    (call : ι) (app : σ) : Option (ω × Store (Object δ ρ κ π σ) × σ) := do
  let .TlsConnection shared connection ← read store handle | none
  let .ClientConfig clientConfig ← read store shared | none
  match environment.rustls.call clientConfig connection call with
  | .Answers result next =>
      let store ← write store handle (.TlsConnection shared next)
      return (result, store, app)
  | .Asks offered message resume =>
      let (signed, app) ← signature environment store clientConfig.clientAuth offered message app
      let store ← write store handle (.TlsConnection shared (resume signed).2)
      return ((resume signed).1, store, app)

-- What a constructor has made is a new variable's.
def Machine.made (machine : Machine δ ρ κ π σ) :
    Except CxxString Nat × Store (Object δ ρ κ π σ) → Answer ω × Machine δ ρ κ π σ
  | (.error thrown, store) => (.Threw thrown, { machine with store })
  | (.ok address, store) =>
      (.Created machine.vars.length, { machine with store, vars := machine.vars ++ [some address] })

-- Nothing where something that is gone is used. A call on a variable that has no such object is none.
def step (reclaim : Bool) (environment : Environment δ γ ρ κ ε τ π ι ω) (machine : Machine δ ρ κ π σ) :
    Operation σ ι → Option (Answer ω × Machine δ ρ κ π σ)
  | .NewConfig config => some (machine.made (.ok machine.store.length, create machine.store (.Config config)))
  | .Change var change =>
      match machine.vars[var]?.join with
      | none => some (.Absent, machine)
      | some address => do
          match ← read machine.store address with
          | .Config config =>
              let store ← write machine.store address (.Config (change config))
              return (.Done, { machine with store })
          | _ => return (.Absent, machine)
  | .Copy var =>
      match machine.vars[var]?.join with
      | none => some (.Absent, machine)
      | some address => do
          let store ← retain layout machine.store address
          return machine.made (.ok address, store)
  | .Reset var =>
      match machine.vars[var]?.join with
      | none => some (.Absent, machine)
      | some address => do
          let store ← reset reclaim machine.store address
          return (.Done, { machine with store, vars := machine.vars.set var none })
  | .NewFactory var =>
      match machine.vars[var]?.join with
      | none => some (.Absent, machine)
      | some address => do
          match ← read machine.store address with
          | .Config config => return machine.made (← newFactory reclaim environment machine.store address config)
          | _ => return (.Absent, machine)
  | .NewSsl var hostname =>
      match machine.vars[var]?.join with
      | none => some (.Absent, machine)
      | some address => do
          match ← read machine.store address with
          | .Context config handle =>
              return machine.made (← newSsl reclaim environment machine.store config handle hostname)
          | _ => return (.Absent, machine)
  | .Call var operation =>
      match machine.vars[var]?.join with
      | none => some (.Absent, machine)
      | some address => do
          match ← read machine.store address with
          | .Ssl handle =>
              let (result, store, app) ← call environment machine.store handle operation machine.app
              return (.Told result, { machine with store, app })
          | _ => return (.Absent, machine)

def run (reclaim : Bool) (environment : Environment δ γ ρ κ ε τ π ι ω) (machine : Machine δ ρ κ π σ) :
    List (Operation σ ι) → Option (List (Answer ω) × Machine δ ρ κ π σ)
  | [] => some ([], machine)
  | operation :: rest => do
      let (answer, machine) ← step reclaim environment machine operation
      let (answers, machine) ← run reclaim environment machine rest
      return (answer :: answers, machine)

end Objects

end OpenvpnConnect.Tls.Objects
