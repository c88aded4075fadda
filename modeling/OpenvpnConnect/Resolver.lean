import OpenvpnConnect.Native.FromChars
import OpenvpnConnect.Native.Views

-- Name resolution: the Rust backend behind OpenVPN Core's resolver.
namespace OpenvpnConnect.Resolver

open Native

inductive IpAddr
  | V4 (octets : Vector UInt8 4)
  | V6 (octets : Vector UInt8 16)
deriving DecidableEq

-- `ovpn_rust_ip_address`
structure RustIpAddress where
  family : UInt8
  octets : Vector UInt8 16
deriving DecidableEq

def IPV4_FAMILY : UInt8 := 4
def IPV6_FAMILY : UInt8 := 6

def encodeAddress : IpAddr → RustIpAddress
  | .V4 octets => ⟨IPV4_FAMILY, .ofFn fun index => if inside : index.val < 4 then octets[index.val] else 0⟩
  | .V6 octets => ⟨IPV6_FAMILY, octets⟩

section Backend

-- A result of Rust, or a panic.
abbrev Fallible (α : Type) := ExceptT String Option α

-- The address syntax of the standard library, and the DNS client with its
-- runtime; a lookup that is dropped gives no result.
structure Lookup where
  parse : String → Option IpAddr
  resolverRuntime : Fallible Unit
  lookupIp : String → Option (Except String (List IpAddr))

def resolveHost (lookup : Lookup) (host : String) : Fallible (List IpAddr) :=
  match lookup.parse host with
  | some address => pure [address]
  | none => do
      lookup.resolverRuntime
      match lookup.lookupIp host with
      | some result => ExceptT.mk (some result)
      | none => throw "DNS runtime stopped before returning a result: receiving on a closed channel"

-- The loop over the slots of the output and the addresses, at most `count` of them.
def writeAddresses : Nat → List RustIpAddress → List IpAddr → List RustIpAddress
  | count + 1, _ :: output, address :: resolved => encodeAddress address :: writeAddresses count output resolved
  | _, output, _ => output

-- The text of an error goes no further, and a panic is caught.
def resolvedAddresses (lookup : Lookup) (host : List UInt8) : Option (List IpAddr) :=
  match String.fromUTF8? ⟨host.toArray⟩ with
  | none => none
  | some host =>
      match (resolveHost lookup host).run with
      | some (.ok resolved) => some resolved
      | _ => none

-- The result, and what the output and its length hold then.
def resolveCallback (lookup : Lookup) (host : StringView) (addresses : Option (List RustIpAddress))
    (addressesLen : Option Nat) : Int32 × Option (List RustIpAddress) × Option Nat :=
  match host.data, addresses, addressesLen with
  | some bytes, some output, some _ =>
      match resolvedAddresses lookup (bytes.take host.len) with
      | none => (0, addresses, addressesLen)
      | some resolved =>
          let count := min resolved.length output.length
          (1, some (writeAddresses count output resolved), some count)
  | _, _, _ => (0, addresses, addressesLen)

abbrev ResolveFn :=
  StringView → Option (List RustIpAddress) → Option Nat → Int32 × Option (List RustIpAddress) × Option Nat

-- The registered table; none is registered at first, and a table may lack the callback.
structure RustBackend where
  resolve : Option ResolveFn

def installed (lookup : Lookup) : Option RustBackend := some ⟨some (resolveCallback lookup)⟩

def ovpnRustBackendResolve (callbacks : Option RustBackend) : ResolveFn :=
  fun host addresses addressesLen =>
    match callbacks with
    | some ⟨some resolve⟩ => resolve host addresses addressesLen
    | _ => (0, addresses, addressesLen)

end Backend

section Adapter

inductive ErrorCode
  | Success
  | InvalidArgument
  | HostNotFound
deriving DecidableEq, Repr

structure Endpoint where
  address : IpAddr
  port : UInt16
deriving DecidableEq

-- An entry of the results of a resolver.
structure ResolverEntry where
  endpoint : Endpoint
  hostName : CxxString
  serviceName : CxxString

-- An address of another family gives no endpoint.
def endpointOf (port : UInt16) (address : RustIpAddress) : Option Endpoint :=
  if address.family = 4 then
    some ⟨.V4 (.ofFn fun index => address.octets[index.val]), port⟩
  else if address.family = 6 then
    some ⟨.V6 (.ofFn fun index => address.octets[index.val]), port⟩
  else none

def zeroAddress : RustIpAddress := ⟨0, .replicate 16 0⟩

def resultsOf (endpoints : List Endpoint) (host service : CxxString) : List ResolverEntry × ErrorCode :=
  if endpoints.isEmpty then ([], .HostNotFound)
  else (endpoints.map fun endpoint => ⟨endpoint, host, service⟩, .Success)

-- The results, and the error code, that is set on every path.
def resolve (callbacks : Option RustBackend) (host service : CxxString) : List ResolverEntry × ErrorCode :=
  match fromChars 65535 service.data.toList 0 with
  | (port, rest, ec) =>
      if ec ≠ .Ok ∨ rest ≠ [] then ([], .InvalidArgument)
      else
        match ovpnRustBackendResolve callbacks (viewOf host) (some (List.replicate 64 zeroAddress)) (some 0) with
        | (code, resolved, resolvedLen) =>
            if code = 0 then ([], .HostNotFound)
            else
              let written := (resolved.getD []).take (resolvedLen.getD 0)
              resultsOf (written.filterMap (endpointOf (.ofNat port))) host service

end Adapter

section Encoding

theorem endpointOf_encodeAddress (port : UInt16) (address : IpAddr) :
    endpointOf port (encodeAddress address) = some ⟨address, port⟩ := by
  cases address with
  | V4 octets =>
      have family : (encodeAddress (.V4 octets)).family = 4 := rfl
      have same : (Vector.ofFn fun index : Fin 4 => (encodeAddress (.V4 octets)).octets[index.val]) = octets := by
        apply Vector.ext
        intro index inside
        simp [encodeAddress]
      rw [endpointOf, if_pos family, same]
  | V6 octets =>
      have family : (encodeAddress (.V6 octets)).family = 6 := rfl
      have other : ¬(6 : UInt8) = 4 := by decide
      have same : (Vector.ofFn fun index : Fin 16 => (encodeAddress (.V6 octets)).octets[index.val]) = octets := by
        apply Vector.ext
        intro index inside
        simp [encodeAddress]
      rw [endpointOf, family, if_neg other, if_pos rfl, same]

theorem take_writeAddresses {count : Nat} {output : List RustIpAddress} {resolved : List IpAddr}
    (room : count ≤ output.length) (enough : count ≤ resolved.length) :
    (writeAddresses count output resolved).take count = (resolved.take count).map encodeAddress := by
  induction count generalizing output resolved with
  | zero => rw [List.take_zero, List.take_zero, List.map_nil]
  | succ count ih =>
      cases output with
      | nil => exact absurd room (Nat.not_succ_le_zero count)
      | cons slot output =>
          cases resolved with
          | nil => exact absurd enough (Nat.not_succ_le_zero count)
          | cons address resolved =>
              rw [writeAddresses, List.take_succ_cons, List.take_succ_cons, List.map_cons,
                ih (Nat.le_of_succ_le_succ room) (Nat.le_of_succ_le_succ enough)]

-- The endpoints that are read from the output are the addresses that were
-- written to it, as many as it has slots.
theorem endpoints_writeAddresses (port : UInt16) (output : List RustIpAddress) (resolved : List IpAddr) :
    ((writeAddresses (min resolved.length output.length) output resolved).take
        (min resolved.length output.length)).filterMap (endpointOf port) =
      (resolved.take output.length).map fun address => ⟨address, port⟩ := by
  rw [take_writeAddresses (Nat.min_le_right _ _) (Nat.min_le_left _ _), List.filterMap_map]
  have each : endpointOf port ∘ encodeAddress = some ∘ fun address => (⟨address, port⟩ : Endpoint) :=
    funext fun address => endpointOf_encodeAddress port address
  have first : resolved.take (min resolved.length output.length) = resolved.take output.length :=
    List.take_eq_take_iff.mpr (by omega)
  rw [each, List.filterMap_eq_map, first]

end Encoding

section Results

-- resolve_host gives these addresses for the host.
def Yields (lookup : Lookup) (host : CxxString) (addresses : List IpAddr) : Prop :=
  ∃ text : String, text.toByteArray = host ∧ (resolveHost lookup text).run = some (.ok addresses)

-- A decimal number up to 65535, with any number of leading zeros.
def IsPort (service : CxxString) : Prop := IsNumber 65535 service.data.toList

theorem fromUTF8_eq_some {bytes : ByteArray} {text : String} :
    String.fromUTF8? bytes = some text ↔ text.toByteArray = bytes := by
  constructor
  · intro read
    unfold String.fromUTF8? at read
    by_cases valid : bytes.IsValidUTF8
    · rw [dif_pos valid] at read
      cases read
      rfl
    · rw [dif_neg valid] at read
      cases read
  · rintro rfl
    rw [String.fromUTF8?, dif_pos text.isValidUTF8]
    rfl

theorem resolvedAddresses_eq_some {lookup : Lookup} {host : CxxString} {addresses : List IpAddr} :
    resolvedAddresses lookup host.data.toList = some addresses ↔ Yields lookup host addresses := by
  unfold resolvedAddresses Yields
  have whole : (⟨host.data.toList.toArray⟩ : ByteArray) = host := rfl
  rw [whole]
  cases read : String.fromUTF8? host with
  | none =>
      refine iff_of_false nofun ?_
      rintro ⟨text, same, _⟩
      rw [fromUTF8_eq_some.mpr same] at read
      cases read
  | some text =>
      have spelled := fromUTF8_eq_some.mp read
      dsimp only
      constructor
      · intro resolved
        refine ⟨text, spelled, ?_⟩
        match outcome : (resolveHost lookup text).run with
        | some (.ok found) =>
            rw [outcome] at resolved
            cases resolved
            rfl
        | some (.error error) =>
            rw [outcome] at resolved
            cases resolved
        | none =>
            rw [outcome] at resolved
            cases resolved
      · rintro ⟨other, same, resolved⟩
        have equal : other = text := String.toByteArray_inj.mp (same.trans spelled.symm)
        subst equal
        rw [resolved]

variable {lookup : Lookup} {host service : CxxString}

theorem ovpnRustBackendResolve_none (failed : resolvedAddresses lookup host.data.toList = none)
    (output : List RustIpAddress) :
    ovpnRustBackendResolve (installed lookup) (viewOf host) (some output) (some 0) = (0, some output, some 0) := by
  unfold ovpnRustBackendResolve installed resolveCallback viewOf
  dsimp only
  rw [take_size, failed]

theorem ovpnRustBackendResolve_some {addresses : List IpAddr}
    (resolved : resolvedAddresses lookup host.data.toList = some addresses) (output : List RustIpAddress) :
    ovpnRustBackendResolve (installed lookup) (viewOf host) (some output) (some 0) =
      (1, some (writeAddresses (min addresses.length output.length) output addresses),
        some (min addresses.length output.length)) := by
  unfold ovpnRustBackendResolve installed resolveCallback viewOf
  dsimp only
  rw [take_size, resolved]

theorem resolve_rejected (rejected : ¬IsPort service) :
    resolve (installed lookup) host service = ([], .InvalidArgument) := by
  unfold resolve
  match scan : fromChars 65535 service.data.toList 0 with
  | (port, rest, ec) =>
      dsimp only
      have failed : ec ≠ .Ok ∨ rest ≠ [] := by
        by_contra accepted
        obtain ⟨ok, whole⟩ := not_or.mp accepted
        apply rejected
        apply fromChars_whole
        · rw [scan]
          exact not_not.mp ok
        · rw [scan]
          exact not_not.mp whole
      rw [if_pos failed]

-- The port of a service, where it is one.
def portOf (service : CxxString) : UInt16 := .ofNat (decimalValue 0 service.data.toList)

theorem portOf_toNat (accepted : IsPort service) : (portOf service).toNat = decimalValue 0 service.data.toList :=
  UInt16.toNat_ofNat_of_lt' (Nat.lt_of_le_of_lt accepted.2.2 (by decide))

theorem resolve_failed (accepted : IsPort service) (failed : ¬∃ addresses, Yields lookup host addresses) :
    resolve (installed lookup) host service = ([], .HostNotFound) := by
  have nothing : resolvedAddresses lookup host.data.toList = none := by
    cases found : resolvedAddresses lookup host.data.toList with
    | none => rfl
    | some addresses => exact absurd ⟨addresses, resolvedAddresses_eq_some.mp found⟩ failed
  unfold resolve
  rw [fromChars_number accepted]
  dsimp only
  rw [if_neg (by simp), ovpnRustBackendResolve_none nothing]
  dsimp only
  rw [if_pos rfl]

theorem resultsOf_some {endpoints : List Endpoint} (some : endpoints ≠ []) (host service : CxxString) :
    resultsOf endpoints host service = (endpoints.map fun endpoint => ⟨endpoint, host, service⟩, .Success) :=
  if_neg fun empty => some (List.isEmpty_iff.mp empty)

theorem resolve_yielded (accepted : IsPort service) {addresses : List IpAddr}
    (yields : Yields lookup host addresses) :
    resolve (installed lookup) host service =
      resultsOf ((addresses.take 64).map fun address => ⟨address, portOf service⟩) host service := by
  have resolved := resolvedAddresses_eq_some.mpr yields
  have decoded := endpoints_writeAddresses (portOf service) (List.replicate 64 zeroAddress) addresses
  rw [List.length_replicate] at decoded
  have code : ¬(1 : Int32) = 0 := by decide
  unfold resolve
  rw [fromChars_number accepted]
  dsimp only
  rw [if_neg (by simp), ovpnRustBackendResolve_some resolved, List.length_replicate]
  dsimp only [Option.getD_some]
  rw [if_neg code]
  exact congrArg (fun endpoints => resultsOf endpoints host service) decoded

theorem Yields.unique {first second : List IpAddr} (yields : Yields lookup host first)
    (other : Yields lookup host second) : first = second := by
  have found := resolvedAddresses_eq_some.mpr yields
  rw [resolvedAddresses_eq_some.mpr other] at found
  exact (Option.some.inj found).symm

-- The three ways to fail, and success.
theorem resolve_cases (lookup : Lookup) (host service : CxxString) :
    (¬IsPort service ∧ resolve (installed lookup) host service = ([], .InvalidArgument)) ∨
    ((¬∃ addresses, Yields lookup host addresses) ∧ resolve (installed lookup) host service = ([], .HostNotFound)) ∨
    (Yields lookup host [] ∧ resolve (installed lookup) host service = ([], .HostNotFound)) ∨
    ∃ addresses, IsPort service ∧ Yields lookup host addresses ∧ addresses ≠ [] ∧
      resolve (installed lookup) host service =
        ((addresses.take 64).map fun address => ⟨⟨address, portOf service⟩, host, service⟩, .Success) := by
  by_cases accepted : IsPort service
  · by_cases yielded : ∃ addresses, Yields lookup host addresses
    · obtain ⟨addresses, yields⟩ := yielded
      have outcome := resolve_yielded accepted yields
      by_cases none : addresses = []
      · subst none
        exact .inr (.inr (.inl ⟨yields, outcome⟩))
      · have some : (addresses.take 64).map (fun address => (⟨address, portOf service⟩ : Endpoint)) ≠ [] := by
          simp [none]
        rw [resultsOf_some some, List.map_map] at outcome
        exact .inr (.inr (.inr ⟨addresses, accepted, yields, none, outcome⟩))
    · exact .inr (.inl ⟨yielded, resolve_failed accepted yielded⟩)
  · exact .inl ⟨accepted, resolve_rejected accepted⟩

-- The results that OpenVPN Core gets, for a host that resolves and for one that does not.
theorem resolve_faithful {lookup : Lookup} {host service : CxxString} {results : List ResolverEntry}
    {code : ErrorCode} (outcome : resolve (installed lookup) host service = (results, code)) :
    (∀ addresses, Yields lookup host addresses →
      (code = .Success ↔ IsPort service ∧ addresses ≠ []) ∧
      (code = .Success → ∃ port : UInt16, port.toNat = decimalValue 0 service.data.toList ∧
        results = (addresses.take 64).map fun address => ⟨⟨address, port⟩, host, service⟩)) ∧
    ((¬∃ addresses, Yields lookup host addresses) → code ≠ .Success) ∧
    (code ≠ .Success → results = []) ∧
    (code = .Success → results ≠ []) := by
  rcases resolve_cases lookup host service with
    ⟨rejected, cause⟩ | ⟨failed, cause⟩ | ⟨empty, cause⟩ | ⟨found, accepted, gives, some, cause⟩
  · obtain ⟨rfl, rfl⟩ := Prod.mk.inj (outcome.symm.trans cause)
    have never : ErrorCode.InvalidArgument ≠ .Success := nofun
    refine ⟨fun addresses _ => ⟨?_, nofun⟩, fun _ => never, fun _ => rfl, nofun⟩
    exact iff_of_false never fun both => rejected both.1
  · obtain ⟨rfl, rfl⟩ := Prod.mk.inj (outcome.symm.trans cause)
    have never : ErrorCode.HostNotFound ≠ .Success := nofun
    exact ⟨fun addresses yields => absurd ⟨addresses, yields⟩ failed, fun _ => never, fun _ => rfl, nofun⟩
  · obtain ⟨rfl, rfl⟩ := Prod.mk.inj (outcome.symm.trans cause)
    have never : ErrorCode.HostNotFound ≠ .Success := nofun
    refine ⟨fun addresses yields => ⟨?_, nofun⟩, fun _ => never, fun _ => rfl, nofun⟩
    exact iff_of_false never fun both => both.2 (yields.unique empty)
  · obtain ⟨rfl, rfl⟩ := Prod.mk.inj (outcome.symm.trans cause)
    refine ⟨fun addresses yields => ?_, fun failed => absurd ⟨found, gives⟩ failed, nofun, fun _ => by simp [some]⟩
    have same : addresses = found := yields.unique gives
    subst same
    exact ⟨iff_of_true rfl ⟨accepted, some⟩, fun _ => ⟨portOf service, portOf_toNat accepted, rfl⟩⟩

-- One name with an address of each family.
def mixedAddresses : List IpAddr :=
  [.V6 (.ofFn fun index => if index.val = 15 then 1 else 0),
    .V4 (.ofFn fun index => if index.val = 0 then 127 else 0)]

def mixedLookup : Lookup where
  parse := fun _ => none
  resolverRuntime := pure ()
  lookupIp := fun _ => some (.ok mixedAddresses)

def localhost : CxxString := "localhost".toByteArray

def paddedPort : CxxString := "01194".toByteArray

theorem resolve_faithful_mixed :
    ∃ port : UInt16, port.toNat = 1194 ∧ resolve (installed mixedLookup) localhost paddedPort =
      (mixedAddresses.map fun address => ⟨⟨address, port⟩, localhost, paddedPort⟩, .Success) := by
  have yields : Yields mixedLookup localhost mixedAddresses := ⟨"localhost", rfl, rfl⟩
  have accepted : IsPort paddedPort := ⟨by decide, List.all_eq_true.mp rfl, by decide⟩
  cases outcome : resolve (installed mixedLookup) localhost paddedPort with
  | mk results code =>
      have faithful := (resolve_faithful outcome).1 mixedAddresses yields
      have success := faithful.1.mpr ⟨accepted, List.cons_ne_nil _ _⟩
      obtain ⟨port, number, entries⟩ := faithful.2 success
      exact ⟨port, number, Prod.ext entries success⟩

end Results

end OpenvpnConnect.Resolver
