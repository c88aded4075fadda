import OpenvpnConnect.Native.Views

-- DNS settings on their way from OpenVPN Core to the platform.
namespace OpenvpnConnect.Tun

open Native

-- The settings as OpenVPN Core holds them.
namespace Core

inductive Security where
  | Unset
  | No
  | Yes
  | Optional
  deriving DecidableEq

inductive Transport where
  | Unset
  | Plain
  | Https
  | Tls
  deriving DecidableEq

def Security.toI32 : Security → Int32
  | .Unset => 0
  | .No => 1
  | .Yes => 2
  | .Optional => 3

def Transport.toI32 : Transport → Int32
  | .Unset => 0
  | .Plain => 1
  | .Https => 2
  | .Tls => 3

structure DnsAddress where
  address : CxxString
  port : UInt32

structure DnsDomain where
  domain : CxxString

structure DnsServer where
  addresses : List DnsAddress
  domains : List DnsDomain
  dnssec : Security
  transport : Transport
  sni : CxxString

-- The entries of a std::map, in the order of its iteration.
structure DnsServers where
  entries : List (Int32 × DnsServer)
  ascending : entries.Pairwise (fun first second => first.1 < second.1)

structure DnsOptions where
  fromDhcpOptions : Bool
  searchDomains : List DnsDomain
  servers : DnsServers

end Core

structure DnsAddress where
  address : String
  port : UInt32
  deriving DecidableEq

inductive DnsSecurity where
  | Unset
  | No
  | Yes
  | Optional
  deriving DecidableEq

inductive DnsTransport where
  | Unset
  | Plain
  | Https
  | Tls
  deriving DecidableEq

structure DnsServer where
  priority : Int32
  addresses : List DnsAddress
  resolveDomains : List String
  security : DnsSecurity
  transport : DnsTransport
  sni : String
  deriving DecidableEq

structure DnsOptions where
  fromDhcpOptions : Bool
  searchDomains : List String
  servers : List DnsServer
  deriving DecidableEq

section Views

-- The data of one of several vectors, by its position among them, or null, with the length.
structure Span where
  data : Option Nat
  len : Nat

def spanOf {α : Type} (position : Nat) (values : List α) : Span :=
  ⟨if values.isEmpty then none else some position, values.length⟩

def rawSpanSlice {α : Type} (vectors : List (List α)) (span : Span) : List α :=
  match span.data with
  | none => []
  | some position => if span.len = 0 then [] else (vectors.getD position []).take span.len

structure DnsAddressView where
  address : StringView
  port : UInt32

structure DnsServerView where
  priority : Int32
  addresses : Span
  domains : Span
  dnssec : Int32
  transport : Int32
  sni : StringView

structure DnsOptionsView where
  fromDhcpOptions : Int32
  searchDomains : View StringView
  servers : View DnsServerView

-- The vectors that the views of a call point into.
structure DnsVectors where
  addresses : List (List DnsAddressView)
  domains : List (List StringView)
  servers : List DnsServerView

def DnsVectors.empty : DnsVectors := ⟨[], [], []⟩

def dnsAddressViews (server : Core.DnsServer) : List DnsAddressView :=
  server.addresses.map (fun address => ⟨viewOf address.address, address.port⟩)

def dnsDomainViews (domains : List Core.DnsDomain) : List StringView :=
  domains.map (fun domain => viewOf domain.domain)

def DnsVectors.serverView (vectors : DnsVectors) (priority : Int32) (server : Core.DnsServer) : DnsServerView where
  priority := priority
  addresses := spanOf vectors.addresses.length (dnsAddressViews server)
  domains := spanOf vectors.domains.length (dnsDomainViews server.domains)
  dnssec := server.dnssec.toI32
  transport := server.transport.toI32
  sni := viewOf server.sni

def DnsVectors.pushServer (vectors : DnsVectors) (entry : Int32 × Core.DnsServer) : DnsVectors where
  addresses := vectors.addresses ++ [dnsAddressViews entry.2]
  domains := vectors.domains ++ [dnsDomainViews entry.2.domains]
  servers := vectors.servers ++ [vectors.serverView entry.1 entry.2]

def dnsVectors (dns : Core.DnsOptions) : DnsVectors :=
  dns.servers.entries.foldl DnsVectors.pushServer DnsVectors.empty

def dnsOptionsView (dns : Core.DnsOptions) : DnsOptionsView where
  fromDhcpOptions := boolI32 dns.fromDhcpOptions
  searchDomains := vectorView (dnsDomainViews dns.searchDomains)
  servers := vectorView (dnsVectors dns).servers

end Views

section Rebuilding

def securityFrom (dnssec : Int32) : DnsSecurity :=
  if dnssec = 1 then .No
  else if dnssec = 2 then .Yes
  else if dnssec = 3 then .Optional
  else .Unset

def transportFrom (transport : Int32) : DnsTransport :=
  if transport = 1 then .Plain
  else if transport = 2 then .Https
  else if transport = 3 then .Tls
  else .Unset

def dnsServerFrom (vectors : DnsVectors) (server : DnsServerView) : DnsServer where
  priority := server.priority
  addresses := (rawSpanSlice vectors.addresses server.addresses).map
    (fun address => ⟨stringFromView address.address, address.port⟩)
  resolveDomains := (rawSpanSlice vectors.domains server.domains).map stringFromView
  security := securityFrom server.dnssec
  transport := transportFrom server.transport
  sni := stringFromView server.sni

def dnsOptionsFrom (vectors : DnsVectors) (raw : DnsOptionsView) : DnsOptions where
  fromDhcpOptions := raw.fromDhcpOptions != 0
  searchDomains := (rawViewSlice raw.searchDomains).map stringFromView
  servers := (rawViewSlice raw.servers).map (dnsServerFrom vectors)

end Rebuilding

section Slots

variable {α : Type}

theorem rawSpanSlice_last (vectors : List (List α)) (values : List α) :
    rawSpanSlice (vectors ++ [values]) (spanOf vectors.length values) = values := by
  cases values with
  | nil => rfl
  | cons value rest => simp [rawSpanSlice, spanOf]

-- The vector a span points to has already been pushed.
def Span.Within (span : Span) (count : Nat) : Prop := ∀ position ∈ span.data, position < count

theorem Span.Within.weaken {span : Span} {count more : Nat} (within : span.Within count) (fewer : count ≤ more) :
    span.Within more :=
  fun position pointed => Nat.lt_of_lt_of_le (within position pointed) fewer

theorem spanOf_within (position : Nat) (values : List α) : (spanOf position values).Within (position + 1) := by
  intro other pointed
  cases values with
  | nil => simp [spanOf] at pointed
  | cons value rest =>
      have same : position = other := by simpa [spanOf] using pointed
      omega

theorem rawSpanSlice_append (vectors : List (List α)) (values : List α) {span : Span}
    (within : span.Within vectors.length) :
    rawSpanSlice (vectors ++ [values]) span = rawSpanSlice vectors span := by
  unfold rawSpanSlice
  cases pointed : span.data with
  | none => rfl
  | some position =>
      have known : position < vectors.length := within position pointed
      have kept : (vectors ++ [values]).getD position [] = vectors.getD position [] := by
        rw [List.getD_eq_getElem?_getD, List.getD_eq_getElem?_getD, List.getElem?_append_left known]
      dsimp only
      rw [kept]

end Slots

section Servers

-- What the tunnel builder is given of one server, read straight from the map's entry.
def dnsServerCopy (entry : Int32 × Core.DnsServer) : DnsServer where
  priority := entry.1
  addresses := entry.2.addresses.map (fun address => ⟨fromUtf8Lossy address.address, address.port⟩)
  resolveDomains := entry.2.domains.map (fun domain => fromUtf8Lossy domain.domain)
  security := securityFrom entry.2.dnssec.toI32
  transport := transportFrom entry.2.transport.toI32
  sni := fromUtf8Lossy entry.2.sni

-- Every server pushed so far points to vectors pushed so far.
def DnsVectors.Closed (vectors : DnsVectors) : Prop :=
  ∀ server ∈ vectors.servers,
    server.addresses.Within vectors.addresses.length ∧ server.domains.Within vectors.domains.length

def DnsVectors.read (vectors : DnsVectors) : List DnsServer := vectors.servers.map (dnsServerFrom vectors)

theorem DnsVectors.closed_empty : DnsVectors.empty.Closed := by
  intro server member
  cases member

theorem DnsVectors.Closed.pushServer {vectors : DnsVectors} (closed : vectors.Closed)
    (entry : Int32 × Core.DnsServer) : (vectors.pushServer entry).Closed := by
  intro server member
  have addresses : (vectors.pushServer entry).addresses.length = vectors.addresses.length + 1 := by
    simp [DnsVectors.pushServer]
  have domains : (vectors.pushServer entry).domains.length = vectors.domains.length + 1 := by
    simp [DnsVectors.pushServer]
  rw [addresses, domains]
  rcases List.mem_append.mp member with old | new
  · exact ⟨(closed server old).1.weaken (Nat.le_succ _), (closed server old).2.weaken (Nat.le_succ _)⟩
  · have same := List.mem_singleton.mp new
    subst same
    exact ⟨spanOf_within _ _, spanOf_within _ _⟩

-- A later push leaves the servers before it alone.
theorem dnsServerFrom_push_old {vectors : DnsVectors} (closed : vectors.Closed) (entry : Int32 × Core.DnsServer)
    {server : DnsServerView} (member : server ∈ vectors.servers) :
    dnsServerFrom (vectors.pushServer entry) server = dnsServerFrom vectors server := by
  obtain ⟨addresses, domains⟩ := closed server member
  unfold dnsServerFrom DnsVectors.pushServer
  dsimp only
  rw [rawSpanSlice_append _ _ addresses, rawSpanSlice_append _ _ domains]

theorem map_stringFromView (domains : List Core.DnsDomain) :
    (dnsDomainViews domains).map stringFromView = domains.map (fun domain => fromUtf8Lossy domain.domain) := by
  rw [dnsDomainViews, List.map_map]
  exact List.map_congr_left (fun domain _ => stringFromView_viewOf domain.domain)

theorem dnsServerFrom_push_new (vectors : DnsVectors) (entry : Int32 × Core.DnsServer) :
    dnsServerFrom (vectors.pushServer entry) (vectors.serverView entry.1 entry.2) = dnsServerCopy entry := by
  unfold dnsServerFrom DnsVectors.pushServer DnsVectors.serverView dnsServerCopy
  dsimp only
  rw [rawSpanSlice_last, rawSpanSlice_last, map_stringFromView, stringFromView_viewOf, dnsAddressViews, List.map_map]
  have addresses : entry.2.addresses.map ((fun address : DnsAddressView =>
      (⟨stringFromView address.address, address.port⟩ : DnsAddress)) ∘
        (fun address => ⟨viewOf address.address, address.port⟩)) =
      entry.2.addresses.map (fun address => ⟨fromUtf8Lossy address.address, address.port⟩) := by
    apply List.map_congr_left
    intro address _
    dsimp only [Function.comp]
    rw [stringFromView_viewOf]
  rw [addresses]

theorem DnsVectors.read_pushServer {vectors : DnsVectors} (closed : vectors.Closed)
    (entry : Int32 × Core.DnsServer) :
    (vectors.pushServer entry).read = vectors.read ++ [dnsServerCopy entry] := by
  have old : vectors.servers.map (dnsServerFrom (vectors.pushServer entry)) = vectors.read :=
    List.map_congr_left (fun server member => dnsServerFrom_push_old closed entry member)
  have split : (vectors.pushServer entry).read =
      (vectors.servers ++ [vectors.serverView entry.1 entry.2]).map (dnsServerFrom (vectors.pushServer entry)) := rfl
  rw [split, List.map_append, old, List.map_singleton, dnsServerFrom_push_new]

-- The loop over the map: each server reads back as its own entry, whatever is pushed after it.
theorem DnsVectors.read_foldl (entries : List (Int32 × Core.DnsServer)) {vectors : DnsVectors}
    (closed : vectors.Closed) :
    (entries.foldl DnsVectors.pushServer vectors).read = vectors.read ++ entries.map dnsServerCopy := by
  induction entries generalizing vectors with
  | nil => rw [List.foldl_nil, List.map_nil, List.append_nil]
  | cons entry rest ih =>
      rw [List.foldl_cons, ih (closed.pushServer entry), DnsVectors.read_pushServer closed, List.map_cons,
        List.append_assoc, List.singleton_append]

-- What the tunnel builder is given for the settings of OpenVPN Core.
theorem dnsOptionsFrom_views (dns : Core.DnsOptions) :
    dnsOptionsFrom (dnsVectors dns) (dnsOptionsView dns) =
      ⟨dns.fromDhcpOptions, dns.searchDomains.map (fun domain => fromUtf8Lossy domain.domain),
        dns.servers.entries.map dnsServerCopy⟩ := by
  have servers : (dnsVectors dns).read = dns.servers.entries.map dnsServerCopy :=
    DnsVectors.read_foldl dns.servers.entries DnsVectors.closed_empty
  unfold DnsVectors.read at servers
  unfold dnsOptionsFrom dnsOptionsView
  dsimp only
  rw [rawViewSlice_vectorView, rawViewSlice_vectorView, boolI32_ne_zero, map_stringFromView, servers]

end Servers

end OpenvpnConnect.Tun
