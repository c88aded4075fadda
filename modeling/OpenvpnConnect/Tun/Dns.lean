import OpenvpnConnect.Tun.Builder
import Mathlib.Data.List.Forall2

-- The settings a tunnel builder receives are those of OpenVPN Core.
namespace OpenvpnConnect.Tun

open Native

-- The text holds exactly the bytes of the string.
def TextOf (value : CxxString) (text : String) : Prop := text.toByteArray = value

structure DnsAddressImage (source : Core.DnsAddress) (copy : DnsAddress) : Prop where
  address : TextOf source.address copy.address
  port : copy.port = source.port

def DnsDomainImage (source : Core.DnsDomain) (copy : String) : Prop := TextOf source.domain copy

def securityImage : Core.Security → DnsSecurity
  | .Unset => .Unset
  | .No => .No
  | .Yes => .Yes
  | .Optional => .Optional

def transportImage : Core.Transport → DnsTransport
  | .Unset => .Unset
  | .Plain => .Plain
  | .Https => .Https
  | .Tls => .Tls

structure DnsServerImage (entry : Int32 × Core.DnsServer) (copy : DnsServer) : Prop where
  priority : copy.priority = entry.1
  addresses : List.Forall₂ DnsAddressImage entry.2.addresses copy.addresses
  resolveDomains : List.Forall₂ DnsDomainImage entry.2.domains copy.resolveDomains
  security : copy.security = securityImage entry.2.dnssec
  transport : copy.transport = transportImage entry.2.transport
  sni : TextOf entry.2.sni copy.sni

-- The same settings field by field, every list with its entries one for one and in order.
structure DnsImage (dns : Core.DnsOptions) (copy : DnsOptions) : Prop where
  fromDhcpOptions : copy.fromDhcpOptions = dns.fromDhcpOptions
  searchDomains : List.Forall₂ DnsDomainImage dns.searchDomains copy.searchDomains
  servers : List.Forall₂ DnsServerImage dns.servers.entries copy.servers

structure Core.DnsServer.Valid (server : Core.DnsServer) : Prop where
  addresses : ∀ address ∈ server.addresses, address.address.IsValidUTF8
  domains : ∀ domain ∈ server.domains, domain.domain.IsValidUTF8
  sni : server.sni.IsValidUTF8

-- Every string of the settings is UTF-8.
structure Core.DnsOptions.Valid (dns : Core.DnsOptions) : Prop where
  searchDomains : ∀ domain ∈ dns.searchDomains, domain.domain.IsValidUTF8
  servers : ∀ entry ∈ dns.servers.entries, entry.2.Valid

theorem TextOf.unique {value : CxxString} {first second : String} (text : TextOf value first)
    (other : TextOf value second) : first = second :=
  String.toByteArray_inj.mp (text.trans other.symm)

theorem DnsAddressImage.unique : Relator.RightUnique DnsAddressImage := by
  intro source first second image other
  have address := image.address.unique other.address
  have port := image.port.trans other.port.symm
  cases first
  cases second
  rw [DnsAddress.mk.injEq]
  exact ⟨address, port⟩

theorem DnsDomainImage.unique : Relator.RightUnique DnsDomainImage :=
  fun _ _ _ text same => TextOf.unique text same

theorem DnsServerImage.unique : Relator.RightUnique DnsServerImage := by
  intro entry first second image other
  have priority := image.priority.trans other.priority.symm
  have addresses := DnsAddressImage.unique.forall₂ image.addresses other.addresses
  have resolveDomains := DnsDomainImage.unique.forall₂ image.resolveDomains other.resolveDomains
  have security := image.security.trans other.security.symm
  have transport := image.transport.trans other.transport.symm
  have sni := image.sni.unique other.sni
  cases first
  cases second
  rw [DnsServer.mk.injEq]
  exact ⟨priority, addresses, resolveDomains, security, transport, sni⟩

-- There is only one such copy.
theorem DnsImage.unique : Relator.RightUnique DnsImage := by
  intro dns first second image other
  have fromDhcpOptions := image.fromDhcpOptions.trans other.fromDhcpOptions.symm
  have searchDomains := DnsDomainImage.unique.forall₂ image.searchDomains other.searchDomains
  have servers := DnsServerImage.unique.forall₂ image.servers other.servers
  cases first
  cases second
  rw [DnsOptions.mk.injEq]
  exact ⟨fromDhcpOptions, searchDomains, servers⟩

theorem forall₂_map_of_mem {α β : Type} {related : α → β → Prop} {copy : α → β} {values : List α}
    (each : ∀ value ∈ values, related value (copy value)) : List.Forall₂ related values (values.map copy) := by
  induction values with
  | nil => exact List.Forall₂.nil
  | cons value rest ih =>
      have later := ih (fun other member => each other (List.mem_cons_of_mem value member))
      exact List.Forall₂.cons (each value List.mem_cons_self) later

theorem securityFrom_toI32 (dnssec : Core.Security) : securityFrom dnssec.toI32 = securityImage dnssec := by
  cases dnssec with
  | Unset => rfl
  | No => rfl
  | Yes => rfl
  | Optional => rfl

theorem transportFrom_toI32 (transport : Core.Transport) :
    transportFrom transport.toI32 = transportImage transport := by
  cases transport with
  | Unset => rfl
  | Plain => rfl
  | Https => rfl
  | Tls => rfl

theorem dnsDomains_image {domains : List Core.DnsDomain} (valid : ∀ domain ∈ domains, domain.domain.IsValidUTF8) :
    List.Forall₂ DnsDomainImage domains (domains.map (fun domain => fromUtf8Lossy domain.domain)) :=
  forall₂_map_of_mem (fun domain member => fromUtf8Lossy_valid (valid domain member))

theorem dnsServerCopy_image {entry : Int32 × Core.DnsServer} (valid : entry.2.Valid) :
    DnsServerImage entry (dnsServerCopy entry) where
  priority := rfl
  addresses := forall₂_map_of_mem
    (fun address member => ⟨fromUtf8Lossy_valid (valid.addresses address member), rfl⟩)
  resolveDomains := dnsDomains_image valid.domains
  security := securityFrom_toI32 entry.2.dnssec
  transport := transportFrom_toI32 entry.2.transport
  sni := fromUtf8Lossy_valid valid.sni

theorem dnsOptionsFrom_image {dns : Core.DnsOptions} (valid : dns.Valid) :
    DnsImage dns (dnsOptionsFrom (dnsVectors dns) (dnsOptionsView dns)) := by
  rw [dnsOptionsFrom_views]
  have servers : List.Forall₂ DnsServerImage dns.servers.entries (dns.servers.entries.map dnsServerCopy) :=
    forall₂_map_of_mem (fun entry member => dnsServerCopy_image (valid.servers entry member))
  exact ⟨rfl, dnsDomains_image valid.searchDomains, servers⟩

theorem DnsServerImage.priorities {entries : List (Int32 × Core.DnsServer)} {copies : List DnsServer}
    (images : List.Forall₂ DnsServerImage entries copies) :
    copies.map DnsServer.priority = entries.map Prod.fst := by
  induction images with
  | nil => rfl
  | cons head _ ih => rw [List.map_cons, List.map_cons, head.priority, ih]

theorem DnsImage.ascending {dns : Core.DnsOptions} {copy : DnsOptions} (image : DnsImage dns copy) :
    copy.servers.Pairwise (fun first second => first.priority < second.priority) := by
  have sorted : (dns.servers.entries.map Prod.fst).Pairwise (· < ·) :=
    List.pairwise_map.mpr dns.servers.ascending
  rw [← DnsServerImage.priorities image.servers] at sorted
  exact List.pairwise_map.mp sorted

theorem dns_options_received {dns : Core.DnsOptions} (valid : dns.Valid) :
    ∃ received, DnsImage dns received ∧ (∀ other, DnsImage dns other → other = received) ∧
      received.servers.Pairwise (fun first second => first.priority < second.priority) ∧
      ∀ (σ : Type) (handler : EventHandler σ) (tun : TunBuilder σ) (state after : σ),
        handler.tunBuilder state = (some (some tun), after) →
          RustClient.tunBuilderSetDnsOptions (callbacks handler) dns state =
            ((tun.setDnsOptions received after).1.getD false, (tun.setDnsOptions received after).2) := by
  have image := dnsOptionsFrom_image valid
  refine ⟨_, image, fun other copy => DnsImage.unique copy image, image.ascending, ?_⟩
  intro σ handler tun state after provided
  have called : RustClient.tunBuilderSetDnsOptions (callbacks handler) dns = _ :=
    coreCall_callbacks handler (.SetDnsOptions dns)
  rw [called, callTun]
  simp only [builderAction, provided]
  rfl

-- Two servers, one without addresses, the other without domains.
def splitDns : Core.DnsOptions where
  fromDhcpOptions := true
  searchDomains := [⟨"search.example.test".toByteArray⟩, ⟨"".toByteArray⟩]
  servers :=
    { entries := [
        (-42, { addresses := []
                domains := [⟨"split.example.test".toByteArray⟩, ⟨"a\x00b".toByteArray⟩]
                dnssec := .Optional
                transport := .Tls
                sni := "resolver.example.test".toByteArray }),
        (7, { addresses := [⟨"192.0.2.53".toByteArray, 5353⟩, ⟨"2001:db8::53".toByteArray, 0⟩]
              domains := []
              dnssec := .Unset
              transport := .Plain
              sni := "".toByteArray })]
      ascending := by decide }

theorem splitDns_valid : splitDns.Valid where
  searchDomains := by simp [splitDns, String.isValidUTF8]
  servers := by
    intro entry member
    rcases List.mem_cons.mp member with first | rest
    · subst first
      constructor <;> simp [String.isValidUTF8]
    · have second := List.mem_singleton.mp rest
      subst second
      constructor <;> simp [String.isValidUTF8]

def recordingBuilder : TunBuilder (List DnsOptions) :=
  { TunBuilder.defaults with setDnsOptions := fun dns state => (some true, state ++ [dns]) }

def recorder : EventHandler (List DnsOptions) where
  tunBuilder := fun state => (some (some recordingBuilder), state)

theorem dns_options_received_split :
    ∃ received, DnsImage splitDns received ∧
      RustClient.tunBuilderSetDnsOptions (callbacks recorder) splitDns [] = (true, [received]) := by
  obtain ⟨received, image, _, _, delivered⟩ := dns_options_received splitDns_valid
  exact ⟨received, image, delivered _ recorder recordingBuilder [] [] rfl⟩

end OpenvpnConnect.Tun
