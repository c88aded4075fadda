namespace OpenvpnConnect

inductive Error
  | Core (status message : String)
  | InvalidState (message : String)
  | UnsupportedCapability (capability detail : String)
  | Initialization (message : String)
  | Runtime (message : String)
  | SessionClosed
deriving DecidableEq, Repr

instance decidableEqExcept {ε α : Type} [DecidableEq ε] [DecidableEq α] : DecidableEq (Except ε α)
  | .ok first, .ok second => decidable_of_iff (first = second) (by rw [Except.ok.injEq])
  | .error first, .error second => decidable_of_iff (first = second) (by rw [Except.error.injEq])
  | .ok _, .error _ => isFalse (by rintro ⟨⟩)
  | .error _, .ok _ => isFalse (by rintro ⟨⟩)

theorem bind_eq_ok {ε α β : Type} {first : Except ε α} {next : α → Except ε β} {result : β} :
    first >>= next = .ok result ↔ ∃ value, first = .ok value ∧ next value = .ok result := by
  cases first with
  | error error => exact ⟨fun h => (by cases h), fun ⟨_, h, _⟩ => (by cases h)⟩
  | ok value => exact ⟨fun h => ⟨value, rfl, h⟩, fun ⟨_, he, h⟩ => by cases he; exact h⟩

-- What the native library was compiled with, as far as `Config` is checked
-- against it.
structure Capabilities where
  dco : Bool
  gremlin : Bool
  privateTunnelProxy : Bool
deriving DecidableEq, Repr

structure Config where
  dco : Bool
  gremlinConfig : String
  alternativeProxy : Bool
deriving DecidableEq, Repr

def Config.validateCapabilities (config : Config) (capabilities : Capabilities) : Except Error Unit :=
  if config.dco ∧ ¬capabilities.dco then
    .error (.UnsupportedCapability "dco"
      "enable the `dco` Cargo feature on Linux or Windows and install the platform DCO dependencies")
  else if config.gremlinConfig ≠ "" ∧ ¬capabilities.gremlin then
    .error (.UnsupportedCapability "gremlin" "rebuild OpenVPN Core from source with OPENVPN_GREMLIN")
  else if config.alternativeProxy ∧ ¬capabilities.privateTunnelProxy then
    .error (.UnsupportedCapability "private-tunnel-proxy"
      "the proprietary Private Tunnel proxy implementation is not present in the open-source OpenVPN 3 source tree")
  else .ok ()

end OpenvpnConnect
