import OpenvpnConnect.Tun.Builder

namespace OpenvpnConnect.Tun

variable {σ : Type}

-- The accessor panics, or the builder it provides does in the method of the call.
def Panics (handler : EventHandler σ) (call : TunCall) (state : σ) : Prop :=
  (handler.tunBuilder state).1 = none ∨
    ∃ tun, (handler.tunBuilder state).1 = some (some tun) ∧ (call.method tun (handler.tunBuilder state).2).1 = none

theorem builderAction_panics {handler : EventHandler σ} {call : TunCall} {state : σ}
    (panics : Panics handler call state) (default : Bool) :
    (builderAction handler default (fun tun => call.method tun) state).1 = none := by
  unfold builderAction
  rcases panics with accessor | ⟨tun, present, method⟩
  · have provided : handler.tunBuilder state = (none, (handler.tunBuilder state).2) := Prod.ext accessor rfl
    rw [provided]
  · have provided : handler.tunBuilder state = (some (some tun), (handler.tunBuilder state).2) :=
      Prod.ext present rfl
    rw [provided]
    exact method

-- A panic is answered as if there were no builder.
theorem coreCall_panics {handler : EventHandler σ} {call : TunCall} {state : σ}
    (panics : Panics handler call state) :
    (coreCall (callbacks handler) call state).1 = call.absentAnswer := by
  have caught := builderAction_panics panics call.absentAnswer
  rw [coreCall_callbacks, callTun]
  dsimp only
  rw [caught]
  rfl

-- The calls that a platform may leave out: without a builder they succeed.
inductive TunCall.Optional : TunCall → Prop where
  | Layer (layer : Int32) : Optional (.SetLayer layer)
  | Metric (metric : Int32) : Optional (.SetRouteMetricDefault metric)
  | Family (addressFamily : Int32) (allow : Bool) : Optional (.SetAllowFamily addressFamily allow)
  | LocalDns (allow : Bool) : Optional (.SetAllowLocalDns allow)
  | Persist : Optional .Persist

theorem TunCall.absentAnswer_eq_true (call : TunCall) : call.absentAnswer = true ↔ call.Optional := by
  constructor
  · intro answer
    cases call with
    | SetLayer layer => exact .Layer layer
    | SetRouteMetricDefault metric => exact .Metric metric
    | SetAllowFamily addressFamily allow => exact .Family addressFamily allow
    | SetAllowLocalDns allow => exact .LocalDns allow
    | Persist => exact .Persist
    | _ => cases answer
  · rintro (_ | _ | _ | _ | _)
    all_goals rfl

theorem panic_reported {handler : EventHandler σ} {call : TunCall} {state : σ} (panics : Panics handler call state) :
    (coreCall (callbacks handler) call state).1 = false ↔ ¬ call.Optional := by
  rw [coreCall_panics panics, ← Bool.not_eq_true, TunCall.absentAnswer_eq_true]

-- A builder whose persist panics.
def persistPanics : EventHandler Unit where
  tunBuilder := fun state => (some (some { TunBuilder.defaults with persist := fun state => (none, state) }), state)

-- An accessor that panics.
def accessorPanics : EventHandler Unit where
  tunBuilder := fun state => (none, state)

theorem panic_reported_mtu :
    ((coreCall (callbacks accessorPanics) (.SetMtu 1500) ()).1 = false ↔ ¬ TunCall.Optional (.SetMtu 1500)) ∧
      ((coreCall (callbacks persistPanics) .Persist ()).1 = false ↔ ¬ TunCall.Optional .Persist) :=
  ⟨panic_reported (.inl rfl), panic_reported (.inr ⟨_, rfl, rfl⟩)⟩

theorem persist_panic_is_success :
    ¬ ∀ (σ : Type) (handler : EventHandler σ) (call : TunCall) (state : σ),
      Panics handler call state → (coreCall (callbacks handler) call state).1 = false := by
  intro claimed
  have reported := claimed Unit persistPanics .Persist () (.inr ⟨_, rfl, rfl⟩)
  have success : (coreCall (callbacks persistPanics) .Persist ()).1 = true := rfl
  rw [success] at reported
  cases reported

end OpenvpnConnect.Tun
