import OpenvpnConnect.Tokio.Stoppable

namespace OpenvpnConnect.Tokio

open Transition
open OpenvpnConnect.Client (Outcome Lifecycle)

section Stays

variable {φ η : Type}

-- What becomes of a session in a step: a driver that has its guard keeps it
-- until it clears the flag, one that is done stays done, and so does a start.
structure Session.Leads (session next : Session η) (cleared : Prop) : Prop where
  exited : session.driver = .Exited → next.driver = .Exited
  active : session.driver.active = true → next.driver.active = true ∨ cleared
  started : session.started = .Sent → next.started = .Sent

theorem Session.Move.leads {capacity : Nat} {future : φ} {session next : Session η}
    {seen : List (Event φ η)} (hm : session.Move capacity future next seen) (cleared : Prop) :
    session.Leads next cleared := by
  refine ⟨?_, fun hactive => .inl (hm.active.trans hactive), ?_⟩
  · intro hexited
    cases hm <;> simp_all
  · intro hsent
    cases hm <;> exact hsent

theorem Cause.leads {session next : Session η} {actor : Actor φ η} {front : List (Event φ η)}
    (hcause : Cause session actor next front) (cleared : Prop) : session.Leads next cleared := by
  refine ⟨?_, fun hactive => .inl (hcause.active.trans hactive), ?_⟩
  · intro hexited
    cases hcause <;> simp_all [Driver.joinable]
  · intro hsent
    cases hcause <;> exact hsent

theorem Session.leads_of_eq {session next : Session η} {cleared : Prop}
    (hdriver : next.driver = session.driver) (hstarted : next.started = session.started) :
    session.Leads next cleared :=
  ⟨fun h => hdriver.trans h, fun h => .inl (hdriver ▸ h), fun h => hstarted.trans h⟩

variable [DecidableEq φ] [DecidableEq η] {capabilities : Capabilities} {capacity : Nat}

theorem Session.absorb_leads (future : φ) (session : Session η) (event : Client.Event (Actor φ η))
    (cleared : Prop) : session.Leads (session.absorb future event) cleared := by
  refine ⟨?_, fun h => .inl ((session.absorb_active future event).trans h), ?_⟩
  · intro hexited
    unfold Session.absorb
    split <;> try exact hexited
    all_goals split <;> try exact hexited
    · simp [Session.stopReturned, hexited]
    · unfold Session.holderReturned
      split <;> exact hexited
  · intro hsent
    unfold Session.absorb
    split <;> try exact hsent
    all_goals split <;> try exact hsent
    · rfl
    · simp [Session.workerReturned, hsent]
    · unfold Session.stopReturned
      split <;> exact hsent
    · unfold Session.holderReturned
      split <;> exact hsent

theorem Session.foldl_absorb_leads (future : φ) (session : Session η)
    (seen : List (Client.Event (Actor φ η))) :
    session.Leads (seen.foldl (Session.absorb future) session) False := by
  induction seen generalizing session with
  | nil => exact session.leads_of_eq rfl rfl
  | cons event rest ih =>
      have hfirst := session.absorb_leads future event False
      have hrest := ih (session.absorb future event)
      exact ⟨fun h => hrest.exited (hfirst.exited h),
        fun h => hrest.active ((hfirst.active h).resolve_right id), fun h => hrest.started (hfirst.started h)⟩

-- A session is never taken away.
theorem Move.session {state after : State φ η} {future : φ} {session : Session η}
    {seen : List (Event φ η)} (hm : Move capabilities capacity state after seen) (hs : Sessions state)
    (hsession : state.session future = some session) :
    ∃ next, after.session future = some next ∧
      session.Leads next (.Cleared future ∈ seen) := by
  have hset : ∀ (base : State φ η) (other : φ) (rest next : Session η),
      base.session = state.session → state.session other = some rest →
      (future = other → rest.Leads next (.Cleared future ∈ seen)) →
      ∃ next', (base.setSession other next).session future = some next' ∧
        session.Leads next' (.Cleared future ∈ seen) := by
    intro base other rest next hbase hrest hleads
    rw [State.session_setSession]
    split
    · rename_i heq
      rw [heq, hrest] at hsession
      cases hsession
      exact ⟨next, rfl, hleads heq⟩
    · rw [hbase]
      exact ⟨session, hsession, session.leads_of_eq rfl rfl⟩
  have hsame : ∀ base : State φ η, base.session = state.session →
      ∃ next, base.session future = some next ∧
        session.Leads next (.Cleared future ∈ seen) := by
    intro base hbase
    rw [hbase]
    exact ⟨session, hsession, session.leads_of_eq rfl rfl⟩
  cases hm with
  | Exchanged other hfuture _ =>
      have hspawns := hs.begun future session hsession
      have hne : future ≠ other := by
        rintro rfl
        simp [hfuture, Future.spawns] at hspawns
      rw [State.session_setSession, if_neg hne]
      exact ⟨session, hsession, session.leads_of_eq rfl rfl⟩
  | Connected other rest _ hrest _ | NeverStarted other rest _ _ hrest _ | Abandoned other rest _ hrest =>
      exact hset _ other rest _ rfl hrest fun _ => rest.leads_of_eq rfl rfl
  | SessionMoved other hrest hmove => exact hset _ other _ _ rfl hrest fun _ => hmove.leads _
  | GuardCleared other rest result hrest hdriver =>
      refine hset _ other rest _ rfl hrest fun heq => ⟨?_, ?_, id⟩
      · simp [hdriver]
      · intro _
        exact .inr (by simp [heq])
  | WorkerRun other rest hrest _ _ =>
      exact hset _ other rest _ rfl hrest fun _ => rest.leads_of_eq rfl rfl
  | StopCalled actor hrest hcause _ => exact hset _ actor.future _ _ rfl hrest fun _ => hcause.leads _
  | @CoreMoved actor _ _ coreSeen _ _ _ _ =>
      rw [foldl_absorb_session]
      refine ⟨_, Option.map_eq_some_iff.mpr ⟨session, hsession, rfl⟩, ?_⟩
      have hleads := Session.foldl_absorb_leads future session coreSeen
      exact ⟨hleads.exited, fun h => (hleads.active h).imp_right False.elim, hleads.started⟩
  | _ => exact hsame _ rfl

-- A session comes from a successful exchange.
theorem Move.session_new {state after : State φ η} {future : φ} {seen : List (Event φ η)}
    (hm : Move capabilities capacity state after seen) (hnone : state.session future = none)
    (hsome : after.session future ≠ none) :
    .Exchanged future ∈ seen ∧ state.future future = .CompareExchange ∧ state.sessionActive = false := by
  cases hm with
  | CoreMoved actor _ _ _ _ =>
      rw [foldl_absorb_session, ne_eq, Option.map_eq_none_iff] at hsome
      exact absurd hnone hsome
  | _ => grind [ready]

theorem Move.exchanging {state after : State φ η} {future : φ} {seen : List (Event φ η)}
    (hm : Move capabilities capacity state after seen) (hmem : .Exchanged future ∈ seen) :
    state.future future = .CompareExchange ∧ state.sessionActive = false := by
  cases hm with
  | Exchanged other hexchange hidle =>
      obtain rfl : future = other := by simpa using hmem
      exact ⟨hexchange, hidle⟩
  | SessionMoved _ _ hmove => cases hmove <;> simp at hmem
  | JobRun _ _ _ _ _ => grind
  | StopCalled _ _ hcause _ => cases hcause <;> simp at hmem
  | _ => simp [ready] at hmem

theorem Move.exchanged {state after : State φ η} {future : φ} {seen : List (Event φ η)}
    (hm : Move capabilities capacity state after seen) (hmem : .Exchanged future ∈ seen) :
    after.activity future = true := by
  cases hm with
  | Exchanged other _ _ =>
      obtain rfl : future = other := by simpa using hmem
      simp [activity_setSession, spawnDriver, Driver.active]
  | SessionMoved _ _ hmove => cases hmove <;> simp at hmem
  | JobRun _ _ _ _ _ => grind
  | StopCalled _ _ hcause _ => cases hcause <;> simp at hmem
  | _ => simp [ready] at hmem

end Stays

section OneSession

variable {φ η : Type} [DecidableEq φ] [DecidableEq η] {capabilities : Capabilities} {capacity : Nat}

-- An exchange that succeeds finds a client that no session has used.
def Fresh (_ : List (Event φ η)) (state : State φ η) : Label φ η → Prop
  | .Poll future => state.future future = .CompareExchange → state.sessionActive = false →
      state.core.lifecycle = .Ready
  | _ => True

instance (trace : List (Event φ η)) (state : State φ η) (label : Label φ η) :
    Decidable (Fresh trace state label) :=
  match label with
  | .Poll future => inferInstanceAs (Decidable (state.future future = .CompareExchange →
      state.sessionActive = false → state.core.lifecycle = .Ready))
  | .Begin _ _ | .Lock _ | .Drop _ | .RunJob _ | .RunWorker _ | .Drive _ _ | .Core _ => isTrue trivial
  | .NativeReturn _ _ | .Send _ _ | .CloneHandle _ | .DropHandle _ | .CancelToken _ => isTrue trivial
  | .Cancel _ _ | .PollSession _ | .DropSession _ _ => isTrue trivial

-- What the trace tells of the sessions.
structure Sole (trace : List (Event φ η)) (state : State φ η) : Prop where
  single : ∀ first second, state.session first ≠ none → state.session second ≠ none → first = second
  held : ∀ future, .Exchanged future ∈ trace → .Cleared future ∉ trace → state.activity future = true
  exited : ∀ future result, .Resolved future result ∈ trace →
    ∃ session, state.session future = some session ∧ session.driver = .Exited

omit [DecidableEq φ] [DecidableEq η] in
theorem sole_new : Sole [] (State.new : State φ η) := by
  constructor <;> simp [State.new]

-- A driver that is not active any more has seen its worker finish.
omit [DecidableEq φ] [DecidableEq η] in
theorem Sessions.finished {state : State φ η} {future : φ} {session : Session η} (hs : Sessions state)
    (hsession : state.session future = some session) (hjoined : session.driver.joined = true) :
    state.core.lifecycle = .Finished := by
  have hok := hs.ok future session hsession
  obtain ⟨outcome, hdone⟩ := hok.joined hjoined
  exact (hok.done outcome hdone).2.2

omit [DecidableEq φ] [DecidableEq η] in
theorem Driver.joined_of_inactive {driver : Driver} (hinactive : driver.active = false) :
    driver.joined = true := by
  cases driver <;> simp [Driver.active, Driver.joined] at *

theorem Move.resolved {state after : State φ η} {future : φ} {result : Outcome}
    {seen : List (Event φ η)} (hm : Move capabilities capacity state after seen)
    (hmem : .Resolved future result ∈ seen) (hs : Sessions state) :
    ∃ session, state.session future = some session ∧ session.driver = .Exited := by
  cases hm with
  | SessionMoved other hsession hmove =>
      cases hmove with
      | Resolved value hlive hsent =>
          obtain ⟨rfl, rfl⟩ : future = other ∧ result = value := by simpa using hmem
          exact ⟨_, hsession, (hs.ok future _ hsession).completed _ hsent⟩
      | _ => simp at hmem
  | JobRun _ _ _ _ _ => grind
  | StopCalled _ _ hcause _ => cases hcause <;> simp at hmem
  | _ => simp [ready] at hmem

theorem Move.cleared {state after : State φ η} {future : φ} {seen : List (Event φ η)}
    (hm : Move capabilities capacity state after seen) (hmem : .Cleared future ∈ seen) :
    ∃ session, state.session future = some session ∧ session.driver.joined = true := by
  cases hm with
  | GuardCleared other session result hsession hdriver =>
      obtain rfl : future = other := by simpa using hmem
      exact ⟨session, hsession, by simp [hdriver, Driver.joined]⟩
  | SessionMoved _ _ hmove => cases hmove <;> simp at hmem
  | JobRun _ _ _ _ _ => grind
  | StopCalled _ _ hcause _ => cases hcause <;> simp at hmem
  | _ => simp [ready] at hmem

theorem Move.enters {state after : State φ η} {stage : Client.Session (Actor φ η)}
    {native : Client.Event (Actor φ η)} {seen : List (Event φ η)}
    (hm : Move capabilities capacity state after seen) (hd : Client.Describes stage state.core)
    (hmem : .Core native ∈ seen) (henters : native.enters = true) :
    state.core.lifecycle ≠ .Finished := by
  have hcore : native ∈ seen.filterMap coreView := List.mem_filterMap.mpr ⟨_, hmem, rfl⟩
  rcases hm.core with ⟨_, hquiet⟩ | ⟨label, hstep⟩
  · simp [hquiet] at hcore
  · exact hd.enters (Client.step_move hstep) hcore henters

theorem Sole.move {trace seen : List (Event φ η)} {state after : State φ η} (hsole : Sole trace state)
    (hsound : Sound state) (hm : Move capabilities capacity state after seen)
    (hfresh : ∀ future, .Exchanged future ∈ seen → state.core.lifecycle = .Ready) :
    Sole (trace ++ seen) after := by
  -- nobody has a session when another one starts
  have hnew : ∀ future other, state.session future = none → after.session future ≠ none →
      after.session other ≠ none → other = future := by
    intro future other hnone hsome hother
    obtain ⟨hmem, hexchange, hidle⟩ := hm.session_new hnone hsome
    cases hbefore : state.session other with
    | none =>
        -- only one future is at its exchange
        obtain ⟨_, hexchange', _⟩ := hm.session_new hbefore hother
        have hlocked := hsound.setup.locked future (by simp [hexchange, Future.locks])
        have hlocked' := hsound.setup.locked other (by simp [hexchange', Future.locks])
        exact Option.some.inj (hlocked'.symm.trans hlocked)
    | some session =>
        have hinactive : session.driver.active = false := by
          by_contra hne
          have hactive : state.activity other = true := by simpa [State.activity, hbefore] using hne
          rw [hsound.exclusive.active other hactive] at hidle
          cases hidle
        have hfinished := hsound.sessions.finished hbefore (Driver.joined_of_inactive hinactive)
        rw [hfresh future hmem] at hfinished
        cases hfinished
  constructor
  · intro first second hfirst hsecond
    cases hf : state.session first with
    | none => exact (hnew first second hf hfirst hsecond).symm
    | some _ =>
        cases hg : state.session second with
        | none => exact hnew second first hg hsecond hfirst
        | some _ => exact hsole.single first second (by simp [hf]) (by simp [hg])
  · intro future hmem hkept
    simp only [List.mem_append, not_or] at hmem hkept
    rcases hmem with hmem | hmem
    · have hactive := hsole.held future hmem hkept.1
      obtain ⟨session, hsession⟩ : ∃ session, state.session future = some session := by
        cases hs : state.session future with
        | none => simp [State.activity, hs] at hactive
        | some session => exact ⟨session, rfl⟩
      obtain ⟨next, hnext, hleads⟩ := hm.session hsound.sessions hsession
      simp only [State.activity, hsession, hnext] at hactive ⊢
      exact (hleads.active hactive).resolve_right hkept.2
    · exact hm.exchanged hmem
  · intro future result hmem
    rw [List.mem_append] at hmem
    obtain ⟨session, hsession, hexited⟩ : ∃ session, state.session future = some session ∧
        session.driver = .Exited := by
      rcases hmem with hmem | hmem
      · exact hsole.exited future result hmem
      · exact hm.resolved hmem hsound.sessions
    obtain ⟨next, hnext, hleads⟩ := hm.session hsound.sessions hsession
    exact ⟨next, hnext, hleads.exited hexited⟩

end OneSession

end OpenvpnConnect.Tokio
