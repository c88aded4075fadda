import OpenvpnConnect.Tokio.Sole

namespace OpenvpnConnect.Tokio

open Transition
open OpenvpnConnect.Client (Outcome Lifecycle)

def refusal : Outcome → Bool
  | .Err (.InvalidState _) => true
  | _ => false

-- The calls that a finished client turns away.
def Operation.refusable (capabilities : Capabilities) : Operation → Prop
  | .Connect | .Mutate .ProvideCredentials => True
  | .Mutate (.Evaluate config) => config.validateCapabilities capabilities = .ok ()
  | .Mutate .CallbackSelfTest => False

-- Where such a call can be when it was begun too late, and its job.
def Future.late (operation : Operation) : Future → Prop
  | .AwaitSetup other => other = operation
  | .EnsureIdle mutation => operation = .Mutate mutation
  | .EnsureConnectable => operation = .Connect
  | .AwaitJob | .Dropped => True
  | .Ready outcome => refusal outcome = true
  | _ => False

def Job.late (operation : Operation) (frame : Client.Frame) : Job → Prop
  | .Unspawned => True
  | .Queued mutation => operation = .Mutate mutation
  | .Running => ∃ mutation, operation = .Mutate mutation ∧ frame = mutation.frame
  | .Done outcome => refusal outcome = true

section Late

variable {φ η : Type}

structure Late (operation : Operation) (state : State φ η) (future : φ) : Prop where
  waits : (state.future future).late operation
  job : (state.job future).late operation (state.core.frame (.Job future))

theorem Late.of_eq {operation : Operation} {state after : State φ η} {future : φ}
    (hl : Late operation state future) (hfuture : after.future future = state.future future)
    (hjob : after.job future = state.job future)
    (hframe : after.core.frame (.Job future) = state.core.frame (.Job future)) :
    Late operation after future :=
  ⟨hfuture ▸ hl.waits, by rw [hjob, hframe]; exact hl.job⟩

variable [DecidableEq φ] [DecidableEq η] {capabilities : Capabilities} {capacity : Nat}

theorem foldl_absorb_job (state : State φ η) (future : φ) (seen : List (Client.Event (Actor φ η)))
    (hother : ∀ call outcome, .Returned (.Job future) call outcome ∉ seen) :
    (seen.foldl absorb state).job future = state.job future := by
  induction seen generalizing state with
  | nil => rfl
  | cons event rest ih =>
      simp only [List.mem_cons, not_or] at hother
      rw [List.foldl_cons, ih _ fun call outcome => (hother call outcome).2]
      unfold absorb
      split <;> try rfl
      rename_i other call outcome
      have hne : future ≠ other := by
        rintro rfl
        exact (hother call outcome).1 rfl
      rw [State.job_setJob, if_neg hne]

-- A job that comes to a finished client is refused.
theorem Late.jobMoved {operation : Operation} {state : State φ η} {future : φ}
    {core : Client.State (Actor φ η)} {seen : List (Client.Event (Actor φ η))}
    (hl : Late operation state future) (hrefusable : operation.refusable capabilities)
    (hfinished : state.core.lifecycle = .Finished) (hsetup : Setup state)
    (hm : Client.Move (.Job future) state.core core seen)
    (hbusy : state.core.frame (.Job future) ≠ .Idle) :
    Late operation (seen.foldl absorb { state with core := core }) future := by
  obtain ⟨hfuture, hjob⟩ := hl
  rw [hsetup.running future hbusy] at hjob
  obtain ⟨mutation, rfl, hframe⟩ := hjob
  refine ⟨by rwa [(foldl_absorb_future _ _).1], ?_⟩
  have hlocks : mutation.frame = .EvaluateLock ∨ mutation.frame = .CredentialsLock := by
    cases mutation with
    | Evaluate config => exact .inl rfl
    | ProvideCredentials => exact .inr rfl
    | CallbackSelfTest => exact hrefusable.elim
  obtain ⟨call, message, rfl⟩ := hm.refused hfinished (hframe ▸ hlocks)
  have hdone : (absorb { state with core := core } (.Returned (.Job future) call
      (.Err (.InvalidState message)))).job future = .Done (.Err (.InvalidState message)) := if_pos rfl
  rw [List.foldl_cons, List.foldl_nil, hdone]
  rfl

theorem Late.move {operation : Operation} {state after : State φ η} {future : φ}
    {seen : List (Event φ η)} (hl : Late operation state future)
    (hrefusable : operation.refusable capabilities) (hfinished : state.core.lifecycle = .Finished)
    (hsetup : Setup state) (hm : Move capabilities capacity state after seen) :
    Late operation after future ∧ ∀ outcome, .Ready future outcome ∈ seen → refusal outcome = true := by
  cases hm with
  | SessionMoved other hsession hmove =>
      refine ⟨hl.of_eq rfl rfl rfl, ?_⟩
      intro outcome hmem
      cases hmove <;> simp at hmem
  | WorkerRun other session _ _ _ =>
      exact ⟨hl.of_eq rfl rfl (frame_calls_job _ _ _ future (by simp)), by simp⟩
  | StopCalled actor hsession hcause _ =>
      refine ⟨hl.of_eq rfl rfl (frame_calls_job _ _ _ future ?_), ?_⟩
      · cases hcause <;> simp
      · intro outcome hmem
        cases hcause <;> simp at hmem
  | CoreMoved actor _ hmove hbusy _ =>
      refine ⟨?_, by simp⟩
      by_cases hself : actor = .Job future
      · subst hself
        exact hl.jobMoved hrefusable hfinished hsetup hmove hbusy
      · refine hl.of_eq (by rw [(foldl_absorb_future _ _).1]) ?_ ?_
        · refine foldl_absorb_job _ future _ fun call outcome hmem => ?_
          exact hself (hmove.returned hmem).symm
        · rw [foldl_absorb_core]
          exact hmove.frame_ne (Ne.symm hself)
  | JobRefused other config error hjob hinvalid _ =>
      refine ⟨⟨hl.waits, ?_⟩, by simp⟩
      by_cases hself : future = other
      · subst hself
        have hlate := hl.job
        rw [hjob] at hlate
        obtain rfl : operation = .Mutate (.Evaluate config) := hlate
        simp only [Operation.refusable] at hrefusable
        simp [hrefusable] at hinvalid
      · rw [State.job_setJob, if_neg hself]
        exact hl.job
  | JobRun other mutation hjob _ _ =>
      refine ⟨⟨hl.waits, ?_⟩, ?_⟩
      · by_cases hself : future = other
        · subst hself
          have hlate := hl.job
          rw [hjob] at hlate
          have hrunning : ((state.setJob future .Running).calls (.Job future) mutation.frame).job future =
              .Running := if_pos rfl
          rw [hrunning]
          exact ⟨mutation, hlate, Client.State.frame_goto_self _ _ _⟩
        · simpa [State.calls, State.setJob, hself, Client.State.enter, Client.State.goto] using hl.job
      · intro outcome hmem
        grind
  | _ =>
      obtain ⟨hwaits, hjob⟩ := hl
      refine ⟨⟨?_, ?_⟩, ?_⟩ <;> grind [Future.late, Job.late, ready, refusal]

-- A call that begins is where such a call can be.
theorem Move.begun {state after : State φ η} {future : φ} {operation : Operation}
    {seen : List (Event φ η)} (hm : Move capabilities capacity state after seen)
    (hmem : .Begun future operation ∈ seen) (hsetup : Setup state) :
    Late operation after future ∧ seen = [.Begun future operation] := by
  cases hm with
  | Begun other begun hunpolled =>
      obtain ⟨rfl, rfl⟩ : future = other ∧ operation = begun := by simpa using hmem
      have hjob : state.job future = .Unspawned := by
        by_contra hspawned
        simpa [hunpolled, Future.spawned] using hsetup.spawned future hspawned
      refine ⟨⟨?_, ?_⟩, rfl⟩
      · rw [State.future_goto, if_pos rfl]
        rfl
      · rw [State.job_goto, hjob]
        trivial
  | SessionMoved _ _ hmove => cases hmove <;> simp at hmem
  | JobRun _ _ _ _ _ => grind
  | StopCalled _ _ hcause _ => cases hcause <;> simp at hmem
  | _ => simp [ready] at hmem

end Late

section Runs

variable {φ η : Type}

def Unresolved (trace : List (Event φ η)) : Prop := ∀ future result, .Resolved future result ∉ trace

-- The call was begun after a session had come to its end.
def BegunLate (trace : List (Event φ η)) (future : φ) (operation : Operation) : Prop :=
  ∃ front back, trace = front ++ .Begun future operation :: back ∧ ¬Unresolved front

-- A session comes to its end after native connect, and then nothing is native any more.
def Refuses (capabilities : Capabilities) (front : List (Event φ η)) : Event φ η → Prop
  | .Core (.EvaluateEnter _) | .Core (.CredentialsEnter _) | .Core (.ConnectEnter _) => Unresolved front
  | .Cleared _ => ∀ actor, .Core (.ConnectEnter actor) ∈ front → .Core (.ConnectExit actor) ∈ front
  | .Ready future outcome => ∀ operation, operation.refusable capabilities →
      BegunLate front future operation → refusal outcome = true
  | _ => True

theorem BegunLate.append {front seen : List (Event φ η)} {future : φ} {operation : Operation}
    (h : BegunLate (front ++ seen) future operation) :
    BegunLate front future operation ∨ .Begun future operation ∈ seen := by
  obtain ⟨before, back, he, hresolved⟩ := h
  rcases List.append_eq_append_iff.mp he with ⟨middle, rfl, hseen⟩ | ⟨middle, hfront, hback⟩
  · exact .inr (by simp [hseen])
  · cases middle with
    | nil => exact .inr (by simp [← (List.nil_append seen ▸ hback)])
    | cons event rest =>
        obtain ⟨rfl, _⟩ := List.cons.inj hback
        exact .inl ⟨before, rest, hfront, hresolved⟩

theorem BegunLate.resolved {trace : List (Event φ η)} {future : φ} {operation : Operation}
    (h : BegunLate trace future operation) : ¬Unresolved trace := by
  obtain ⟨front, back, rfl, hresolved⟩ := h
  intro hnone
  exact hresolved fun other result hmem => hnone other result (List.mem_append_left _ hmem)

variable [DecidableEq φ] [DecidableEq η] {capabilities : Capabilities} {capacity : Nat}
  {trace : List (Event φ η)} {last : State φ η}

theorem run_sole (hrun : Run (machine capabilities capacity) Fresh State.new trace last) :
    Sole trace last := by
  refine hrun.invariant_with (fun _ => Sound) Sole (fun _ _ => run_sound) sole_new ?_
  intro trace before label after seen hsound hsole hfresh hs
  have hm := step_move hs
  refine hsole.move hsound hm fun future hmem => ?_
  rcases step_label hs hmem rfl with ⟨other, rfl, he⟩ | ⟨other, _, he⟩
  · cases he
    obtain ⟨hexchange, hidle⟩ := hm.exchanging hmem
    exact hfresh hexchange hidle
  · cases he

omit [DecidableEq φ] [DecidableEq η] in
theorem Sole.finished {state : State φ η} (hsole : Sole trace state) (hs : Sessions state)
    (hresolved : ¬Unresolved trace) : state.core.lifecycle = .Finished := by
  simp only [Unresolved, not_forall, not_not] at hresolved
  obtain ⟨future, result, hmem⟩ := hresolved
  obtain ⟨session, hsession, hexited⟩ := hsole.exited future result hmem
  exact hs.finished hsession (by simp [hexited, Driver.joined])

omit [DecidableEq φ] [DecidableEq η] in
theorem mem_core {event : Client.Event (Actor φ η)} :
    event ∈ trace.filterMap coreView ↔ .Core event ∈ trace := by
  rw [List.mem_filterMap]
  constructor
  · rintro ⟨other, hmem, hview⟩
    cases other <;> simp [coreView] at hview
    exact hview ▸ hmem
  · exact fun hmem => ⟨_, hmem, rfl⟩

theorem run_exited {guard : List (Event φ η) → State φ η → Label φ η → Prop}
    (hrun : Run (machine capabilities capacity) guard State.new trace last)
    (hfinished : last.core.lifecycle = .Finished) (actor : Actor φ η)
    (hmem : .Core (.ConnectEnter actor) ∈ trace) : .Core (.ConnectExit actor) ∈ trace :=
  mem_core.mp (Client.run_finished (run_core hrun) hfinished actor (mem_core.mpr hmem))

theorem run_late (hrun : Run (machine capabilities capacity) Fresh State.new trace last) :
    ∀ future operation, operation.refusable capabilities → BegunLate trace future operation →
      Late operation last future := by
  refine hrun.invariant_with (fun trace state => Sound state ∧ Sole trace state)
    (fun trace state => ∀ future operation, operation.refusable capabilities →
      BegunLate trace future operation → Late operation state future)
    (fun _ _ hrun => ⟨run_sound hrun, run_sole hrun⟩) ?_ ?_
  · rintro future operation _ ⟨front, back, he, _⟩
    simp at he
  · rintro trace before label after seen ⟨hsound, hsole⟩ hlate _ hs future operation hrefusable hbegun
    have hm := step_move hs
    rcases hbegun.append with hbefore | hmem
    · exact ((hlate future operation hrefusable hbefore).move hrefusable
        (hsole.finished hsound.sessions hbefore.resolved) hsound.setup hm).1
    · exact (hm.begun hmem hsound.setup).1

theorem run_refuses (hrun : Run (machine capabilities capacity) Fresh State.new trace last) :
    Always (Refuses capabilities) trace := by
  refine hrun.invariant_with
    (fun trace state => (Sound state ∧ Client.Owned state.core ∧
        ∃ stage, Client.Describes stage state.core) ∧ Sole trace state ∧
      (∀ future operation, operation.refusable capabilities → BegunLate trace future operation →
        Late operation state future) ∧
      (state.core.lifecycle = .Finished → ∀ actor, .Core (.ConnectEnter actor) ∈ trace →
        .Core (.ConnectExit actor) ∈ trace))
    (fun trace _ => Always (Refuses capabilities) trace)
    (fun _ _ hrun => ⟨run_known hrun, run_sole hrun, run_late hrun, run_exited hrun⟩) (always_nil _) ?_
  rintro trace before label after seen ⟨⟨hsound, _, stage, hd⟩, hsole, hlate, hexited⟩ hrefuses _ hs
  have hm := step_move hs
  refine hrefuses.append (alwaysFrom_of_split fun front event back he => ?_)
  have hmem : event ∈ seen := by simp [he]
  have hfront : ∀ other ∈ front, other ∈ seen := fun other hother => by simp [he, hother]
  -- a session that has come to its end has left the client finished
  have hentered : ∀ native : Client.Event (Actor φ η), .Core native ∈ seen → native.enters = true →
      Unresolved (trace ++ front) := by
    intro native hnative henters future result hresolved
    have hlive := hm.enters hd hnative henters
    rcases List.mem_append.mp hresolved with hbefore | hnow
    · exact hlive (hsole.finished hsound.sessions fun hnone => hnone future result hbefore)
    · obtain ⟨session, hsession, hexit⟩ := hm.resolved (hfront _ hnow) hsound.sessions
      exact hlive (hsound.sessions.finished hsession (by simp [hexit, Driver.joined]))
  cases event with
  | Core native =>
      cases native with
      | EvaluateEnter actor | CredentialsEnter actor | ConnectEnter actor => exact hentered _ hmem rfl
      | _ => trivial
  | Cleared future =>
      obtain ⟨session, hsession, hjoined⟩ := hm.cleared hmem
      have hfinished := hsound.sessions.finished hsession hjoined
      intro actor hactor
      rcases List.mem_append.mp hactor with hbefore | hnow
      · exact List.mem_append_left _ (hexited hfinished actor hbefore)
      · exact absurd hfinished (hm.enters hd (hfront _ hnow) rfl)
  | Ready future outcome =>
      intro operation hrefusable hbegun
      rcases hbegun.append with hbefore | hnow
      · have hfinished := hsole.finished hsound.sessions hbefore.resolved
        exact ((hlate future operation hrefusable hbefore).move hrefusable hfinished hsound.setup hm).2
          outcome hmem
      · have hsingle := (hm.begun (hfront _ hnow) hsound.setup).2
        simp [hsingle] at hmem
  | _ => trivial

-- An actor at such a frame is inside a native call that changes the configuration.
def configures : Client.Frame → Bool
  | .EvaluateNative | .CredentialsNative | .SelfTestNative => true
  | _ => false

omit [DecidableEq φ] [DecidableEq η] in
theorem Sound.configures_job {state : State φ η} (hs : Sound state) {actor : Actor φ η}
    (hconfigures : configures (state.core.frame actor) = true) :
    ∃ future, actor = .Job future ∧ state.job future = .Running := by
  have hbusy : state.core.frame actor ≠ .Idle := by
    intro hidle
    simp [hidle, configures] at hconfigures
  have hstopping : stopping (state.core.frame actor) = false := by
    cases hf : state.core.frame actor <;> simp [hf, configures, stopping] at hconfigures ⊢
  cases actor with
  | Job future => exact ⟨future, rfl, hs.setup.running future hbusy⟩
  | Worker future =>
      obtain ⟨session, hsession, hrunning⟩ := hs.sessions.of_busy hbusy
      have hfits := (hs.sessions.ok future session hsession).running hrunning
      cases hf : state.core.frame (.Worker future) <;> simp [hf, configures, Fits] at hconfigures hfits
  | Driver future =>
      cases hsession : state.session future with
      | none => exact absurd (hs.sessions.idle (.Driver future) hsession (by simp)) hbusy
      | some session =>
          have hstops := ((hs.sessions.ok future session hsession).driver.resolve_left hbusy).1
          simp [hstopping] at hstops
  | Holder future thread =>
      cases hsession : state.session future with
      | none => exact absurd (hs.sessions.idle (.Holder future thread) hsession (by simp)) hbusy
      | some session =>
          have hstops := ((hs.sessions.ok future session hsession).holder thread |>.resolve_left hbusy).1
          simp [hstopping] at hstops

-- No configuration call is native during a session or while one is started.
omit [DecidableEq φ] [DecidableEq η] in
theorem Sound.apart {state : State φ η} (hs : Sound state) {actor : Actor φ η}
    (hconfigures : configures (state.core.frame actor) = true) (future : φ) :
    connecting (state.core.frame (.Worker future)) = false ∧ state.future future ≠ .AwaitStarted := by
  obtain ⟨job, rfl, hrunning⟩ := hs.configures_job hconfigures
  have hworks : (state.job job).works = true := by rw [hrunning]; rfl
  constructor
  · by_contra hconnecting
    have hbusy : state.core.frame (.Worker future) ≠ .Idle := by
      intro hidle
      simp [hidle, connecting] at hconnecting
    have hactive := hs.exclusive.active future (hs.sessions.busy_active hbusy)
    rw [(hs.setup.working job hworks).2] at hactive
    cases hactive
  · intro hawaits
    have hlocks : (state.future future).locks = true := by rw [hawaits]; rfl
    have hnone := hs.setup.not_working hlocks job
    rw [hworks] at hnone
    cases hnone

-- What is promised of the sessions of one client.
structure OneSession (capabilities : Capabilities) (trace : List (Event φ η)) (state : State φ η) :
    Prop where
  single : ∀ first second, state.session first ≠ none → state.session second ≠ none → first = second
  serial : Always Client.Serial (trace.filterMap coreView)
  held : ∀ future, .Exchanged future ∈ trace → .Cleared future ∉ trace → state.sessionActive = true
  apart : ∀ actor, configures (state.core.frame actor) = true → ∀ future,
    connecting (state.core.frame (.Worker future)) = false ∧ state.future future ≠ .AwaitStarted
  ended : ¬Unresolved trace → state.sessionActive = false
  refuses : Always (Refuses capabilities) trace

-- One driver and one native connect, apart from the configuration calls, over
-- every run whose exchanges find the client fresh.
theorem exclusive_session (hrun : Run (machine capabilities capacity) Fresh State.new trace last) :
    OneSession capabilities trace last := by
  have hsound := run_sound hrun
  have hsole := run_sole hrun
  refine ⟨hsole.single, Client.reaches_serial (run_core hrun), ?_, fun _ => hsound.apart, ?_,
    run_refuses hrun⟩
  · intro future hmem hkept
    exact hsound.exclusive.active future (hsole.held future hmem hkept)
  · intro hresolved
    by_contra hactive
    obtain ⟨future, hholds⟩ := hsound.exclusive.flagged (by simpa using hactive)
    simp only [Unresolved, not_forall, not_not] at hresolved
    obtain ⟨other, result, hmem⟩ := hresolved
    obtain ⟨session, hsession, hexited⟩ := hsole.exited other result hmem
    -- the active session would be a second one
    obtain rfl : future = other := by
      refine hsole.single future other ?_ (by simp [hsession])
      intro hnone
      simp [State.activity, hnone] at hholds
    simp [State.activity, hsession, hexited, Driver.active] at hholds

end Runs

-- A connect is dropped before its worker runs, a second one passes
-- ensure_connectable, and the first session comes and goes before its exchange.
def overtaken : List (Label (Fin 3) (Fin 1)) :=
  connectBegun ++ [.Drop 1, .Begin 2 .Connect, .Lock 2, .Poll 2, .RunWorker 1, .Core (.Worker 1),
    .Core (.Worker 1), .Core (.Worker 1), .NativeReturn (.Worker 1) (.ok ()), .Core (.Worker 1),
    .Core (.Worker 1), .Drive 1 .Joined, .Core (.Driver 1), .Core (.Driver 1), .Drive 1 .Joined,
    .Poll 2, .RunWorker 2, .Core (.Worker 2), .Poll 2]

theorem second_session : ∃ trace last,
    Reaches (machine Client.capable 4) (State.new : State (Fin 3) (Fin 1)) trace last ∧
      .Ready 2 .Ok ∈ trace ∧ last.session 1 ≠ none ∧ last.session 2 ≠ none ∧
      last.core.lifecycle = .Finished :=
  exists_run overtaken (by decide)

-- A session from its start to its end, and a connect after it.
def wholeSession : List (Label (Fin 3) (Fin 1)) :=
  connectBegun ++ workerRuns 1 ++ [.Poll 1, .NativeReturn (.Worker 1) (.ok ()), .Core (.Worker 1),
    .Core (.Worker 1), .Drive 1 .Joined, .Core (.Driver 1), .Core (.Driver 1), .Drive 1 .Joined,
    .Drive 1 .Joined, .PollSession 1, .Begin 2 .Connect, .Lock 2, .Poll 2]

theorem exclusive_session_whole : ∃ trace last,
    Run (machine Client.capable 4) Fresh (State.new : State (Fin 3) (Fin 1)) trace last ∧
      (.Resolved 1 .Ok ∈ trace ∧ last.future 2 ≠ .EnsureConnectable) ∧
      OneSession Client.capable trace last := by
  obtain ⟨trace, last, hrun, hmem⟩ : ∃ trace last,
      Run (machine Client.capable 4) Fresh (State.new : State (Fin 3) (Fin 1)) trace last ∧
        .Resolved 1 .Ok ∈ trace ∧ last.future 2 ≠ .EnsureConnectable := exists_run wholeSession (by decide)
  exact ⟨trace, last, hrun, hmem, exclusive_session hrun⟩

end OpenvpnConnect.Tokio
