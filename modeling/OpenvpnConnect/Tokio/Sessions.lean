import OpenvpnConnect.Tokio.Exclusive

namespace OpenvpnConnect.Tokio

open Transition
open OpenvpnConnect.Client (Outcome Lifecycle)

section Sessions

variable {φ η : Type}

-- A connect future that has come to spawn_driver.
def Future.spawns : Future → Bool
  | .AwaitStarted | .Dropped | .Ready _ => true
  | _ => false

-- Every session is in order, and only a session's future and actors are on the
-- way of one.
structure Sessions (state : State φ η) : Prop where
  ok : ∀ future session, state.session future = some session → session.Ok state.core future
  idle : ∀ actor : Actor φ η, state.session actor.future = none → (∀ future, actor ≠ .Job future) →
    state.core.frame actor = .Idle
  awaiting : ∀ future, state.future future = .AwaitStarted →
    ∃ session, state.session future = some session ∧ session.object = .Unborn
  begun : ∀ future session, state.session future = some session →
    (state.future future).spawns = true
  unborn : ∀ future session, state.session future = some session → session.object = .Unborn →
    state.future future = .AwaitStarted ∨ state.future future = .Dropped
  connectable : ∀ future, state.future future = .CompareExchange → state.core.lifecycle ≠ .New

theorem sessions_new : Sessions (State.new : State φ η) := by
  constructor <;> simp [State.new, Client.State.new]

theorem Sessions.of_eq {state after : State φ η} (hs : Sessions state)
    (hcore : after.core = state.core) (hfuture : after.future = state.future)
    (hsession : after.session = state.session) : Sessions after := by
  constructor
  · rw [hcore, hsession]; exact hs.ok
  · rw [hcore, hsession]; exact hs.idle
  · rw [hfuture, hsession]; exact hs.awaiting
  · rw [hfuture, hsession]; exact hs.begun
  · rw [hfuture, hsession]; exact hs.unborn
  · rw [hcore, hfuture]; exact hs.connectable

theorem Session.Move.object {capacity : Nat} {future : φ} {session next : Session η}
    {seen : List (Event φ η)} (hm : session.Move capacity future next seen) :
    next.object = .Unborn ↔ session.object = .Unborn := by
  cases hm <;> simp_all

theorem Cause.object {session next : Session η} {actor : Actor φ η} {front : List (Event φ η)}
    (hcause : Cause session actor next front) :
    next.object = .Unborn ↔ session.object = .Unborn := by
  cases hcause <;> simp_all

theorem Session.Ok.not_closed {core : Client.State (Actor φ η)} {future : φ} {session : Session η}
    (hok : session.Ok core future) : session.started ≠ .Closed := by
  intro hclosed
  cases hw : session.worker with
  | Queued => simp [(hok.queued hw).2] at hclosed
  | Running =>
      have hfits := hok.running hw
      cases hf : core.frame (.Worker future) <;> simp [hf, Fits, hclosed] at hfits
  | Done outcome => simp [(hok.done outcome hw).2.1] at hclosed

theorem Sessions.of_busy {state : State φ η} {future : φ} (hs : Sessions state)
    (hbusy : state.core.frame (.Worker future) ≠ .Idle) :
    ∃ session, state.session future = some session ∧ session.worker = .Running := by
  cases hsession : state.session future with
  | none => exact absurd (hs.idle (.Worker future) hsession (by simp)) hbusy
  | some session =>
      refine ⟨session, rfl, ?_⟩
      have hok := hs.ok future session hsession
      cases hw : session.worker with
      | Queued => exact absurd (hok.queued hw).1 hbusy
      | Running => rfl
      | Done outcome => exact absurd (hok.done outcome hw).1 hbusy

-- A worker inside its call has its driver waiting for it.
theorem Session.Ok.active {core : Client.State (Actor φ η)} {future : φ} {session : Session η}
    (hok : session.Ok core future) (hrunning : ∀ outcome, session.worker ≠ .Done outcome) :
    session.driver.active = true := by
  cases hd : session.driver with
  | Complete _ | Exited =>
      obtain ⟨outcome, hdone⟩ := hok.joined (by simp [hd, Driver.joined])
      exact absurd hdone (hrunning outcome)
  | _ => rfl

theorem Sessions.busy_active {state : State φ η} {future : φ} (hs : Sessions state)
    (hbusy : state.core.frame (.Worker future) ≠ .Idle) : state.activity future = true := by
  obtain ⟨session, hsession, hrunning⟩ := hs.of_busy hbusy
  simp only [State.activity, hsession]
  exact (hs.ok future session hsession).active (by simp [hrunning])

variable [DecidableEq φ] [DecidableEq η] {capabilities : Capabilities} {capacity : Nat}

theorem Session.absorb_object (future : φ) (session : Session η) (event : Client.Event (Actor φ η)) :
    (session.absorb future event).object = .Unborn ↔ session.object = .Unborn := by
  unfold Session.absorb
  split
  · split <;> rfl
  · split <;> rfl
  · split
    · unfold Session.stopReturned
      split <;> rfl
    · rfl
  · split
    · unfold Session.holderReturned
      split <;> simp_all
    · rfl
  · rfl

theorem Session.foldl_absorb_object (future : φ) (session : Session η)
    (seen : List (Client.Event (Actor φ η))) :
    (seen.foldl (Session.absorb future) session).object = .Unborn ↔ session.object = .Unborn := by
  induction seen generalizing session with
  | nil => rfl
  | cons event rest ih => exact (ih _).trans (Session.absorb_object ..)

omit [DecidableEq η] in
theorem Sessions.goto {state : State φ η} {future : φ} {next : Future} (hs : Sessions state)
    (hbefore : (state.future future).spawns = false) (hnext : next ≠ .AwaitStarted)
    (hconnectable : next = .CompareExchange → state.core.lifecycle ≠ .New) :
    Sessions (state.goto future next) := by
  have hnone : ∀ session, state.session future ≠ some session := by
    intro session hsession
    simp [hs.begun future session hsession] at hbefore
  obtain ⟨hok, hidle, hawaiting, hbegun, hunborn, hconn⟩ := hs
  constructor <;> grind

-- A session that changes while its future stays where it is.
omit [DecidableEq η] in
theorem Sessions.setSession {state : State φ η} {core : Client.State (Actor φ η)} {future : φ}
    {session next : Session η} (hs : Sessions state) (hsession : state.session future = some session)
    (hok : next.Ok core future) (hobject : next.object = .Unborn ↔ session.object = .Unborn)
    (hothers : ∀ other rest, other ≠ future → state.session other = some rest → rest.Ok core other)
    (hframe : ∀ actor : Actor φ η, actor.future ≠ future → (∀ other, actor ≠ .Job other) →
      core.frame actor = state.core.frame actor)
    (hknown : state.core.lifecycle ≠ .New → core.lifecycle ≠ .New) :
    Sessions ({ state with core := core }.setSession future next) := by
  constructor
  · intro other rest hrest
    rw [State.session_setSession] at hrest
    split at hrest
    · rename_i heq
      obtain rfl := Option.some.inj hrest
      rw [heq]
      exact hok
    · exact hothers other rest ‹_› hrest
  · intro actor hnone hkind
    rw [State.session_setSession] at hnone
    split at hnone
    · cases hnone
    · exact (hframe actor ‹_› hkind).trans (hs.idle actor hnone hkind)
  · intro other hawaits
    obtain ⟨rest, hrest, hunborn⟩ := hs.awaiting other hawaits
    rw [State.session_setSession]
    split
    · rename_i heq
      rw [heq, hsession] at hrest
      obtain rfl := Option.some.inj hrest
      exact ⟨next, rfl, hobject.mpr hunborn⟩
    · exact ⟨rest, hrest, hunborn⟩
  · intro other rest hrest
    rw [State.session_setSession] at hrest
    split at hrest
    · rename_i heq
      rw [heq]
      exact hs.begun future session hsession
    · exact hs.begun other rest hrest
  · intro other rest hrest hunborn
    rw [State.session_setSession] at hrest
    split at hrest
    · rename_i heq
      obtain rfl := Option.some.inj hrest
      rw [heq]
      exact hs.unborn future session hsession (hobject.mp hunborn)
    · exact hs.unborn other rest hrest hunborn
  · exact fun other hfuture => hknown (hs.connectable other hfuture)

-- A future that moves on together with its session, or starts it.
omit [DecidableEq η] in
theorem Sessions.advance {state : State φ η} {future : φ} {value : Future} {next : Session η}
    (hs : Sessions state) (hok : next.Ok state.core future) (hspawns : value.spawns = true)
    (hawaits : value = .AwaitStarted → next.object = .Unborn)
    (hunborn : next.object = .Unborn → value = .AwaitStarted ∨ value = .Dropped) :
    Sessions ((state.goto future value).setSession future next) := by
  have hne : value ≠ .CompareExchange := by
    rintro rfl
    cases hspawns
  obtain ⟨hold, hidle, hawaiting, hbegun, hborn, hconn⟩ := hs
  constructor <;> grind

-- What a thread that enters a call leaves alone.
theorem Session.Ok.entered {core : Client.State (Actor φ η)} {actor : Actor φ η}
    {frame : Client.Frame} {future : φ} {session : Session η} (hok : session.Ok core future)
    (hne : ∀ other : Actor φ η, other.future = future → (∀ job, other ≠ .Job job) → other ≠ actor) :
    session.Ok (core.enter actor frame) future :=
  hok.frame (fun other hother hkind => Client.State.frame_goto_ne _ _ (hne other hother hkind))
    (fun _ _ => rfl) (Nat.le_refl _)

-- The event of another future's actor, or of a job, does not change a session.
theorem Session.absorb_other {future : φ} {session : Session η} {actor : Actor φ η}
    {event : Client.Event (Actor φ η)}
    (hother : ∀ other : Actor φ η, other.future = future → (∀ job, other ≠ .Job job) → other ≠ actor)
    (hstarted : ∀ other : Actor φ η, event = .Started other → other = actor)
    (hreturned : ∀ (other : Actor φ η) call outcome, event = .Returned other call outcome →
      other = actor) : session.absorb future event = session := by
  unfold Session.absorb
  split
  · exact if_neg fun heq => hother _ heq (by simp) (hstarted _ rfl)
  · exact if_neg fun heq => hother _ heq (by simp) (hreturned _ _ _ rfl)
  · exact if_neg fun heq => hother _ heq (by simp) (hreturned _ _ _ rfl)
  · exact if_neg fun heq => hother _ heq (by simp) (hreturned _ _ _ rfl)
  · rfl

theorem Session.foldl_absorb_other {future : φ} {session : Session η}
    {seen : List (Client.Event (Actor φ η))}
    (hquiet : ∀ event ∈ seen, session.absorb future event = session) :
    seen.foldl (Session.absorb future) session = session := by
  induction seen with
  | nil => rfl
  | cons event rest ih =>
      rw [List.foldl_cons, hquiet event (List.mem_cons_self ..)]
      exact ih fun other hmem => hquiet other (List.mem_cons_of_mem _ hmem)

theorem role_of_stopping {frame : Client.Frame} (hstopping : frame = .Idle ∨ stopping frame = true) :
    frame.role = .Outside := by
  cases frame <;> simp [stopping, Client.Frame.role] at *

-- Drivers and holders only stop the client.
omit [DecidableEq φ] [DecidableEq η] in
theorem Sessions.outside {state : State φ η} (hs : Sessions state) (actor : Actor φ η)
    (hjob : ∀ future, actor ≠ .Job future) (hworker : ∀ future, actor ≠ .Worker future) :
    (state.core.frame actor).role = .Outside := by
  cases hsession : state.session actor.future with
  | none => rw [hs.idle actor hsession hjob]; rfl
  | some session =>
      have hok := hs.ok actor.future session hsession
      apply role_of_stopping
      cases actor with
      | Job future => exact absurd rfl (hjob future)
      | Worker future => exact absurd rfl (hworker future)
      | Driver future => exact hok.driver.imp_right And.left
      | Holder future thread => exact (hok.holder thread).imp_right And.left

-- Where the client is once a session is on its way: a worker that is turned
-- away finds it finished, since nobody but the one active worker connects.
theorem Sessions.refused {state : State φ η} {future : φ} {session : Session η}
    {stage : Client.Session (Actor φ η)} (hs : Sessions state) (hsetup : Setup state)
    (hx : Exclusive state) (hd : Client.Describes stage state.core)
    (hsession : state.session future = some session)
    (hbusy : state.core.frame (.Worker future) ≠ .Idle)
    (hrole : (state.core.frame (.Worker future)).role = .Outside)
    (hl : state.core.lifecycle ≠ .Ready) : state.core.lifecycle = .Finished := by
  have hok := hs.ok future session hsession
  have hactive : state.activity future = true := by
    simp only [State.activity, hsession]
    refine hok.active fun outcome hdone => ?_
    exact hbusy (hok.done outcome hdone).1
  cases hlife : state.core.lifecycle with
  | New => exact absurd hlife hok.known
  | Ready => exact absurd hlife hl
  | Finished => rfl
  | Connecting =>
      obtain ⟨holder, hholder⟩ : ∃ holder, (state.core.frame holder).role ≠ .Outside ∧
          (state.core.frame holder).role ≠ .Evaluates ∧ (state.core.frame holder).role ≠ .Supplies := by
        have hstage := hd.lifecycle.symm.trans hlife
        cases hst : stage.stage with
        | Admitted holder | Entering holder | Leaving holder =>
            refine ⟨holder, ?_⟩
            simp [hd.role, hst, Client.Stage.role]
        | Running holder phase =>
            refine ⟨holder, ?_⟩
            simp [hd.role, hst, Client.Stage.role]
        | Open evaluated => cases evaluated <;> simp [hst, Client.Stage.lifecycle] at hstage
        | Evaluating evaluated _ => cases evaluated <;> simp [hst, Client.Stage.lifecycle] at hstage
        | _ => simp [hst, Client.Stage.lifecycle] at hstage
      cases holder with
      | Job other =>
          have hkind := hsetup.frames other
          cases hf : state.core.frame (.Job other) <;>
            simp [hf, jobFrame, Client.Frame.role] at hkind hholder
      | Worker other =>
          -- it would be the second active one
          have hother : state.core.frame (.Worker other) ≠ .Idle := by
            intro hidle
            simp [hidle, Client.Frame.role] at hholder
          have hsecond := hs.busy_active hother
          obtain rfl := hx.alone future other hactive hsecond
          exact absurd hrole hholder.1
      | Driver other => exact absurd (hs.outside (.Driver other) (by simp) (by simp)) hholder.1
      | Holder other thread =>
          exact absurd (hs.outside (.Holder other thread) (by simp) (by simp)) hholder.1

-- The thread that gives a started callback gives its own.
theorem Sessions.startedSelf {state : State φ η} {actor other : Actor φ η}
    {core : Client.State (Actor φ η)} {seen : List (Client.Event (Actor φ η))} (hs : Sessions state)
    (hsetup : Setup state) (hm : Client.Move actor state.core core seen)
    (hmem : .Started other ∈ seen) : other = actor := by
  rcases hm.started hmem with heq | ⟨hcallback, phase, hruns⟩
  · exact heq
  · cases actor with
    | Job future =>
        have hkind := hsetup.frames future
        cases hf : state.core.frame (.Job future) <;>
          simp [hf, jobFrame, Client.Frame.role] at hkind hruns
    | Worker future =>
        have hbusy : state.core.frame (.Worker future) ≠ .Idle := by
          intro hidle
          simp [hidle, Client.Frame.role] at hruns
        obtain ⟨session, hsession, hrunning⟩ := hs.of_busy hbusy
        have hfits := (hs.ok future session hsession).running hrunning
        cases hf : state.core.frame (.Worker future) <;>
          simp [hf, Fits, hcallback, Client.Frame.role] at hfits hruns
        · exact hfits.2.2
        · exact hfits.2.2
        · exact hfits.2.2.2
    | Driver future =>
        simp [hs.outside (.Driver future) (by simp) (by simp)] at hruns
    | Holder future thread =>
        simp [hs.outside (.Holder future thread) (by simp) (by simp)] at hruns

-- What a step of one actor on the synchronous client is to another's session.
theorem Sessions.coreOthers {state : State φ η} {actor : Actor φ η} {future : φ} {session : Session η}
    {core : Client.State (Actor φ η)} {seen : List (Client.Event (Actor φ η))}
    {stage : Client.Session (Actor φ η)} (hs : Sessions state)
    (howned : Client.Owned state.core) (hd : Client.Describes stage state.core)
    (hm : Client.Move actor state.core core seen)
    (hsession : state.session future = some session)
    (hother : ∀ other : Actor φ η, other.future = future → (∀ job, other ≠ .Job job) → other ≠ actor) :
    session.Ok core future := by
  refine (hs.ok future session hsession).frame
    (fun other hfuture hkind => hm.frame_ne (hother other hfuture hkind)) ?_ (hd.rank howned hm)
  intro phase hruns
  apply hm.connectStarted
  by_contra hrole
  -- the worker has the one part there is
  have hself : (Actor.Worker future : Actor φ η) = actor := by
    exact Client.Stage.role_unique (hd.role _ ▸ by simp [hruns]) (hd.role _ ▸ hrole)
  exact hother (.Worker future) rfl (by simp) hself

theorem Sessions.coreOk {state : State φ η} {actor : Actor φ η} {future : φ} {session : Session η}
    {core : Client.State (Actor φ η)} {seen : List (Client.Event (Actor φ η))}
    {stage : Client.Session (Actor φ η)} (hs : Sessions state) (hsetup : Setup state)
    (hx : Exclusive state) (howned : Client.Owned state.core) (hd : Client.Describes stage state.core)
    (hm : Client.Move actor state.core core seen) (hbusy : state.core.frame actor ≠ .Idle)
    (hreturned : ∀ started, core.frame actor ≠ .CoreReturned started .Unwound)
    (hsession : state.session future = some session) :
    (seen.foldl (Session.absorb future) session).Ok core future := by
  have hok := hs.ok future session hsession
  by_cases hself : actor.future = future ∧ ∀ job, actor ≠ .Job job
  · obtain ⟨rfl, hkind⟩ := hself
    cases actor with
    | Job job => exact absurd rfl (hkind job)
    | Worker future =>
        exact hok.worker hm hbusy hreturned
          (hs.refused hsetup hx hd hsession hbusy) (hd.rank howned hm)
    | Driver future => exact hok.stopMoved hm hbusy (.inl rfl)
    | Holder future thread => exact hok.stopMoved hm hbusy (.inr ⟨thread, rfl⟩)
  · have hother : ∀ other : Actor φ η, other.future = future → (∀ job, other ≠ .Job job) →
        other ≠ actor := by
      rintro other hfuture hkind rfl
      exact hself ⟨hfuture, hkind⟩
    have hsame : seen.foldl (Session.absorb future) session = session := by
      refine Session.foldl_absorb_other fun event hmem => ?_
      refine Session.absorb_other hother ?_ ?_
      · rintro other rfl
        exact hs.startedSelf hsetup hm hmem
      · rintro other call outcome rfl
        exact hm.returned hmem
    rw [hsame]
    exact hs.coreOthers howned hd hm hsession hother

theorem Sessions.coreMoved {state : State φ η} {actor : Actor φ η}
    {core : Client.State (Actor φ η)} {seen : List (Client.Event (Actor φ η))}
    {stage : Client.Session (Actor φ η)} (hs : Sessions state) (hsetup : Setup state)
    (hx : Exclusive state) (howned : Client.Owned state.core) (hd : Client.Describes stage state.core)
    (hm : Client.Move actor state.core core seen) (hbusy : state.core.frame actor ≠ .Idle)
    (hreturned : ∀ started, core.frame actor ≠ .CoreReturned started .Unwound) :
    Sessions (seen.foldl absorb { state with core := core }) := by
  obtain ⟨hfuture, _⟩ := foldl_absorb_future { state with core := core } seen
  have hcore := foldl_absorb_core { state with core := core } seen
  have hsession := fun future => foldl_absorb_session { state with core := core } future seen
  constructor
  · intro future session hafter
    rw [hsession, Option.map_eq_some_iff] at hafter
    obtain ⟨before, hbefore, rfl⟩ := hafter
    rw [hcore]
    exact hs.coreOk hsetup hx howned hd hm hbusy hreturned hbefore
  · intro other hnone hkind
    rw [hsession, Option.map_eq_none_iff] at hnone
    have hidle := hs.idle other hnone hkind
    rw [hcore, hm.frame_ne, hidle]
    rintro rfl
    exact hbusy hidle
  · intro future hawaits
    rw [hfuture] at hawaits
    obtain ⟨session, hbefore, hunborn⟩ := hs.awaiting future hawaits
    rw [hsession]
    refine ⟨_, Option.map_eq_some_iff.mpr ⟨session, hbefore, rfl⟩, ?_⟩
    rw [Session.foldl_absorb_object]
    exact hunborn
  · intro future session hafter
    rw [hsession, Option.map_eq_some_iff] at hafter
    obtain ⟨before, hbefore, rfl⟩ := hafter
    rw [hfuture]
    exact hs.begun future before hbefore
  · intro future session hafter hunborn
    rw [hsession, Option.map_eq_some_iff] at hafter
    obtain ⟨before, hbefore, rfl⟩ := hafter
    rw [Session.foldl_absorb_object] at hunborn
    rw [hfuture]
    exact hs.unborn future before hbefore hunborn
  · intro future hexchange
    rw [hfuture] at hexchange
    rw [hcore]
    exact Client.Lifecycle.ne_new (hd.rank howned hm) (hs.connectable future hexchange)

theorem Sessions.jobRun {state : State φ η} {future : φ} {job : Job} {frame : Client.Frame}
    (hs : Sessions state) : Sessions ((state.setJob future job).calls (.Job future) frame) := by
  refine ⟨?_, ?_, hs.awaiting, hs.begun, hs.unborn, hs.connectable⟩
  · exact fun other session hsession =>
      (hs.ok other session hsession).entered fun _ _ hkind => hkind future
  · exact fun actor hnone hkind =>
      (Client.State.frame_goto_ne _ _ (hkind future)).trans (hs.idle actor hnone hkind)

-- An actor of a session enters a call together with a change of the session.
theorem Sessions.called {state : State φ η} {session next : Session η} {frame : Client.Frame}
    (hs : Sessions state) (actor : Actor φ η) (hsession : state.session actor.future = some session)
    (hok : next.Ok (state.core.enter actor frame) actor.future)
    (hobject : next.object = .Unborn ↔ session.object = .Unborn) :
    Sessions ((state.setSession actor.future next).calls actor frame) := by
  refine Sessions.setSession hs hsession hok hobject ?_ ?_ id
  · intro other rest hne hrest
    refine (hs.ok other rest hrest).entered ?_
    rintro _ rfl _ rfl
    exact hne rfl
  · intro other hne _
    refine Client.State.frame_goto_ne _ _ ?_
    rintro rfl
    exact hne rfl

theorem Sessions.move {state after : State φ η} {seen : List (Event φ η)}
    {stage : Client.Session (Actor φ η)} (hs : Sessions state) (hsetup : Setup state)
    (hx : Exclusive state) (howned : Client.Owned state.core) (hd : Client.Describes stage state.core)
    (hm : Move capabilities capacity state after seen) : Sessions after := by
  cases hm with
  | Begun future operation hfuture => exact hs.goto (by simp [hfuture, Future.spawns]) (by simp) (by simp)
  | LockedConnect future _ hfuture =>
      exact Sessions.goto (hs.of_eq rfl rfl rfl) (by simp [hfuture, Future.spawns]) (by simp) (by simp)
  | Locked future mutation _ hfuture =>
      exact Sessions.goto (hs.of_eq rfl rfl rfl) (by simp [hfuture, Future.spawns]) (by simp) (by simp)
  | NotIdle future mutation message hfuture _ =>
      exact Sessions.goto (hs.of_eq rfl rfl rfl) (by simp [hfuture, Future.spawns]) (by simp) (by simp)
  | JobSpawned future mutation hfuture _ =>
      have hgoto : Sessions (state.goto future .AwaitJob) :=
        hs.goto (by simp [hfuture, Future.spawns]) (by simp) (by simp)
      exact hgoto.of_eq rfl rfl rfl
  | NotConnectable future message hfuture _ =>
      exact Sessions.goto (hs.of_eq rfl rfl rfl) (by simp [hfuture, Future.spawns]) (by simp) (by simp)
  | Connectable future hfuture hl =>
      exact hs.goto (by simp [hfuture, Future.spawns]) (by simp) (by simp [hl])
  | ExchangeLost future message hfuture _ =>
      exact Sessions.goto (hs.of_eq rfl rfl rfl) (by simp [hfuture, Future.spawns]) (by simp) (by simp)
  | JobReady future outcome hfuture _ =>
      exact hs.goto (by simp [hfuture, Future.spawns]) (by simp) (by simp)
  | Dropped future hfuture =>
      refine hs.goto ?_ (by simp) (by simp)
      rcases hfuture with hf | hf | ⟨operation, hf⟩ <;> rw [hf] <;> rfl
  | Exchanged future hfuture hidle =>
      have hnone : state.session future = none := by
        cases hsession : state.session future with
        | none => rfl
        | some session =>
            have hspawns := hs.begun future session hsession
            simp [hfuture, Future.spawns] at hspawns
      refine Sessions.advance (hs.of_eq rfl rfl rfl) ?_ rfl (fun _ => rfl) (fun _ => .inl rfl)
      exact spawnDriver_ok (hs.idle (.Worker future) hnone (by simp))
        (hs.idle (.Driver future) hnone (by simp))
        (fun thread => hs.idle (.Holder future thread) hnone (by simp)) (hs.connectable future hfuture)
  | Connected future session hfuture hsession hstarted =>
      have hok := (hs.ok future session hsession).connected hstarted
      exact Sessions.advance (hs.of_eq rfl rfl rfl) hok rfl (by simp) (by simp)
  | NeverStarted future session outcome hfuture hsession hclosed =>
      exact absurd hclosed (hs.ok future session hsession).not_closed
  | Abandoned future session hfuture hsession =>
      exact Sessions.advance (hs.of_eq rfl rfl rfl) (hs.ok future session hsession).abandoned rfl
        (by simp) (fun _ => .inr rfl)
  | SessionMoved future hsession hmove =>
      exact Sessions.setSession hs hsession ((hs.ok future _ hsession).move hmove) hmove.object
        (fun other rest _ hrest => hs.ok other rest hrest) (fun _ _ _ => rfl) id
  | GuardCleared future session result hsession hdriver =>
      have hset : Sessions ({ state with core := state.core }.setSession future
          { session with driver := .Complete result }) :=
        hs.setSession hsession ((hs.ok future _ hsession).cleared hdriver) Iff.rfl
          (fun other rest _ hrest => hs.ok other rest hrest) (fun _ _ _ => rfl) id
      exact hset.of_eq rfl rfl rfl
  | JobRefused future config error _ _ _ => exact hs.of_eq rfl rfl rfl
  | JobRun future mutation _ _ _ => exact hs.jobRun
  | WorkerRun future session hsession hqueued _ =>
      exact hs.called (.Worker future) hsession ((hs.ok future session hsession).workerRun hqueued)
        Iff.rfl
  | StopCalled actor hsession hcause _ =>
      exact hs.called actor hsession ((hs.ok actor.future _ hsession).stopCalled hcause) hcause.object
  | CoreMoved actor _ hmove hbusy hreturned =>
      exact hs.coreMoved hsetup hx howned hd hmove hbusy hreturned

end Sessions

section Sound

variable {φ η : Type}

-- What holds in every state of the Tokio client.
structure Sound (state : State φ η) : Prop where
  setup : Setup state
  exclusive : Exclusive state
  sessions : Sessions state

theorem sound_new : Sound (State.new : State φ η) := ⟨setup_new, exclusive_new, sessions_new⟩

variable [DecidableEq φ] [DecidableEq η] {capabilities : Capabilities} {capacity : Nat}

theorem Sound.move {state after : State φ η} {seen : List (Event φ η)}
    {stage : Client.Session (Actor φ η)} (hs : Sound state) (howned : Client.Owned state.core)
    (hd : Client.Describes stage state.core) (hm : Move capabilities capacity state after seen) :
    Sound after := by
  refine ⟨hs.setup.move hm, hs.exclusive.move hm ?_, hs.sessions.move hs.setup hs.exclusive howned hd hm⟩
  intro future session hsession
  exact (hs.sessions.ok future session hsession).not_closed

variable {guard : List (Event φ η) → State φ η → Label φ η → Prop} {trace : List (Event φ η)}
  {last : State φ η}

theorem run_core_owned (hrun : Run (machine capabilities capacity) guard State.new trace last) :
    Client.Owned last.core ∧ ∃ stage, Client.Describes stage last.core :=
  ⟨Client.run_owned (run_core hrun), Client.run_describes (run_core hrun)⟩

theorem run_sound (hrun : Run (machine capabilities capacity) guard State.new trace last) :
    Sound last := by
  refine hrun.invariant_with
    (fun _ state => Client.Owned state.core ∧ ∃ stage, Client.Describes stage state.core)
    (fun _ => Sound) (fun _ _ => run_core_owned) sound_new ?_
  rintro _ before label after seen ⟨howned, stage, hd⟩ hs _ hstep
  exact hs.move howned hd (step_move hstep)

-- What every later invariant may use of a state.
theorem run_known (hrun : Run (machine capabilities capacity) guard State.new trace last) :
    Sound last ∧ Client.Owned last.core ∧ ∃ stage, Client.Describes stage last.core :=
  ⟨run_sound hrun, run_core_owned hrun⟩

end Sound

end OpenvpnConnect.Tokio
