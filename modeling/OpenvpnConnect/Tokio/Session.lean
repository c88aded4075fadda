import OpenvpnConnect.Tokio.Refinement

namespace OpenvpnConnect.Tokio

open Transition
open OpenvpnConnect.Client (Outcome Lifecycle)

-- The driver is inside core.stop().
def Driver.calls : Driver → Bool
  | .StopCommand | .CancelStop | .GuardStop _ => true
  | _ => false

-- The driver has its worker's result.
def Driver.joined : Driver → Bool
  | .GuardStop _ | .GuardClear _ | .Complete _ | .Exited => true
  | _ => false

-- The driver does what a handle or the token has asked for.
def Driver.asked : Driver → Bool
  | .RunCommand _ | .StopCommand | .CancelStop | .AwaitJoin => true
  | _ => false

def stopping : Client.Frame → Bool
  | .StopSwap | .StopNative => true
  | _ => false

section Session

variable {φ η : Type}

-- A running worker has told its future that it started exactly when Core has
-- let it, which is from connect_run on or after Core has returned.
def Fits (connectStarted : Option (Actor φ η)) (future : φ) (started : Started) : Client.Frame → Prop
  | .PrepareLock tells | .PrepareReset tells | .ConnectNative tells =>
      tells = true ∧ started = .Pending
  | .ConnectSetup tells | .ConnectEnabled tells =>
      tells = true ∧ started = .Pending ∧ connectStarted = some (.Worker future)
  | .ConnectRun tells => tells = true ∧ started = .Sent ∧ connectStarted = none
  | .CoreReturned tells outcome => tells = true ∧ outcome ≠ .Unwound ∧
      (started = .Pending ∧ connectStarted = some (.Worker future) ∨
        started = .Sent ∧ connectStarted = none)
  | .LifecycleReset tells outcome => tells = true ∧ outcome ≠ .Unwound ∧ started = .Sent
  | _ => False

-- What a session's record and its actors' frames say about each other.
structure Session.Ok (core : Client.State (Actor φ η)) (future : φ) (session : Session η) : Prop where
  queued : session.worker = .Queued →
    core.frame (.Worker future) = .Idle ∧ session.started = .Pending
  running : session.worker = .Running →
    Fits core.connectStarted future session.started (core.frame (.Worker future))
  done : ∀ outcome, session.worker = .Done outcome →
    core.frame (.Worker future) = .Idle ∧ session.started = .Sent ∧ core.lifecycle = .Finished
  driver : core.frame (.Driver future) = .Idle ∨
    stopping (core.frame (.Driver future)) = true ∧ session.driver.calls = true
  holder : ∀ thread, core.frame (.Holder future thread) = .Idle ∨
    stopping (core.frame (.Holder future thread)) = true ∧ session.object.born = true
  joined : session.driver.joined = true → ∃ outcome, session.worker = .Done outcome
  asked : session.cancelled = true ∨ session.commands ≠ [] ∨ session.driver.asked = true →
    session.object.born = true
  born : session.object.born = true → session.started = .Sent
  completed : ∀ result, session.completion = .Sent result → session.driver = .Exited
  resolved : session.object = .Completed → session.driver = .Exited
  gone : session.object.born = true →
    session.object = .Live ∨ session.cancelled = true ∨ session.driver = .Exited
  known : core.lifecycle ≠ .New

theorem spawnDriver_ok {core : Client.State (Actor φ η)} {future : φ}
    (hworker : core.frame (.Worker future) = .Idle) (hdriver : core.frame (.Driver future) = .Idle)
    (hholder : ∀ thread, core.frame (.Holder future thread) = .Idle) (hknown : core.lifecycle ≠ .New) :
    (spawnDriver : Session η).Ok core future := by
  constructor <;> simp_all [spawnDriver, Driver.joined, Driver.asked, Object.born]

section Move

variable {capacity : Nat} {future : φ} {session next : Session η} {seen : List (Event φ η)}

-- What the steps of a session that leave the synchronous client alone keep.
theorem Session.Move.worker_eq (hm : session.Move capacity future next seen) :
    next.worker = session.worker ∧ next.started = session.started := by
  cases hm <;> exact ⟨rfl, rfl⟩

theorem Session.Move.born_eq (hm : session.Move capacity future next seen) :
    next.object.born = session.object.born := by
  cases hm with
  | Resolved result hlive _ =>
      rw [hlive]
      rfl
  | Released hcompleted =>
      rw [hcompleted]
      rfl
  | _ => rfl

theorem Session.Move.calls (hm : session.Move capacity future next seen) (hcalls : session.driver.calls = true) :
    next.driver.calls = true := by
  cases hm with
  | CommandTaken _ _ hdriver _ _ | CommandRun _ hdriver | Completed _ hdriver =>
      rw [hdriver] at hcalls
      cases hcalls
  | _ => exact hcalls

theorem Session.Move.joined (hm : session.Move capacity future next seen) (hjoined : next.driver.joined = true) :
    session.driver.joined = true := by
  cases hm with
  | CommandTaken _ _ _ _ _ | CommandRun _ _ => cases hjoined
  | Completed _ hdriver =>
      rw [hdriver]
      rfl
  | _ => exact hjoined

-- Something is asked of the driver only by a handle or the token.
theorem Session.Move.asked (hm : session.Move capacity future next seen)
    (hasked : session.cancelled = true ∨ session.commands ≠ [] ∨ session.driver.asked = true →
      session.object.born = true)
    (hnext : next.cancelled = true ∨ next.commands ≠ [] ∨ next.driver.asked = true) :
    session.object.born = true := by
  cases hm with
  | CommandTaken _ _ _ hcommands _ => exact hasked (.inr (.inl (by rw [hcommands]; exact nofun)))
  | CommandRun _ hdriver => exact hasked (.inr (.inr (by rw [hdriver]; rfl)))
  | Completed _ _ =>
      rcases hnext with hcancelled | hcommands | hdriver
      · exact hasked (.inl hcancelled)
      · exact hasked (.inr (.inl hcommands))
      · cases hdriver
  | Sent _ hborn _ _ _ | HandleCloned hborn _ | TokenCancelled hborn => exact hborn
  | _ => exact hasked hnext

-- A driver that has exited does nothing any more.
theorem Session.Move.exited (hm : session.Move capacity future next seen) (hexited : session.driver = .Exited) :
    next.driver = .Exited := by
  cases hm with
  | CommandTaken _ _ hdriver _ _ | CommandRun _ hdriver =>
      rw [hexited] at hdriver
      cases hdriver
  | Completed _ _ => rfl
  | _ => exact hexited

theorem Session.Move.completion_eq (hm : session.Move capacity future next seen) :
    next.completion = session.completion ∨ next.driver = .Exited := by
  cases hm with
  | Completed _ _ => exact .inr rfl
  | _ => exact .inl rfl

theorem Session.Move.resolved (hm : session.Move capacity future next seen) (hnext : next.object = .Completed) :
    session.object = .Completed ∨ ∃ result, session.completion = .Sent result := by
  cases hm with
  | Resolved result _ hsent => exact .inr ⟨result, hsent⟩
  | Released _ => cases hnext
  | _ => exact .inl hnext

-- A session stays in its object until it is resolved.
theorem Session.Move.live (hm : session.Move capacity future next seen) (hlive : session.object = .Live) :
    next.object = .Live ∨ ∃ result, session.completion = .Sent result := by
  cases hm with
  | Resolved result _ hsent => exact .inr ⟨result, hsent⟩
  | Released hcompleted =>
      rw [hlive] at hcompleted
      cases hcompleted
  | _ => exact .inl hlive

theorem Session.Move.cancelled (hm : session.Move capacity future next seen) (hcancelled : session.cancelled = true) :
    next.cancelled = true := by
  cases hm with
  | TokenCancelled _ => rfl
  | _ => exact hcancelled

theorem Session.Ok.move {core : Client.State (Actor φ η)} (hok : session.Ok core future)
    (hm : session.Move capacity future next seen) : next.Ok core future := by
  obtain ⟨hworker, hstarted⟩ := hm.worker_eq
  have hborn := hm.born_eq
  have hexited : ∀ result, session.completion = .Sent result → next.driver = .Exited := fun result hsent =>
    hm.exited (hok.completed result hsent)
  constructor
  case queued =>
      rw [hworker, hstarted]
      exact hok.queued
  case running =>
      rw [hworker, hstarted]
      exact hok.running
  case done =>
      rw [hworker, hstarted]
      exact hok.done
  case driver => exact hok.driver.imp_right fun h => ⟨h.1, hm.calls h.2⟩
  case holder =>
      rw [hborn]
      exact hok.holder
  case joined =>
      rw [hworker]
      exact fun hjoined => hok.joined (hm.joined hjoined)
  case asked =>
      rw [hborn]
      exact hm.asked hok.asked
  case born =>
      rw [hborn, hstarted]
      exact hok.born
  case completed =>
      intro result hsent
      rcases hm.completion_eq with hsame | hdone
      · rw [hsame] at hsent
        exact hexited result hsent
      · exact hdone
  case resolved =>
      intro hresolved
      rcases hm.resolved hresolved with hresolved | ⟨result, hsent⟩
      · exact hm.exited (hok.resolved hresolved)
      · exact hexited result hsent
  case gone =>
      rw [hborn]
      intro hsome
      rcases hok.gone hsome with hlive | hcancelled | hdone
      · rcases hm.live hlive with hlive | ⟨result, hsent⟩
        · exact .inl hlive
        · exact .inr (.inr (hexited result hsent))
      · exact .inr (.inl (hm.cancelled hcancelled))
      · exact .inr (.inr (hm.exited hdone))
  case known => exact hok.known

end Move

theorem Session.Ok.connected {core : Client.State (Actor φ η)} {future : φ} {session : Session η}
    (hok : session.Ok core future) (hstarted : session.started = .Sent) :
    ({ session with object := .Live } : Session η).Ok core future :=
  ⟨hok.queued, hok.running, hok.done, hok.driver, fun thread => (hok.holder thread).imp_right fun h => ⟨h.1, rfl⟩,
    hok.joined, fun _ => rfl, fun _ => hstarted, hok.completed, nofun, fun _ => .inl rfl, hok.known⟩

theorem Session.Ok.abandoned {core : Client.State (Actor φ η)} {future : φ} {session : Session η}
    (hok : session.Ok core future) :
    ({ session with senders := session.senders - 1, completion := .Closed } : Session η).Ok core
      future :=
  ⟨hok.queued, hok.running, hok.done, hok.driver, hok.holder, hok.joined, hok.asked, hok.born, nofun, hok.resolved,
    hok.gone, hok.known⟩

-- The synchronous client where only this actor has gone on.
structure Elsewhere (core next : Client.State (Actor φ η)) (actor : Actor φ η) : Prop where
  frame : ∀ other, other ≠ actor → next.frame other = core.frame other
  connectStarted : next.connectStarted = core.connectStarted
  lifecycle : next.lifecycle = core.lifecycle

theorem Elsewhere.refl (core : Client.State (Actor φ η)) (actor : Actor φ η) : Elsewhere core core actor :=
  ⟨fun _ _ => rfl, rfl, rfl⟩

theorem Session.Ok.driverNext {core next : Client.State (Actor φ η)} {future : φ} {session : Session η}
    {driver : Driver} (hok : session.Ok core future) (hnext : Elsewhere core next (.Driver future))
    (hdriver : next.frame (.Driver future) = .Idle ∨
      stopping (next.frame (.Driver future)) = true ∧ driver.calls = true)
    (hjoined : driver.joined = true → ∃ outcome, session.worker = .Done outcome)
    (hasked : driver.asked = true → session.object.born = true)
    (hexited : session.driver = .Exited → driver = .Exited) :
    ({ session with driver := driver } : Session η).Ok next future := by
  have hworker := hnext.frame (.Worker future) (by simp)
  refine ⟨?_, ?_, ?_, hdriver, ?_, hjoined, ?_, hok.born, ?_, ?_, ?_, ?_⟩
  · rw [hworker]
    exact hok.queued
  · rw [hworker, hnext.connectStarted]
    exact hok.running
  · rw [hworker, hnext.lifecycle]
    exact hok.done
  · intro thread
    rw [hnext.frame (.Holder future thread) (by simp)]
    exact hok.holder thread
  · rintro (hcancelled | hcommands | hdriver)
    · exact hok.asked (.inl hcancelled)
    · exact hok.asked (.inr (.inl hcommands))
    · exact hasked hdriver
  · exact fun result hsent => hexited (hok.completed result hsent)
  · exact fun hcompleted => hexited (hok.resolved hcompleted)
  · exact fun hborn => (hok.gone hborn).imp_right fun h => h.imp_right hexited
  · rw [hnext.lifecycle]
    exact hok.known

theorem Session.Ok.holderNext {core next : Client.State (Actor φ η)} {future : φ} {thread : η}
    {session : Session η} (hok : session.Ok core future) (hnext : Elsewhere core next (.Holder future thread))
    (hholder : next.frame (.Holder future thread) = .Idle ∨
      stopping (next.frame (.Holder future thread)) = true ∧ session.object.born = true) :
    session.Ok next future := by
  have hworker := hnext.frame (.Worker future) (by simp)
  refine ⟨?_, ?_, ?_, ?_, ?_, hok.joined, hok.asked, hok.born, hok.completed, hok.resolved, hok.gone, ?_⟩
  · rw [hworker]
    exact hok.queued
  · rw [hworker, hnext.connectStarted]
    exact hok.running
  · rw [hworker, hnext.lifecycle]
    exact hok.done
  · rw [hnext.frame (.Driver future) (by simp)]
    exact hok.driver
  · intro other
    by_cases heq : other = thread
    · rw [heq]
      exact hholder
    · rw [hnext.frame (.Holder future other) (by simpa using heq)]
      exact hok.holder other
  · rw [hnext.lifecycle]
    exact hok.known

-- A driver outside of core.stop() has no call on the synchronous client.
theorem Session.Ok.driver_idle {core : Client.State (Actor φ η)} {future : φ} {session : Session η}
    (hok : session.Ok core future) (houtside : session.driver.calls = false) :
    core.frame (.Driver future) = .Idle := by
  rcases hok.driver with hidle | ⟨_, hcalls⟩
  · exact hidle
  · rw [houtside] at hcalls
    cases hcalls

theorem Session.Ok.cleared {core : Client.State (Actor φ η)} {future : φ} {session : Session η}
    {result : Outcome} (hok : session.Ok core future) (hdriver : session.driver = .GuardClear result) :
    ({ session with driver := .Complete result } : Session η).Ok core future := by
  have hidle := hok.driver_idle (by rw [hdriver]; rfl)
  refine hok.driverNext (.refl core _) (.inl hidle) ?_ nofun ?_
  · intro _
    exact hok.joined (by rw [hdriver]; rfl)
  · intro hexited
    rw [hdriver] at hexited
    cases hexited

-- A session does not feel what other actors do to the synchronous client.
theorem Session.Ok.frame {core next : Client.State (Actor φ η)} {future : φ} {session : Session η}
    (hok : session.Ok core future) (hframe : ∀ actor : Actor φ η, actor.future = future →
      (∀ job, actor ≠ .Job job) → next.frame actor = core.frame actor)
    (hstarted : ∀ phase, (core.frame (.Worker future)).role = .Runs phase →
      next.connectStarted = core.connectStarted)
    (hrank : core.lifecycle.rank ≤ next.lifecycle.rank) : session.Ok next future := by
  have hworker := hframe (.Worker future) rfl (by simp)
  have hdriver := hframe (.Driver future) rfl (by simp)
  have hholder := fun thread => hframe (.Holder future thread) rfl (by simp)
  refine ⟨?_, ?_, ?_, ?_, ?_, hok.joined, hok.asked, hok.born, hok.completed, hok.resolved, hok.gone, ?_⟩
  · rw [hworker]
    exact hok.queued
  · intro hrun
    have hfits := hok.running hrun
    rw [hworker]
    cases hf : core.frame (.Worker future) <;> rw [hf] at hfits hstarted <;>
      simp_all [Fits, Client.Frame.role]
  · intro outcome hdone
    obtain ⟨hidle, hsent, hfinished⟩ := hok.done outcome hdone
    exact ⟨hworker.trans hidle, hsent, Client.Lifecycle.eq_finished (hfinished ▸ hrank)⟩
  · rw [hdriver]
    exact hok.driver
  · intro thread
    rw [hholder thread]
    exact hok.holder thread
  · exact Client.Lifecycle.ne_new hrank hok.known

end Session

section Calls

variable {φ η : Type} [DecidableEq φ] [DecidableEq η]

theorem Session.Ok.workerRun {core : Client.State (Actor φ η)} {future : φ} {session : Session η}
    (hok : session.Ok core future) (hqueued : session.worker = .Queued) :
    ({ session with worker := .Running } : Session η).Ok (core.enter (.Worker future) (.PrepareLock true))
      future := by
  obtain ⟨hidle, hpending⟩ := hok.queued hqueued
  obtain ⟨_, hrunning, hdone, hdriver, hholder, hjoined, hasked, hborn, hcompleted, hresolved,
    hgone, hknown⟩ := hok
  constructor <;> simp_all [Client.State.enter, Client.State.goto, Fits]

theorem Elsewhere.enter (core : Client.State (Actor φ η)) (actor : Actor φ η) (frame : Client.Frame) :
    Elsewhere core (core.enter actor frame) actor :=
  ⟨fun _ hne => Client.State.frame_goto_ne _ _ hne, rfl, rfl⟩

theorem Elsewhere.leave (core : Client.State (Actor φ η)) (actor : Actor φ η) :
    Elsewhere core (core.leave actor) actor :=
  ⟨fun _ hne => Client.State.frame_goto_ne _ _ hne, rfl, rfl⟩

-- An actor of the session calls core.stop(), which it has a reason for.
theorem Session.Ok.stopCalled {core : Client.State (Actor φ η)} {actor : Actor φ η}
    {session next : Session η} {front : List (Event φ η)} (hok : session.Ok core actor.future)
    (hcause : Cause session actor next front) :
    next.Ok (core.enter actor .StopSwap) actor.future := by
  have hstops : stopping ((core.enter actor .StopSwap).frame actor) = true := by
    rw [Client.State.enter, Client.State.frame_goto_self]
    rfl
  cases hcause with
  | Joined future outcome hjoinable hwork =>
      refine hok.driverNext (.enter core _ _) (.inr ⟨hstops, rfl⟩) (fun _ => ⟨outcome, hwork⟩) nofun ?_
      intro hexited
      rw [hexited] at hjoinable
      cases hjoinable
  | Token future hdriver hcancelled =>
      refine hok.driverNext (.enter core _ _) (.inr ⟨hstops, rfl⟩) nofun (fun _ => hok.asked (.inl hcancelled)) ?_
      intro hexited
      rw [hdriver] at hexited
      cases hexited
  | Command future hdriver =>
      have hborn := hok.asked (.inr (.inr (by rw [hdriver]; rfl)))
      refine hok.driverNext (.enter core _ _) (.inr ⟨hstops, rfl⟩) nofun (fun _ => hborn) ?_
      intro hexited
      rw [hdriver] at hexited
      cases hexited
  | Cancel future thread hborn =>
      have hcancelled : session.Move 0 future { session with cancelled := true } [.Cancelled future] :=
        .TokenCancelled hborn
      exact (hok.move hcancelled).holderNext (.enter core _ _) (.inr ⟨hstops, hborn⟩)
  | Drop future thread hlive =>
      have hborn : session.object.born = true := by
        rw [hlive]
        rfl
      have hdropping : ({ session with object := .Dropping thread, cancelled := true } : Session η).Ok core future :=
        ⟨hok.queued, hok.running, hok.done, hok.driver, fun other => (hok.holder other).imp_right fun h => ⟨h.1, rfl⟩,
          hok.joined, fun _ => rfl, fun _ => hok.born hborn, hok.completed, nofun, fun _ => .inr (.inl rfl), hok.known⟩
      exact hdropping.holderNext (.enter core _ _) (.inr ⟨hstops, rfl⟩)

-- What a session makes of an event of the synchronous client.
def Session.absorb (future : φ) (session : Session η) : Client.Event (Actor φ η) → Session η
  | .Started (.Worker other) => if other = future then { session with started := .Sent } else session
  | .Returned (.Worker other) _ outcome =>
      if other = future then session.workerReturned outcome else session
  | .Returned (.Driver other) _ _ => if other = future then session.stopReturned else session
  | .Returned (.Holder other thread) _ _ =>
      if other = future then session.holderReturned thread else session
  | _ => session

theorem foldl_absorb_session (state : State φ η) (future : φ)
    (seen : List (Client.Event (Actor φ η))) :
    (seen.foldl Tokio.absorb state).session future =
      (state.session future).map fun session => seen.foldl (Session.absorb future) session := by
  induction seen generalizing state with
  | nil => simp
  | cons event rest ih =>
      rw [List.foldl_cons, ih]
      have hone : (Tokio.absorb state event).session future =
          (state.session future).map fun session => session.absorb future event := by
        unfold Tokio.absorb
        split <;> cases hs : state.session future <;>
          grind [State.update, State.setJob, Session.absorb]
      rw [hone, Option.map_map]
      rfl

omit [DecidableEq φ] [DecidableEq η] in
theorem Session.Ok.workerNext {core next : Client.State (Actor φ η)} {future : φ}
    {session : Session η} {started : Started} {worker : Worker} (hok : session.Ok core future)
    (hrunning : session.worker = .Running)
    (hframe : ∀ actor : Actor φ η, actor ≠ .Worker future → next.frame actor = core.frame actor)
    (hrank : core.lifecycle.rank ≤ next.lifecycle.rank)
    (hstarted : session.started = .Sent → started = .Sent) (hqueued : worker ≠ .Queued)
    (hrun : worker = .Running →
      Fits next.connectStarted future started (next.frame (.Worker future)))
    (hdone : ∀ outcome, worker = .Done outcome →
      next.frame (.Worker future) = .Idle ∧ started = .Sent ∧ next.lifecycle = .Finished) :
    ({ session with started := started, worker := worker } : Session η).Ok next future := by
  refine ⟨fun hq => absurd hq hqueued, hrun, hdone, ?_, ?_, ?_, hok.asked,
    fun hborn => hstarted (hok.born hborn), hok.completed, hok.resolved, hok.gone, ?_⟩
  · rw [hframe _ (by simp)]
    exact hok.driver
  · intro thread
    rw [hframe _ (by simp)]
    exact hok.holder thread
  · intro hjoined
    obtain ⟨outcome, hdone⟩ := hok.joined hjoined
    simp [hrunning] at hdone
  · exact Client.Lifecycle.ne_new hrank hok.known

-- A worker's step keeps its session in order. A refused connect finds the
-- client finished.
theorem Session.Ok.worker {core next : Client.State (Actor φ η)} {future : φ} {session : Session η}
    {seen : List (Client.Event (Actor φ η))} (hok : session.Ok core future)
    (hm : Client.Move (.Worker future) core next seen) (hbusy : core.frame (.Worker future) ≠ .Idle)
    (hreturned : ∀ started, next.frame (.Worker future) ≠ .CoreReturned started .Unwound)
    (hrefused : (core.frame (.Worker future)).role = .Outside → core.lifecycle ≠ .Ready →
      core.lifecycle = .Finished)
    (hrank : core.lifecycle.rank ≤ next.lifecycle.rank) :
    (seen.foldl (Session.absorb future) session).Ok next future := by
  have hrunning : session.worker = .Running := by
    cases hw : session.worker with
    | Queued => exact absurd (hok.queued hw).1 hbusy
    | Running => rfl
    | Done outcome => exact absurd (hok.done outcome hw).1 hbusy
  have hfits := hok.running hrunning
  have hframe : ∀ actor : Actor φ η, actor ≠ .Worker future → next.frame actor = core.frame actor :=
    fun _ hne => hm.frame_ne hne
  have hnext : ∀ started worker, (session.started = .Sent → started = .Sent) → worker ≠ .Queued →
      (worker = .Running → Fits next.connectStarted future started (next.frame (.Worker future))) →
      (∀ outcome, worker = .Done outcome →
        next.frame (.Worker future) = .Idle ∧ started = .Sent ∧ next.lifecycle = .Finished) →
      ({ session with started := started, worker := worker } : Session η).Ok next future :=
    fun _ _ => hok.workerNext hrunning hframe hrank
  have hkept : Fits next.connectStarted future session.started (next.frame (.Worker future)) →
      session.Ok next future :=
    fun hfits => hnext session.started session.worker id (by simp [hrunning]) (fun _ => hfits)
      (by simp [hrunning])
  cases hm with
  | Unsupported _ hcall | Entered _ hcall | Cloned hcall | Dropped hcall _ | LastDropped hcall _ =>
      exact absurd hcall.1 hbusy
  | Refused message hwait hat hlock hevaluate hconnect =>
      cases hwait with
      | Connect started =>
          obtain ⟨rfl, hpending⟩ : started = true ∧ session.started = .Pending := by
            simpa [hat, Fits] using hfits
          have hfinished := hrefused (by rw [hat]; rfl) (hconnect (by simp [Client.connectCall]))
          have := hnext .Sent (.Done (.Err (.InvalidState message))) (fun _ => rfl) (by simp) (by simp)
            (by simp [Client.State.leave, Client.State.goto, hfinished])
          simpa [Session.absorb, Session.workerReturned] using this
      | _ => simp [hat, Fits] at hfits
  | ConnectAdmitted started hat hlock hl =>
      refine hkept ?_
      simpa [hat, Fits] using hfits
  | StopReset started hat =>
      refine hkept ?_
      simpa [hat, Fits] using hfits
  | NativeEntered started hat =>
      refine hkept ?_
      simp_all [Fits, Client.State.goto]
  | SetupDone started hat =>
      refine hkept ?_
      simpa [hat, Fits, Client.State.goto] using hfits
  | RunEntered started hat =>
      -- the first step of connect_run tells the future, the later ones do not
      rcases hat with hat | hat <;> simp only [hat, Fits] at hfits
      · have hsent := hnext .Sent .Running (fun _ => rfl) (by simp) (fun _ => ?_) (by simp)
        · simpa [hfits.2.2, Session.absorb, hrunning] using hsent
        · simp [Fits, hfits.1, Client.State.goto]
      · have hsame := hkept (by simp [Fits, hfits, Client.State.goto])
        simpa [hfits.2.2] using hsame
  | ConnectLeft started outcome hat hne =>
      -- the fallback tells it when Core never came to connect_run
      simp only [hat, Fits] at hfits
      obtain ⟨htells, _, ⟨_, hc⟩ | ⟨hs, hc⟩⟩ := hfits
      · have hsent := hnext .Sent .Running (fun _ => rfl) (by simp) (fun _ => ?_) (by simp)
        · simpa [hc, Session.absorb, hrunning] using hsent
        · simp [Fits, htells, hne]
      · have hsame := hkept (by simp [Fits, htells, hne, hs])
        simpa [hc, Session.absorb] using hsame
  | ConnectUnwound started hat => simp [hat, Fits] at hfits
  | Finished started outcome hat hlock =>
      have hsent : session.started = .Sent := by
        simp only [hat, Fits] at hfits
        exact hfits.2.2
      have := hnext session.started (.Done outcome) id (by simp) (by simp)
        (by simp [Client.State.leave, Client.State.goto, hsent])
      simpa [Session.absorb, Session.workerReturned, hsent] using this
  | CoreReturned started outcome hat =>
      refine hkept ?_
      have hne : outcome ≠ .Unwound := by
        rintro rfl
        exact hreturned started (Client.State.frame_goto_self _ _ _)
      rcases hat with hat | hat | hat <;> simp_all [Fits, Client.State.goto]
  | _ => simp_all [Fits]

theorem Session.Ok.stopReturned {core : Client.State (Actor φ η)} {future : φ} {session : Session η}
    (hok : session.Ok core future) (hbusy : core.frame (.Driver future) ≠ .Idle) :
    session.stopReturned.Ok (core.leave (.Driver future)) future := by
  obtain ⟨_, hcalls⟩ := hok.driver.resolve_left hbusy
  have hidle : (core.leave (.Driver future)).frame (.Driver future) = .Idle := Client.State.frame_goto_self _ _ _
  have hrunning : session.driver ≠ .Exited := by
    intro hexited
    rw [hexited] at hcalls
    cases hcalls
  unfold Session.stopReturned
  cases hd : session.driver with
  | StopCommand => exact hok.driverNext (.leave core _) (.inl hidle) nofun nofun fun h => absurd h hrunning
  | CancelStop =>
      have hborn := hok.asked (.inr (.inr (by rw [hd]; rfl)))
      exact hok.driverNext (.leave core _) (.inl hidle) nofun (fun _ => hborn) fun h => absurd h hrunning
  | GuardStop result =>
      have hdone := hok.joined (by rw [hd]; rfl)
      exact hok.driverNext (.leave core _) (.inl hidle) (fun _ => hdone) nofun fun h => absurd h hrunning
  | _ =>
      rw [hd] at hcalls
      cases hcalls

theorem Session.Ok.holderReturned {core : Client.State (Actor φ η)} {future : φ} {thread : η}
    {session : Session η} (hok : session.Ok core future) :
    (session.holderReturned thread).Ok (core.leave (.Holder future thread)) future := by
  have hleft : session.Ok (core.leave (.Holder future thread)) future :=
    hok.holderNext (.leave core _) (.inl (Client.State.frame_goto_self _ _ _))
  unfold Session.holderReturned
  split
  · rename_i hdropping
    have hborn : session.object.born = true := by
      rw [hdropping]
      rfl
    refine ⟨hleft.queued, hleft.running, hleft.done, hleft.driver,
      fun other => (hleft.holder other).imp_right fun h => ⟨h.1, rfl⟩, hleft.joined, fun _ => rfl,
      fun _ => hleft.born hborn, nofun, nofun, fun _ => ?_, hleft.known⟩
    rcases hleft.gone hborn with hlive | hgone
    · rw [hdropping] at hlive
      cases hlive
    · exact .inr hgone
  · exact hleft

theorem Session.Ok.driverSwapped {core : Client.State (Actor φ η)} {future : φ} {session : Session η}
    (hok : session.Ok core future) (hbusy : core.frame (.Driver future) ≠ .Idle) :
    session.Ok ({ core with stopRequested := true }.goto (.Driver future) .StopNative) future := by
  obtain ⟨_, hcalls⟩ := hok.driver.resolve_left hbusy
  have hstops : stopping (({ core with stopRequested := true }.goto (.Driver future) .StopNative).frame
      (.Driver future)) = true := by
    rw [Client.State.frame_goto_self]
    rfl
  have hnext : Elsewhere core ({ core with stopRequested := true }.goto (.Driver future) .StopNative)
      (.Driver future) := ⟨fun _ hne => Client.State.frame_goto_ne _ _ hne, rfl, rfl⟩
  exact hok.driverNext hnext (.inr ⟨hstops, hcalls⟩) hok.joined (fun hasked => hok.asked (.inr (.inr hasked))) id

theorem Session.Ok.holderSwapped {core : Client.State (Actor φ η)} {future : φ} {thread : η}
    {session : Session η} (hok : session.Ok core future)
    (hbusy : core.frame (.Holder future thread) ≠ .Idle) :
    session.Ok ({ core with stopRequested := true }.goto (.Holder future thread) .StopNative) future := by
  obtain ⟨_, hborn⟩ := (hok.holder thread).resolve_left hbusy
  have hstops : stopping (({ core with stopRequested := true }.goto (.Holder future thread) .StopNative).frame
      (.Holder future thread)) = true := by
    rw [Client.State.frame_goto_self]
    rfl
  have hnext : Elsewhere core ({ core with stopRequested := true }.goto (.Holder future thread) .StopNative)
      (.Holder future thread) := ⟨fun _ hne => Client.State.frame_goto_ne _ _ hne, rfl, rfl⟩
  exact hok.holderNext hnext (.inr ⟨hstops, hborn⟩)

-- An actor that is inside core.stop() goes on with it.
theorem Session.Ok.stopMoved {core next : Client.State (Actor φ η)} {actor : Actor φ η}
    {session : Session η} {seen : List (Client.Event (Actor φ η))} (hok : session.Ok core actor.future)
    (hm : Client.Move actor core next seen) (hbusy : core.frame actor ≠ .Idle)
    (hactor : actor = .Driver actor.future ∨ ∃ thread, actor = .Holder actor.future thread) :
    (seen.foldl (Session.absorb actor.future) session).Ok next actor.future := by
  have hstopping : stopping (core.frame actor) = true := by
    rcases hactor with ha | ⟨thread, ha⟩ <;> rw [ha] at hbusy ⊢
    · exact (hok.driver.resolve_left hbusy).1
    · exact ((hok.holder thread).resolve_left hbusy).1
  have hleft : ((session.absorb actor.future (.Returned actor .Stop .Ok)).Ok (core.leave actor)
      actor.future) := by
    rcases hactor with ha | ⟨thread, ha⟩ <;> rw [ha] at hbusy ⊢
    · simpa [Session.absorb, Actor.future] using hok.stopReturned hbusy
    · simpa [Session.absorb, Actor.future] using hok.holderReturned
  have hswapped : session.Ok ({ core with stopRequested := true }.goto actor .StopNative)
      actor.future := by
    rcases hactor with ha | ⟨thread, ha⟩ <;> rw [ha] at hbusy ⊢
    · exact hok.driverSwapped hbusy
    · exact hok.holderSwapped hbusy
  cases hm with
  | StopRepeated _ _ | StopDelivered _ => simpa [Session.absorb] using hleft
  | StopFirst _ _ => exact hswapped
  | Unsupported _ hcall | Entered _ hcall | Cloned hcall | Dropped hcall _ | LastDropped hcall _ =>
      exact absurd hcall.1 hbusy
  | Refused _ hwait hat _ _ _ =>
      rw [hat] at hstopping
      cases hwait <;> cases hstopping
  | RunEntered _ hat | CoreReturned _ _ hat => grind [stopping]
  | _ => simp_all [stopping]

end Calls

end OpenvpnConnect.Tokio
