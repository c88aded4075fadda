import OpenvpnConnect.Tokio.OneSession
import OpenvpnConnect.Tokio.Workers

namespace OpenvpnConnect.Tokio

open Transition
open OpenvpnConnect.Client (Outcome Lifecycle Flagged Passed Claims Unswapped)

section Landing

variable {φ η : Type}

-- A stop flag that was set is never cleared, a stop comes after its session's
-- reset, and a native stop reaches Core or comes after it.
def Lands (front : List (Client.Event (Actor φ η))) : Client.Event (Actor φ η) → Prop
  | .StopCleared _ => Unswapped front
  | .StopSwapped actor _ => .StopCleared (.Worker actor.future) ∈ front ∧
      ∀ other earlier, .StopSwapped other earlier ∈ front → other.future = actor.future
  | .NativeStop actor accepted => accepted = true ∨ .CoreExit (.Worker actor.future) ∈ front
  | _ => True

-- What the trace tells of the workers and of the stop flag.
structure Landing (trace : List (Event φ η)) (state : State φ η) : Prop where
  fresh : ∀ future session, state.session future = some session →
    session.worker = .Queued ∨ state.core.frame (.Worker future) = .PrepareLock true →
    state.core.lifecycle = .Ready
  done : ∀ future session outcome, state.session future = some session →
    session.worker = .Done outcome →
    .Core (.StopCleared (.Worker future)) ∈ trace ∧ .Core (.CoreExit (.Worker future)) ∈ trace
  swapped : ∀ actor previous, .Core (.StopSwapped actor previous) ∈ trace →
    ∃ session, state.session actor.future = some session ∧ session.started = .Sent
  flagged : Flagged (trace.filterMap coreView) state.core
  claims : Always Claims (trace.filterMap coreView)
  lands : Always Lands (trace.filterMap coreView)

theorem landing_new : Landing [] (State.new : State φ η) := by
  refine ⟨?_, ?_, ?_, Client.flagged_new, always_nil _, always_nil _⟩ <;> simp [State.new]

variable [DecidableEq φ] [DecidableEq η] {capabilities : Capabilities} {capacity : Nat}

-- Where Core is with a session that has started.
omit [DecidableEq φ] [DecidableEq η] in
theorem Landing.started {trace : List (Event φ η)} {state : State φ η} {future : φ}
    {session : Session η} (hl : Landing trace state) (hs : Sessions state)
    (hp : Passed (trace.filterMap coreView) state.core) (hsession : state.session future = some session)
    (hsent : session.started = .Sent) :
    .Core (.StopCleared (.Worker future)) ∈ trace ∧
      (state.core.frame (.Worker future) = .ConnectRun true ∨
        .Core (.CoreExit (.Worker future)) ∈ trace) := by
  have hok := hs.ok future session hsession
  cases hw : session.worker with
  | Queued => simp [(hok.queued hw).2] at hsent
  | Done outcome =>
      obtain ⟨hcleared, hexited⟩ := hl.done future session outcome hsession hw
      exact ⟨hcleared, .inr hexited⟩
  | Running =>
      have hfits := hok.running hw
      have hcleared := fun h => mem_core.mp (hp.cleared (.Worker future) h)
      have hexited := fun h => mem_core.mp (hp.exited (.Worker future) h)
      cases hf : state.core.frame (.Worker future) <;>
        simp [hf, Fits, hsent, Client.Frame.prepared, Client.Frame.exited] at hfits hcleared hexited ⊢
      · exact ⟨hcleared, .inl hfits.1⟩
      · exact ⟨hcleared, hexited⟩
      · exact ⟨hcleared, hexited⟩

-- A worker that has not come to its connect finds the client ready.
theorem Landing.waits {trace seen : List (Event φ η)} {state after : State φ η} {future : φ}
    {next : Session η} {stage : Client.Session (Actor φ η)} (hl : Landing trace state) (hs : Sound state)
    (hafter : Sound after) (hsole : Sole (trace ++ seen) after)
    (hd : Client.Describes stage state.core) (hm : Move capabilities capacity state after seen)
    (hfresh : ∀ future, .Exchanged future ∈ seen → state.core.lifecycle = .Ready)
    (hnext : after.session future = some next)
    (hwaits : next.worker = .Queued ∨ after.core.frame (.Worker future) = .PrepareLock true) :
    after.core.lifecycle = .Ready := by
  have hready : state.core.lifecycle = .Ready := by
    rcases hwaits with hqueued | hframe
    · rcases hm.worker hnext with ⟨session, hsession, hsame | hrunning | ⟨hne, _⟩⟩ | ⟨hmem, _⟩
      · exact hl.fresh future session hsession (.inl (hsame ▸ hqueued))
      · simp [hrunning] at hqueued
      · exact absurd hqueued hne
      · exact hfresh future hmem
    · rcases hm.preparing hframe with hbefore | ⟨session, hsession, hqueued⟩
      · have hbusy : state.core.frame (.Worker future) ≠ .Idle := by simp [hbefore]
        obtain ⟨session, hsession, _⟩ := hs.sessions.of_busy hbusy
        exact hl.fresh future session hsession (.inr hbefore)
      · exact hl.fresh future session hsession (.inl hqueued)
  rcases hm.core with ⟨hcore, _⟩ | ⟨label, hstep⟩
  · rw [hcore, hready]
  rcases hd.ready (Client.step_move hstep) hready with hstill | ⟨started, hbefore, hreset⟩
  · exact hstill
  -- the connect that is admitted would be the worker's own
  obtain ⟨other, hworker⟩ := hs.worker (show jobFrame (state.core.frame label.thread) = false by rw [hbefore]; rfl)
    (by rw [hbefore]; rfl)
  rw [hworker] at hbefore hreset
  obtain ⟨session, hsession, _⟩ := hs.sessions.of_busy (show state.core.frame (.Worker other) ≠ .Idle by simp [hbefore])
  obtain ⟨rest, hrest, _⟩ := hm.session hs.sessions hsession
  obtain rfl := hsole.single future other (by simp [hnext]) (by simp [hrest])
  rcases hwaits with hqueued | hframe
  · have hidle := ((hafter.sessions.ok future next hnext).queued hqueued).1
    simp [hidle] at hreset
  · simp [hframe] at hreset

theorem Landing.finished {trace seen : List (Event φ η)} {state after : State φ η} {future : φ}
    {next : Session η} {outcome : Outcome} (hl : Landing trace state) (hs : Sound state)
    (hp : Passed (trace.filterMap coreView) state.core)
    (hm : Move capabilities capacity state after seen) (hnext : after.session future = some next)
    (hdone : next.worker = .Done outcome) :
    .Core (.StopCleared (.Worker future)) ∈ trace ∧ .Core (.CoreExit (.Worker future)) ∈ trace := by
  rcases hm.worker hnext with ⟨session, hsession, hsame | hrunning | ⟨_, call, value, hmem⟩⟩ | ⟨_, hqueued⟩
  · exact hl.done future session outcome hsession (hsame ▸ hdone)
  · simp [hrunning] at hdone
  · -- the worker's call has come back, and not because it was refused
    obtain ⟨coreSeen, hmove, hreturned, hbusy⟩ := hm.coreReturned hmem (by simp)
    obtain ⟨session, hsession, hrunning⟩ := hs.sessions.of_busy hbusy
    have hfits := (hs.sessions.ok future session hsession).running hrunning
    rcases workerReturned hmove hfits hreturned with hexited | ⟨hframe, hne⟩
    · have hprepared : (state.core.frame (.Worker future)).prepared = true := by
        cases hf : state.core.frame (.Worker future) <;>
          simp [hf, Client.Frame.exited, Client.Frame.prepared] at hexited ⊢
      exact ⟨mem_core.mp (hp.cleared _ hprepared), mem_core.mp (hp.exited _ hexited)⟩
    · exact absurd (hl.fresh future session hsession (.inr hframe)) hne
  · simp [hqueued] at hdone

-- A reset comes before every stop of its session.
omit [DecidableEq φ] [DecidableEq η] in
theorem Landing.unswapped {trace : List (Event φ η)} {state : State φ η} {actor : Actor φ η}
    {started : Bool} (hl : Landing trace state) (hs : Sound state) (hsole : Sole trace state)
    (hframe : state.core.frame actor = .PrepareReset started) :
    Unswapped (trace.filterMap coreView) := by
  obtain ⟨future, rfl⟩ := hs.worker (by rw [hframe]; rfl) (by rw [hframe]; rfl)
  obtain ⟨session, hsession, hrunning⟩ := hs.sessions.of_busy
    (show state.core.frame (.Worker future) ≠ .Idle by simp [hframe])
  have hfits := (hs.sessions.ok future session hsession).running hrunning
  intro other previous hmem
  obtain ⟨rest, hrest, hsent⟩ := hl.swapped other previous (mem_core.mp hmem)
  have heq := hsole.single other.future future (by simp [hrest]) (by simp [hsession])
  rw [heq, hsession] at hrest
  obtain rfl := Option.some.inj hrest
  simp [hframe, Fits, hsent] at hfits

-- A stop call that comes to its swap or to its native call has its session's reset before it.
theorem Landing.stopping {trace : List (Event φ η)} {state : State φ η} {actor : Actor φ η}
    {stage : Client.Session (Actor φ η)} (hl : Landing trace state) (hs : Sound state)
    (hd : Client.Describes stage state.core) (hp : Passed (trace.filterMap coreView) state.core)
    (hstopping : stopping (state.core.frame actor) = true) :
    .Core (.StopCleared (.Worker actor.future)) ∈ trace ∧
      (state.core.accepting = true ∨ .Core (.CoreExit (.Worker actor.future)) ∈ trace) := by
  obtain ⟨session, hsession, hsent⟩ := hs.stopper hstopping
  obtain ⟨hcleared, hruns | hexited⟩ := hl.started hs.sessions hp hsession hsent
  · refine ⟨hcleared, .inl ?_⟩
    have hstage := Client.Stage.of_runs ((hd.role (.Worker actor.future)).symm.trans (by rw [hruns]; rfl))
    simp [Client.State.accepting, hd.core, hstage, Client.Stage.core]
  · exact ⟨hcleared, .inr hexited⟩

theorem Landing.lands_step {trace : List (Event φ η)} {seen : List (Client.Event (Actor φ η))}
    {state : State φ η} {core : Client.State (Actor φ η)} {actor : Actor φ η}
    {stage : Client.Session (Actor φ η)} (hl : Landing trace state) (hs : Sound state)
    (hsole : Sole trace state) (hd : Client.Describes stage state.core)
    (hp : Passed (trace.filterMap coreView) state.core)
    (hm : Client.Move actor state.core core seen) :
    AlwaysFrom Lands (trace.filterMap coreView) seen := by
  refine alwaysFrom_of_split fun front event back he => ?_
  have hmem : event ∈ seen := by simp [he]
  have hfront : ∀ other ∈ front, other ∈ seen := fun other hother => by simp [he, hother]
  cases event with
  | StopCleared other =>
      obtain ⟨⟨started, hframe⟩, hsingle⟩ := hm.cleared hmem
      intro swapper previous hswap
      rcases List.mem_append.mp hswap with hbefore | hnow
      · exact hl.unswapped hs hsole hframe swapper previous hbefore
      · simpa [hsingle] using hfront _ hnow
  | StopSwapped other previous =>
      obtain ⟨rfl, hframe⟩ := hm.swapped hmem
      have hswap : state.core.frame other = .StopSwap := by
        refine hframe.resolve_right fun hdrop => hs.not_last other ?_
        rw [hdrop]
        rfl
      have hstopping : Tokio.stopping (state.core.frame other) = true := by rw [hswap]; rfl
      obtain ⟨hcleared, _⟩ := hl.stopping hs hd hp hstopping
      obtain ⟨session, hsession, _⟩ := hs.stopper hstopping
      refine ⟨List.mem_append_left _ (mem_core.mpr hcleared), ?_⟩
      intro earlier value hearlier
      rcases List.mem_append.mp hearlier with hbefore | hnow
      · obtain ⟨rest, hrest, _⟩ := hl.swapped earlier value (mem_core.mp hbefore)
        exact hsole.single _ _ (by simp [hrest]) (by simp [hsession])
      · rw [(hm.swapped (hfront _ hnow)).1]
  | NativeStop other accepted =>
      obtain ⟨rfl, rfl, hframe⟩ := hm.stopped hmem
      have hnative : state.core.frame other = .StopNative := by
        refine hframe.resolve_right fun hdrop => hs.not_last other ?_
        rw [hdrop]
        rfl
      obtain ⟨_, haccepts | hexited⟩ := hl.stopping hs hd hp (by rw [hnative]; rfl)
      · exact .inl haccepts
      · exact .inr (List.mem_append_left _ (mem_core.mpr hexited))
  | _ => trivial

theorem Landing.move {trace seen : List (Event φ η)} {state after : State φ η}
    {stage : Client.Session (Actor φ η)} (hl : Landing trace state) (hs : Sound state)
    (hafter : Sound after) (hsole : Sole trace state) (hsole' : Sole (trace ++ seen) after)
    (hd : Client.Describes stage state.core) (hp : Passed (trace.filterMap coreView) state.core)
    (hm : Move capabilities capacity state after seen)
    (hfresh : ∀ future, .Exchanged future ∈ seen → state.core.lifecycle = .Ready) :
    Landing (trace ++ seen) after := by
  obtain ⟨hclaims, hflagged, hlands⟩ :
      AlwaysFrom Claims (trace.filterMap coreView) (seen.filterMap coreView) ∧
      Flagged (trace.filterMap coreView ++ seen.filterMap coreView) after.core ∧
      AlwaysFrom Lands (trace.filterMap coreView) (seen.filterMap coreView) := by
    rcases hm.core with ⟨hcore, hquiet⟩ | ⟨label, hstep⟩
    · rw [hquiet, hcore, List.append_nil]
      exact ⟨trivial, hl.flagged, trivial⟩
    · have hmove := Client.step_move hstep
      obtain ⟨hclaims, hflagged⟩ :=
        hl.flagged.move hmove fun started hframe => hl.unswapped hs hsole hframe
      exact ⟨hclaims, hflagged, hl.lands_step hs hsole hd hp hmove⟩
  refine ⟨?_, ?_, ?_, ?_, ?_, ?_⟩
  · exact fun future next hnext hwaits => hl.waits hs hafter hsole' hd hm hfresh hnext hwaits
  · intro future next outcome hnext hdone
    obtain ⟨hcleared, hexited⟩ := hl.finished hs hp hm hnext hdone
    exact ⟨List.mem_append_left _ hcleared, List.mem_append_left _ hexited⟩
  · intro actor previous hmem
    obtain ⟨session, hsession, hsent⟩ : ∃ session, state.session actor.future = some session ∧
        session.started = .Sent := by
      rcases List.mem_append.mp hmem with hbefore | hnow
      · exact hl.swapped actor previous hbefore
      · have hcore := mem_core.mpr hnow
        rcases hm.core with ⟨_, hquiet⟩ | ⟨label, hstep⟩
        · simp [hquiet] at hcore
        · obtain ⟨hself, hframe⟩ := (Client.step_move hstep).swapped hcore
          rw [← hself] at hframe
          refine hs.stopper ?_
          rcases hframe with hframe | hframe
          · rw [hframe]
            rfl
          · exact absurd (by rw [hframe]; rfl) (hs.not_last actor)
    obtain ⟨next, hnext, hleads⟩ := hm.session hs.sessions hsession
    exact ⟨next, hnext, hleads.started hsent⟩
  · rw [List.filterMap_append]
    exact hflagged
  · rw [List.filterMap_append]
    exact hl.claims.append hclaims
  · rw [List.filterMap_append]
    exact hl.lands.append hlands

variable {trace : List (Event φ η)} {last : State φ η}

theorem run_landing (hrun : Run (machine capabilities capacity) Fresh State.new trace last) :
    Landing trace last := by
  induction hrun with
  | Start => exact landing_new
  | @Step trace seen before after label hrun hfresh hs ih =>
      obtain ⟨hsound, _, stage, hd⟩ := run_known hrun
      have hm := step_move hs
      refine ih.move hsound (run_sound (hrun.Step hfresh hs)) (run_sole hrun) (run_sole (hrun.Step hfresh hs))
        hd (Client.run_passed (run_core hrun)) hm fun future hmem => ?_
      rcases step_label hs hmem rfl with ⟨other, rfl, he⟩ | ⟨other, _, he⟩
      · cases he
        obtain ⟨hexchange, hidle⟩ := hm.exchanging hmem
        exact hfresh hexchange hidle
      · cases he

-- The stop call that a label asks for: cancel(), the drop of an unfinished
-- Session, the cancelled token and a Stop command that the driver runs.
def State.requests (state : State φ η) : Label φ η → Option (Actor φ η)
  | .Cancel future thread => some (.Holder future thread)
  | .DropSession future thread =>
      if (state.session future).any (fun session => decide (session.object = .Live)) then
        some (.Holder future thread)
      else none
  | .Drive future branch =>
      if (state.session future).any (fun session => decide
          (session.driver = .Select ∧ branch = .Cancelled ∨ session.driver = .RunCommand .Stop)) then
        some (.Driver future)
      else none
  | _ => none

-- What is promised of the stops of a session.
structure StopsLand (capabilities : Capabilities) (capacity : Nat) (trace : List (Event φ η))
    (state : State φ η) : Prop where
  born : ∀ future session, state.session future = some session → session.object.born = true →
    state.core.accepting = true ∨ .Core (.CoreExit (.Worker future)) ∈ trace
  requests : ∀ label actor after seen, state.requests label = some actor →
    step capabilities capacity state label = some (after, seen) → .Core (.Called actor .Stop) ∈ seen
  moves : ∀ actor, stopping (state.core.frame actor) = true →
    ∃ after seen, step capabilities capacity state (.Core actor) = some (after, seen)
  called : ∀ actor, .Core (.Called actor .Stop) ∈ trace → state.core.frame actor = .StopSwap ∨
    ∃ other, .Core (.StopSwapped other false) ∈ trace
  delivered : ∀ actor, .Core (.StopSwapped actor false) ∈ trace →
    state.core.frame actor = .StopNative ∨ ∃ accepted, .Core (.NativeStop actor accepted) ∈ trace
  claims : Always Claims (trace.filterMap coreView)
  lands : Always Lands (trace.filterMap coreView)

theorem cancel_call {state after : State φ η} {future : φ} {session : Session η} {thread : η}
    {seen : List (Event φ η)}
    (hs : cancel capabilities state future session thread = some (after, seen)) :
    .Core (.Called (.Holder future thread) .Stop) ∈ seen := by
  unfold cancel at hs
  split at hs
  · cases hs
  · rename_i hcall
    cases hs
    obtain ⟨_, _, rfl⟩ := call_stop hcall
    simp

theorem requests_call {state after : State φ η} {label : Label φ η} {actor : Actor φ η}
    {seen : List (Event φ η)} (hrequests : state.requests label = some actor)
    (hs : step capabilities capacity state label = some (after, seen)) :
    .Core (.Called actor .Stop) ∈ seen := by
  cases label with
  | Cancel future thread =>
      obtain rfl := Option.some.inj hrequests
      simp only [step] at hs
      split at hs
      · split at hs
        · exact cancel_call hs
        · cases hs
      · cases hs
  | DropSession future thread =>
      simp only [State.requests] at hrequests
      split at hrequests
      · rename_i hlive
        obtain rfl := Option.some.inj hrequests
        simp only [step] at hs
        split at hs
        · rename_i session hsession
          have hobject : session.object = .Live := by simpa [hsession] using hlive
          rw [hobject] at hs
          exact cancel_call hs
        · cases hs
      · cases hrequests
  | Drive future branch =>
      simp only [State.requests] at hrequests
      split at hrequests
      · rename_i hasks
        obtain rfl := Option.some.inj hrequests
        simp only [step] at hs
        split at hs
        · rename_i session hsession
          have hcause : session.driver = .Select ∧ branch = .Cancelled ∨
              session.driver = .RunCommand .Stop := by simpa [hsession] using hasks
          rcases hcause with ⟨hdriver, rfl⟩ | hdriver <;> simp only [drive, hdriver] at hs
          · split at hs
            · obtain ⟨_, _, rfl⟩ := call_stop hs
              simp
            · cases hs
          · split at hs
            · cases hs
            · rename_i hcall
              cases hs
              obtain ⟨_, _, rfl⟩ := call_stop hcall
              simp
        · cases hs
      · cases hrequests
  | _ => cases hrequests

-- A stop call never waits.
theorem stopping_moves {state : State φ η} {actor : Actor φ η}
    (hstopping : stopping (state.core.frame actor) = true) :
    ∃ after seen, step capabilities capacity state (.Core actor) = some (after, seen) := by
  cases hf : state.core.frame actor <;> simp [hf, stopping] at hstopping
  all_goals simp [step, call, Client.step, Client.stepFrame, hf]

-- Every stop of a session lands, over every run whose exchanges find the client fresh.
theorem session_stops_land (hrun : Run (machine capabilities capacity) Fresh State.new trace last) :
    StopsLand capabilities capacity trace last := by
  have hlanding := run_landing hrun
  obtain ⟨hsound, _, stage, hd⟩ := run_known hrun
  have hpassed := Client.run_passed (run_core hrun)
  refine ⟨?_, fun _ _ _ _ => requests_call, fun _ => stopping_moves, ?_, ?_, hlanding.claims, hlanding.lands⟩
  · intro future session hsession hborn
    have hsent := (hsound.sessions.ok future session hsession).born hborn
    obtain ⟨_, hruns | hexited⟩ := hlanding.started hsound.sessions hpassed hsession hsent
    · left
      have hstage := Client.Stage.of_runs ((hd.role (.Worker future)).symm.trans (by rw [hruns]; rfl))
      simp [Client.State.accepting, hd.core, hstage, Client.Stage.core]
    · exact .inr hexited
  · intro actor hmem
    rcases hlanding.flagged.called actor (mem_core.mpr hmem) with hframe | ⟨other, hother⟩
    · exact .inl hframe
    · exact .inr ⟨other, mem_core.mp hother⟩
  · intro actor hmem
    rcases hlanding.flagged.delivered actor (mem_core.mpr hmem) with hframe | ⟨accepted, hnative⟩
    · left
      have hnot := hsound.not_last actor
      cases hf : last.core.frame actor <;> simp [hf, Client.Frame.delivers, Client.Frame.hold] at hframe hnot ⊢
    · exact .inr ⟨accepted, mem_core.mp hnative⟩

end Landing

-- The second session of an overtaken client is stopped, and the flag that the
-- first one left swallows it.
theorem session_stop_swallowed : ∃ trace last,
    Reaches (machine Client.capable 4) (State.new : State (Fin 3) (Fin 1)) trace last ∧
      .Connected 2 ∈ trace ∧ .Cancelled 2 ∈ trace ∧
      [.Core (.StopSwapped (.Holder 2 0) true), .Core (.Returned (.Holder 2 0) .Stop .Ok)] <:+ trace ∧
      .Core (.StopCleared (.Worker 2)) ∉ trace ∧
      ∀ accepted, .Core (.NativeStop (.Holder 2 0) accepted) ∉ trace ∧
        .Core (.NativeStop (.Driver 2) accepted) ∉ trace :=
  exists_run (overtaken ++ [.Cancel 2 0, .Core (.Holder 2 0)]) (by decide)

-- A session is cancelled by a handle while the driver runs its Stop command.
def twiceStopped : List (Label (Fin 3) (Fin 1)) :=
  connectBegun ++ workerRuns 1 ++ [.Poll 1, .Send 1 .Stop, .Drive 1 .Command, .Cancel 1 0,
    .Drive 1 .Command, .Core (.Driver 1), .Core (.Holder 1 0), .Core (.Driver 1)]

theorem session_stops_land_twice : ∃ trace last,
    Run (machine Client.capable 4) Fresh (State.new : State (Fin 3) (Fin 1)) trace last ∧
      .Core (.NativeStop (.Driver 1) true) ∈ trace ∧ StopsLand Client.capable 4 trace last := by
  obtain ⟨trace, last, hrun, hmem⟩ : ∃ trace last,
      Run (machine Client.capable 4) Fresh (State.new : State (Fin 3) (Fin 1)) trace last ∧
        .Core (.NativeStop (.Driver 1) true) ∈ trace := exists_run twiceStopped (by decide)
  exact ⟨trace, last, hrun, hmem, session_stops_land hrun⟩

end OpenvpnConnect.Tokio
