import OpenvpnConnect.Client.Flag
import OpenvpnConnect.Tokio.Sole

namespace OpenvpnConnect.Tokio

open Transition
open OpenvpnConnect.Client (Outcome Lifecycle)

section Callers

variable {φ η : Type}

-- Only a worker has a frame that neither a job nor a stop call can have.
theorem Sound.worker {state : State φ η} (hs : Sound state) {actor : Actor φ η}
    (hjob : jobFrame (state.core.frame actor) = false)
    (hstopping : stopping (state.core.frame actor) = false) : ∃ future, actor = .Worker future := by
  have hbusy : state.core.frame actor ≠ .Idle := by
    intro hidle
    simp [hidle, jobFrame] at hjob
  cases actor with
  | Job future =>
      rw [hs.setup.frames future] at hjob
      cases hjob
  | Worker future => exact ⟨future, rfl⟩
  | Driver future =>
      cases hsession : state.session future with
      | none => exact absurd (hs.sessions.idle (.Driver future) hsession (by simp)) hbusy
      | some session =>
          have hstops := ((hs.sessions.ok future session hsession).driver.resolve_left hbusy).1
          simp [hstopping] at hstops
  | Holder future thread =>
      cases hsession : state.session future with
      | none => exact absurd (hs.sessions.idle (.Holder future thread) hsession (by simp)) hbusy
      | some session =>
          have hstops := ((hs.sessions.ok future session hsession).holder thread |>.resolve_left hbusy).1
          simp [hstopping] at hstops

-- Whoever stops a session has seen it start.
theorem Sound.stopper {state : State φ η} (hs : Sound state) {actor : Actor φ η}
    (hstopping : stopping (state.core.frame actor) = true) :
    ∃ session, state.session actor.future = some session ∧ session.started = .Sent := by
  have hbusy : state.core.frame actor ≠ .Idle := by
    intro hidle
    simp [hidle, stopping] at hstopping
  cases actor with
  | Job future =>
      have hjob := hs.setup.frames future
      cases hf : state.core.frame (.Job future) <;> simp [hf, stopping, jobFrame] at hstopping hjob
  | Worker future =>
      obtain ⟨session, hsession, hrunning⟩ := hs.sessions.of_busy hbusy
      have hfits := (hs.sessions.ok future session hsession).running hrunning
      cases hf : state.core.frame (.Worker future) <;> simp [hf, stopping, Fits] at hstopping hfits
  | Driver future =>
      cases hsession : state.session future with
      | none => exact absurd (hs.sessions.idle (.Driver future) hsession (by simp)) hbusy
      | some session =>
          have hok := hs.sessions.ok future session hsession
          have hcalls := (hok.driver.resolve_left hbusy).2
          refine ⟨session, hsession, ?_⟩
          by_cases hjoined : session.driver.joined = true
          · obtain ⟨outcome, hdone⟩ := hok.joined hjoined
            exact (hok.done outcome hdone).2.1
          · apply hok.born
            apply hok.asked
            cases hd : session.driver <;>
              simp [hd, Driver.calls, Driver.joined, Driver.asked] at hcalls hjoined ⊢
  | Holder future thread =>
      cases hsession : state.session future with
      | none => exact absurd (hs.sessions.idle (.Holder future thread) hsession (by simp)) hbusy
      | some session =>
          have hok := hs.sessions.ok future session hsession
          exact ⟨session, hsession, hok.born ((hok.holder thread).resolve_left hbusy).2⟩

-- No actor drops the last clone.
theorem Sound.not_last {state : State φ η} (hs : Sound state) (actor : Actor φ η) :
    (state.core.frame actor).hold ≠ .Last := by
  intro hlast
  obtain ⟨future, rfl⟩ : ∃ future, actor = .Worker future := by
    apply hs.worker <;> cases hf : state.core.frame actor <;>
      simp [hf, Client.Frame.hold, jobFrame, stopping] at hlast ⊢
  have hbusy : state.core.frame (.Worker future) ≠ .Idle := by
    intro hidle
    simp [hidle, Client.Frame.hold] at hlast
  obtain ⟨session, hsession, hrunning⟩ := hs.sessions.of_busy hbusy
  have hfits := (hs.sessions.ok future session hsession).running hrunning
  cases hf : state.core.frame (.Worker future) <;> simp [hf, Client.Frame.hold, Fits] at hlast hfits

end Callers

section Workers

variable {φ η : Type} [DecidableEq φ] [DecidableEq η] {capabilities : Capabilities} {capacity : Nat}

omit [DecidableEq φ] [DecidableEq η] in
theorem Session.Move.worker {future : φ} {session next : Session η} {seen : List (Event φ η)}
    (hm : session.Move capacity future next seen) : next.worker = session.worker := by
  cases hm <;> rfl

omit [DecidableEq φ] [DecidableEq η] in
theorem Cause.worker {session next : Session η} {actor : Actor φ η} {front : List (Event φ η)}
    (hcause : Cause session actor next front) : next.worker = session.worker := by
  cases hcause <;> rfl

theorem Session.absorb_worker (future : φ) (session : Session η) (event : Client.Event (Actor φ η)) :
    (session.absorb future event).worker = session.worker ∨
      ∃ call outcome, event = .Returned (.Worker future) call outcome ∧
        (session.absorb future event).worker = .Done outcome := by
  unfold Session.absorb
  split
  · split <;> exact .inl rfl
  · split
    · rename_i other call outcome heq
      exact .inr ⟨call, outcome, by rw [heq], rfl⟩
    · exact .inl rfl
  · split
    · unfold Session.stopReturned
      split <;> exact .inl rfl
    · exact .inl rfl
  · split
    · unfold Session.holderReturned
      split <;> exact .inl rfl
    · exact .inl rfl
  · exact .inl rfl

theorem Session.foldl_absorb_worker (future : φ) (session : Session η)
    (seen : List (Client.Event (Actor φ η))) :
    (seen.foldl (Session.absorb future) session).worker = session.worker ∨
      (seen.foldl (Session.absorb future) session).worker ≠ .Queued ∧
        ∃ call outcome, .Returned (.Worker future) call outcome ∈ seen := by
  induction seen generalizing session with
  | nil => exact .inl rfl
  | cons event rest ih =>
      rw [List.foldl_cons]
      rcases ih (session.absorb future event) with hrest | ⟨hqueued, call, outcome, hmem⟩
      · rcases session.absorb_worker future event with hsame | ⟨call, outcome, rfl, hdone⟩
        · exact .inl (hrest.trans hsame)
        · exact .inr ⟨by simp [hrest, hdone], call, outcome, List.mem_cons_self ..⟩
      · exact .inr ⟨hqueued, call, outcome, List.mem_cons_of_mem _ hmem⟩

-- What becomes of a worker in a step.
theorem Move.worker {state after : State φ η} {future : φ} {next : Session η}
    {seen : List (Event φ η)} (hm : Move capabilities capacity state after seen)
    (hnext : after.session future = some next) :
    (∃ session, state.session future = some session ∧ (next.worker = session.worker ∨
      next.worker = .Running ∨ next.worker ≠ .Queued ∧
        ∃ call outcome, .Core (.Returned (.Worker future) call outcome) ∈ seen)) ∨
    .Exchanged future ∈ seen ∧ next.worker = .Queued := by
  cases hm with
  | @CoreMoved actor _ _ coreSeen _ _ _ _ =>
      rw [foldl_absorb_session, Option.map_eq_some_iff] at hnext
      obtain ⟨session, hsession, rfl⟩ := hnext
      refine .inl ⟨session, hsession, ?_⟩
      rcases session.foldl_absorb_worker future coreSeen with hsame | ⟨hqueued, call, outcome, hmem⟩
      · exact .inl hsame
      · exact .inr (.inr ⟨hqueued, call, outcome, by simpa using hmem⟩)
  | SessionMoved other hsession hmove =>
      have hsame := hmove.worker
      grind
  | StopCalled actor hsession hcause _ =>
      have hsame := hcause.worker
      grind
  | _ => grind [ready, spawnDriver]

-- A worker that waits for the lifecycle was there before, or starts now.
theorem Move.preparing {state after : State φ η} {future : φ} {seen : List (Event φ η)}
    (hm : Move capabilities capacity state after seen)
    (hframe : after.core.frame (.Worker future) = .PrepareLock true) :
    state.core.frame (.Worker future) = .PrepareLock true ∨
      ∃ session, state.session future = some session ∧ session.worker = .Queued := by
  cases hm with
  | WorkerRun other session hsession hqueued _ =>
      by_cases heq : future = other
      · exact .inr ⟨session, heq ▸ hsession, hqueued⟩
      · left
        rwa [State.calls, Client.State.enter, Client.State.frame_goto_ne _ _ (by simpa using heq)] at hframe
  | StopCalled actor _ _ _ =>
      left
      by_cases heq : .Worker future = actor
      · simp [State.calls, Client.State.enter, heq] at hframe
      · rwa [State.calls, Client.State.enter, Client.State.frame_goto_ne _ _ heq] at hframe
  | JobRun other mutation _ _ _ =>
      left
      rwa [State.calls, Client.State.enter, Client.State.frame_goto_ne _ _ (by simp)] at hframe
  | CoreMoved actor _ hmove hbusy _ =>
      left
      rw [foldl_absorb_core] at hframe
      by_cases heq : .Worker future = actor
      · subst heq
        cases hmove with
        | Unsupported _ hcall | Entered _ hcall | Cloned hcall | Dropped hcall _ | LastDropped hcall _ =>
            exact absurd hcall.1 hbusy
        | _ => simp [Client.State.leave] at hframe
      · rwa [hmove.frame_ne heq] at hframe
  | _ => exact .inl hframe

-- A call that comes back was on its way.
theorem Move.coreReturned {state after : State φ η} {actor : Actor φ η} {call : Client.Call}
    {outcome : Outcome} {seen : List (Event φ η)} (hm : Move capabilities capacity state after seen)
    (hmem : .Core (.Returned actor call outcome) ∈ seen) (hjob : ∀ future, actor ≠ .Job future) :
    ∃ coreSeen, Client.Move actor state.core after.core coreSeen ∧
      .Returned actor call outcome ∈ coreSeen ∧ state.core.frame actor ≠ .Idle := by
  cases hm with
  | @CoreMoved mover _ _ coreSeen _ hmove hbusy _ =>
      have hcore : .Returned actor call outcome ∈ coreSeen := by simpa using hmem
      obtain rfl := hmove.returned hcore
      rw [foldl_absorb_core]
      exact ⟨coreSeen, hmove, hcore, hbusy⟩
  | JobRefused other _ _ _ _ _ =>
      simp at hmem
      exact absurd hmem.1 (hjob other)
  | SessionMoved _ _ hmove => cases hmove <;> simp at hmem
  | JobRun _ _ _ _ _ => grind
  | StopCalled _ _ hcause _ => cases hcause <;> simp at hmem
  | _ => simp [ready] at hmem

-- A worker's call comes back from the end of a connect, or is refused.
theorem workerReturned {core next : Client.State (Actor φ η)} {future : φ}
    {started : Started} {seen : List (Client.Event (Actor φ η))} {call : Client.Call} {outcome : Outcome}
    (hm : Client.Move (.Worker future) core next seen)
    (hfits : Fits core.connectStarted future started (core.frame (.Worker future)))
    (hmem : .Returned (.Worker future) call outcome ∈ seen) :
    (core.frame (.Worker future)).exited = true ∨
      core.frame (.Worker future) = .PrepareLock true ∧ core.lifecycle ≠ .Ready := by
  cases hm with
  | Finished _ _ hat _ => exact .inl (by rw [hat]; rfl)
  | Refused message hwait hat _ _ hconnect =>
      cases hwait with
      | Connect tells =>
          obtain ⟨rfl, _⟩ : tells = true ∧ started = .Pending := by simpa [hat, Fits] using hfits
          exact .inr ⟨hat, hconnect (by simp [Client.connectCall])⟩
      | _ => simp [hat, Fits] at hfits
  | Entered hentry hcall => simp [hcall.1, Fits] at hfits
  | Unsupported _ hcall => simp [hcall.1, Fits] at hfits
  | _ => simp_all [Fits]

end Workers

end OpenvpnConnect.Tokio
