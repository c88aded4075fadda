import OpenvpnConnect.Commands.Ledger
import OpenvpnConnect.Tokio.Sessions

-- The driver of a session stands in two models: with its calls on the synchronous
-- client in that of the sessions, with the futures and the oneshots of its commands
-- in this one. Here the first is followed by the second.
namespace OpenvpnConnect.Commands

open Transition
open OpenvpnConnect.Tokio (Command Branch Session)

section Driver

variable {ι : Type}

-- Where the two models have the driver at the same time. A stop of Core that has
-- not returned is a command that executes, or the step that has been observed.
inductive Driver.Abreast : Tokio.Driver → Driver ι → Prop
  | Select : Driver.Abreast .Select .Select
  | RunCommand (entry : Entry) : Driver.Abreast (.RunCommand entry.command) (.RunCommand entry)
  | StopCommand (entry : Entry) : entry.command = .Stop → Driver.Abreast .StopCommand (.Executing entry)
  | CancelStop : Driver.Abreast .CancelStop .AwaitJoin
  | AwaitJoin : Driver.Abreast .AwaitJoin .AwaitJoin
  | GuardStop (result : Client.Outcome) : Driver.Abreast (.GuardStop result) .Guard
  | GuardClear (result : Client.Outcome) : Driver.Abreast (.GuardClear result) .Complete
  | Complete (result : Client.Outcome) : Driver.Abreast (.Complete result) .Complete
  | Exited : Driver.Abreast .Exited .Exited

-- The channel and the handles are the same, and no future is on its way.
structure Abreast {η : Type} (capacity : Nat) (session : Session η) (state : State ι) : Prop where
  driver : Driver.Abreast session.driver state.driver
  commands : session.receiving = true → state.commands.map Entry.command = session.commands ∧
    state.permits + state.commands.length = capacity ∧ state.commandsOpen = session.commandsOpen
  receiving : state.receiving = session.receiving
  exits : session.receiving = true ↔ session.driver ≠ .Exited
  handles : state.handles.length = session.senders
  cancelled : state.cancelled = session.cancelled
  joined : state.joined = true ↔ ∃ outcome, session.worker = .Done outcome
  resolved : ∀ id, (state.future id).phase.over = true

def executing {φ η : Type} [DecidableEq φ] (future : φ) : Tokio.Event φ η → Option Command
  | .Executing other command => if other = future then some command else none
  | _ => none

-- The state runs on to one that is abreast, and begins these commands on the way.
def Follows {η : Type} (capacity : Nat) (session : Session η) (state : State ι) (commands : List Command) : Prop :=
  ∃ run after, Reaches machine state run after ∧ Abreast capacity session after ∧
    (began run).map Entry.command = commands

variable {η : Type} {capacity : Nat} {session next : Session η} {state middle : State ι}

theorem abreast_new : Abreast capacity (Tokio.spawnDriver : Session η) (State.new capacity : State ι) :=
  ⟨.Select, fun _ => ⟨rfl, rfl, rfl⟩, rfl, by simp [Tokio.spawnDriver], rfl, rfl,
    by simp [Tokio.spawnDriver, State.new], fun _ => rfl⟩

theorem Follows.stay (habreast : Abreast capacity session state) : Follows capacity session state [] :=
  ⟨[], state, .Start, habreast, rfl⟩

theorem Follows.after {commands rest : List Command} {front : List (Event ι)}
    (hfront : Reaches machine state front middle) (hcommands : (began front).map Entry.command = commands)
    (hfollows : Follows capacity session middle rest) :
    Follows capacity session state (commands ++ rest) := by
  obtain ⟨run, after, hrun, habreast, hbegan⟩ := hfollows
  refine ⟨front ++ run, after, hfront.trans hrun, habreast, ?_⟩
  rw [began_append, List.map_append, hcommands, hbegan]

theorem reaches_step {label : Label ι} {seen : List (Event ι)} (hstep : step state label = some (middle, seen)) :
    Reaches machine state seen middle := Reaches.one hstep

-- One step that begins no command, and then the rest.
theorem Follows.step {label : Label ι} {seen : List (Event ι)} {commands : List Command}
    (hstep : step state label = some (middle, seen)) (hquiet : began seen = [])
    (hfollows : Follows capacity session middle commands) : Follows capacity session state commands :=
  Follows.after (reaches_step hstep) (congrArg (List.map Entry.command) hquiet) hfollows

theorem not_borrowed (habreast : Abreast capacity session state) (handle : Nat) : ¬state.borrowed handle := by
  rintro ⟨id, _, _, hover⟩
  rw [habreast.resolved id] at hover
  cases hover

theorem Follows.bind {commands rest : List Command} (hfollows : Follows capacity session state commands)
    (hnext : ∀ after : State ι, Abreast capacity session after → Follows capacity next after rest) :
    Follows capacity next state (commands ++ rest) := by
  obtain ⟨run, after, hrun, habreast, hbegan⟩ := hfollows
  exact (hnext after habreast).after hrun hbegan

-- Every command has a reply of its type.
theorem exists_answer [Inhabited ι] (command : Command) : ∃ reply : Reply ι, reply.answers command = true := by
  cases command with
  | Stop | Pause _ | Resume | Reconnect _ | PostControl _ | SendAppControl _ _ => exact ⟨.Unit, rfl⟩
  | StartCertCheck _ _ _ | StartEpkiCertCheck _ _ => exact ⟨.Status (.error .SessionClosed), rfl⟩
  | ConnectionInfo | SessionToken | Statistics | InterfaceStats | TransportStats => exact ⟨.Value default, rfl⟩

-- A handle goes, if there is one.
theorem Abreast.release (habreast : Abreast capacity session state)
    (hnext : ∀ after : State ι, Abreast capacity { session with senders := session.senders - 1 } after →
      Abreast capacity next after) : Follows capacity next state [] := by
  cases hhandles : state.handles with
  | nil =>
      apply Follows.stay
      apply hnext
      refine { habreast with handles := ?_ }
      have hlength := habreast.handles
      rw [hhandles] at hlength ⊢
      show 0 = session.senders - 1
      rw [← hlength]
      rfl
  | cons handle rest =>
      have hmem : handle ∈ state.handles := by
        rw [hhandles]
        exact List.mem_cons_self
      have hstep : step state (.DropHandle handle) =
          some ({ state with handles := state.handles.erase handle }, []) :=
        if_pos ⟨hmem, not_borrowed habreast handle⟩
      apply Follows.step hstep rfl
      apply Follows.stay
      apply hnext
      refine { habreast with handles := ?_ }
      rw [List.length_erase_of_mem hmem, habreast.handles]

theorem Abreast.join (habreast : Abreast capacity session state) (outcome : Client.Outcome)
    (started : Tokio.Started) :
    Follows capacity { session with worker := .Done outcome, started := started } state [] := by
  have hstep : step state .Join = some ({ state with joined := true }, []) := rfl
  apply Follows.step hstep rfl
  apply Follows.stay
  exact { habreast with joined := by simp }

theorem Abreast.cancel (habreast : Abreast capacity session state) (object : Tokio.Object η) :
    Follows capacity { session with object := object, cancelled := true } state [] := by
  have hstep : step state .Cancel = some ({ state with cancelled := true }, []) := rfl
  apply Follows.step hstep rfl
  apply Follows.stay
  exact { habreast with cancelled := rfl }

-- The receiver is gone; what the channel still holds is dropped.
theorem drains (hdriver : state.driver = .Draining) : ∃ run after, Reaches machine state run after ∧
    after = { state with slot := after.slot, commands := [], driver := .Exited } ∧ began run = [] := by
  generalize hcommands : state.commands = commands
  induction commands generalizing state with
  | nil =>
      have hstep : step state (.Drive .Command) = some ({ state with driver := .Exited }, []) := by
        simp only [step, drive, hdriver, hcommands]
      refine ⟨[], _, reaches_step hstep, ?_, rfl⟩
      rw [← hcommands]
  | cons entry rest ih =>
      have hstep : step state (.Drive .Command) =
          some ({ state.setSlot entry.id .Closed with commands := rest }, [.Discarded entry]) := by
        simp only [step, drive, hdriver, hcommands]
      obtain ⟨run, after, hrun, hafter, hquiet⟩ :=
        @ih { state.setSlot entry.id .Closed with commands := rest } hdriver rfl
      refine ⟨_, after, (reaches_step hstep).trans hrun, hafter, ?_⟩
      rw [began_append, hquiet]
      rfl

-- A command that executes is answered.
theorem follows_reply [Inhabited ι] {entry : Entry} (hdriver : state.driver = .Executing entry)
    (hnext : ∀ slot, Abreast capacity next { state with slot := slot, driver := .Select }) :
    Follows capacity next state [] := by
  obtain ⟨reply, hreply⟩ := @exists_answer ι _ entry.command
  have hfinish : step state (.Finish reply) =
      some ({ state with driver := .Replying entry reply }, [.Ended entry reply]) := by
    simp only [step, hdriver, hreply, if_true]
  have hsend : step { state with driver := .Replying entry reply } (.Drive .Command) =
      some ({ state.setSlot entry.id (.Sent reply) with driver := .Select }, []) := rfl
  apply Follows.step hfinish rfl
  apply Follows.step hsend rfl
  exact Follows.stay (hnext _)

theorem future_goto (state : State ι) (id : Nat) (phase : Phase ι) :
    (state.goto id phase).future id = { state.future id with phase := phase } := if_pos rfl

theorem goto_goto (state : State ι) (id : Nat) (first last : Phase ι) :
    (state.goto id first).goto id last = state.goto id last := by
  have hfuture : ((state.goto id first).goto id last).future = (state.goto id last).future := by
    funext other
    by_cases he : other = id
    · rw [he, future_goto, future_goto, future_goto]
    · simp only [State.goto, State.setFuture, if_neg he]
  show ({ state with future := ((state.goto id first).goto id last).future } : State ι) = _
  rw [hfuture]
  rfl

-- A future that has its permit sends its command, and is dropped before the reply.
theorem follows_reserved {id : Nat} {command : Command} {handle : Nat}
    (hfuture : state.future id = ⟨handle, command, .Reserved⟩)
    (hnext : Abreast capacity next
      ({ state with commands := state.commands ++ [Entry.mk id command] }.goto id .Dropped)) :
    Follows capacity next state [] := by
  obtain ⟨sent, hsent⟩ : ∃ sent, sent = { state with commands := state.commands ++ [Entry.mk id command] } :=
    ⟨_, rfl⟩
  have hsend : step state (.Poll id) = some (sent.goto id .Waiting, [.Enqueued ⟨id, command⟩]) := by
    simp only [step, poll, hfuture, hsent]
  have hdrop : step (sent.goto id .Waiting) (.DropFuture id) = some (sent.goto id .Dropped, [.Abandoned id]) := by
    simp only [step, dropFuture, future_goto, goto_goto]
  rw [← hsent] at hnext
  apply Follows.step hsend rfl
  apply Follows.step hdrop rfl
  exact Follows.stay hnext

-- A new future gets a permit and sends.
theorem follows_send {handle : Nat} (command : Command) (hhandle : handle ∈ state.handles)
    (hreceiving : state.receiving = true) (hpermits : 0 < state.permits)
    (hnext : ∀ future : Nat → Future ι,
      (∀ id, (state.future id).phase.over = true → (future id).phase.over = true) →
      Abreast capacity next
        { state with
          calls := state.calls + 1
          future := future
          commands := state.commands ++ [⟨state.calls, command⟩]
          permits := state.permits - 1 }) : Follows capacity next state [] := by
  obtain ⟨called, hcalled⟩ : ∃ called, called = { state with calls := state.calls + 1 }.setFuture state.calls
      ⟨handle, command, .Reserving⟩ := ⟨_, rfl⟩
  have hcall : step state (.Call handle command) = some (called, [.Called state.calls command]) := by
    rw [hcalled]
    exact if_pos hhandle
  have hfuture : called.future state.calls = ⟨handle, command, .Reserving⟩ := by
    rw [hcalled]
    exact if_pos rfl
  have hreserve : step called (.Poll state.calls) =
      some ({ called with permits := called.permits - 1 }.goto state.calls .Reserved, []) := by
    have hopen : called.receiving = true := by
      rw [hcalled]
      exact hreceiving
    have hroom : 0 < called.permits := by
      rw [hcalled]
      exact hpermits
    simp only [step, poll, hfuture, hopen, hroom, if_true]
  apply Follows.step hcall rfl
  apply Follows.step hreserve rfl
  have hreserved : ({ called with permits := called.permits - 1 }.goto state.calls .Reserved).future state.calls =
      ⟨handle, command, .Reserved⟩ := by
    rw [future_goto]
    show { called.future state.calls with phase := .Reserved } = _
    rw [hfuture]
  apply follows_reserved hreserved
  rw [hcalled]
  apply hnext
  intro id hover
  by_cases hid : id = state.calls
  · rw [if_pos hid]
    rfl
  · simp only [State.goto, State.setFuture, if_neg hid]
    exact hover

theorem Abreast.receives (habreast : Abreast capacity session state) {driver : Tokio.Driver}
    (hdriver : session.driver = driver) (hne : driver ≠ .Exited) : session.receiving = true := by
  rw [habreast.exits, hdriver]
  exact hne

-- The driver goes on from one place to another, and has not exited at either.
theorem Abreast.exits_of (habreast : Abreast capacity session state) {driver after : Tokio.Driver}
    (hdriver : session.driver = driver) (hne : driver ≠ .Exited) (hafter : after ≠ .Exited) :
    session.receiving = true ↔ after ≠ .Exited :=
  iff_of_true (habreast.receives hdriver hne) hafter

-- Where the driver of the state is while that of the session is there.
theorem Abreast.driver_of (habreast : Abreast capacity session state) {driver : Tokio.Driver}
    (hdriver : session.driver = driver) : ∃ other, state.driver = other ∧ Driver.Abreast driver other := by
  rw [← hdriver]
  exact ⟨state.driver, rfl, habreast.driver⟩

theorem Abreast.select (habreast : Abreast capacity session state) (hselect : session.driver = .Select) :
    state.driver = .Select := by
  obtain ⟨driver, hstate, hdriver⟩ := habreast.driver_of hselect
  cases hdriver with
  | Select => exact hstate

theorem Abreast.runCommand (habreast : Abreast capacity session state) {command : Command}
    (hrun : session.driver = .RunCommand command) :
    ∃ entry, entry.command = command ∧ state.driver = .RunCommand entry := by
  obtain ⟨driver, hstate, hdriver⟩ := habreast.driver_of hrun
  cases hdriver with
  | RunCommand entry => exact ⟨entry, rfl, hstate⟩

section Events

variable {φ : Type} [DecidableEq φ] [DecidableEq η] [Inhabited ι]

omit [DecidableEq η] in
theorem Abreast.stopReturned (habreast : Abreast capacity session state) :
    Follows capacity session.stopReturned state [] := by
  unfold Session.stopReturned
  split
  · rename_i hstop
    obtain ⟨driver, hstate, hdriver⟩ := habreast.driver_of hstop
    cases hdriver with
    | StopCommand entry _ =>
        apply follows_reply hstate
        intro slot
        exact { habreast with driver := .Select, exits := habreast.exits_of hstop (by simp) (by simp) }
  · rename_i hstop
    obtain ⟨driver, hstate, hdriver⟩ := habreast.driver_of hstop
    cases hdriver with
    | CancelStop =>
        apply Follows.stay
        refine { habreast with driver := ?_, exits := habreast.exits_of hstop (by simp) (by simp) }
        rw [hstate]
        exact .AwaitJoin
  · rename_i result hstop
    obtain ⟨driver, hstate, hdriver⟩ := habreast.driver_of hstop
    cases hdriver with
    | GuardStop _ =>
        have hstep : step state (.Drive .Command) = some ({ state with driver := .Complete }, [.Stopped]) := by
          simp only [step, drive, hstate]
        apply Follows.step hstep rfl
        apply Follows.stay
        refine { habreast with driver := .GuardClear result, exits := ?_ }
        exact habreast.exits_of hstop (by simp) (by simp)
  · exact Follows.stay habreast

theorem Abreast.absorb (habreast : Abreast capacity session state) (future : φ)
    (event : Client.Event (Tokio.Actor φ η)) : Follows capacity (session.absorb future event) state [] := by
  unfold Session.absorb
  split
  · split
    · exact Follows.stay { habreast with }
    · exact Follows.stay habreast
  · split
    · exact habreast.join _ _
    · exact Follows.stay habreast
  · split
    · exact habreast.stopReturned
    · exact Follows.stay habreast
  · split
    · unfold Session.holderReturned
      split
      · exact habreast.release fun _ hafter => { hafter with }
      · exact Follows.stay habreast
    · exact Follows.stay habreast
  · exact Follows.stay habreast

theorem Abreast.absorbAll (habreast : Abreast capacity session state) (future : φ)
    (seen : List (Client.Event (Tokio.Actor φ η))) :
    Follows capacity (seen.foldl (Session.absorb future) session) state [] := by
  induction seen generalizing session state with
  | nil => exact Follows.stay habreast
  | cons event rest ih => exact (habreast.absorb future event).bind fun _ hafter => ih hafter

-- What the session does by itself.
omit [DecidableEq η] in
theorem Abreast.move (habreast : Abreast capacity session state) {future : φ} {seen : List (Tokio.Event φ η)}
    (hmove : session.Move capacity future next seen) :
    Follows capacity next state (seen.filterMap (executing future)) := by
  cases hmove with
  | CommandTaken command rest hselect hcommands hopen =>
      have hreceiving := habreast.receives hselect (by simp)
      obtain ⟨hmap, hpermits, hsame⟩ := habreast.commands hreceiving
      rw [hcommands] at hmap
      obtain ⟨entry, entries, hentries, rfl, rfl⟩ := List.map_eq_cons_iff.mp hmap
      have hstep : step state (.Drive .Command) =
          some ({ state with
            commands := entries, permits := state.permits + 1, driver := .RunCommand entry }, []) := by
        simp only [step, drive, habreast.select hselect, hsame, hopen, if_true, receive, hentries]
      apply Follows.step hstep rfl
      apply Follows.stay
      refine { habreast with driver := .RunCommand entry, commands := fun _ => ⟨rfl, ?_, hsame⟩, exits := ?_ }
      · rw [hentries, List.length_cons] at hpermits
        show state.permits + 1 + entries.length = capacity
        omega
      · exact iff_of_true hreceiving (by simp)
  | CommandsClosed hselect hsenders hcommands hopen =>
      obtain ⟨hmap, hpermits, hsame⟩ := habreast.commands (habreast.receives hselect (by simp))
      have hempty : state.commands = [] := by
        rw [hcommands] at hmap
        exact List.map_eq_nil_iff.mp hmap
      have hhandles : state.handles = [] := by
        apply List.eq_nil_of_length_eq_zero
        rw [habreast.handles, hsenders]
      have hstep : step state (.Drive .Command) = some ({ state with commandsOpen := false }, []) := by
        simp only [step, drive, habreast.select hselect, hsame, hopen, if_true, receive, hempty, hhandles]
      apply Follows.step hstep rfl
      apply Follows.stay
      exact { habreast with commands := fun _ => ⟨hmap, hpermits, rfl⟩ }
  | CommandRun command hrun =>
      obtain ⟨entry, rfl, hdriver⟩ := habreast.runCommand hrun
      have hstep : step state .Begin =
          some ({ state with driver := .Executing entry }, [.Began entry (blocking entry.command)]) := by
        simp only [step, hdriver]
      have hexecuting : [(.Executing future entry.command : Tokio.Event φ η)].filterMap (executing future) =
          [entry.command] ++ [] := by simp [executing]
      rw [hexecuting]
      apply Follows.after (reaches_step hstep) rfl
      apply follows_reply rfl
      intro slot
      exact { habreast with driver := .Select, exits := habreast.exits_of hrun (by simp) (by simp) }
  | Completed result hcomplete =>
      obtain ⟨driver, hstate, hdriver⟩ := habreast.driver_of hcomplete
      cases hdriver with
      | Complete _ =>
          have hcompleted : step state (.Drive .Command) = some ({ state with driver := .Closing }, []) := by
            simp only [step, drive, hstate]
          have hclosed : step { state with driver := .Closing } (.Drive .Command) =
              some ({ state with receiving := false, driver := .Draining }, []) := rfl
          apply Follows.step hcompleted rfl
          apply Follows.step hclosed rfl
          obtain ⟨run, after, hrun, hafter, hquiet⟩ :=
            @drains ι { state with receiving := false, driver := .Draining } rfl
          refine ⟨run, after, hrun, ?_, congrArg (List.map Entry.command) hquiet⟩
          rw [hafter]
          refine { habreast with driver := .Exited, commands := by simp, receiving := rfl, exits := ?_ }
          exact iff_of_false (by simp) fun hne => hne rfl
  | Sent command hborn hsenders hreceiving hroom =>
      obtain ⟨hmap, hpermits, hsame⟩ := habreast.commands hreceiving
      have hlength : state.commands.length = session.commands.length := by rw [← hmap, List.length_map]
      have hhandles : 0 < state.handles.length := by
        rw [habreast.handles]
        exact hsenders
      obtain ⟨handle, hhandle⟩ := List.exists_mem_of_length_pos hhandles
      apply follows_send command hhandle (habreast.receiving.trans hreceiving) (by omega)
      intro futures hover
      have hresolved := fun id => hover id (habreast.resolved id)
      refine { habreast with commands := fun _ => ⟨?_, ?_, hsame⟩, resolved := hresolved }
      · show (state.commands ++ [Entry.mk state.calls command]).map Entry.command = session.commands ++ [command]
        rw [List.map_append, hmap]
        rfl
      · show state.permits - 1 + (state.commands ++ [Entry.mk state.calls command]).length = capacity
        rw [List.length_append, List.length_singleton]
        omega
  | HandleCloned hborn hsenders =>
      have hhandles : 0 < state.handles.length := by
        rw [habreast.handles]
        exact hsenders
      obtain ⟨handle, hhandle⟩ := List.exists_mem_of_length_pos hhandles
      have hstep : step state (.Clone handle) =
          some ({ state with handles := state.clones :: state.handles, clones := state.clones + 1 }, []) :=
        if_pos hhandle
      apply Follows.step hstep rfl
      apply Follows.stay
      exact { habreast with handles := by rw [List.length_cons, habreast.handles] }
  | HandleDropped _ => exact habreast.release fun _ hafter => hafter
  | TokenCancelled _ => exact habreast.cancel session.object
  | Resolved result _ _ => exact Follows.stay { habreast with }
  | Released _ => exact habreast.release fun _ hafter => { hafter with }

-- What an actor makes of the session before it calls core.stop().
omit [DecidableEq η] [Inhabited ι] in
theorem Abreast.cause (habreast : Abreast capacity session state) {actor : Tokio.Actor φ η}
    {front : List (Tokio.Event φ η)} (hcause : Tokio.Cause session actor next front) :
    Follows capacity next state (front.filterMap (executing actor.future)) := by
  cases hcause with
  | Joined future outcome hjoinable hworker =>
      have hjoined : state.joined = true := habreast.joined.mpr ⟨outcome, hworker⟩
      have hdriver := habreast.driver
      have hstep : step state (.Drive .Joined) = some ({ state with driver := .Guard }, []) := by
        generalize hsession : session.driver = driver at hjoinable hdriver
        generalize hstate : state.driver = other at hdriver
        cases hdriver with
        | Select | AwaitJoin => simp only [step, drive, hstate, hjoined, if_true]
        | RunCommand | StopCommand | CancelStop | GuardStop | GuardClear | Complete | Exited => cases hjoinable
      apply Follows.step hstep rfl
      apply Follows.stay
      refine { habreast with driver := .GuardStop outcome, exits := iff_of_true ?_ (by simp) }
      rw [habreast.exits]
      intro hexited
      rw [hexited] at hjoinable
      cases hjoinable
  | Token future hselect hcancelled =>
      have hstep : step state (.Drive .Cancelled) = some ({ state with driver := .AwaitJoin }, [.Stopped]) := by
        simp only [step, drive, habreast.select hselect, habreast.cancelled, hcancelled, if_true]
      apply Follows.step hstep rfl
      apply Follows.stay
      exact { habreast with driver := .CancelStop, exits := habreast.exits_of hselect (by simp) (by simp) }
  | Command future hrun =>
      obtain ⟨entry, hentry, hdriver⟩ := habreast.runCommand hrun
      have hstep : step state .Begin =
          some ({ state with driver := .Executing entry }, [.Began entry (blocking entry.command)]) := by
        simp only [step, hdriver]
      have hexecuting : [(.Executing future .Stop : Tokio.Event φ η)].filterMap (executing future) =
          [.Stop] ++ [] := by simp [executing]
      have hbegan : (began [(.Began entry (blocking entry.command) : Event ι)]).map Entry.command = [.Stop] :=
        congrArg (fun command => [command]) hentry
      show Follows capacity _ state ([(.Executing future .Stop : Tokio.Event φ η)].filterMap (executing future))
      rw [hexecuting]
      apply Follows.after (reaches_step hstep) hbegan
      apply Follows.stay
      refine { habreast with driver := .StopCommand entry hentry, exits := ?_ }
      exact habreast.exits_of hrun (by simp) (by simp)
  | Cancel future thread _ => exact habreast.cancel session.object
  | Drop future thread _ => exact habreast.cancel (.Dropping thread)

end Events

section Runs

variable {φ : Type} [DecidableEq φ] [DecidableEq η] [Inhabited ι] {capabilities : Capabilities} {future : φ}
  {tokio after : Tokio.State φ η} {trace seen : List (Tokio.Event φ η)}

-- A session that has been started is abreast with a run of its driver, which has
-- begun the same commands.
def Attended (ι : Type) (capacity : Nat) (future : φ) (trace : List (Tokio.Event φ η))
    (tokio : Tokio.State φ η) : Prop :=
  match tokio.session future with
  | none => trace.filterMap (executing future) = []
  | some session => Follows capacity session (State.new capacity : State ι) (trace.filterMap (executing future))

omit [DecidableEq η] [Inhabited ι] in
theorem Attended.same (hattended : Attended ι capacity future trace tokio)
    (hsession : after.session future = tokio.session future) (hseen : seen.filterMap (executing future) = []) :
    Attended ι capacity future (trace ++ seen) after := by
  unfold Attended at hattended ⊢
  rw [hsession, List.filterMap_append, hseen, List.append_nil]
  exact hattended

-- One session is changed, this one or another.
omit [DecidableEq η] [Inhabited ι] in
theorem Attended.turn (hattended : Attended ι capacity future trace tokio) {other : φ}
    (hsession : tokio.session other = some session)
    (hafter : ∀ each, after.session each = if each = other then some next else tokio.session each)
    (hfollows : other = future → ∀ state : State ι, Abreast capacity session state →
      Follows capacity next state (seen.filterMap (executing future)))
    (hothers : other ≠ future → seen.filterMap (executing future) = []) :
    Attended ι capacity future (trace ++ seen) after := by
  by_cases hfuture : other = future
  · have hnext : after.session future = some next := by rw [hafter, if_pos hfuture.symm]
    rw [hfuture] at hsession
    unfold Attended at hattended ⊢
    rw [hsession] at hattended
    rw [hnext, List.filterMap_append]
    exact hattended.bind (hfollows hfuture)
  · have hkept : after.session future = tokio.session future := by rw [hafter, if_neg (Ne.symm hfuture)]
    exact hattended.same hkept (hothers hfuture)

omit [DecidableEq η] [Inhabited ι] in
theorem move_others {other : φ} (hmove : session.Move capacity other next seen) (hne : other ≠ future) :
    seen.filterMap (executing future) = [] := by
  cases hmove <;> simp [executing, hne]

omit [DecidableEq η] [Inhabited ι] in
theorem cause_others {actor : Tokio.Actor φ η} (hcause : Tokio.Cause session actor next seen)
    (hne : actor.future ≠ future) : seen.filterMap (executing future) = [] := by
  cases hcause with
  | Command other _ =>
      have hother : other ≠ future := hne
      simp [executing, hother]
  | Joined | Token | Cancel | Drop => rfl

omit [DecidableEq η] [Inhabited ι] in
theorem core_quiet (seen : List (Client.Event (Tokio.Actor φ η))) :
    (seen.map Tokio.Event.Core).filterMap (executing future) = [] := by
  induction seen with
  | nil => rfl
  | cons event rest ih => exact ih

theorem Attended.move (hattended : Attended ι capacity future trace tokio) (hsessions : Tokio.Sessions tokio)
    (hmove : Tokio.Move capabilities capacity tokio after seen) :
    Attended ι capacity future (trace ++ seen) after := by
  cases hmove with
  | Begun | LockedConnect | Locked | NotIdle | JobSpawned | NotConnectable | Connectable | ExchangeLost | JobReady
  | Dropped | JobRefused => exact hattended.same rfl rfl
  | JobRun other mutation _ _ _ =>
      apply hattended.same rfl
      by_cases hprobe : mutation = .CallbackSelfTest
      · rw [if_pos hprobe]
        rfl
      · rw [if_neg hprobe]
        rfl
  | Exchanged other hfuture _ =>
      have hnone : tokio.session other = none := by
        cases hsession : tokio.session other with
        | none => rfl
        | some session =>
            have hspawns := hsessions.begun other session hsession
            simp [hfuture, Tokio.Future.spawns] at hspawns
      by_cases hother : other = future
      · rw [hother] at hnone
        unfold Attended at hattended ⊢
        rw [hnone] at hattended
        have hstarted : (({ tokio with sessionActive := true }.goto other .AwaitStarted).setSession other
            Tokio.spawnDriver).session future = some Tokio.spawnDriver := if_pos hother.symm
        rw [hstarted, List.filterMap_append, hattended]
        exact Follows.stay abreast_new
      · exact hattended.same (if_neg (Ne.symm hother)) rfl
  | Connected other session _ hsession _ =>
      exact hattended.turn hsession (fun _ => rfl)
        (fun _ _ habreast => Follows.stay { habreast with }) fun _ => rfl
  | NeverStarted other session outcome _ hsession _ =>
      exact hattended.turn hsession (fun _ => rfl)
        (fun _ _ habreast => habreast.release fun _ hafter => { hafter with }) fun _ => rfl
  | Abandoned other session _ hsession =>
      exact hattended.turn hsession (fun _ => rfl)
        (fun _ _ habreast => habreast.release fun _ hafter => { hafter with }) fun _ => rfl
  | SessionMoved other hsession hmove =>
      apply hattended.turn hsession (fun _ => rfl) _ (move_others hmove)
      rintro rfl state habreast
      exact habreast.move hmove
  | GuardCleared other session result hsession hdriver =>
      apply hattended.turn hsession (fun _ => rfl) _ fun _ => rfl
      intro _ state habreast
      obtain ⟨driver, hstate, hclear⟩ := habreast.driver_of hdriver
      cases hclear with
      | GuardClear _ =>
          apply Follows.stay
          refine { habreast with driver := ?_, exits := habreast.exits_of hdriver (by simp) (by simp) }
          rw [hstate]
          exact .Complete result
  | WorkerRun other session hsession hqueued _ =>
      apply hattended.turn hsession (fun _ => rfl) _ fun _ => rfl
      intro _ state habreast
      apply Follows.stay
      refine { habreast with joined := ?_ }
      rw [habreast.joined, hqueued]
      exact iff_of_false (by simp) (by simp)
  | StopCalled actor hsession hcause _ =>
      have hcalled : ∀ front : List (Tokio.Event φ η),
          (front ++ [Tokio.Event.Core (.Called actor .Stop)]).filterMap (executing future) =
            front.filterMap (executing future) := by
        intro front
        rw [List.filterMap_append]
        exact List.append_nil _
      apply hattended.turn hsession (fun _ => rfl)
      · rintro rfl state habreast
        rw [hcalled]
        exact habreast.cause hcause
      · intro hother
        rw [hcalled]
        exact cause_others hcause hother
  | @CoreMoved actor label core coreSeen _ _ _ _ =>
      have hsession := Tokio.foldl_absorb_session { tokio with core := core } future coreSeen
      cases hbefore : tokio.session future with
      | none =>
          apply hattended.same _ (core_quiet _)
          rw [hsession]
          show (tokio.session future).map _ = _
          rw [hbefore]
          rfl
      | some session =>
          have hnext : (coreSeen.foldl Tokio.absorb { tokio with core := core }).session future =
              some (coreSeen.foldl (Session.absorb future) session) := by
            rw [hsession]
            show (tokio.session future).map _ = _
            rw [hbefore]
            rfl
          unfold Attended at hattended ⊢
          rw [hbefore] at hattended
          rw [hnext, List.filterMap_append, core_quiet]
          exact hattended.bind fun _ habreast => habreast.absorbAll future coreSeen

-- Whatever the Tokio client does, the driver of each session does what the driver of
-- this model can do, with the same channel and the same commands begun in the same order.
theorem driver_refines (ι : Type) [Inhabited ι]
    {guard : List (Tokio.Event φ η) → Tokio.State φ η → Tokio.Label φ η → Prop} {last : Tokio.State φ η}
    (hrun : Run (Tokio.machine capabilities capacity) guard Tokio.State.new trace last)
    (future : φ) (hsession : last.session future = some session) :
    ∃ run state, Reaches machine (State.new capacity : State ι) run state ∧ Abreast capacity session state ∧
      (began run).map Entry.command = trace.filterMap (executing future) := by
  have hattended : Attended ι capacity future trace last := by
    refine hrun.invariant_with (fun _ state => Tokio.Sound state) (Attended ι capacity future)
      (fun _ _ => Tokio.run_sound) rfl ?_
    intro trace before label after seen hsound hbefore _ hstep
    exact hbefore.move hsound.sessions (Tokio.step_move hstep)
  unfold Attended at hattended
  rw [hsession] at hattended
  exact hattended

end Runs

end Driver

end OpenvpnConnect.Commands
