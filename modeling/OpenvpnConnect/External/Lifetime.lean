import OpenvpnConnect.External.Locks
import OpenvpnConnect.Transition.Trace

namespace OpenvpnConnect.External

open Transition

section Lifetime

variable {κ η ρ : Type} [DecidableEq κ]

-- The parent that a client has after an event.
def Event.parent (client : κ) (before : Option ρ) : Event κ η ρ → Option ρ
  | .Constructed other parent | .Reparented other parent =>
      if other = client then some parent else before
  | .Destroyed other => if other = client then none else before
  | _ => before

def current (client : κ) (trace : List (Event κ η ρ)) : Option ρ :=
  trace.foldl (Event.parent client) none

@[simp] theorem current_append (client : κ) (trace seen : List (Event κ η ρ)) :
    current client (trace ++ seen) = seen.foldl (Event.parent client) (current client trace) :=
  List.foldl_append

omit [DecidableEq κ] in
def Client.life (client : Client η ρ) : Bool × Bool × Bool × Option ρ :=
  (client.built, client.alive, client.io, client.parent)

-- What a frame of Core says of its client.
def Frame.lives (state : State κ η ρ) : Frame κ η ρ → Prop
  | .Waiting client (.Reparent _) | .Inside client (.Reparent _) => (state.client client).alive
  | .Waiting client .Detach | .Inside client .Detach =>
      (state.client client).built ∧ (state.client client).alive = false
  | .Waiting client (.Fetch ..) | .Inside client (.Fetch ..) => (state.client client).built
  | .Fetched client _ _ parent =>
      (state.client client).built ∧ parent = (state.client client).parent
  | _ => True

structure Lifetime (trace : List (Event κ η ρ)) (state : State κ η ρ) : Prop where
  current : ∀ client, (state.client client).parent = current client trace
  io : ∀ client, (state.client client).io = (state.client client).parent.isSome
  frames : EveryFrame (fun _ frame => frame.lives state) state
  queued : ∀ closure ∈ state.queue, (state.client closure.client).built
  unborn : ∀ client, (state.client client).built = false →
    (state.client client).alive = false ∧ (state.client client).parent = none
  gone : ∀ client, .Destroyed client ∈ trace → (state.client client).built ∧
    (state.client client).alive = false ∧ (state.client client).parent = none
  orphan : ∀ client, (state.client client).built → (state.client client).parent = none →
    .Destroyed client ∈ trace

theorem lifetime_new : Lifetime [] (.new : State κ η ρ) where
  current := fun _ => rfl
  io := fun _ => rfl
  frames := everyFrame_new _
  queued := fun _ hmem => by cases hmem
  unborn := fun _ _ => ⟨rfl, rfl⟩
  gone := fun _ hmem => by cases hmem
  orphan := fun _ hbuilt => by cases hbuilt

omit [DecidableEq κ] in
theorem Frame.lives_congr {state after : State κ η ρ} {frame : Frame κ η ρ}
    (hlife : ∀ client, (after.client client).life = (state.client client).life)
    (hl : frame.lives state) : frame.lives after := by
  have hfields : ∀ client, (after.client client).built = (state.client client).built ∧
      (after.client client).alive = (state.client client).alive ∧
      (after.client client).io = (state.client client).io ∧
      (after.client client).parent = (state.client client).parent := by
    intro client
    simpa [Client.life] using hlife client
  unfold Frame.lives at hl ⊢
  split <;> simp_all

-- The frames that say something of their client are not below another frame.
omit [DecidableEq κ] in
theorem Frame.lives_of_rests {state : State κ η ρ} {frame : Frame κ η ρ}
    (hr : frame.rests = true ∨ frame.ofIo = false) : frame.lives state := by
  unfold Frame.lives
  split <;> simp_all [Frame.rests, Frame.ofIo, Section.ofIo]

theorem State.life_setClient {state : State κ η ρ} {client : κ} {value : Client η ρ}
    (hvalue : value.life = (state.client client).life) (other : κ) :
    ((state.setClient client value).client other).life = (state.client other).life := by
  rw [State.client_setClient]
  split
  · rename_i he
    rw [he, hvalue]
  · rfl

variable [DecidableEq η] {kind : κ → Kind}

-- With nothing but resting frames on the I/O thread no frame says anything.
theorem Sound.lives {state : State κ η ρ} (hs : Sound state) {after : State κ η ρ}
    (hrests : ∀ frame ∈ state.stack .Io, frame.rests) :
    EveryFrame (fun _ frame => frame.lives after) state := by
  intro thread frame hmem
  apply Frame.lives_of_rests
  cases hio : frame.ofIo with
  | false => exact .inr rfl
  | true =>
      obtain rfl := hs.onIo thread frame hmem hio
      exact .inl (hrests frame hmem)

def Event.quiet : Event κ η ρ → Bool
  | .Constructed .. | .Reparented .. | .Destroyed _ => false
  | _ => true

omit [DecidableEq η] in
theorem current_of_quiet {client : κ} {trace seen : List (Event κ η ρ)}
    (hquiet : ∀ event ∈ seen, event.quiet) :
    current client (trace ++ seen) = current client trace := by
  rw [current_append]
  induction seen with
  | nil => rfl
  | cons event rest ih =>
      have hevent : ∀ before, Event.parent client before event = before := by
        intro before
        have hq := hquiet event List.mem_cons_self
        cases event <;> first | rfl | cases hq
      rw [List.foldl_cons, hevent]
      exact ih fun other hmem => hquiet other (List.mem_cons_of_mem event hmem)

theorem Move.life {state after : State κ η ρ} {label : Label κ η ρ} {seen : List (Event κ η ρ)}
    (hm : Move kind state label after seen) :
    ((∀ client, label ≠ .Destroy client) ∧
        (∀ client, (after.client client).life = (state.client client).life) ∧
        ∀ event ∈ seen, event.quiet) ∨
      (∃ client, label = .Destroy client) ∨ ¬∀ event ∈ seen, event.quiet := by
  cases hm with
  | DestroyBegun => exact .inr (.inl ⟨_, rfl⟩)
  | Constructed | Reparented | Detached => exact .inr (.inr (by simp [Event.quiet]))
  | CallbackBegun | Cloned | Dropped | Locked | Posted | Inactive | ParentFetched | QueryLeft
  | DispatchLeft => exact .inl ⟨by simp, State.life_setClient (by rfl), by simp [Event.quiet]⟩
  | _ => exact .inl ⟨by simp, fun _ => rfl, by simp [Event.quiet]⟩

-- The client of an accepted call is there.
omit [DecidableEq η] in
theorem Lifetime.active_built {state : State κ η ρ} {trace : List (Event κ η ρ)} {client : κ}
    (hl : Lifetime trace state) (hactive : (state.client client).active) :
    (state.client client).built := by
  cases hbuilt : (state.client client).built with
  | true => rfl
  | false => simp [Client.active, (hl.unborn client hbuilt).2] at hactive

omit [DecidableEq η] in
theorem Lifetime.alive_built {state : State κ η ρ} {trace : List (Event κ η ρ)} {client : κ}
    (hl : Lifetime trace state) (halive : (state.client client).alive) :
    (state.client client).built := by
  cases hbuilt : (state.client client).built with
  | true => rfl
  | false => simp [(hl.unborn client hbuilt).1] at halive

omit [DecidableEq η] in
theorem Lifetime.enters {state : State κ η ρ} {trace : List (Event κ η ρ)} {label : Label κ η ρ}
    {thread : Thread η} {frame : Frame κ η ρ} (hl : Lifetime trace state)
    (hnew : Enters kind state label thread frame) (hlabel : ∀ client, label ≠ .Destroy client) :
    frame.lives state := by
  cases hnew with
  | Reparent halive => exact halive
  | Detach => exact absurd rfl (hlabel _)
  | Execute hmem => exact hl.queued _ hmem
  | Lock hmem =>
      have hwait := hl.frames thread _ hmem
      rename_i client todo
      cases todo <;> exact hwait
  | Dispatch _ hactive _ hframe =>
      rcases hframe with rfl | rfl
      · exact hl.active_built hactive
      · trivial
  | Fetched hmem => exact ⟨hl.frames thread _ hmem, rfl⟩
  | _ => trivial

theorem Move.queued {state after : State κ η ρ} {label : Label κ η ρ} {seen : List (Event κ η ρ)}
    (hm : Move kind state label after seen) :
    ∀ closure ∈ after.queue, closure ∈ state.queue ∨ (state.client closure.client).active := by
  intro closure hmem
  cases hm with
  | Executed _ hqueue => exact .inl (hqueue ▸ List.mem_cons_of_mem _ hmem)
  | Posted _ hactive =>
      rcases List.mem_append.mp hmem with hold | hnew
      · exact .inl hold
      · obtain rfl := List.mem_singleton.mp hnew
        exact .inr hactive
  | _ => exact .inl hmem

theorem Lifetime.quiet {state after : State κ η ρ} {trace seen : List (Event κ η ρ)}
    {label : Label κ η ρ} (hl : Lifetime trace state) (hm : Move kind state label after seen)
    (hlabel : ∀ client, label ≠ .Destroy client)
    (hlife : ∀ client, (after.client client).life = (state.client client).life)
    (hquiet : ∀ event ∈ seen, event.quiet) : Lifetime (trace ++ seen) after := by
  have hbuilt : ∀ client, (after.client client).built = (state.client client).built :=
    fun client => congrArg Prod.fst (hlife client)
  have halive : ∀ client, (after.client client).alive = (state.client client).alive :=
    fun client => congrArg (fun life => life.2.1) (hlife client)
  have hio : ∀ client, (after.client client).io = (state.client client).io :=
    fun client => congrArg (fun life => life.2.2.1) (hlife client)
  have hparent : ∀ client, (after.client client).parent = (state.client client).parent :=
    fun client => congrArg (fun life => life.2.2.2) (hlife client)
  have hdestroyed : ∀ client, .Destroyed client ∈ trace ++ seen → .Destroyed client ∈ trace := by
    intro client hmem
    rcases List.mem_append.mp hmem with hold | hnew
    · exact hold
    · cases hquiet _ hnew
  refine ⟨?_, ?_, ?_, ?_, ?_, ?_, ?_⟩
  · intro client
    rw [hparent, hl.current, current_of_quiet hquiet]
  · intro client
    rw [hio, hparent, hl.io]
  · have hframes := hm.everyFrame hl.frames fun _ _ hnew => hl.enters hnew hlabel
    exact hframes.imp fun _ _ => Frame.lives_congr hlife
  · intro closure hmem
    rw [hbuilt]
    rcases hm.queued closure hmem with hold | hactive
    · exact hl.queued closure hold
    · exact hl.active_built hactive
  · intro client hb
    rw [halive, hparent]
    exact hl.unborn client (hbuilt client ▸ hb)
  · intro client hmem
    rw [hbuilt, halive, hparent]
    exact hl.gone client (hdestroyed client hmem)
  · intro client hb hp
    exact List.mem_append_left _ (hl.orphan client (hbuilt client ▸ hb) (hparent client ▸ hp))

-- One client changes, and its events say how.
omit [DecidableEq η] in
theorem Lifetime.change {state after : State κ η ρ} {trace : List (Event κ η ρ)} {client : κ}
    {value : Client η ρ} {seen : List (Event κ η ρ)} (hl : Lifetime trace state)
    (hclient : after.client = (state.setClient client value).client)
    (hqueue : after.queue = state.queue)
    (hframes : EveryFrame (fun _ frame => frame.lives after) after) (hbuilt : value.built = true)
    (hparent : value.parent = External.current client (trace ++ seen))
    (hio : value.io = value.parent.isSome)
    (hgone : .Destroyed client ∈ trace ++ seen → value.alive = false ∧ value.parent = none)
    (horphan : value.parent = none → .Destroyed client ∈ trace ++ seen)
    (hothers : ∀ other, other ≠ client →
      External.current other (trace ++ seen) = External.current other trace ∧ .Destroyed other ∉ seen) :
    Lifetime (trace ++ seen) after := by
  have hself : after.client client = value := by rw [hclient, State.client_setClient_self]
  have hother : ∀ other, other ≠ client → after.client other = state.client other := by
    intro other hne
    rw [hclient, State.client_setClient_ne _ _ hne]
  refine ⟨?_, ?_, hframes, ?_, ?_, ?_, ?_⟩
  · intro other
    by_cases he : other = client
    · rw [he, hself, hparent]
    · rw [hother other he, (hothers other he).1, hl.current]
  · intro other
    by_cases he : other = client
    · rw [he, hself, hio]
    · rw [hother other he, hl.io]
  · intro closure hmem
    rw [hqueue] at hmem
    by_cases he : closure.client = client
    · rw [he, hself, hbuilt]
    · rw [hother _ he]
      exact hl.queued closure hmem
  · intro other hb
    by_cases he : other = client
    · rw [he, hself, hbuilt] at hb
      cases hb
    · rw [hother other he] at hb ⊢
      exact hl.unborn other hb
  · intro other hmem
    by_cases he : other = client
    · subst he
      rw [hself]
      exact ⟨hbuilt, hgone hmem⟩
    · rw [hother other he]
      apply hl.gone other
      exact (List.mem_append.mp hmem).resolve_right (hothers other he).2
  · intro other hb hp
    by_cases he : other = client
    · subst he
      rw [hself] at hp
      exact horphan hp
    · rw [hother other he] at hb hp
      exact List.mem_append_left _ (hl.orphan other hb hp)

theorem Lifetime.step {state after : State κ η ρ} {label : Label κ η ρ}
    {trace seen : List (Event κ η ρ)} (hl : Lifetime trace state) (hs : Sound state)
    (hafter : Sound after) (hm : Move kind state label after seen) : Lifetime (trace ++ seen) after := by
  rcases hm.life with ⟨hlabel, hlife, hquiet⟩ | ⟨client, rfl⟩ | hloud
  · exact hl.quiet hm hlabel hlife hquiet
  · cases hm with
    | DestroyBegun hcore halive =>
        refine hl.change rfl rfl ?_ (hl.alive_built halive) ?_ (hl.io client) ?_ ?_ ?_
        · refine EveryFrame.goto (hs.lives (hs.rested.all (State.inCore_top hcore))) rfl ?_
          intro frame hmem
          rcases List.mem_cons.mp hmem with rfl | hmem
          · right
            simpa [Frame.lives, State.push] using hl.alive_built halive
          · exact .inl hmem
        · simpa using hl.current client
        · intro hmem
          have hgone := hl.gone client (by simpa using hmem)
          exact ⟨rfl, hgone.2.2⟩
        · intro hp
          simpa using hl.orphan client (hl.alive_built halive) hp
        · intro other _
          simp
  · cases hm with
    | @Constructed client parent hcore hbuilt =>
        refine hl.change rfl rfl (hs.lives (hs.rested.all (State.inCore_top hcore))) rfl ?_ rfl ?_ ?_ ?_
        · simp [Event.parent]
        · intro hmem
          have hgone := (hl.gone client (by simpa using hmem)).1
          rw [hbuilt] at hgone
          cases hgone
        · intro hp
          cases hp
        · intro other hne
          simp [Event.parent, Ne.symm hne]
    | @Reparented thread client parent rest mutex hstack =>
        have hinside := (mem_stack_of_tail hstack).1
        have halive := hl.frames thread _ hinside
        obtain rfl := hs.onIo thread _ hinside rfl
        refine hl.change rfl rfl (hafter.lives ?_) (hl.alive_built halive) ?_ ?_ ?_ ?_ ?_
        · simpa using hs.rested.tail hstack
        · simp [Event.parent]
        · rw [hl.io client]
          cases hparent : (state.client client).parent with
          | some _ => rfl
          | none =>
              have hgone := (hl.gone client (hl.orphan client (hl.alive_built halive) hparent)).2.1
              rw [show (state.client client).alive = true from halive] at hgone
              cases hgone
        · intro hmem
          have hgone := (hl.gone client (by simpa using hmem)).2.1
          rw [show (state.client client).alive = true from halive] at hgone
          cases hgone
        · intro hp
          cases hp
        · intro other hne
          simp [Event.parent, Ne.symm hne]
    | @Detached thread client rest mutex hstack =>
        have hinside := (mem_stack_of_tail hstack).1
        have hdying := hl.frames thread _ hinside
        obtain rfl := hs.onIo thread _ hinside rfl
        refine hl.change rfl rfl (hafter.lives ?_) hdying.1 ?_ rfl ?_ ?_ ?_
        · simpa using hs.rested.tail hstack
        · simp [Event.parent]
        · intro _
          exact ⟨hdying.2, rfl⟩
        · intro _
          simp
        · intro other hne
          simp [Event.parent, Ne.symm hne, hne]
    | _ => exact absurd (by simp [Event.quiet]) hloud

theorem run_lifetime {guard : List (Event κ η ρ) → State κ η ρ → Label κ η ρ → Prop}
    {trace : List (Event κ η ρ)} {last : State κ η ρ}
    (hrun : Run (machine kind) guard .new trace last) : Lifetime trace last :=
  hrun.invariant_with (fun _ state => Sound state) Lifetime (fun _ _ h => run_sound h) lifetime_new
    fun _ _ _ _ _ hs hl _ hstep => hl.step hs (hs.step hstep) (step_move hstep)

end Lifetime

end OpenvpnConnect.External
