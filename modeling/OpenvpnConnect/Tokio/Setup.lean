import OpenvpnConnect.Tokio.Session

namespace OpenvpnConnect.Tokio

open Transition
open OpenvpnConnect.Client (Outcome Lifecycle)

-- The future has the setup guard on its own stack.
def Future.locks : Future → Bool
  | .EnsureIdle _ | .EnsureConnectable | .CompareExchange | .AwaitStarted => true
  | _ => false

-- The job owns the setup guard.
def Job.works : Job → Bool
  | .Queued _ | .Running => true
  | _ => false

-- The future has given its job away.
def Future.spawned : Future → Bool
  | .AwaitJob | .Ready _ | .Dropped => true
  | _ => false

def jobFrame : Client.Frame → Bool
  | .Idle | .EvaluateLock | .EvaluateNative | .CredentialsLock | .CredentialsNative => true
  | .SelfTestNative => true
  | _ => false

-- Who holds the setup mutex, and that no job works while a session is active.
structure Setup {φ η : Type} (state : State φ η) : Prop where
  locked : ∀ future, (state.future future).locks = true → state.setup = some future
  working : ∀ future, (state.job future).works = true →
    state.setup = some future ∧ state.sessionActive = false
  spawned : ∀ future, state.job future ≠ .Unspawned → (state.future future).spawned = true
  running : ∀ future, state.core.frame (.Job future) ≠ .Idle → state.job future = .Running
  frames : ∀ future, jobFrame (state.core.frame (.Job future)) = true

section Setup

variable {φ η : Type} [DecidableEq φ] [DecidableEq η] {capabilities : Capabilities} {capacity : Nat}

omit [DecidableEq φ] [DecidableEq η] in
theorem setup_new : Setup (State.new : State φ η) := by
  constructor <;> simp [State.new, Future.locks, Job.works, Client.State.new, jobFrame]

-- Only a job's own return touches a job and the setup mutex.
def returnsJob : Client.Event (Actor φ η) → Bool
  | .Returned (.Job _) _ _ => true
  | _ => false

theorem foldl_absorb_setup (state : State φ η) (seen : List (Client.Event (Actor φ η)))
    (hquiet : ∀ event ∈ seen, returnsJob event = false) :
    (seen.foldl absorb state).setup = state.setup ∧ (seen.foldl absorb state).job = state.job := by
  induction seen generalizing state with
  | nil => exact ⟨rfl, rfl⟩
  | cons event rest ih =>
      have hhead := hquiet event (List.mem_cons_self ..)
      obtain ⟨hsetup, hjob⟩ := ih (absorb state event) fun other hmem =>
        hquiet other (List.mem_cons_of_mem _ hmem)
      rw [List.foldl_cons, hsetup, hjob]
      unfold absorb
      split <;> first | exact ⟨rfl, rfl⟩ | simp [returnsJob] at hhead

theorem foldl_absorb_future (state : State φ η) (seen : List (Client.Event (Actor φ η))) :
    (seen.foldl absorb state).future = state.future ∧
      (seen.foldl absorb state).sessionActive = state.sessionActive := by
  induction seen generalizing state with
  | nil => exact ⟨rfl, rfl⟩
  | cons event rest ih =>
      rw [List.foldl_cons, (ih _).1, (ih _).2]
      unfold absorb
      split <;> exact ⟨rfl, rfl⟩

theorem quiet_of_move {core next : Client.State (Actor φ η)} {actor : Actor φ η}
    {seen : List (Client.Event (Actor φ η))} (hm : Client.Move actor core next seen)
    (hactor : ∀ future, actor ≠ .Job future) : ∀ event ∈ seen, returnsJob event = false := by
  intro event hmem
  unfold returnsJob
  split
  · exact absurd (hm.returned hmem).symm (hactor _)
  · rfl

-- A job goes on, or its call returns with the last event of the step.
theorem jobMoved {core next : Client.State (Actor φ η)} {future : φ}
    {seen : List (Client.Event (Actor φ η))} (hm : Client.Move (.Job future) core next seen)
    (hbusy : core.frame (.Job future) ≠ .Idle) (hkind : jobFrame (core.frame (.Job future)) = true) :
    jobFrame (next.frame (.Job future)) = true ∧
      ((next.frame (.Job future) ≠ .Idle ∧ ∀ event ∈ seen, returnsJob event = false) ∨
        next.frame (.Job future) = .Idle ∧ ∃ front call outcome,
          seen = front ++ [.Returned (.Job future) call outcome] ∧
            ∀ event ∈ front, returnsJob event = false) := by
  cases hm with
  | Unsupported _ hcall | Entered _ hcall | Cloned hcall | Dropped hcall _ | LastDropped hcall _ =>
      exact absurd hcall.1 hbusy
  | Refused message hwait hat _ _ _ =>
      refine ⟨by simp [Client.State.leave, jobFrame], .inr ⟨by simp [Client.State.leave], _, _, _, rfl, ?_⟩⟩
      split <;> simp [returnsJob]
  | EvaluateAdmitted _ _ _ | CredentialsAdmitted _ _ _ =>
      exact ⟨by simp [jobFrame], .inl ⟨by simp, by simp [returnsJob]⟩⟩
  | Evaluated _ =>
      exact ⟨by simp [Client.State.leave, jobFrame], .inr ⟨by simp [Client.State.leave],
        [_, _], _, _, rfl, by simp [returnsJob]⟩⟩
  | EvaluateFailed _ _ _ | CredentialsReturned _ _ | SelfTestReturned _ _ =>
      exact ⟨by simp [Client.State.leave, jobFrame], .inr ⟨by simp [Client.State.leave],
        [_], _, _, rfl, by simp [returnsJob]⟩⟩
  | RunEntered _ hat => rcases hat with hat | hat <;> simp [hat, jobFrame] at hkind
  | CoreReturned _ _ hat => rcases hat with hat | hat | hat <;> simp [hat, jobFrame] at hkind
  | _ => simp_all [jobFrame]

omit [DecidableEq φ] [DecidableEq η] in
theorem Setup.of_eq {state after : State φ η} (hs : Setup state) (hsetup : after.setup = state.setup)
    (hactive : after.sessionActive = true → state.sessionActive = true)
    (hfuture : after.future = state.future) (hjob : after.job = state.job)
    (hframe : ∀ future, after.core.frame (.Job future) = state.core.frame (.Job future)) :
    Setup after := by
  constructor
  · rw [hfuture, hsetup]
    exact hs.locked
  · intro future hworks
    rw [hjob] at hworks
    obtain ⟨hholds, hidle⟩ := hs.working future hworks
    refine ⟨hsetup.trans hholds, ?_⟩
    by_contra hne
    simp [hactive (by simpa using hne)] at hidle
  · rw [hjob, hfuture]
    exact hs.spawned
  · intro future hbusy
    rw [hframe] at hbusy
    rw [hjob]
    exact hs.running future hbusy
  · intro future
    rw [hframe]
    exact hs.frames future

attribute [local grind =] Future.locks Job.works Future.spawned jobFrame

omit [DecidableEq φ] [DecidableEq η] in
-- While a future has the guard no job has it.
theorem Setup.not_working {state : State φ η} (hs : Setup state) {future : φ}
    (hlocks : (state.future future).locks = true) (other : φ) : (state.job other).works = false := by
  by_contra hne
  have hworks : (state.job other).works = true := by simpa using hne
  have hholds := (hs.working other hworks).1
  rw [hs.locked future hlocks] at hholds
  obtain rfl := Option.some.inj hholds
  have hspawned := hs.spawned future (by rintro hj; simp [hj, Job.works] at hworks)
  cases hf : state.future future <;> simp [hf, Future.locks, Future.spawned] at hlocks hspawned

-- A future that does not hold the mutex moves on without it.
omit [DecidableEq η] in
theorem Setup.goto {state : State φ η} (hs : Setup state) {future : φ} {next : Future}
    (hlocks : next.locks = true → (state.future future).locks = true)
    (hspawned : (state.future future).spawned = true → next.spawned = true) :
    Setup (state.goto future next) := by
  obtain ⟨hlocked, hworking, hjobs, hrunning, hframes⟩ := hs
  constructor <;> grind

omit [DecidableEq η] in
theorem Setup.lock {state : State φ η} (hs : Setup state) {future : φ} {next : Future}
    (hfree : state.setup = none) (hspawned : (state.future future).spawned = false) :
    Setup ({ state with setup := some future }.goto future next) := by
  obtain ⟨hlocked, hworking, hjobs, hrunning, hframes⟩ := hs
  constructor <;> grind

omit [DecidableEq η] in
theorem Setup.unlock {state : State φ η} (hs : Setup state) {future : φ} {next : Future}
    (hlocks : (state.future future).locks = true) (hleaves : next.locks = false)
    (hspawned : next.spawned = true) : Setup ({ state with setup := none }.goto future next) := by
  have hnone := hs.not_working hlocks
  obtain ⟨hlocked, hworking, hjobs, hrunning, hframes⟩ := hs
  constructor <;> grind

omit [DecidableEq η] in
theorem Setup.spawn {state : State φ η} (hs : Setup state) {future : φ} {mutation : Mutation}
    (hlocks : (state.future future).locks = true) (hidle : state.sessionActive = false) :
    Setup ((state.goto future .AwaitJob).setJob future (.Queued mutation)) := by
  have hnone := hs.not_working hlocks
  obtain ⟨hlocked, hworking, hjobs, hrunning, hframes⟩ := hs
  constructor
  case working =>
      intro other hworks
      by_cases heq : other = future
      · rw [heq]
        exact ⟨hlocked future hlocks, hidle⟩
      · have hsame : ((state.goto future .AwaitJob).setJob future (.Queued mutation)).job other =
            state.job other := if_neg heq
        rw [hsame, hnone other] at hworks
        cases hworks
  all_goals grind

-- A job that starts or stays busy keeps the mutex, one that returns gives it back.
omit [DecidableEq η] in
theorem Setup.jobRun {state : State φ η} (hs : Setup state) {future : φ} {mutation : Mutation}
    {core : Client.State (Actor φ η)} (hjob : state.job future = .Queued mutation)
    (hframe : ∀ other, other ≠ future → core.frame (.Job other) = state.core.frame (.Job other))
    (hkind : jobFrame (core.frame (.Job future)) = true) :
    Setup { state.setJob future .Running with core := core } := by
  obtain ⟨hlocked, hworking, hjobs, hrunning, hframes⟩ := hs
  constructor
  case frames =>
      intro other
      by_cases heq : other = future
      · rw [heq]
        exact hkind
      · rw [hframe other heq]
        exact hframes other
  all_goals grind

omit [DecidableEq η] in
theorem Setup.jobReturned {state : State φ η} (hs : Setup state) {future : φ} {outcome : Outcome}
    {core : Client.State (Actor φ η)} (hjob : (state.job future).works = true)
    (hframe : ∀ other, other ≠ future → core.frame (.Job other) = state.core.frame (.Job other))
    (hidle : core.frame (.Job future) = .Idle) :
    Setup ({ state with core := core, setup := none }.setJob future (.Done outcome)) := by
  have hunlocked : ∀ other, (state.future other).locks ≠ true := by
    intro other hlocks
    simp [hs.not_working hlocks future] at hjob
  obtain ⟨hlocked, hworking, hjobs, hrunning, hframes⟩ := hs
  constructor
  case frames =>
      intro other
      by_cases heq : other = future
      · rw [heq, State.core_setJob, hidle]
        rfl
      · rw [State.core_setJob, hframe other heq]
        exact hframes other
  all_goals grind

omit [DecidableEq φ] [DecidableEq η] in
theorem Setup.jobStays {state : State φ η} (hs : Setup state) {future : φ}
    {core : Client.State (Actor φ η)} (hjob : state.job future = .Running)
    (hframe : ∀ other, other ≠ future → core.frame (.Job other) = state.core.frame (.Job other))
    (hkind : jobFrame (core.frame (.Job future)) = true) : Setup { state with core := core } := by
  refine ⟨hs.locked, hs.working, hs.spawned, ?_, ?_⟩
  · intro other hbusy
    by_cases heq : other = future
    · rw [heq]
      exact hjob
    · rw [hframe other heq] at hbusy
      exact hs.running other hbusy
  · intro other
    by_cases heq : other = future
    · rw [heq]
      exact hkind
    · rw [hframe other heq]
      exact hs.frames other

omit [DecidableEq η] in
theorem Setup.activate {state : State φ η} (hs : Setup state) {future : φ}
    (hlocks : (state.future future).locks = true) :
    Setup ({ state with sessionActive := true }.goto future .AwaitStarted) := by
  have hnone := hs.not_working hlocks
  obtain ⟨hlocked, hworking, hjobs, hrunning, hframes⟩ := hs
  constructor
  case spawned =>
      intro other hspawned
      by_cases heq : other = future
      · subst heq
        have hpast := hjobs other hspawned
        cases hf : state.future other <;> simp [hf, Future.locks, Future.spawned] at hlocks hpast
      · rw [State.future_goto, if_neg heq]
        exact hjobs other hspawned
  all_goals grind

-- Entering a call does not touch another actor's frame.
theorem frame_calls_job (state : State φ η) (actor : Actor φ η) (frame : Client.Frame) (future : φ)
    (hne : ∀ other, actor ≠ .Job other) :
    (state.calls actor frame).core.frame (.Job future) = state.core.frame (.Job future) :=
  Client.State.frame_goto_ne _ _ (fun he => hne future he.symm)

-- A step of the synchronous client concerns the mutex only when a job returns.
theorem Setup.coreMoved {state : State φ η} (hs : Setup state) {actor : Actor φ η}
    {core : Client.State (Actor φ η)} {seen : List (Client.Event (Actor φ η))}
    (hm : Client.Move actor state.core core seen) (hbusy : state.core.frame actor ≠ .Idle) :
    Setup (seen.foldl absorb { state with core := core }) := by
  have hquiet : (∀ event ∈ seen, returnsJob event = false) →
      (∀ future, core.frame (.Job future) = state.core.frame (.Job future)) →
      Setup (seen.foldl absorb { state with core := core }) := by
    intro hnone hframe
    obtain ⟨hsetup, hjob⟩ := foldl_absorb_setup { state with core := core } seen hnone
    obtain ⟨hfuture, hactive⟩ := foldl_absorb_future { state with core := core } seen
    refine hs.of_eq hsetup (fun h => hactive ▸ h) hfuture hjob ?_
    rw [foldl_absorb_core]
    exact hframe
  cases hactor : actor with
  | Job future =>
      subst hactor
      have hframe : ∀ other, other ≠ future →
          core.frame (.Job other) = state.core.frame (.Job other) :=
        fun other hne => hm.frame_ne (by simpa using hne)
      have hrunning := hs.running future hbusy
      obtain ⟨hkind, ⟨hbusy', hnone⟩ | ⟨hidle, front, call, outcome, rfl, hnone⟩⟩ :=
        jobMoved hm hbusy (hs.frames future)
      · obtain ⟨hsetup, hjob⟩ := foldl_absorb_setup { state with core := core } seen hnone
        obtain ⟨hfuture, hactive⟩ := foldl_absorb_future { state with core := core } seen
        exact (hs.jobStays hrunning hframe hkind).of_eq hsetup (fun h => hactive ▸ h) hfuture hjob
          fun _ => by rw [foldl_absorb_core]
      · obtain ⟨hsetup, hjob⟩ := foldl_absorb_setup { state with core := core } front hnone
        obtain ⟨hfuture, hactive⟩ := foldl_absorb_future { state with core := core } front
        have hdone : Setup ({ state with core := core, setup := none }.setJob future (.Done outcome)) :=
          hs.jobReturned (by simp [hrunning, Job.works]) hframe hidle
        rw [List.foldl_concat]
        refine hdone.of_eq rfl (fun h => hactive ▸ h) hfuture ?_ fun _ => ?_
        · simp only [absorb, State.setJob]
          rw [hjob]
        · simp [absorb, foldl_absorb_core]
  | _ =>
      refine hquiet (quiet_of_move hm (by simp [hactor])) fun future => ?_
      exact hm.frame_ne (by simp [hactor])

theorem Setup.move {state after : State φ η} {seen : List (Event φ η)} (hs : Setup state)
    (hm : Move capabilities capacity state after seen) : Setup after := by
  cases hm with
  | Begun future operation hfuture =>
      exact hs.goto (by simp [Future.locks]) (by simp [hfuture, Future.spawned])
  | LockedConnect future hfree hfuture => exact hs.lock hfree (by simp [hfuture, Future.spawned])
  | Locked future mutation hfree hfuture => exact hs.lock hfree (by simp [hfuture, Future.spawned])
  | NotIdle future mutation message hfuture _ =>
      exact hs.unlock (by simp [hfuture, Future.locks]) rfl rfl
  | JobSpawned future mutation hfuture hidle => exact hs.spawn (by simp [hfuture, Future.locks]) hidle
  | NotConnectable future message hfuture _ =>
      exact hs.unlock (by simp [hfuture, Future.locks]) rfl rfl
  | Connectable future hfuture _ =>
      exact hs.goto (by simp [hfuture, Future.locks]) (by simp [hfuture, Future.spawned])
  | ExchangeLost future message hfuture _ =>
      exact hs.unlock (by simp [hfuture, Future.locks]) rfl rfl
  | JobReady future outcome hfuture _ =>
      exact hs.goto (by simp [Future.locks]) (by simp [Future.spawned])
  | Dropped future hfuture => exact hs.goto (by simp [Future.locks]) (by simp [Future.spawned])
  | Exchanged future hfuture hidle =>
      refine (hs.activate (by simp [hfuture, Future.locks])).of_eq rfl id rfl rfl ?_
      exact fun _ => rfl
  | Connected future session hfuture _ _ =>
      refine Setup.of_eq (hs.unlock (by simp [hfuture, Future.locks]) rfl rfl) rfl id rfl rfl ?_
      exact fun _ => rfl
  | NeverStarted future session outcome hfuture _ _ =>
      refine Setup.of_eq (hs.unlock (by simp [hfuture, Future.locks]) rfl rfl) rfl (by simp) rfl rfl ?_
      exact fun _ => rfl
  | Abandoned future session hfuture _ =>
      refine Setup.of_eq (hs.unlock (by simp [hfuture, Future.locks]) rfl rfl) rfl id rfl rfl ?_
      exact fun _ => rfl
  | SessionMoved future _ _ => exact hs.of_eq rfl id rfl rfl fun _ => rfl
  | GuardCleared future session result _ _ => exact hs.of_eq rfl (by simp) rfl rfl fun _ => rfl
  | JobRefused future config error hjob _ hcall =>
      exact hs.jobReturned (by simp [hjob, Job.works]) (fun _ _ => rfl) hcall.1
  | JobRun future mutation hjob _ hcall =>
      refine hs.jobRun hjob (fun other hne => ?_) ?_
      · exact Client.State.frame_goto_ne _ _ (by simpa using hne)
      · cases mutation <;> simp [Client.State.enter, Mutation.frame, jobFrame]
  | WorkerRun future session _ _ hcall =>
      exact hs.of_eq rfl id rfl rfl fun other => frame_calls_job _ _ _ other (by simp)
  | StopCalled actor _ hcause hcall =>
      refine hs.of_eq rfl id rfl rfl fun other => frame_calls_job _ _ _ other ?_
      cases hcause <;> simp
  | CoreMoved actor _ hmove hbusy _ => exact hs.coreMoved hmove hbusy

end Setup

end OpenvpnConnect.Tokio
