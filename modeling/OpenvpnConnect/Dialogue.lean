-- Programs that ask and go on with the answers, and who may answer them.
namespace Dialogue

-- A program whose every step but the last is a call; the next step may depend on the answer.
inductive Program (κ : Type) (ans : κ → Type) (α : Type) where
  | Done (result : α)
  | Ask (call : κ) (next : ans call → Program κ ans α)

-- Who answers the calls, with a state that the calls change.
abbrev Server (κ : Type) (ans : κ → Type) (σ : Type) := (call : κ) → σ → ans call × σ

variable {κ : Type} {ans : κ → Type} {α ε σ : Type}

def run (server : Server κ ans σ) : Program κ ans α → σ → α × σ
  | .Done result, state => (result, state)
  | .Ask call next, state => run server (next (server call state).1) (server call state).2

-- What was asked, with the answers, in order.
def transcript (server : Server κ ans σ) : Program κ ans α → σ → List ((call : κ) × ans call)
  | .Done _, _ => []
  | .Ask call next, state =>
      ⟨call, (server call state).1⟩ :: transcript server (next (server call state).1) (server call state).2

-- A server that also keeps what it notes of each call, before it answers.
def recording (server : Server κ ans σ) (note : κ → List ε) : Server κ ans (σ × List ε) :=
  fun call state => ((server call state.1).1, ((server call state.1).2, state.2 ++ note call))

-- Nothing changes for the program, and the notes are those of its calls.
theorem run_recording (server : Server κ ans σ) (note : κ → List ε) (program : Program κ ans α) (state : σ)
    (noted : List ε) :
    run (recording server note) program (state, noted) =
      ((run server program state).1,
        ((run server program state).2,
          noted ++ (transcript server program state).flatMap fun entry => note entry.1)) := by
  induction program generalizing state noted with
  | Done result => simp only [run, transcript, List.flatMap_nil, List.append_nil]
  | Ask call next ih =>
      have hnext := ih (server call state).1 (server call state).2 (noted ++ note call)
      simp only [run, transcript, List.flatMap_cons, ← List.append_assoc]
      exact hnext

end Dialogue
