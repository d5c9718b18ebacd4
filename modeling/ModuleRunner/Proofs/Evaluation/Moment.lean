import ModuleRunner.Proofs.Evaluation.Run
import ModuleRunner.Proofs.Script.Phrase
import ModuleRunner.Evaluation.Loading

/-!
# The moments of a run

What a run comes to does not show what it went through.  To speak of that, the machine is watched: it
looks up each time a phrase starts and each time one ends, at the world, the scope and the phrase of
that moment.  A detour may send the run elsewhere at some moments, and the run is over then.  So the
moments that a run passes are those at which a detour makes a difference, and whatever is done at any
other moment, nothing comes of it.

* `Moment`, `Detour` — where evaluation is, and where it is sent from there.
* `watch` — a run between its two moments.
* `watchedMachine` — the machine of each level, with a detour; without one it is `machine`.
-/

namespace ModuleRunner.Evaluation

open Script

/-- Where evaluation is: a phrase starts or ends in a scope. -/
structure Moment where
  /-- The world of the moment. -/
  world : World
  /-- The scope that names are looked up from. -/
  scope : ScopeRef
  /-- The phrase. -/
  phrase : Phrase

/-- The worlds that runs are sent to from some moments. -/
abbrev Detour := Moment → Option World

/-- The detour that no run is sent on. -/
def Detour.none : Detour := fun _ => .none

/-- Looks up at a moment. -/
def look (detour : Detour) (scope : ScopeRef) (phrase : Phrase) : Run Unit := fun w =>
  match detour ⟨w, scope, phrase⟩ with
  | .none => .ok () w
  | some stop => .error .exhausted stop

lemma look_of_none {detour : Detour} {scope : ScopeRef} {phrase : Phrase} {w : World}
    (h : detour ⟨w, scope, phrase⟩ = .none) : look detour scope phrase w = .ok () w := by
  unfold look
  rw [h]

lemma look_of_some {detour : Detour} {scope : ScopeRef} {phrase : Phrase} {w stop : World}
    (h : detour ⟨w, scope, phrase⟩ = some stop) :
    look detour scope phrase w = .error .exhausted stop := by
  unfold look
  rw [h]

/-- Looks up before and after a phrase. -/
def watch {α : Type} (detour : Detour) (scope : ScopeRef) (phrase : Phrase) (run : Run α) :
    Run α := do
  look detour scope phrase
  let answer ← run
  look detour scope phrase
  return answer

/-- The machine of each level, watched. -/
def watchedMachine (detour : Detour) : Nat → Machine
  | 0 => Machine.spent
  | n + 1 =>
    { patience := n
      evaluate := fun i scope e =>
        watch detour scope (.expression e) (evaluateStep (watchedMachine detour n) i scope e)
      execute := fun i scope s =>
        watch detour scope (.statement s) (executeStep (watchedMachine detour n) i scope s)
      call := fun i function receiver arguments =>
        callStep (watchedMachine detour n) i function receiver arguments
      load := fun request base => loadStep (watchedMachine detour n) request base }

lemma watch_none {α : Type} (scope : ScopeRef) (phrase : Phrase) (run : Run α) :
    watch .none scope phrase run = run := by
  funext w
  show (run >>= fun answer => (pure answer : Run α)) w = run w
  rw [bind_pure]

/-- Watching alone changes nothing. -/
theorem watchedMachine_none : ∀ n, watchedMachine .none n = machine n
  | 0 => rfl
  | n + 1 => by
      simp only [watchedMachine, machine, watch_none, watchedMachine_none n]

end ModuleRunner.Evaluation
