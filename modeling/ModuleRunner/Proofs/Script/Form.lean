import Mathlib.Tactic
import ModuleRunner.Proofs.Script.Phrase

/-!
# What form the phrases of a program have

Trees can be written down that no text spells: assignments to a number, constants without a value,
blocks with nothing behind them, names of reserved words.  The form of a phrase says which of these it
is not, and is a matter of the phrase alone; where names come from is a matter of the tokens.

* `Phrase.WellFormed` — targets are assignable, constants have values, something follows a `try`.
* `Phrase.Built` — phrases that are well formed down to their last part, and whose names are tokens.
* `Phrase.Built.of_inside` — what a program of such statements has inside.
-/

namespace ModuleRunner.Script

/-- Names and properties. -/
inductive Expression.IsTarget : Expression → Prop
  | name (n : String) : IsTarget (.name n)
  | member (object : Expression) (n : String) : IsTarget (.member object n)
  | index (object key : Expression) : IsTarget (.index object key)

lemma Expression.isTarget_of_isAssignable {e : Expression} (h : e.isAssignable) : e.IsTarget := by
  unfold isAssignable at h
  split at h
  · exact .name _
  · exact .member _ _
  · exact .index _ _
  · cases h

namespace Phrase

/-- What is assigned to or updated is a name or a property, what is constant has a value, and what is
tried has a handler or a final block. -/
def WellFormed : Phrase → Prop
  | .expression (.assign _ target _) => target.IsTarget
  | .expression (.update _ _ target) => target.IsTarget
  | .statement (.declaration .constant declarators) => ∀ d ∈ declarators, d.value ≠ none
  | .statement (.attempt _ handler finalizer) => handler ≠ none ∨ finalizer ≠ none
  | _ => True

/-- A name is the text of a token of its own. -/
def Spelled (tokens : Array Token) (n : String) : Prop :=
  n ≠ "undefined" ∧ ∃ t ∈ tokens, t.kind = .name n

/-- A phrase is the name that an object literal takes the value of a property from, where the property
is written without one.  The name is then whatever the property may be called. -/
def Shorthand (tokens : Array Token) (p q : Phrase) : Prop :=
  ∃ properties key, p = .expression (.object properties) ∧ q = .expression (.name key) ∧
    (key, .name key) ∈ properties ∧ ∃ t ∈ tokens, t.kind.propertyName? = some key

/-- Phrases that are well formed, and their parts too, down to names that are tokens. -/
inductive Built (tokens : Array Token) : Phrase → Prop
  | intro {p : Phrase} (form : p.WellFormed)
      (name : ∀ n, p = .expression (.name n) → Spelled tokens n)
      (leading : ∀ q ∈ p.leading, Built tokens q)
      (others : ∀ q ∈ p.others, ¬ Shorthand tokens p q → Built tokens q) : Built tokens p

namespace Built

variable {tokens : Array Token} {p q : Phrase} {body : List Statement}

lemma form (h : Built tokens p) : p.WellFormed := by
  cases h; assumption

lemma spelled {n : String} (h : Built tokens (.expression (.name n))) : Spelled tokens n := by
  cases h with
  | intro _ name _ _ => exact name n rfl

/-- A phrase around others. -/
lemma node (name : ∀ n, p ≠ .expression (.name n)) (form : p.WellFormed)
    (leading : ∀ q ∈ p.leading, Built tokens q) (others : ∀ q ∈ p.others, Built tokens q) :
    Built tokens p :=
  .intro form (fun n h => absurd h (name n)) leading fun q hq _ => others q hq

/-- A statement is no name, and has no leading part. -/
lemma statement {s : Statement} (form : (Phrase.statement s).WellFormed)
    (others : ∀ q ∈ (Phrase.statement s).others, Built tokens q) : Built tokens (.statement s) :=
  .node nofun form nofun others

/-- A phrase without parts. -/
lemma leaf (name : ∀ n, p ≠ .expression (.name n)) (form : p.WellFormed) (leading : p.leading = [])
    (others : p.others = []) : Built tokens p :=
  .node name form (by simp [leading]) (by simp [others])

/-- What a program has inside is built too, but for the names that stand for a property and its
value. -/
lemma of_inside (hbody : ∀ s ∈ body, Built tokens (.statement s)) (hp : Inside body p) :
    Built tokens p ∨ ∃ q, Inside body q ∧ Shorthand tokens q p := by
  induction hp with
  | statement hmem => exact .inl (hbody _ hmem)
  | leading hp hq ih =>
      obtain ⟨_, _, hleading, _⟩ | ⟨_, _, _, _, _, rfl, _⟩ := ih
      · exact .inl (hleading _ hq)
      · cases hq
  | other hp hq ih =>
      obtain ⟨_, _, _, hothers⟩ | ⟨_, _, _, _, _, rfl, _⟩ := ih
      · exact (em _).symm.imp (hothers _ hq) fun h => ⟨_, hp, h⟩
      · cases hq

/-- Everything inside a program is well formed. -/
lemma wellFormed_of_inside (hbody : ∀ s ∈ body, Built tokens (.statement s)) (hp : Inside body p) :
    p.WellFormed := by
  obtain h | ⟨_, _, _, _, _, rfl, _⟩ := of_inside hbody hp
  · exact h.form
  · trivial

/-- Every name inside a program is the text of a token, unless it stands for a property and its
value. -/
lemma spelled_of_inside (hbody : ∀ s ∈ body, Built tokens (.statement s)) (hp : Inside body p)
    {n : String} (hn : .expression (.name n) ∈ p.leading ++ p.others) :
    Spelled tokens n ∨ Shorthand tokens p (.expression (.name n)) := by
  obtain ⟨_, _, hleading, hothers⟩ | ⟨_, _, _, _, _, rfl, _⟩ := of_inside hbody hp
  · obtain hn | hn := List.mem_append.mp hn
    · exact .inl (hleading _ hn).spelled
    · exact (em _).symm.imp_left fun h => (hothers _ hn h).spelled
  · cases hn

end Built

end Phrase

end ModuleRunner.Script
