import Mathlib.Tactic
import ModuleRunner.Script.Parser

/-!
# What rules of the grammar answer

A rule of the grammar takes tokens, enters and leaves levels of nesting, and answers a tree or a
fault.  Of a rule that answers, two things are followed through the grammar: the tree, and the
nesting that it leaves behind.  Most rules leave the nesting that they found, so that only the tree
is left to speak of; the rules that follow a chain of operators, accesses or calls do not, and the
rules around them return to the nesting noted before.

* `Parser.Answers` — the nesting and the tree that a rule leaves.
* `Parser.Yields` — the tree of a rule that leaves the nesting it found.
* the rules without trees: `sees_yields`, `expect_yields`, `endStatement_yields`, and their like.
* `commaList_yields`, `commaChain_yields`, `sequence_yields` — lists of whatever an item yields.
* `restoring`, `nested_yields` — a return to the nesting before a rule, and a rule one level deeper.
-/

namespace ModuleRunner.Script

namespace Parser

variable {α β : Type}

/-- What a rule leaves when it starts at some nesting and answers: the nesting behind it, and its
answer. -/
def Answers (tokens : Array Token) (rule : Parser α) (d : Nat) (Q : Nat → α → Prop) : Prop :=
  ∀ c a c', c.depth = d → rule tokens c = .ok (a, c') → Q c'.depth a

/-- What a rule answers that leaves the nesting it found. -/
def Yields (tokens : Array Token) (rule : Parser α) (d : Nat) (P : α → Prop) : Prop :=
  Answers tokens rule d fun d' a => d' = d ∧ P a

variable {tokens : Array Token} {x : Parser α} {f : α → Parser β} {d : Nat}

/-! ## Rules one after another -/

lemma bind_eq_ok {c c'' : Cursor} {b : β} :
    (x >>= f) tokens c = .ok (b, c'') ↔
      ∃ a c', x tokens c = .ok (a, c') ∧ f a tokens c' = .ok (b, c'') := by
  simp only [bind, ReaderT.bind, StateT.bind, Except.bind]
  cases x tokens c with
  | error e => simp
  | ok answer =>
      obtain ⟨a, c'⟩ := answer
      simp

lemma bind_eq_error {c : Cursor} {refusal : Refusal} :
    (x >>= f) tokens c = .error refusal ↔
      x tokens c = .error refusal ∨ ∃ a c', x tokens c = .ok (a, c') ∧ f a tokens c' = .error refusal := by
  simp only [bind, ReaderT.bind, StateT.bind, Except.bind]
  cases x tokens c with
  | error e => simp
  | ok answer =>
      obtain ⟨a, c'⟩ := answer
      simp

lemma Answers.bind {Q : Nat → α → Prop} {S : Nat → β → Prop} (hx : Answers tokens x d Q)
    (hf : ∀ d' a, Q d' a → Answers tokens (f a) d' S) : Answers tokens (x >>= f) d S := by
  intro c b c'' hc hrun
  obtain ⟨a, c', hfirst, hrest⟩ := bind_eq_ok.mp hrun
  exact hf c'.depth a (hx c a c' hc hfirst) c' b c'' rfl hrest

lemma Answers.pure {Q : Nat → α → Prop} {a : α} (h : Q d a) :
    Answers tokens (pure a : Parser α) d Q := by
  rintro c a' c' rfl hrun
  cases hrun
  exact h

lemma Answers.imp {Q S : Nat → α → Prop} (h : Answers tokens x d Q) (himp : ∀ d' a, Q d' a → S d' a) :
    Answers tokens x d S :=
  fun c a c' hc hrun => himp _ _ (h c a c' hc hrun)

lemma Answers.failAt {Q : Nat → α → Prop} (token : Token) (cause : Cause) :
    Answers tokens (Script.failAt token cause : Parser α) d Q := by
  rintro c a c' - ⟨⟩

namespace Yields

variable {P : α → Prop} {S : β → Prop}

lemma bind (hx : Yields tokens x d P) (hf : ∀ a, P a → Yields tokens (f a) d S) :
    Yields tokens (x >>= f) d S :=
  Answers.bind hx fun _ a ha => ha.1 ▸ hf a ha.2

lemma bind_answers {Q : Nat → β → Prop} (hx : Yields tokens x d P)
    (hf : ∀ a, P a → Answers tokens (f a) d Q) : Answers tokens (x >>= f) d Q :=
  Answers.bind hx fun _ a ha => ha.1 ▸ hf a ha.2

lemma pure {a : α} (h : P a) : Yields tokens (pure a : Parser α) d P := Answers.pure ⟨rfl, h⟩

lemma imp {P' : α → Prop} (h : Yields tokens x d P) (himp : ∀ a, P a → P' a) :
    Yields tokens x d P' :=
  Answers.imp h fun _ a ha => ⟨ha.1, himp a ha.2⟩

lemma map {g : α → β} (h : Yields tokens x d fun a => S (g a)) : Yields tokens (g <$> x) d S := by
  rw [map_eq_pure_bind]
  exact h.bind fun a ha => pure ha

/-- A rule behind a choice yields what both of the branches yield. -/
lemma ite {c : Prop} [Decidable c] {y : Parser α} (hx : c → Yields tokens x d P)
    (hy : ¬ c → Yields tokens y d P) : Yields tokens (if c then x else y) d P := by
  split
  · next h => exact hx h
  · next h => exact hy h

/-- A part that may be missing, and is there. -/
lemma some_bind {next : Option α → Parser β} (hx : Yields tokens x d P)
    (hnext : ∀ answer, (∀ a ∈ answer, P a) → Yields tokens (next answer) d S) :
    Yields tokens ((some <$> x) >>= next) d S :=
  bind (map (S := fun answer => ∀ a ∈ answer, P a) (hx.imp fun a ha _ hmem => by
    obtain rfl := Option.mem_some.mp hmem
    exact ha)) hnext

/-- A part that may be missing, and is. -/
lemma none_bind {next : Option α → Parser β}
    (hnext : ∀ answer, (∀ a ∈ answer, P a) → Yields tokens (next answer) d S) :
    Yields tokens (Pure.pure none >>= next) d S :=
  bind (pure (P := (· = none)) rfl) fun answer hnone => hnext answer (by simp [hnone])

end Yields

/-! ## Single tokens -/

section Tokens

variable {α : Type} {tokens : Array Token} {d : Nat}

lemma current_yields : Yields tokens current d fun _ => True := by
  rintro c a c' rfl ⟨⟩
  exact ⟨rfl, trivial⟩

lemma previous_yields : Yields tokens previous d fun _ => True := by
  rintro c a c' rfl ⟨⟩
  exact ⟨rfl, trivial⟩

lemma take_yields : Yields tokens take d fun _ => True := by
  rintro c a c' rfl ⟨⟩
  exact ⟨rfl, trivial⟩

lemma remaining_yields : Yields tokens remaining d fun _ => True := by
  rintro c a c' rfl ⟨⟩
  exact ⟨rfl, trivial⟩

lemma depth_yields : Yields tokens depth d (· = d) := by
  rintro c a c' rfl ⟨⟩
  exact ⟨rfl, rfl⟩

lemma restoreDepth_answers (mark : Nat) :
    Answers tokens (restoreDepth mark) d fun d' _ => d' = mark := by
  rintro c a c' - ⟨⟩
  rfl

lemma fail_answers {Q : Nat → α → Prop} (cause : Cause) : Answers tokens (fail cause) d Q :=
  current_yields.bind_answers fun _ _ => Answers.failAt _ _

lemma failBehind_answers {Q : Nat → α → Prop} (cause : Cause) :
    Answers tokens (failBehind cause) d Q :=
  previous_yields.bind_answers fun _ _ => Answers.failAt _ _

/-- Nothing follows a fault. -/
lemma fail_bind_answers {β : Type} {f : α → Parser β} {Q : Nat → β → Prop} (cause : Cause) :
    Answers tokens (fail cause >>= f) d Q :=
  (fail_answers (Q := fun _ _ => False) cause).bind fun _ _ h => h.elim

lemma failBehind_bind_answers {β : Type} {f : α → Parser β} {Q : Nat → β → Prop} (cause : Cause) :
    Answers tokens (failBehind cause >>= f) d Q :=
  (failBehind_answers (Q := fun _ _ => False) cause).bind fun _ _ h => h.elim

lemma currentKind_yields : Yields tokens currentKind d fun _ => True :=
  current_yields.bind fun _ _ => .pure trivial

lemma sees_yields (m : Mark) : Yields tokens (sees m) d fun _ => True :=
  currentKind_yields.bind fun _ _ => .pure trivial

lemma accept_yields (m : Mark) : Yields tokens (accept m) d fun _ => True :=
  (sees_yields m).bind fun _ _ =>
    .ite (fun _ => take_yields.bind fun _ _ => .pure trivial) fun _ => .pure trivial

lemma acceptWord_yields (k : Keyword) : Yields tokens (acceptWord k) d fun _ => True :=
  currentKind_yields.bind fun _ _ =>
    .ite (fun _ => take_yields.bind fun _ _ => .pure trivial) fun _ => .pure trivial

lemma expect_yields (m : Mark) : Yields tokens (expect m) d fun _ => True :=
  (sees_yields m).bind fun _ _ =>
    .ite (fun _ => take_yields) fun _ => currentKind_yields.bind fun _ _ => fail_answers _

lemma expectName_yields : Yields tokens expectName d fun _ => True := by
  refine currentKind_yields.bind fun kind _ => ?_
  split
  · exact take_yields.bind fun _ _ => .pure trivial
  · exact fail_answers _

lemma expectProperty_yields : Yields tokens expectProperty d fun _ => True := by
  refine currentKind_yields.bind fun kind _ => ?_
  split
  · exact take_yields.bind fun _ _ => .pure trivial
  · exact fail_answers _

lemma atStatementEnd_yields : Yields tokens atStatementEnd d fun _ => True :=
  current_yields.bind fun _ _ => .pure trivial

lemma endStatement_yields : Yields tokens endStatement d fun _ => True := by
  refine (accept_yields _).bind fun _ _ => .ite (fun _ => .pure trivial) fun _ => ?_
  refine atStatementEnd_yields.bind fun _ _ => .ite (fun _ => .pure trivial) fun _ => ?_
  exact currentKind_yields.bind fun _ _ => fail_answers _

end Tokens

/-! ## Lists -/

section Lists

variable {α : Type} {tokens : Array Token} {d : Nat} {item : Parser α} {P : α → Prop}
  (hitem : Yields tokens item d P)

include hitem

lemma commaList_yields (close : Mark) :
    ∀ bound, Yields tokens (commaList close item bound) d fun items => ∀ a ∈ items, P a
  | 0 => fail_answers _
  | bound + 1 => by
      refine (sees_yields close).bind fun _ _ => .ite (fun _ => .pure (by rintro a ⟨⟩)) fun _ => ?_
      refine hitem.bind fun first hfirst => (accept_yields _).bind fun _ _ => .ite (fun _ => ?_)
        fun _ => .pure ?_
      · refine (commaList_yields close bound).bind fun items hitems => .pure ?_
        exact List.forall_mem_cons.mpr ⟨hfirst, hitems⟩
      · exact List.forall_mem_singleton.mpr hfirst

lemma commaChain_yields :
    ∀ bound, Yields tokens (commaChain item bound) d fun items => ∀ a ∈ items, P a
  | 0 => fail_answers _
  | bound + 1 => by
      refine hitem.bind fun first hfirst => (accept_yields _).bind fun _ _ => .ite (fun _ => ?_)
        fun _ => .pure ?_
      · refine (commaChain_yields bound).bind fun items hitems => .pure ?_
        exact List.forall_mem_cons.mpr ⟨hfirst, hitems⟩
      · exact List.forall_mem_singleton.mpr hfirst

lemma sequence_yields (braced : Bool) :
    ∀ bound, Yields tokens (sequence braced item bound) d fun items => ∀ a ∈ items, P a
  | 0 => fail_answers _
  | bound + 1 => by
      refine currentKind_yields.bind fun kind _ => ?_
      refine .ite (fun _ => .pure (by rintro a ⟨⟩)) fun _ => ?_
      refine hitem.bind fun first hfirst => (sequence_yields braced bound).bind fun items hitems =>
        .pure ?_
      exact List.forall_mem_cons.mpr ⟨hfirst, hitems⟩

end Lists

/-! ## Nesting -/

/-- Applies a rule and returns to the nesting before it. -/
def restoring {α : Type} (rule : Parser α) : Parser α := do
  let mark ← depth
  let answer ← rule
  restoreDepth mark
  return answer

lemma restoring_eq {α : Type} (rule : Parser α) (tokens : Array Token) (c : Cursor) :
    restoring rule tokens c = rule tokens c >>= fun run => .ok (run.1, ⟨run.2.taken, c.depth⟩) := rfl

section Nesting

variable {α : Type} {tokens : Array Token} {d : Nat}

/-- Beyond the limit of nesting there is no answer. -/
lemma descend_answers :
    Answers tokens descend d fun d' _ => d' = d + 1 ∧ d + 1 ≤ maxNesting := by
  refine depth_yields.bind_answers fun mark hmark => ?_
  refine (restoreDepth_answers _).bind fun d' _ hd' => ?_
  refine depth_yields.bind_answers fun deep hdeep => ?_
  subst hmark hd' hdeep
  split
  · exact fail_answers _
  · next h => exact .pure ⟨rfl, Nat.not_lt.mp h⟩

/-- A rule one level deeper yields what it yields there. -/
lemma nested_yields {rule : Parser α} {P : α → Prop}
    (h : d + 1 ≤ maxNesting → Yields tokens rule (d + 1) P) : Yields tokens (nested rule) d P := by
  refine depth_yields.bind fun mark hmark => ?_
  refine descend_answers.bind fun d' _ hd' => ?_
  obtain ⟨rfl, hlimit⟩ := hd'
  refine (h hlimit).bind_answers fun a ha => (restoreDepth_answers mark).bind fun d' _ hd' => ?_
  exact .pure ⟨hd'.trans hmark, ha⟩

end Nesting

end Parser

end ModuleRunner.Script
