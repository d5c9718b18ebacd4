import Mathlib.Tactic
import ModuleRunner.Script.Tree

/-!
# Phrases and their parts

A program is a tree of phrases, the statements and expressions.  Declarators, handlers and function
literals are no phrases of their own: what they hold are parts of the phrase around them, so that the
statements of a function's body are parts of the phrase that writes the function.

The one part that stands before the operator, the accessed property or the arguments of its phrase is
told apart from the others, because a grammar that groups to the left reads it first.

* `Phrase`, `Phrase.leading`, `Phrase.others` — the phrases, and the parts of each.
* `Phrase.alone` — the statements that are parts by themselves: branches, and bodies of loops.
* `Phrase.lexicalNames` — the names that a phrase binds where it runs.
* `Phrase.Inside` — the phrases inside a body.
* `Phrase.Chain` — a way down through parts, with the number of its phrases.
* `Phrase.Within` — a bound on all chains of a phrase, weighted by how their phrases are entered.
-/

namespace ModuleRunner.Script

/-- A phrase of a program. -/
inductive Phrase where
  | expression (e : Expression)
  | statement (s : Statement)

namespace Phrase

/-- The part that stands before the operator, the property or the arguments. -/
def leading : Phrase → List Phrase
  | .expression (.binary _ left _) => [.expression left]
  | .expression (.logical _ left _) => [.expression left]
  | .expression (.member object _) => [.expression object]
  | .expression (.index object _) => [.expression object]
  | .expression (.call callee _ _) => [.expression callee]
  | _ => []

/-- All other parts of an expression. -/
def othersOfExpression : Expression → List Phrase
  | .array elements => elements.map .expression
  | .object properties => properties.map fun p => .expression p.2
  | .function literal => literal.body.map .statement
  | .unary _ operand => [.expression operand]
  | .update _ _ target => [.expression target]
  | .binary _ _ right => [.expression right]
  | .logical _ _ right => [.expression right]
  | .conditional test yes no => [.expression test, .expression yes, .expression no]
  | .assign _ target value => [.expression target, .expression value]
  | .index _ key => [.expression key]
  | .call _ arguments _ => arguments.map .expression
  | .construct callee arguments => .expression callee :: arguments.map .expression
  | _ => []

/-- All other parts of a statement. -/
def othersOfStatement : Statement → List Phrase
  | .declaration _ declarators =>
    declarators.flatMap fun declarator => declarator.value.toList.map .expression
  | .function literal => literal.body.map .statement
  | .expression e => [.expression e]
  | .block body => body.map .statement
  | .conditional test yes no => .expression test :: .statement yes :: no.toList.map .statement
  | .whileLoop test body => [.expression test, .statement body]
  | .forLoop start test update body =>
    start.toList.map .statement ++ test.toList.map .expression ++ update.toList.map .expression
      ++ [.statement body]
  | .returnValue value => value.toList.map .expression
  | .throwValue value => [.expression value]
  | .attempt body handler finalizer =>
    body.map .statement ++ (handler.toList.flatMap fun clause => clause.body.map .statement)
      ++ (finalizer.toList.flatMap fun body => body.map .statement)
  | .breakLoop | .continueLoop | .empty => []

/-- All parts but the leading one. -/
def others : Phrase → List Phrase
  | .expression e => othersOfExpression e
  | .statement s => othersOfStatement s

/-- The statements that are parts by themselves, not in a list of statements. -/
def alone : Phrase → List Statement
  | .statement (.conditional _ yes no) => yes :: no.toList
  | .statement (.whileLoop _ body) => [body]
  | .statement (.forLoop start _ _ body) => start.toList ++ [body]
  | _ => []

/-- The names that a phrase itself binds in the scope that it runs in. -/
def lexicalNames : Phrase → List String
  | .statement (.declaration .letMutable declarators) => declarators.map (·.name)
  | .statement (.declaration .constant declarators) => declarators.map (·.name)
  | _ => []

/-- The phrases inside a body: its statements, their parts, the parts of these, and so on. -/
inductive Inside (body : List Statement) : Phrase → Prop
  | statement {s : Statement} (hmem : s ∈ body) : Inside body (.statement s)
  | leading {p q : Phrase} (hp : Inside body p) (hq : q ∈ p.leading) : Inside body q
  | other {p q : Phrase} (hp : Inside body p) (hq : q ∈ p.others) : Inside body q

/-! ## Chains -/

/-- A way from a phrase down to one of its parts, a part of that, and so on.  Of its phrases, `a` are
entered as the leading part of the phrase above and `b` are not; the first one counts among these. -/
inductive Chain : Phrase → Nat → Nat → Prop
  | single (p : Phrase) : Chain p 0 1
  | leading {p q : Phrase} {a b : Nat} : q ∈ p.leading → Chain q a b → Chain p (a + 1) b
  | other {p q : Phrase} {a b : Nat} : q ∈ p.others → Chain q a b → Chain p a (b + 1)

/-- No chain from the phrase weighs more than `w`, if a phrase weighs `l` where it is entered as a
leading part and `o` elsewhere. -/
def Within (l o w : Nat) (p : Phrase) : Prop :=
  ∀ a b, Chain p a b → l * a + o * b ≤ w

namespace Within

variable {l o w w' : Nat} {p : Phrase}

lemma mono (h : Within l o w p) (hle : w ≤ w') : Within l o w' p :=
  fun a b hchain => (h a b hchain).trans hle

/-- A phrase is as heavy as its leading part or its other parts make it. -/
lemma of_parts {r : Nat} (hleading : ∀ q ∈ p.leading, ∃ lead, Within l o lead q ∧ lead + l ≤ w)
    (hothers : ∀ q ∈ p.others, Within l o r q) (hrest : r + o ≤ w) : Within l o w p := by
  intro a b hchain
  cases hchain with
  | single => simpa using (Nat.le_add_left _ _).trans hrest
  | @leading _ q a _ hmem hrun =>
      obtain ⟨lead, hlead, hle⟩ := hleading q hmem
      calc l * (a + 1) + o * b = l * a + o * b + l := by ring
        _ ≤ lead + l := Nat.add_le_add_right (hlead a b hrun) l
        _ ≤ w := hle
  | @other _ q _ b hmem hrun =>
      calc l * a + o * (b + 1) = l * a + o * b + o := by ring
        _ ≤ r + o := Nat.add_le_add_right (hothers q hmem a b hrun) o
        _ ≤ w := hrest

/-- A phrase without a leading part is as heavy as its parts make it. -/
lemma of_others {r : Nat} (hleading : p.leading = []) (hothers : ∀ q ∈ p.others, Within l o r q)
    (hrest : r + o ≤ w) : Within l o w p :=
  of_parts (by simp [hleading]) hothers hrest

/-- A phrase without parts. -/
lemma of_leaf (hleading : p.leading = []) (hothers : p.others = []) (hle : o ≤ w) : Within l o w p :=
  of_others (r := 0) hleading (by simp [hothers]) (by omega)

end Within

end Phrase

end ModuleRunner.Script
