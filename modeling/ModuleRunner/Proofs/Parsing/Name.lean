import ModuleRunner.Proofs.Lexing.Kinds
import ModuleRunner.Proofs.Parsing.Form

/-!
# The names in a program

The receiver is bound under the spelling of a reserved word, so that no name of a program reaches it; and
literals are told from names when they are read.  Both hold of every name but one kind: a property
that an object literal writes without a value takes its value from the variable of the same name, and
a property may have any name.

* `parse_names` — every other name in a program is an identifier.
* `parse_names_receiver` — a name that is none.
-/

namespace ModuleRunner.Script

open Phrase

/-- Every name in an accepted text is an identifier, which a reader finds as such, and stands neither for
a literal nor for the receiver; but a name that is the value of a property of the same name may be
whatever names a property. -/
theorem parse_names {source : String} {body : List Statement} (h : parse source = .ok body)
    {p : Phrase} (hp : Inside body p) {n : String}
    (hn : .expression (.name n) ∈ p.leading ++ p.others) :
    (IsIdentifier n ∧ kinds n.toList = [.name n, .endOfInput] ∧ n ≠ "undefined" ∧ n ≠ "this") ∨
      ∃ properties, p = .expression (.object properties) ∧ (n, .name n) ∈ properties ∧
        ∃ t ∈ tokens source.toList, t.kind.propertyName? = some n := by
  obtain ⟨hne, t, ht, hkind⟩ | ⟨properties, key, rfl, hkey, hmem, t, ht, hproperty⟩ :=
    Built.spelled_of_inside (parse_built h) hp hn
  · have hn : IsIdentifier n := isIdentifier_of_mem_tokens (List.mem_toArray.mp ht) hkind
    exact .inl ⟨hn, hn.kinds_eq, hne, hn.unreserved .thisWord⟩
  · cases hkey
    exact .inr ⟨properties, rfl, hmem, t, List.mem_toArray.mp ht, hproperty⟩

/-- Whether a body is an object literal with one property, and both it and its value are named like the
receiver. -/
def isReceiverShorthand : List Statement → Bool
  | [.expression (.object [(key, .name n)])] => key = "this" && n = "this"
  | _ => false

/-- A name that is spelled like the receiver. -/
theorem parse_names_receiver :
    ∃ body p, parse "({ this })" = .ok body ∧ Inside body p ∧
      .expression (.name "this") ∈ p.leading ++ p.others ∧
      ∃ properties, p = .expression (.object properties) ∧ ("this", .name "this") ∈ properties ∧
        ∃ t ∈ tokens "({ this })".toList, t.kind.propertyName? = some "this" := by
  have hshape : ((parse "({ this })").toOption.any isReceiverShorthand) = true := by
    decide +kernel
  cases hparse : parse "({ this })" with
  | error e => simp [hparse, Except.toOption] at hshape
  | ok body =>
      simp only [hparse, Except.toOption, Option.any_some] at hshape
      unfold isReceiverShorthand at hshape
      split at hshape
      case h_2 => cases hshape
      case h_1 key n =>
        obtain ⟨rfl, rfl⟩ : key = "this" ∧ n = "this" := by simpa using hshape
        have hinside : Inside [.expression (.object [("this", .name "this")])]
            (.expression (.object [("this", .name "this")])) :=
          .other (.statement (List.mem_singleton_self _)) (List.mem_singleton_self _)
        have hname : Phrase.expression (.name "this") ∈
            (Phrase.expression (.object [("this", .name "this")])).leading ++
              (Phrase.expression (.object [("this", .name "this")])).others :=
          List.mem_singleton_self _
        refine ⟨_, _, rfl, hinside, hname, ?_⟩
        exact (parse_names hparse hinside hname).resolve_left fun hidentifier =>
          hidentifier.2.2.2 rfl

end ModuleRunner.Script
