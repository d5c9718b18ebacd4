import Mathlib.Tactic
import ModuleRunner.Proofs.Parsing.Statement

/-!
# How high the tree of an accepted text is

The limit of nesting bounds the tree that the parser builds.  What `nested` and `descend` count is
charged to the phrases that are still to be read: a phrase read at some nesting has only what is left
of the limit for its parts.  The part that a chain of operators, accesses or calls is built around is
read before, though, and its own height is charged to nobody: the chain around it starts with the
full rest of the limit again.  So a phrase that is entered as a leading part costs nothing of the
limit, and on each level of nesting there are eight rules that build a chain, six tiers of operators
and the accesses of a construction and of a linked expression.

The bound on a rule at some nesting is therefore linear in what is left of the limit as far as other
parts go, and quadratic as far as leading ones go.

* `heightBound` — the bound on what nests below a nesting, by what is left of the limit.
* `Level.Bounded` — what the rules of a level yield; `level_bounded` has it for each level.
* `accesses_answers`, `links_answers`, `tierChain_answers` — what a chain adds to what it starts with.
* `parse_height` — the height of an accepted text.
-/

namespace ModuleRunner.Script

/-- The weight of what is read one level of nesting deeper, by what is left of the limit; leading
parts weigh `l` and all other phrases weigh `o`. -/
def heightBound (l o : Nat) : Nat → Nat
  | 0 => 0
  | rest + 1 => heightBound l o rest + (6 * o + 8 * (rest * l))

lemma heightBound_mono {l o : Nat} : Monotone (heightBound l o) :=
  monotone_nat_of_le_succ fun _ => Nat.le_add_right _ _

lemma heightBound_eq (l o : Nat) :
    ∀ rest, heightBound l o rest = 6 * (rest * o) + 4 * (rest * (rest - 1) * l)
  | 0 => by simp [heightBound]
  | 1 => by simp [heightBound]
  | rest + 2 => by
      rw [heightBound, heightBound_eq l o (rest + 1), Nat.add_sub_cancel]
      have h : rest + 2 - 1 = rest + 1 := rfl
      rw [h]
      ring

lemma heightBound_step {l o d : Nat} (hd : d + 1 ≤ maxNesting) :
    heightBound l o (maxNesting - d) =
      heightBound l o (maxNesting - (d + 1)) + (6 * o + 8 * ((maxNesting - (d + 1)) * l)) := by
  have hrest : maxNesting - d = maxNesting - (d + 1) + 1 := by omega
  rw [hrest, heightBound]

/-- What is read deeper has six phrases less to spend. -/
lemma heightBound_deeper {l o d d' : Nat} (hd : d < d') (hlimit : d' ≤ maxNesting) :
    heightBound l o (maxNesting - d') + 6 * o ≤ heightBound l o (maxNesting - d) := by
  have hle : heightBound l o (maxNesting - d') ≤ heightBound l o (maxNesting - (d + 1)) :=
    heightBound_mono (Nat.sub_le_sub_left hd _)
  have hstep := heightBound_step (l := l) (o := o) ((Nat.succ_le_of_lt hd).trans hlimit)
  omega

namespace Parser

open Phrase

variable {tokens : Array Token} {l o : Nat}

/-- What the rules of a level yield at each nesting. -/
structure Bounded (tokens : Array Token) (l o : Nat) (deeper : Level) : Prop where
  parts (d : Nat) : Parts tokens l o (heightBound l o (maxNesting - d)) d deeper
  operand (d : Nat) :
    Yields tokens deeper.operand d (Light l o (heightBound l o (maxNesting - d)))
  construction (d : Nat) :
    Yields tokens deeper.construction d (Light l o (heightBound l o (maxNesting - d)))

/-- One more link around an expression: what stands before it weighs as much more as a leading part
does, and what the link brings is light enough. -/
lemma light_link {object answer : Expression} {w r w' : Nat}
    (hleading : (Phrase.expression answer).leading = [.expression object])
    (hobject : Light l o w object) (hothers : ∀ q ∈ (Phrase.expression answer).others, Within l o r q)
    (hrest : r + o ≤ w) (hw : w + l ≤ w') : Light l o w' answer := by
  refine .of_parts (fun q hq => ⟨w, ?_, hw⟩) hothers (hrest.trans ((Nat.le_add_right _ _).trans hw))
  rw [hleading, List.mem_singleton] at hq
  exact hq ▸ hobject

/-! ## What needs no chain -/

section Rules

variable {deeper : Level} {r d : Nat} (h : Parts tokens l o r d deeper)

include h

lemma arrayLiteral_yields : Yields tokens (arrayLiteral deeper) d (Light l o (r + o)) := by
  refine take_yields.bind fun _ _ => remaining_yields.bind fun _ _ => ?_
  refine (commaList_yields h.expression _ _).bind fun elements helements => ?_
  exact (expect_yields _).bind fun _ _ =>
    .pure (.of_others rfl (List.forall_mem_map.mpr helements) le_rfl)

lemma property_yields : Yields tokens (property deeper) d fun p => Light l o (r + o) p.2 := by
  refine expectProperty_yields.bind fun key _ => (accept_yields _).bind fun _ _ => .ite (fun _ => ?_)
    fun _ => (sees_yields _).bind fun _ _ => .ite (fun _ => ?_) fun _ => .pure ?_
  · exact h.expression.bind fun e he => .pure (he.mono (Nat.le_add_right _ _))
  · exact (functionRest_yields h _).bind fun literal hbody => .pure (light_function hbody)
  · exact .of_leaf rfl rfl (Nat.le_add_left _ _)

lemma objectLiteral_yields : Yields tokens (objectLiteral deeper) d (Light l o (r + 2 * o)) := by
  refine take_yields.bind fun _ _ => remaining_yields.bind fun _ _ => ?_
  refine (commaList_yields (property_yields h) _ _).bind fun properties hproperties => ?_
  refine (expect_yields _).bind fun _ _ => .pure (.of_others (r := r + o) rfl ?_ (by omega))
  exact List.forall_mem_map.mpr hproperties

lemma primary_yields : Yields tokens (primary deeper) d (Light l o (r + 2 * o)) := by
  refine currentKind_yields.bind fun kind _ => ?_
  split
  case h_7 s =>
    refine take_yields.bind fun _ _ => .pure ?_
    split
    all_goals exact .of_leaf rfl rfl (by omega)
  case h_8 =>
    refine take_yields.bind fun _ _ => h.expression.bind fun inner hinner => ?_
    exact (expect_yields _).bind fun _ _ => .pure (hinner.mono (Nat.le_add_right _ _))
  case h_9 => exact (arrayLiteral_yields h).imp fun _ he => he.mono (by omega)
  case h_10 => exact objectLiteral_yields h
  case h_11 =>
    refine take_yields.bind fun _ _ => currentKind_yields.bind fun kind _ => ?_
    split
    · refine take_yields.bind fun _ _ => (functionRest_yields h _).bind fun literal hbody => ?_
      exact .pure ((light_function hbody).mono (by omega))
    · refine (functionRest_yields h _).bind fun literal hbody => ?_
      exact .pure ((light_function hbody).mono (by omega))
  case h_12 | h_13 => exact fail_answers _
  all_goals exact take_yields.bind fun _ _ => .pure (.of_leaf rfl rfl (by omega))

/-! ## Chains of accesses and calls -/

lemma access_yields {object : Expression} {w : Nat} (hobject : Light l o w object) (hw : r + o ≤ w) :
    Yields tokens (access deeper object) d (Light l o (w + l)) := by
  refine (accept_yields _).bind fun _ _ => .ite (fun _ => ?_) fun _ => ?_
  · refine expectProperty_yields.bind fun name _ => .pure ?_
    exact light_link (r := 0) rfl hobject (List.forall_mem_nil _) (by omega) le_rfl
  · refine (expect_yields _).bind fun _ _ => h.expression.bind fun key hkey => ?_
    refine (expect_yields _).bind fun _ _ => .pure (light_link rfl hobject ?_ hw le_rfl)
    exact List.forall_mem_singleton.mpr hkey

end Rules

/-- What a chain has become behind some links: every link has entered one more level of nesting, and
has added no more than a leading part. -/
structure Grown (l o w start d : Nat) (e : Expression) : Prop where
  start_le : start ≤ d
  le_limit : d ≤ maxNesting
  weighs : Light l o (w + (d - start) * l) e

namespace Grown

variable {w start d : Nat} {e answer : Expression}

lemma start_self (hd : d ≤ maxNesting) (he : Light l o w e) : Grown l o w d d e :=
  ⟨le_rfl, hd, by simpa using he⟩

lemma step (h : Grown l o w start d e) (hd : d + 1 ≤ maxNesting)
    (hanswer : Light l o (w + (d - start) * l + l) answer) : Grown l o w start (d + 1) answer := by
  refine ⟨h.start_le.trans (Nat.le_succ d), hd, ?_⟩
  rw [Nat.succ_sub h.start_le, Nat.succ_mul, ← Nat.add_assoc]
  exact hanswer

/-- Where the nesting ends, the chain ends. -/
lemma light (h : Grown l o w start d e) : Light l o (w + (maxNesting - start) * l) e :=
  h.weighs.mono (Nat.add_le_add_left (Nat.mul_le_mul_right _ (Nat.sub_le_sub_right h.le_limit _)) _)

end Grown

section Chains

variable {deeper : Level} (h : Bounded tokens l o deeper) {w start : Nat}
  (hw : heightBound l o (maxNesting - start) + o ≤ w)

include hw

/-- What a link reads one level deeper is light beside the chain before it. -/
lemma Grown.room {d : Nat} {e : Expression} (he : Grown l o w start d e) (hd : d + 1 ≤ maxNesting) :
    heightBound l o (maxNesting - (d + 1)) + o ≤ w + (d - start) * l := by
  have hdeeper : heightBound l o (maxNesting - (d + 1)) + 6 * o ≤ heightBound l o (maxNesting - start) :=
    heightBound_deeper (Nat.lt_succ_of_le he.start_le) hd
  omega

include h

/-- A chain that goes on behind one more access. -/
lemma access_answers {d : Nat} {object : Expression} (hobject : Grown l o w start d object)
    {next : Expression → Parser Expression} {Q : Nat → Expression → Prop}
    (hnext : ∀ answer, Grown l o w start (d + 1) answer → Answers tokens (next answer) (d + 1) Q) :
    Answers tokens (do descend; next (← access deeper object)) d Q := by
  refine descend_answers.bind fun d' _ hd' => ?_
  obtain ⟨rfl, hlimit⟩ := hd'
  refine (access_yields (h.parts _) hobject.weighs (hobject.room hw hlimit)).bind_answers fun answer hanswer => ?_
  exact hnext answer (hobject.step hlimit hanswer)

lemma accesses_answers :
    ∀ bound d object, Grown l o w start d object →
      Answers tokens (accesses deeper object bound) d (Grown l o w start)
  | 0, _, _, _ => fail_answers _
  | bound + 1, d, object, hobject => by
      refine currentKind_yields.bind_answers fun kind _ => ?_
      split
      case h_3 => exact .pure hobject
      all_goals exact access_answers h hw hobject (accesses_answers bound _)

lemma links_answers :
    ∀ bound d object, Grown l o w start d object →
      Answers tokens (links deeper object bound) d (Grown l o w start)
  | 0, _, _, _ => fail_answers _
  | bound + 1, d, object, hobject => by
      refine currentKind_yields.bind_answers fun kind _ => ?_
      split
      case h_4 => exact .pure hobject
      case h_3 =>
        refine descend_answers.bind fun d' _ hd' => ?_
        obtain ⟨rfl, hlimit⟩ := hd'
        refine current_yields.bind_answers fun t _ => ?_
        refine (arguments_yields (h.parts _)).bind_answers fun items hitems => ?_
        refine links_answers bound _ _ (hobject.step hlimit ?_)
        refine light_link rfl hobject.weighs ?_ (hobject.room hw hlimit) le_rfl
        exact List.forall_mem_map.mpr hitems
      all_goals exact access_answers h hw hobject (links_answers bound _)

end Chains

section Rules

variable {deeper : Level} (h : Bounded tokens l o deeper) {d : Nat} (hd : d ≤ maxNesting)

include h hd

lemma construction_yields :
    Yields tokens (construction deeper) d
      (Light l o (heightBound l o (maxNesting - d) + 3 * o + (maxNesting - d) * l)) := by
  refine take_yields.bind fun _ _ => depth_yields.bind fun mark hmark => ?_
  subst hmark
  refine currentKind_yields.bind fun kind _ => ?_
  have hrest (first : Expression)
      (hfirst : Light l o (heightBound l o (maxNesting - mark) + 2 * o) first) :
      Yields tokens (do
        let callee ← accesses deeper first ((← remaining) + 1)
        restoreDepth mark
        if ← sees .leftParen then return .construct callee (← arguments deeper)
        return .construct callee []) mark
        (Light l o (heightBound l o (maxNesting - mark) + 3 * o + (maxNesting - mark) * l)) := by
    refine remaining_yields.bind fun bound _ => ?_
    refine (accesses_answers h (by omega) _ _ _ (.start_self hd hfirst)).bind fun d' callee hcallee => ?_
    refine (restoreDepth_answers mark).bind fun d'' _ hd'' => ?_
    subst hd''
    refine (sees_yields _).bind fun _ _ => .ite (fun _ => ?_) fun _ => .pure ?_
    · refine (arguments_yields (h.parts _)).bind fun items hitems => .pure ?_
      refine .of_others rfl (List.forall_mem_cons.mpr ⟨hcallee.light, ?_⟩) (by omega)
      exact List.forall_mem_map.mpr fun e he => (hitems e he).mono (by omega)
    · exact .of_others rfl (List.forall_mem_singleton.mpr hcallee.light) (by omega)
  refine .ite (fun _ => (h.construction mark).bind fun first hfirst => ?_)
    fun _ => (primary_yields (h.parts mark)).bind hrest
  exact hrest first (hfirst.mono (by omega))

lemma linked_yields :
    Yields tokens (linked deeper) d
      (Light l o (heightBound l o (maxNesting - d) + 3 * o + 2 * ((maxNesting - d) * l))) := by
  refine depth_yields.bind fun mark hmark => ?_
  subst hmark
  refine currentKind_yields.bind fun kind _ => ?_
  have hrest (first : Expression)
      (hfirst : Light l o (heightBound l o (maxNesting - mark) + 3 * o + (maxNesting - mark) * l) first) :
      Yields tokens (do
        let answer ← links deeper first ((← remaining) + 1)
        restoreDepth mark
        return answer) mark
        (Light l o (heightBound l o (maxNesting - mark) + 3 * o + 2 * ((maxNesting - mark) * l))) := by
    refine remaining_yields.bind fun bound _ => ?_
    refine (links_answers h (by omega) _ _ _ (.start_self hd hfirst)).bind fun d' answer hanswer => ?_
    refine (restoreDepth_answers mark).bind fun d'' _ hd'' => .pure ⟨hd'', ?_⟩
    exact hanswer.light.mono (by omega)
  refine .ite (fun _ => (construction_yields h hd).bind hrest)
    fun _ => (primary_yields (h.parts mark)).bind fun first hfirst => ?_
  exact hrest first (hfirst.mono (by omega))

lemma updated_yields :
    Yields tokens (updated deeper) d
      (Light l o (heightBound l o (maxNesting - d) + 4 * o + 2 * ((maxNesting - d) * l))) := by
  refine (linked_yields h hd).bind fun target htarget => current_yields.bind fun t _ => ?_
  have hle : Light l o (heightBound l o (maxNesting - d) + 4 * o + 2 * ((maxNesting - d) * l)) target :=
    htarget.mono (by omega)
  split
  · refine .ite (fun _ => .pure hle) fun _ => .ite (fun _ => fail_bind_answers _) fun _ => ?_
    exact take_yields.bind fun _ _ => .pure (light_around rfl rfl htarget (by omega))
  · exact .pure hle

lemma operand_yields :
    Yields tokens (operand deeper) d
      (Light l o (heightBound l o (maxNesting - d) + 4 * o + 2 * ((maxNesting - d) * l))) := by
  refine currentKind_yields.bind fun kind _ => ?_
  split
  · refine take_yields.bind fun _ _ => (h.operand d).bind fun target htarget => ?_
    refine .ite (fun _ => failBehind_bind_answers _) fun _ => .pure ?_
    exact light_around rfl rfl htarget (by omega)
  · split
    · refine take_yields.bind fun _ _ => (h.operand d).bind fun operand hoperand => .pure ?_
      exact light_around rfl rfl hoperand (by omega)
    · exact updated_yields h hd

end Rules

/-! ## Chains of operators -/

/-- An operator between a leading operand and one other. -/
structure Joins (join : Expression → Expression → Expression) : Prop where
  leading : ∀ left right, (Phrase.expression (join left right)).leading = [.expression left]
  others : ∀ left right, (Phrase.expression (join left right)).others = [.expression right]

/-- The tiers that have such operators only. -/
def JoinsAll (t : Tier) : Prop := ∀ kind join, t.ofKind? kind = some join → Joins join

lemma joinsAll_of_mem_tiers : ∀ t ∈ tiers, JoinsAll t := by
  intro t ht kind join hjoin
  obtain ⟨m, rfl⟩ : ∃ m, kind = .mark m := by
    cases kind <;> first | exact ⟨_, rfl⟩ | cases hjoin
  simp only [tiers, List.mem_cons, List.not_mem_nil, or_false] at ht
  rcases ht with rfl | rfl | rfl | rfl | rfl | rfl
  all_goals
    simp only [Tier.ofKind?] at hjoin
    split at hjoin <;> cases hjoin <;> exact ⟨fun _ _ => rfl, fun _ _ => rfl⟩

lemma tierChain_answers {t : Tier} (ht : JoinsAll t) {stronger : Parser Expression}
    {w rest start : Nat} (hrest : rest + o ≤ w)
    (hstronger : ∀ d, start < d → d ≤ maxNesting → Yields tokens stronger d (Light l o rest)) :
    ∀ bound d left, Grown l o w start d left →
      Answers tokens (tierChain t stronger left bound) d (Grown l o w start)
  | 0, _, _, _ => fail_answers _
  | bound + 1, d, left, hleft => by
      have hnext {join} (hjoin : Joins join) (hlimit : d + 1 ≤ maxNesting) :
          Answers tokens (do tierChain t stronger (join left (← stronger)) bound) (d + 1)
            (Grown l o w start) := by
        refine (hstronger (d + 1) (Nat.lt_succ_of_le hleft.start_le) hlimit).bind_answers
          fun right hright => ?_
        refine tierChain_answers ht hrest hstronger bound _ _ (hleft.step hlimit ?_)
        refine light_link (hjoin.leading left right) hleft.weighs ?_ (hrest.trans (Nat.le_add_right _ _)) le_rfl
        rw [hjoin.others left right]
        exact List.forall_mem_singleton.mpr hright
      refine currentKind_yields.bind_answers fun kind _ => ?_
      split
      · exact .pure hleft
      · next join hkind =>
        split
        · refine take_yields.bind_answers fun _ _ => descend_answers.bind fun d' _ hd' => ?_
          obtain ⟨rfl, hlimit⟩ := hd'
          exact hnext (ht kind join hkind) hlimit
        · refine descend_answers.bind fun d' _ hd' => ?_
          obtain ⟨rfl, hlimit⟩ := hd'
          exact take_yields.bind_answers fun _ _ => hnext (ht kind join hkind) hlimit

section Rules

variable {deeper : Level} (h : Bounded tokens l o deeper)

include h

/-- Each tier adds a chain of its own. -/
lemma tiered_yields :
    ∀ (ts : List Tier), (∀ t ∈ ts, JoinsAll t) → ∀ d ≤ maxNesting,
      Yields tokens (tiered (operand deeper) ts) d (Light l o
        (heightBound l o (maxNesting - d) + 4 * o + (2 + ts.length) * ((maxNesting - d) * l)))
  | [], _, _, hd => operand_yields h hd
  | t :: ts, hts, d, hd => by
      obtain ⟨ht, hts⟩ := List.forall_mem_cons.mp hts
      refine depth_yields.bind fun mark hmark => ?_
      subst hmark
      refine (tiered_yields ts hts mark hd).bind fun first hfirst =>
        remaining_yields.bind fun bound _ => ?_
      have hstronger (d' : Nat) (hlt : mark < d') (hd' : d' ≤ maxNesting) :
          Yields tokens (tiered (operand deeper) ts) d' (Light l o
            (heightBound l o (maxNesting - mark) + 3 * o
              + (2 + ts.length) * ((maxNesting - mark) * l))) := by
        refine (tiered_yields ts hts d' hd').imp fun right hright => hright.mono ?_
        have hbound : heightBound l o (maxNesting - d') + 6 * o ≤ heightBound l o (maxNesting - mark) :=
          heightBound_deeper hlt hd'
        have hlead : (2 + ts.length) * ((maxNesting - d') * l) ≤ (2 + ts.length) * ((maxNesting - mark) * l) := by
          gcongr
        omega
      refine (tierChain_answers ht (by omega) hstronger _ mark first
        (.start_self hd hfirst)).bind fun d' answer hanswer => ?_
      refine (restoreDepth_answers mark).bind fun d'' _ hd'' => .pure ⟨hd'', hanswer.light.mono ?_⟩
      rw [List.length_cons]
      exact le_of_eq (by ring)

variable {d : Nat} (hd : d ≤ maxNesting)

include hd

lemma conditional_yields :
    Yields tokens (conditional deeper) d
      (Light l o (heightBound l o (maxNesting - d) + 5 * o + 8 * ((maxNesting - d) * l))) := by
  refine (tiered_yields h tiers joinsAll_of_mem_tiers d hd).bind fun test htest => ?_
  have htest : Light l o (heightBound l o (maxNesting - d) + 4 * o + 8 * ((maxNesting - d) * l)) test :=
    htest
  refine (accept_yields _).bind fun _ _ => .ite (fun _ => ?_) fun _ => .pure (htest.mono (by omega))
  refine ((h.parts d).expression).bind fun yes hyes => (expect_yields _).bind fun _ _ => ?_
  refine ((h.parts d).expression).bind fun no hno => .pure ?_
  have hle : heightBound l o (maxNesting - d)
      ≤ heightBound l o (maxNesting - d) + 4 * o + 8 * ((maxNesting - d) * l) := by omega
  refine .of_others (r := heightBound l o (maxNesting - d) + 4 * o + 8 * ((maxNesting - d) * l))
    rfl ?_ (by omega)
  exact List.forall_mem_cons.mpr ⟨htest, List.forall_mem_cons.mpr
    ⟨hyes.mono hle, List.forall_mem_singleton.mpr (hno.mono hle)⟩⟩

lemma assignment_yields :
    Yields tokens (assignment deeper) d
      (Light l o (heightBound l o (maxNesting - d) + 6 * o + 8 * ((maxNesting - d) * l))) := by
  refine (conditional_yields h hd).bind fun target htarget => currentKind_yields.bind fun kind _ => ?_
  split
  · exact .pure (htarget.mono (by omega))
  · refine .ite (fun _ => fail_bind_answers _) fun _ => take_yields.bind fun _ _ => ?_
    refine ((h.parts d).expression).bind fun value hvalue => .pure ?_
    have hle : heightBound l o (maxNesting - d)
        ≤ heightBound l o (maxNesting - d) + 5 * o + 8 * ((maxNesting - d) * l) := by omega
    refine .of_others (r := heightBound l o (maxNesting - d) + 5 * o + 8 * ((maxNesting - d) * l))
      rfl ?_ (by omega)
    exact List.forall_mem_cons.mpr ⟨htarget, List.forall_mem_singleton.mpr (hvalue.mono hle)⟩

end Rules

/-! ## Levels and programs -/

lemma level_bounded : ∀ n, Bounded tokens l o (level n)
  | 0 => ⟨fun _ => ⟨fail_answers _, fail_answers _⟩, fun _ => fail_answers _, fun _ => fail_answers _⟩
  | n + 1 => by
    have h : Bounded tokens l o (level n) := level_bounded n
    refine ⟨fun d => ⟨?_, ?_⟩, fun d => ?_, fun d => ?_⟩
    all_goals
      refine nested_yields fun hd => ?_
      have hstep := heightBound_step (l := l) (o := o) hd
    · exact (statement_yields (h.parts (d + 1))).imp fun s hs => hs.mono (by omega)
    · exact (assignment_yields h hd).imp fun e he => he.mono (by omega)
    · exact (operand_yields h hd).imp fun e he => he.mono (by omega)
    · exact (construction_yields h hd).imp fun e he => he.mono (by omega)

/-- Whatever its parts weigh, no statement of a program is heavier than all the nesting allows. -/
lemma program_yields :
    Yields tokens program 0 fun body =>
      ∀ s ∈ body, Within l o (heightBound l o maxNesting) (.statement s) :=
  remaining_yields.bind fun _ _ => sequence_yields ((level_bounded _).parts 0).statement _ _

end Parser

/-- The height of an accepted text.  A chain of statements and expressions down its tree, the bodies
of functions included, has at most six phrases for each level of nesting apart from those that are
entered as the leading part of the phrase above them.  Of these there may be more, since a chain of
operators, accesses or calls is built around what is read already; but their number is bounded too,
by the square of the limit.  Only a tree with few leading parts on each way down is as high as the
limit of nesting has it. -/
theorem parse_height {source : String} {body : List Statement} (h : parse source = .ok body)
    {s : Statement} (hs : s ∈ body) {a b : Nat} (hchain : Phrase.Chain (.statement s) a b) :
    b ≤ 6 * maxNesting ∧ a ≤ 4 * (maxNesting * (maxNesting - 1)) ∧
      (a ≤ 10 * maxNesting → a + b ≤ 16 * maxNesting) := by
  have hwithin (l o : Nat) : Phrase.Within l o (heightBound l o maxNesting) (.statement s) := by
    unfold parse parseTokens at h
    cases hrun : program (tokens source.toList).toArray ⟨0, 0⟩ with
    | error e => simp [hrun] at h
    | ok answer =>
        obtain ⟨body', c'⟩ := answer
        obtain rfl : body' = body := by simpa [hrun] using h
        exact (Parser.program_yields ⟨0, 0⟩ body' c' rfl hrun).2 s hs
  have hb : b ≤ 6 * maxNesting := by
    have := hwithin 0 1 a b hchain
    rw [heightBound_eq] at this
    omega
  have ha : a ≤ 4 * (maxNesting * (maxNesting - 1)) := by
    have := hwithin 1 0 a b hchain
    rw [heightBound_eq] at this
    omega
  exact ⟨hb, ha, fun hfew => by omega⟩

/-- Whether a body is one statement of two accesses, one around the other. -/
def isDoubleAccess : List Statement → Bool
  | [.expression (.member (.member _ _) _)] => true
  | _ => false

/-- Two accesses, one around the other, and the statement around both. -/
theorem parse_height_accesses :
    ∃ s, parse "a.b.c" = .ok [s] ∧ Phrase.Chain (.statement s) 2 2 ∧
      2 ≤ 6 * maxNesting ∧ 2 ≤ 4 * (maxNesting * (maxNesting - 1)) ∧
        (2 ≤ 10 * maxNesting → 2 + 2 ≤ 16 * maxNesting) := by
  have hshape : ((parse "a.b.c").toOption.any isDoubleAccess) = true := by decide +kernel
  cases hparse : parse "a.b.c" with
  | error e => simp [hparse, Except.toOption] at hshape
  | ok body =>
      simp only [hparse, Except.toOption, Option.any_some] at hshape
      unfold isDoubleAccess at hshape
      split at hshape
      case h_2 => cases hshape
      case h_1 =>
        rename_i inner n n'
        have hchain : Phrase.Chain (.statement (.expression (.member (.member inner n) n'))) 2 2 :=
          .other (List.mem_singleton_self _) (.leading (List.mem_singleton_self _)
            (.leading (List.mem_singleton_self _) (.single _)))
        exact ⟨_, rfl, hchain, parse_height hparse (List.mem_singleton_self _) hchain⟩

end ModuleRunner.Script
