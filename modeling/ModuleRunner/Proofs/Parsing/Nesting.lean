import ModuleRunner.Proofs.Parsing.Composition

/-!
# Nesting is left as it was found

The parser counts the levels of nesting that it has entered, and refuses a text that enters too many.  A
rule that answers has left as many levels as it entered, so that what it has read does not count any more:
an item of a list is read at the nesting of the list, however many items are in front of it, and a list is
not too deep for being long.

* `Restores`, `Composed.restores` — rules that leave the nesting they found.
* `Limited`, `Reached` — the nesting of a run, and the cursors that the rules reach over a text.
* `Alike`, `Composed.alike` — the same rule over the same tokens ahead, wherever they stand.
* `IsList`, `Turn` — lists, and where their items start.
* `Row` — statements that are acceptable one by one.
* `nesting_restored` — items are read as if nothing were in front of them.
-/

namespace ModuleRunner.Script

namespace Parser

variable {α β : Type} {climbs : Bool} {text rest : Array Token} {rule : Parser α} {n : Nat}
  {c c' : Cursor}

/-! ## Single steps -/

lemma descend_eq (text : Array Token) (c : Cursor) : descend text c =
    if maxNesting < c.depth + 1 then
      .error ⟨faultAt text c.taken .tooDeep, ⟨c.taken, c.depth + 1⟩⟩
    else .ok ((), ⟨c.taken, c.depth + 1⟩) := by
  show (if maxNesting < c.depth + 1 then (fail .tooDeep : Parser Unit) else pure ()) text
    ⟨c.taken, c.depth + 1⟩ = _
  split <;> rfl

/-- At the limit every rule one level deeper is refused. -/
lemma nested_eq_error (rule : Parser α) (text : Array Token) (h : maxNesting ≤ c.depth) :
    nested rule text c = .error ⟨faultAt text c.taken .tooDeep, ⟨c.taken, c.depth + 1⟩⟩ := by
  refine bind_eq_error.mpr (.inr ⟨c.depth, c, rfl, bind_eq_error.mpr (.inl ?_)⟩)
  rw [descend_eq, if_pos (Nat.lt_succ_of_le h)]

/-! ## The nesting that is left -/

/-- A rule that answers leaves the nesting that it found. -/
def Restores (text : Array Token) (rule : Parser α) : Prop :=
  ∀ c a c', rule text c = .ok (a, c') → c'.depth = c.depth

/-- No rule leaves a level that it has not entered, by induction on what it is composed of. -/
lemma Composed.depth_le (h : Composed climbs rule) {a : α} (hrun : rule text c = .ok (a, c')) :
    c.depth ≤ c'.depth ∧ (climbs = false → c'.depth = c.depth) := by
  induction h generalizing c c' with
  | pure | current | take | remaining =>
      cases hrun
      exact ⟨le_rfl, fun _ => rfl⟩
  | failAt | failBehind => cases hrun
  | descend =>
      rw [descend_eq] at hrun
      split at hrun <;> cases hrun
      exact ⟨Nat.le_succ _, nofun⟩
  | climb _ ih => exact ⟨(ih hrun).1, nofun⟩
  | bind _ _ ih ihnext =>
      obtain ⟨a, c₁, hfirst, hrest⟩ := bind_eq_ok.mp hrun
      obtain ⟨hle, heq⟩ := ih hfirst
      obtain ⟨hle', heq'⟩ := ihnext a hrest
      exact ⟨hle.trans hle', fun hclimbs => (heq' hclimbs).trans (heq hclimbs)⟩
  | @restoring _ rule _ ih =>
      rw [restoring_eq] at hrun
      cases hrule : rule text c <;> rw [hrule] at hrun <;> cases hrun
      exact ⟨le_rfl, fun _ => rfl⟩

lemma Composed.restores (h : Composed false rule) : Restores text rule :=
  fun _ _ _ hrun => (h.depth_le hrun).2 rfl

/-- A run ends within the limit of nesting if it answers, and one level beyond it at most if it refuses. -/
inductive Limited : Except Refusal (α × Cursor) → Prop
  | answered {a : α} {c : Cursor} : c.depth ≤ maxNesting → Limited (.ok (a, c))
  | refused {refusal : Refusal} : refusal.cursor.depth ≤ maxNesting + 1 → Limited (.error refusal)

lemma Limited.bind {o : Except Refusal (α × Cursor)} {next : α × Cursor → Except Refusal (β × Cursor)}
    (h : Limited o) (hnext : ∀ a c, c.depth ≤ maxNesting → Limited (next (a, c))) :
    Limited (o >>= next) := by
  cases h with
  | refused h => exact .refused h
  | answered h => exact hnext _ _ h

/-- The step into a level is the only one that goes beyond the limit, and it is refused there. -/
lemma Composed.limited (h : Composed climbs rule) (hc : c.depth ≤ maxNesting) :
    Limited (rule text c) := by
  induction h generalizing c with
  | pure | current | take | remaining => exact .answered hc
  | failAt | failBehind => exact .refused (hc.trans (Nat.le_succ _))
  | descend =>
      rw [descend_eq]
      split
      · exact .refused (Nat.succ_le_succ hc)
      · next hlimit => exact .answered (Nat.not_lt.mp hlimit)
  | climb _ ih => exact ih hc
  | bind _ _ ih ihnext => exact (ih hc).bind fun a c' hc' => ihnext a hc'
  | restoring _ ih => exact (ih hc).bind fun _ _ _ => .answered hc

/-- The cursors that the rules reach over a text.  All between the steps of a program are among them. -/
inductive Reached (text : Array Token) : Cursor → Prop
  /-- The start of the text. -/
  | start : Reached text ⟨0, 0⟩
  /-- Whatever a rule of some level leaves. -/
  | rule {n : Nat} {α : Type} {seen : Bool} {rule : Parser α} {c c' : Cursor} {a : α} :
      IsRule (level n) seen rule → Reached text c → rule text c = .ok (a, c') → Reached text c'
  /-- Whatever a list or a chain leaves. -/
  | loop {n : Nat} {α : Type} {loop : Nat → Parser α} {bound : Nat} {c c' : Cursor} {a : α} :
      IsLoop (level n) loop → Reached text c → loop bound text c = .ok (a, c') → Reached text c'
  /-- A return to the nesting of an earlier one. -/
  | restored {c c' : Cursor} : Reached text c → Reached text c' → Reached text ⟨c'.taken, c.depth⟩

lemma Limited.depth_le {a : α} (h : Limited (.ok (a, c))) : c.depth ≤ maxNesting := by
  cases h with
  | answered h => exact h

lemma Reached.depth_le (h : Reached text c) : c.depth ≤ maxNesting := by
  induction h with
  | start => exact Nat.zero_le _
  | @rule n α seen rule c c' a hrule _ hrun ih =>
      have hlimited : Limited (rule text c) := ((level_tidy n).rule_climbs hrule).limited ih
      rw [hrun] at hlimited
      exact hlimited.depth_le
  | @loop n α loop bound c c' a hloop _ hrun ih =>
      have hlimited : Limited (loop bound text c) := ((level_tidy n).loop_composed hloop bound).limited ih
      rw [hrun] at hlimited
      exact hlimited.depth_le
  | restored _ _ ih _ => exact ih

/-! ## The tokens ahead -/

/-- The tokens of a text behind `n` of them are those of another. -/
structure Continues (text rest : Array Token) (n : Nat) : Prop where
  token : ∀ i, text.getD (n + i) nowhere = rest.getD i nowhere
  left : ∀ i, text.size - (n + i) = rest.size - i

lemma continues_drop (text : Array Token) (n : Nat) : Continues text (text.drop n) n where
  token i := by
    rw [Array.drop, Array.getD_eq_getD_getElem?, Array.getD_eq_getD_getElem?, Array.getElem?_extract,
      Nat.min_self]
    split
    · rfl
    · rw [Array.getElem?_eq_none (by omega)]
  left i := by
    rw [Array.drop, Array.size_extract]
    omega

/-- Two runs, one of them over the same tokens `n` tokens further on: both answer the same, or both refuse
for the same cause; they take as many tokens and leave the same nesting. -/
inductive Alike (n : Nat) : Except Refusal (α × Cursor) → Except Refusal (α × Cursor) → Prop
  | answered {a : α} {c : Cursor} : Alike n (.ok (a, ⟨n + c.taken, c.depth⟩)) (.ok (a, c))
  | refused {fault fault' : Fault} {c : Cursor} : fault.cause = fault'.cause →
      Alike n (.error ⟨fault, ⟨n + c.taken, c.depth⟩⟩) (.error ⟨fault', c⟩)

lemma Alike.bind {o o' : Except Refusal (α × Cursor)}
    {next next' : α × Cursor → Except Refusal (β × Cursor)} (h : Alike n o o')
    (hnext : ∀ a c, Alike n (next (a, ⟨n + c.taken, c.depth⟩)) (next' (a, c))) :
    Alike n (o >>= next) (o' >>= next') := by
  cases h with
  | refused h => exact .refused h
  | answered => exact hnext _ _

lemma Alike.eq_ok {o : Except Refusal (α × Cursor)} {a : α} (h : Alike n o (.ok (a, c))) :
    o = .ok (a, ⟨n + c.taken, c.depth⟩) := by
  cases h
  rfl

/-- A rule does the same with the same tokens ahead, wherever in a text they stand. -/
lemma Composed.alike (h : Composed climbs rule) (htext : Continues text rest n) (c : Cursor) :
    Alike n (rule text ⟨n + c.taken, c.depth⟩) (rule rest c) := by
  induction h generalizing c with
  | pure => exact .answered
  | current =>
      show Alike n (.ok (text.getD (n + c.taken) nowhere, _)) (.ok (rest.getD c.taken nowhere, c))
      rw [htext.token]
      exact .answered
  | take => exact .answered (c := ⟨c.taken + 1, c.depth⟩)
  | remaining =>
      show Alike n (.ok (text.size - (n + c.taken), _)) (.ok (rest.size - c.taken, c))
      rw [htext.left]
      exact .answered
  -- the token taken last may be another one, but it is refused for the same cause
  | failAt | failBehind => exact .refused rfl
  | descend =>
      rw [descend_eq, descend_eq]
      split
      · exact .refused (c := ⟨c.taken, c.depth + 1⟩) rfl
      · exact .answered (c := ⟨c.taken, c.depth + 1⟩)
  | climb _ ih => exact ih c
  | bind _ _ ih ihnext => exact (ih c).bind fun a c' => ihnext a c'
  | restoring _ ih =>
      rw [restoring_eq, restoring_eq]
      exact (ih c).bind fun _ c' => .answered (c := ⟨c'.taken, c.depth⟩)

/-! ## Items of lists -/

/-- The lists of the grammar, each with the rule for its items and what has to be between two of them. -/
inductive IsList (deeper : Level) : {α : Type} → Parser α → Parser Bool → (Nat → Parser (List α)) → Prop
  | statements (braced : Bool) :
      IsList deeper deeper.statement (pure true) (sequence braced deeper.statement)
  | arguments :
      IsList deeper deeper.expression (accept .comma) (commaList .rightParen deeper.expression)
  | elements :
      IsList deeper deeper.expression (accept .comma) (commaList .rightBracket deeper.expression)
  | properties :
      IsList deeper (property deeper) (accept .comma) (commaList .rightBrace (property deeper))
  | parameters : IsList deeper expectName (accept .comma) (commaChain expectName)
  | declarators (kind : VariableKind) :
      IsList deeper (declarator deeper kind) (accept .comma) (commaChain (declarator deeper kind))

/-- In a list that starts at a cursor, an item starts at another one behind `k` items. -/
inductive Turn (item : Parser α) (between : Parser Bool) (text : Array Token) (c : Cursor) :
    Nat → Cursor → Prop
  /-- The first item. -/
  | first : Turn item between text c 0 c
  /-- The next one. -/
  | next {k : Nat} {c₁ c₂ c₃ : Cursor} {a : α} : Turn item between text c k c₁ →
      item text c₁ = .ok (a, c₂) → between text c₂ = .ok (true, c₃) → Turn item between text c (k + 1) c₃

section Items

variable {item : Parser α} {between : Parser Bool} {k : Nat} {c₁ c₂ c₃ : Cursor} {refusal : Refusal} {a : α}

lemma Turn.depth_eq (hitem : Restores text item) (hbetween : Restores text between)
    (h : Turn item between text c k c₁) : c₁.depth = c.depth := by
  induction h with
  | first => rfl
  | next _ hrun hnext ih => exact ((hbetween _ _ _ hnext).trans (hitem _ _ _ hrun)).trans ih

/-- Behind the first item of a list, the turns are those of the list that is left. -/
lemma Turn.behind (hrun : item text c = .ok (a, c₂)) (hnext : between text c₂ = .ok (true, c₃))
    (h : Turn item between text c₃ k c₁) : Turn item between text c (k + 1) c₁ := by
  induction h with
  | first => exact .next .first hrun hnext
  | next _ hrun' hnext' ih => exact .next ih hrun' hnext'

/-- An item of a list is refused where it starts. -/
def RefusedAt (item : Parser α) (between : Parser Bool) (text : Array Token) (c : Cursor)
    (refusal : Refusal) : Prop :=
  ∃ k c₁, Turn item between text c k c₁ ∧ item text c₁ = .error refusal

lemma RefusedAt.behind (hrun : item text c = .ok (a, c₂)) (hnext : between text c₂ = .ok (true, c₃))
    (h : RefusedAt item between text c₃ refusal) : RefusedAt item between text c refusal := by
  obtain ⟨k, c₁, hturn, hitem⟩ := h
  exact ⟨k + 1, c₁, hturn.behind hrun hnext, hitem⟩

lemma fail_eq_error {cause : Cause} (h : (fail cause : Parser α) text c = .error refusal) :
    refusal.fault.cause = cause := by
  cases h
  rfl

lemma sees_eq (m : Mark) (text : Array Token) (c : Cursor) :
    sees m text c = .ok (decide ((text.getD c.taken nowhere).kind = .mark m), c) := rfl

/-- Whether a mark is ahead is never refused. -/
lemma accept_eq (m : Mark) (text : Array Token) (c : Cursor) : accept m text c =
    if (text.getD c.taken nowhere).kind = .mark m then .ok (true, ⟨c.taken + 1, c.depth⟩)
    else .ok (false, c) := by
  show (if decide ((text.getD c.taken nowhere).kind = .mark m) then
    (do take; return true : Parser Bool) else return false) text c = _
  simp only [decide_eq_true_eq]
  split <;> rfl

lemma accept_ne_error (m : Mark) : accept m text c ≠ .error refusal := by
  rw [accept_eq]
  split <;> exact nofun

lemma sequence_refusedAt {braced : Bool} {bound : Nat} (hcause : refusal.fault.cause = .tooDeep)
    (h : sequence braced item bound text c = .error refusal) :
    RefusedAt item (pure true) text c refusal := by
  induction bound generalizing c with
  | zero => rw [fail_eq_error h] at hcause; cases hcause
  | succ bound ih =>
      obtain h | ⟨kind, _, hkind, h⟩ := bind_eq_error.mp h
      · cases h
      cases hkind
      split at h
      · cases h
      obtain hitem | ⟨first, c₂, hrun, h⟩ := bind_eq_error.mp h
      · exact ⟨0, c, .first, hitem⟩
      obtain h | ⟨_, _, _, h⟩ := bind_eq_error.mp h
      · exact (ih h).behind hrun rfl
      · cases h

lemma refusedAt_of_commas {more : Parser (List α)}
    (hmore : ∀ {c}, more text c = .error refusal → RefusedAt item (accept .comma) text c refusal)
    (h : (do
      let first ← item
      if ← accept .comma then return first :: (← more)
      return [first]) text c = .error refusal) : RefusedAt item (accept .comma) text c refusal := by
  obtain hitem | ⟨first, c₂, hrun, h⟩ := bind_eq_error.mp h
  · exact ⟨0, c, .first, hitem⟩
  obtain h | ⟨goes, c₃, hnext, h⟩ := bind_eq_error.mp h
  · exact absurd h (accept_ne_error _)
  cases goes with
  | false => cases h
  | true =>
      obtain h | ⟨_, _, _, h⟩ := bind_eq_error.mp h
      · exact (hmore h).behind hrun hnext
      · cases h

lemma commaList_refusedAt {close : Mark} {bound : Nat} (hcause : refusal.fault.cause = .tooDeep)
    (h : commaList close item bound text c = .error refusal) :
    RefusedAt item (accept .comma) text c refusal := by
  induction bound generalizing c with
  | zero => rw [fail_eq_error h] at hcause; cases hcause
  | succ bound ih =>
      obtain h | ⟨closed, _, hclosed, h⟩ := bind_eq_error.mp h
      · cases h
      cases hclosed
      split at h
      · cases h
      · exact refusedAt_of_commas ih h

lemma commaChain_refusedAt {bound : Nat} (hcause : refusal.fault.cause = .tooDeep)
    (h : commaChain item bound text c = .error refusal) :
    RefusedAt item (accept .comma) text c refusal := by
  induction bound generalizing c with
  | zero => rw [fail_eq_error h] at hcause; cases hcause
  | succ bound ih => exact refusedAt_of_commas ih h

end Items

section Lists

variable {deeper : Level} {item : Parser α} {between : Parser Bool} {loop : Nat → Parser (List α)}

lemma IsList.composed (hlist : IsList deeper item between loop) (h : Tidy deeper) :
    Composed false item ∧ Composed false between ∧ ∀ bound, Composed false (loop bound) := by
  cases hlist with
  | statements braced => exact ⟨h.statement, .pure true, sequence_composed h.statement braced⟩
  | arguments | elements =>
      exact ⟨h.expression, accept_composed _, commaList_composed h.expression _⟩
  | properties => exact ⟨h.property_composed, accept_composed _, commaList_composed h.property_composed _⟩
  | parameters => exact ⟨expectName_composed, accept_composed _, commaChain_composed expectName_composed⟩
  | declarators kind =>
      have hitem := h.declarator_composed kind
      exact ⟨hitem, accept_composed _, commaChain_composed hitem⟩

/-- A list is not refused for nesting unless an item of it is. -/
lemma IsList.refusedAt (hlist : IsList deeper item between loop) {bound : Nat} {refusal : Refusal}
    (hcause : refusal.fault.cause = .tooDeep) (h : loop bound text c = .error refusal) :
    RefusedAt item between text c refusal := by
  cases hlist with
  | statements => exact sequence_refusedAt hcause h
  | arguments | elements | properties => exact commaList_refusedAt hcause h
  | parameters | declarators => exact commaChain_refusedAt hcause h

/-- An item is read where it starts as it is read alone, from its first token on, at the nesting of the
list: what is in front of it makes no difference. -/
lemma IsList.alike (hlist : IsList deeper item between loop) (h : Tidy deeper) {k : Nat} {c₁ : Cursor}
    (hturn : Turn item between text c k c₁) : c₁.depth = c.depth ∧
      Alike c₁.taken (item text c₁) (item (text.drop c₁.taken) ⟨0, c.depth⟩) := by
  obtain ⟨hitem, hbetween, -⟩ := hlist.composed h
  have hdepth := hturn.depth_eq hitem.restores hbetween.restores
  refine ⟨hdepth, ?_⟩
  rw [← hdepth]
  exact hitem.alike (continues_drop text c₁.taken) ⟨0, c₁.depth⟩

end Lists

/-! ## Lists of acceptable statements -/

/-- Whether a list of statements ends in front of a token. -/
def endsList (braced : Bool) (kind : Kind) : Bool :=
  kind = .endOfInput || (braced && kind = .mark .rightBrace)

/-- Behind `i` tokens of a text stand items that are acceptable one by one, each alone from its first token
on and at the nesting `d`, up to a token at `j` that ends the list. -/
inductive Row (braced : Bool) (item : Parser α) (text : Array Token) (d : Nat) :
    Nat → List α → Nat → Prop
  /-- The end of the list. -/
  | nil {i : Nat} : endsList braced (text.getD i nowhere).kind = true → Row braced item text d i [] i
  /-- An item, and those behind it. -/
  | cons {i j size depth : Nat} {a : α} {as : List α} :
      endsList braced (text.getD i nowhere).kind = false →
      item (text.drop i) ⟨0, d⟩ = .ok (a, ⟨size, depth⟩) → Row braced item text d (i + size) as j →
      Row braced item text d i (a :: as) j

section Rows

variable {braced : Bool} {item : Parser α} {d i j : Nat} {as : List α}

lemma sequence_succ (braced : Bool) (item : Parser α) (bound : Nat) (text : Array Token) (c : Cursor) :
    sequence braced item (bound + 1) text c =
      if endsList braced (text.getD c.taken nowhere).kind then .ok ([], c)
      else item text c >>= fun run => sequence braced item bound text run.2 >>= fun more =>
        .ok (run.1 :: more.1, more.2) := by
  show (if endsList braced (text.getD c.taken nowhere).kind then return []
    else do
      let first ← item
      return first :: (← sequence braced item bound) : Parser (List α)) text c = _
  split <;> rfl

/-- Behind an item that is accepted, a list goes on. -/
lemma sequence_cons {bound : Nat} {a : α} (hgoes : endsList braced (text.getD c.taken nowhere).kind = false)
    (hrun : item text c = .ok (a, c')) : sequence braced item (bound + 1) text c =
      sequence braced item bound text c' >>= fun more => .ok (a :: more.1, more.2) := by
  rw [sequence_succ, hgoes, if_neg Bool.false_ne_true, hrun]
  rfl

/-- Nothing but the rounds that it is allowed can cut off a list of acceptable items. -/
lemma Row.sequence_eq (h : Row braced item text d i as j) (hitem : Composed false item) (bound : Nat) :
    sequence braced item bound text ⟨i, d⟩ = .ok (as, ⟨j, d⟩) ∨
      ∃ refusal, sequence braced item bound text ⟨i, d⟩ = .error refusal ∧
        refusal.fault.cause = .stalled := by
  induction h generalizing bound with
  | nil hends =>
      cases bound with
      | zero => exact .inr ⟨_, rfl, rfl⟩
      | succ bound =>
          left
          rw [sequence_succ, if_pos hends]
  | @cons i j size depth a as hgoes hrun _ ih =>
      cases bound with
      | zero => exact .inr ⟨_, rfl, rfl⟩
      | succ bound =>
          -- what the item does alone it does here too, and then the list is at `d` again
          obtain rfl : depth = d := hitem.restores _ _ _ hrun
          have halike := hitem.alike (continues_drop text i) ⟨0, depth⟩
          rw [hrun] at halike
          have hfirst : item text ⟨i, depth⟩ = .ok (a, ⟨i + size, depth⟩) := halike.eq_ok
          rw [sequence_cons hgoes hfirst]
          obtain hrest | ⟨refusal, hrest, hcause⟩ := ih bound
          · rw [hrest]
            exact .inl rfl
          · rw [hrest]
            exact .inr ⟨refusal, rfl, hcause⟩

end Rows

/-- A list of acceptable statements in a text is accepted, however long it is: it is never cut off, since it
is allowed a round for each token ahead, and one more. -/
lemma Row.accepted {source : List Char} {n bound : Nat} {braced : Bool} {as : List Statement} {j : Nat}
    (h : Row braced (level n).statement (tokens source).toArray c.depth c.taken as j)
    (hc : Inside (tokens source).toArray c) (hbound : (tokens source).toArray.size - c.taken < bound) :
    sequence braced (level n).statement bound (tokens source).toArray c = .ok (as, ⟨j, c.depth⟩) := by
  obtain hok | ⟨refusal, hrun, hcause⟩ := h.sequence_eq (level_tidy n).statement bound
  · exact hok
  · obtain ⟨e, hlength, hlast, -⟩ := exists_last source
    obtain ⟨hforwards, hlate⟩ := loop_forwards source n (.statements braced) bound hc
    have hcut := hlate refusal hrun hcause
    have hinside := hforwards.inside e hlast
    rw [hrun] at hinside
    have hend : refusal.cursor.taken ≤ e := hinside
    rw [List.size_toArray, hlength] at hbound
    omega

/-! ## Nesting -/

/-- **Nesting is restored.**  Every rule that answers leaves the nesting that it found, but for the step
into a level, which is there to enter one; so does every list, and a whole text.  The rounds of a chain of
accesses, calls or operators leave what they enter to the rule around them, which is one of those and
returns to the nesting before the chain.  Wherever the rules get to over a text, no more than `maxNesting`
levels are entered, and a rule that is refused there has entered one more at most.

So an item of a list starts at the nesting of the list, however many are in front of it, and is accepted or
refused as it is alone, from its first token on.  A list is refused for nesting only where an item of it is:
statements that are acceptable one by one are accepted as a list of any length, and as a text. -/
theorem nesting_restored (source : String) :
    let text := (tokens source.toList).toArray
    (∀ n {α : Type} (seen : Bool) (rule : Parser α), IsRule (level n) seen rule → ¬ IsDescent rule →
      Restores text rule) ∧
    (∀ n {α : Type} (item : Parser α) (between : Parser Bool) (loop : Nat → Parser (List α)) (bound : Nat),
      IsList (level n) item between loop → Restores text (loop bound)) ∧
    Restores text program ∧
    (∀ c, Reached text c → c.depth ≤ maxNesting ∧
      (∀ n {α : Type} (seen : Bool) (rule : Parser α), IsRule (level n) seen rule →
        Limited (rule text c)) ∧
      (∀ n {α : Type} (loop : Nat → Parser α) (bound : Nat), IsLoop (level n) loop →
        Limited (loop bound text c)) ∧
      Limited (program text c)) ∧
    (∀ n {α : Type} (item : Parser α) (between : Parser Bool) (loop : Nat → Parser (List α)) (c : Cursor),
      IsList (level n) item between loop →
      (∀ k c₁, Turn item between text c k c₁ → c₁.depth = c.depth ∧
        Alike c₁.taken (item text c₁) (item (text.drop c₁.taken) ⟨0, c.depth⟩)) ∧
      ∀ bound refusal, loop bound text c = .error refusal → refusal.fault.cause = .tooDeep →
        RefusedAt item between text c refusal) ∧
    (∀ n braced c as j bound, Row braced (level n).statement text c.depth c.taken as j → Inside text c →
      text.size - c.taken < bound →
      sequence braced (level n).statement bound text c = .ok (as, ⟨j, c.depth⟩)) ∧
    ∀ body j, Row false (level (maxNesting + 1)).statement text 0 0 body j → parse source = .ok body := by
  intro text
  refine ⟨?_, ?_, program_composed.restores, ?_, ?_, ?_, ?_⟩
  · intro n _ _ _ hrule hdescent
    exact ((level_tidy n).rule_composed hrule hdescent).restores
  · intro n _ item between loop bound hlist
    obtain ⟨-, -, hloop⟩ := hlist.composed (level_tidy n)
    exact (hloop bound).restores
  · intro c hc
    have hdepth := hc.depth_le
    refine ⟨hdepth, ?_, ?_, program_composed.limited hdepth⟩
    · intro n _ _ _ hrule
      exact ((level_tidy n).rule_climbs hrule).limited hdepth
    · intro n _ _ bound hloop
      exact ((level_tidy n).loop_composed hloop bound).limited hdepth
  · intro n _ item between loop c hlist
    refine ⟨?_, ?_⟩
    · intro k c₁ hturn
      exact hlist.alike (level_tidy n) hturn
    · intro bound refusal hrun hcause
      exact hlist.refusedAt hcause hrun
  · intro n braced c as j bound hrow hc hbound
    exact hrow.accepted hc hbound
  · intro body j hrow
    have hprogram : program text ⟨0, 0⟩ = .ok (body, ⟨j, 0⟩) :=
      Row.accepted (c := ⟨0, 0⟩) hrow (fun _ _ => Nat.zero_le _) (Nat.lt_succ_self _)
    rw [parse, parseTokens, hprogram]

lemma exists_answer {o : Except Refusal (α × Cursor)} (h : (o.isOk && decide (halt o = c)) = true) :
    ∃ a, o = .ok (a, c) := by
  obtain ⟨hok, hhalt⟩ := Bool.and_eq_true_iff.mp h
  obtain rfl := of_decide_eq_true hhalt
  cases o with
  | error refusal => cases hok
  | ok run => exact ⟨run.1, rfl⟩

/-- Two statements with chains of accesses and calls, and in the first an argument behind another one.  With
no level left, the first argument is refused, and so are the arguments. -/
theorem nesting_restored_behind_accesses :
    let text := (tokens "f(a.b, c); d.e".toList).toArray
    Restores text (block (level 3)) ∧
    Restores text (commaList .rightParen (level 3).expression 2) ∧
    Limited (descend text ⟨0, 0⟩) ∧
    Alike 6 ((level 3).expression text ⟨6, 7⟩) ((level 3).expression (text.drop 6) ⟨0, 7⟩) ∧
    (∃ refusal, RefusedAt (level 3).expression (accept .comma) text ⟨2, maxNesting⟩ refusal) ∧
    ∃ body, sequence false (level (maxNesting + 1)).statement 14 text ⟨0, 0⟩ =
        .ok (body, ⟨12, 0⟩) ∧
      parse "f(a.b, c); d.e" = .ok body ∧ body.length = 2 := by
  obtain ⟨hrules, hlists, -, hreached, hitems, hrows, htexts⟩ := nesting_restored "f(a.b, c); d.e"
  have hblock : ¬ IsDescent (block (level 3)) := by
    rintro ⟨hunit, -⟩
    have hone : Subsingleton (List Statement) := hunit ▸ inferInstance
    cases hone.elim [] [.empty]
  refine ⟨hrules 3 _ _ .block hblock, hlists 3 _ _ _ 2 .arguments, (hreached _ .start).2.1 0 _ _ .descend,
    ?_, ?_, ?_⟩
  · obtain ⟨a, hfirst⟩ : ∃ a, (level 3).expression (tokens "f(a.b, c); d.e".toList).toArray ⟨2, 7⟩ =
        .ok (a, ⟨5, 7⟩) := exists_answer (by decide +kernel)
    have hcomma : accept .comma (tokens "f(a.b, c); d.e".toList).toArray ⟨5, 7⟩ =
        .ok (true, ⟨6, 7⟩) := by
      rw [accept_eq, if_pos (by decide +kernel)]
    exact ((hitems 3 _ _ _ ⟨2, 7⟩ .arguments).1 1 ⟨6, 7⟩ (.next .first hfirst hcomma)).2
  · have hitem := nested_eq_error (c := ⟨2, maxNesting⟩) (assignment (level 2))
      (tokens "f(a.b, c); d.e".toList).toArray le_rfl
    have hopen : sees .rightParen (tokens "f(a.b, c); d.e".toList).toArray ⟨2, maxNesting⟩ =
        .ok (false, ⟨2, maxNesting⟩) := by
      rw [sees_eq, decide_eq_false (by decide +kernel)]
    have hlist : commaList .rightParen (level 3).expression 1 (tokens "f(a.b, c); d.e".toList).toArray
        ⟨2, maxNesting⟩ = .error _ :=
      bind_eq_error.mpr (.inr ⟨false, _, hopen, bind_eq_error.mpr (.inl hitem)⟩)
    exact ⟨_, (hitems 3 _ _ _ _ .arguments).2 _ _ hlist rfl⟩
  · obtain ⟨first, hfirst⟩ : ∃ s, (level (maxNesting + 1)).statement
        ((tokens "f(a.b, c); d.e".toList).toArray.drop 0) ⟨0, 0⟩ = .ok (s, ⟨9, 0⟩) :=
      exists_answer (by decide +kernel)
    obtain ⟨second, hsecond⟩ : ∃ s, (level (maxNesting + 1)).statement
        ((tokens "f(a.b, c); d.e".toList).toArray.drop (0 + 9)) ⟨0, 0⟩ = .ok (s, ⟨3, 0⟩) :=
      exists_answer (by decide +kernel)
    have hrow : Row false (level (maxNesting + 1)).statement (tokens "f(a.b, c); d.e".toList).toArray 0 0
        [first, second] 12 :=
      .cons (by decide +kernel) hfirst (.cons (by decide +kernel) hsecond (.nil (by decide +kernel)))
    have hsequence := hrows _ _ ⟨0, 0⟩ _ _ 14 hrow (fun _ _ => Nat.zero_le _) (by decide +kernel)
    exact ⟨_, hsequence, htexts _ _ hrow, rfl⟩

end Parser

end ModuleRunner.Script
