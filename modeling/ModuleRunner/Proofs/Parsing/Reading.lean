import ModuleRunner.Proofs.Lexing.Kinds
import ModuleRunner.Proofs.Parsing.Rule

/-!
# What rules of the grammar read

Seen from the text, a rule of the grammar takes the tokens of a phrase and answers the phrase, if
there is room for its nesting.  What a rule answers depends on the kinds of the tokens ahead, the one
behind the phrase included: that token has to end it.

* `Parser.ahead` — the kinds of the tokens ahead.
* `Parser.Reads` — the tokens that a rule takes, what is behind them, and the answer.
* `Parser.Ending` — what ends an expression.
* `commaList_reads`, `bracketed_reads` — lists of whatever an item reads, and their brackets.
* `Parser.Passes` — the same, with the nesting left behind not told.
* `assignment_reads` — an operand alone is an expression.
* `parse_of_reads` — what a text is parsed to.
-/

namespace ModuleRunner.Script

namespace Parser

variable {α β : Type} {x : Parser α} {f : α → Parser β} {room : Nat} {k : Kind}
  {ks ls rest : List Kind} {a : α} {b : β}

/-- The kinds of the tokens ahead. -/
def ahead (tokens : Array Token) (c : Cursor) : List Kind :=
  (tokens.toList.drop c.taken).map Token.kind

/-- With `ks` ahead and `rest` behind it, a rule takes `ks` and answers `a`.  It needs room for some
more levels of nesting and leaves the nesting it found. -/
def Reads (rule : Parser α) (room : Nat) (ks rest : List Kind) (a : α) : Prop :=
  ∀ tokens c, ahead tokens c = ks ++ rest → c.depth + room ≤ maxNesting →
    rule tokens c = .ok (a, ⟨c.taken + ks.length, c.depth⟩)

/-- The same for a rule that may leave a nesting of its own behind. -/
def Passes (rule : Parser α) (room : Nat) (ks rest : List Kind) (a : α) : Prop :=
  ∀ tokens c, ahead tokens c = ks ++ rest → c.depth + room ≤ maxNesting →
    ∃ d, rule tokens c = .ok (a, ⟨c.taken + ks.length, d⟩)

lemma ahead_taken {tokens : Array Token} {c : Cursor} (h : ahead tokens c = ks ++ rest) (d : Nat) :
    ahead tokens ⟨c.taken + ks.length, d⟩ = rest := by
  have hdrop := congrArg (List.drop ks.length) h
  rw [List.drop_left, ahead, ← List.map_drop, List.drop_drop] at hdrop
  exact hdrop

lemma kind_getD {tokens : Array Token} {c : Cursor} (h : ahead tokens c = k :: rest) :
    (tokens.getD c.taken nowhere).kind = k := by
  cases hdrop : tokens.toList.drop c.taken with
  | nil => simp [ahead, hdrop] at h
  | cons t ts =>
      have htoken : tokens[c.taken]? = some t := by
        rw [← Array.getElem?_toList, ← List.head?_drop, hdrop]
        rfl
      rw [Array.getD_eq_getD_getElem?, htoken]
      simp only [ahead, hdrop, List.map_cons, List.cons.injEq] at h
      exact h.1

/-! ## Rules one after another -/

namespace Reads

lemma mono {room' : Nat} (h : Reads x room ks rest a) (hroom : room ≤ room') :
    Reads x room' ks rest a :=
  fun tokens c hahead hlimit => h tokens c hahead (by omega)

lemma bind (hx : Reads x room ks (ls ++ rest) a) (hf : Reads (f a) room ls rest b) :
    Reads (x >>= f) room (ks ++ ls) rest b := by
  intro tokens c hahead hlimit
  rw [List.append_assoc] at hahead
  refine bind_eq_ok.mpr ⟨a, _, hx tokens c hahead hlimit, ?_⟩
  rw [hf tokens _ (ahead_taken hahead c.depth) hlimit, List.length_append, Nat.add_assoc]

/-- A rule that takes a single token, and then another one. -/
lemma step (hx : Reads x room [k] (ls ++ rest) a) (hf : Reads (f a) room ls rest b) :
    Reads (x >>= f) room (k :: ls) rest b :=
  bind hx hf

/-- A rule that takes no token, and then another one. -/
lemma peek (hx : Reads x room [] (ls ++ rest) a) (hf : Reads (f a) room ls rest b) :
    Reads (x >>= f) room ls rest b :=
  bind hx hf

/-- A rule, and then another one that takes no token. -/
lemma finish (hx : Reads x room ks rest a) (hf : Reads (f a) room [] rest b) :
    Reads (x >>= f) room ks rest b :=
  List.append_nil ks ▸ bind hx hf

/-- A rule whose answer is made from that of another one. -/
lemma answer {g : α → β} (hx : Reads x room ks rest a) :
    Reads (x >>= fun a => pure (g a)) room ks rest (g a) := by
  intro tokens c hahead hlimit
  exact bind_eq_ok.mpr ⟨a, _, hx tokens c hahead hlimit, rfl⟩

lemma pure (room : Nat) (rest : List Kind) (a : α) : Reads (pure a) room [] rest a :=
  fun _ _ _ _ => rfl

/-- A rule behind the token ahead, of which only the kind is known. -/
lemma current {f : Token → Parser β} (hahead : ls ++ rest = k :: ks)
    (hf : ∀ t, t.kind = k → Reads (f t) room ls rest b) :
    Reads (Script.current >>= f) room ls rest b := by
  intro tokens c h hlimit
  exact bind_eq_ok.mpr ⟨_, c, rfl, hf _ (kind_getD (h.trans hahead)) tokens c h hlimit⟩

end Reads

lemma descend_eq_ok {tokens : Array Token} {c : Cursor} (h : c.depth + 1 ≤ maxNesting) :
    descend tokens c = .ok ((), ⟨c.taken, c.depth + 1⟩) := by
  refine bind_eq_ok.mpr ⟨c.depth, c, rfl, bind_eq_ok.mpr ⟨(), ⟨c.taken, c.depth + 1⟩, rfl, ?_⟩⟩
  refine bind_eq_ok.mpr ⟨c.depth + 1, _, rfl, ?_⟩
  rw [if_neg (Nat.not_lt.mpr h)]
  rfl

/-- A rule one level of nesting deeper. -/
lemma Reads.nested (hx : Reads x room ks rest a) :
    Reads (Script.nested x) (room + 1) ks rest a := by
  intro tokens c hahead hlimit
  have hdescend : descend tokens c = .ok ((), ⟨c.taken, c.depth + 1⟩) := descend_eq_ok (by omega)
  refine bind_eq_ok.mpr ⟨c.depth, c, rfl, bind_eq_ok.mpr ⟨(), _, hdescend, ?_⟩⟩
  have hroom : c.depth + 1 + room ≤ maxNesting := by omega
  exact bind_eq_ok.mpr ⟨a, _, hx tokens ⟨c.taken, c.depth + 1⟩ hahead hroom, rfl⟩

namespace Passes

lemma mono {room' : Nat} (h : Passes x room ks rest a) (hroom : room ≤ room') :
    Passes x room' ks rest a :=
  fun tokens c hahead hlimit => h tokens c hahead (by omega)

lemma of_reads (h : Reads x room ks rest a) : Passes x room ks rest a :=
  fun tokens c hahead hlimit => ⟨_, h tokens c hahead hlimit⟩

lemma behind (hx : Reads x room ks (ls ++ rest) a) (hf : Passes (f a) room ls rest b) :
    Passes (x >>= f) room (ks ++ ls) rest b := by
  intro tokens c hahead hlimit
  rw [List.append_assoc] at hahead
  obtain ⟨d, hrest⟩ := hf tokens _ (ahead_taken hahead c.depth) hlimit
  refine ⟨d, bind_eq_ok.mpr ⟨a, _, hx tokens c hahead hlimit, ?_⟩⟩
  rw [hrest, List.length_append, Nat.add_assoc]

lemma peek (hx : Reads x room [] (ls ++ rest) a) (hf : Passes (f a) room ls rest b) :
    Passes (x >>= f) room ls rest b :=
  behind hx hf

lemma step (hx : Reads x room [k] (ls ++ rest) a) (hf : Passes (f a) room ls rest b) :
    Passes (x >>= f) room (k :: ls) rest b :=
  behind hx hf

/-- One more level of nesting, and then a rule. -/
lemma descend {f : Unit → Parser α} (hf : Passes (f ()) room ks rest a) :
    Passes (Script.descend >>= f) (room + 1) ks rest a := by
  intro tokens c hahead hlimit
  have hroom : c.depth + 1 + room ≤ maxNesting := by omega
  obtain ⟨d, hrest⟩ := hf tokens ⟨c.taken, c.depth + 1⟩ hahead hroom
  exact ⟨d, bind_eq_ok.mpr ⟨(), _, descend_eq_ok (by omega), hrest⟩⟩

/-- A rule with the nesting restored behind it. -/
lemma restoring (hx : Passes x room ks rest a) : Reads (Parser.restoring x) room ks rest a := by
  intro tokens c hahead hlimit
  obtain ⟨d, hrun⟩ := hx tokens c hahead hlimit
  exact bind_eq_ok.mpr ⟨c.depth, c, rfl, bind_eq_ok.mpr ⟨a, _, hrun, rfl⟩⟩

end Passes

/-! ## Single tokens -/

lemma currentKind_reads : Reads currentKind room [] (k :: rest) k :=
  .current rfl fun _ ht => ht ▸ .pure _ _ _

lemma take_reads : Reads take room [k] rest () := fun _ _ _ _ => rfl

lemma remaining_reads : Reads remaining room [] rest rest.length := by
  intro tokens c hahead _
  have hlength := congrArg List.length hahead
  simp only [ahead, List.length_map, List.length_drop, Array.length_toList,
    List.nil_append] at hlength
  exact hlength ▸ rfl

lemma sees_reads (m : Mark) : Reads (sees m) room [] (k :: rest) (k = .mark m) :=
  .answer currentKind_reads

lemma accept_reads (m : Mark) : Reads (accept m) room [.mark m] rest true :=
  .peek (sees_reads m) <| by
    rw [if_pos (decide_eq_true rfl)]
    exact .step take_reads (.pure _ _ _)

lemma accept_reads_other {m : Mark} (h : k ≠ .mark m) :
    Reads (accept m) room [] (k :: rest) false :=
  .peek (sees_reads m) <| by
    rw [if_neg (by simpa using h)]
    exact .pure _ _ _

lemma expect_reads (m : Mark) : Reads (expect m) room [.mark m] rest () :=
  .peek (sees_reads m) <| by
    rw [if_pos (decide_eq_true rfl)]
    exact take_reads

lemma expectProperty_reads {s : String} (h : k.propertyName? = some s) :
    Reads expectProperty room [k] rest s := by
  refine .peek currentKind_reads ?_
  rw [h]
  exact .step take_reads (.pure _ _ _)

/-- A statement needs no semicolon in front of the end of input. -/
lemma endStatement_reads : Reads endStatement room [] (.endOfInput :: rest) () := by
  refine .peek (accept_reads_other nofun) ?_
  rw [if_neg Bool.false_ne_true]
  have hend : Reads atStatementEnd room [] (.endOfInput :: rest) true := by
    refine .current rfl fun t ht => ?_
    rw [ht]
    exact .pure _ _ _
  exact .peek hend (.pure _ _ _)

/-! ## What ends an expression -/

/-- The kinds of tokens that end an expression. -/
def enders : List Kind :=
  [.mark .comma, .mark .rightParen, .mark .rightBracket, .mark .rightBrace, .endOfInput]

/-- What is ahead starts with a token that ends an expression. -/
def Ending (rest : List Kind) : Prop := ∃ k ∈ enders, ∃ more, rest = k :: more

/-- Whether no operand goes on with a token: no access, no call and no update starts with it. -/
def endsOperand : Kind → Bool
  | .mark .dot | .mark .leftBracket | .mark .leftParen | .mark .plusPlus | .mark .minusMinus => false
  | _ => true

lemma endsOperand_of_mem_enders (h : k ∈ enders) : endsOperand k = true := by
  fin_cases h <;> rfl

/-- What is ahead starts with a token that ends no expression. -/
def Leading (ks : List Kind) : Prop := ∃ k, k ∉ enders ∧ ∃ more, ks = k :: more

/-! ## Lists -/

lemma length_le_joined {parts : List (List Kind)} (h : ∀ part ∈ parts, Leading part) :
    parts.length ≤ (joined parts).length := by
  induction parts with
  | nil => exact Nat.zero_le _
  | cons part others ih =>
      obtain ⟨⟨k, -, more, rfl⟩, hothers⟩ := List.forall_mem_cons.mp h
      cases others with
      | nil => simp [joined]
      | cons next others =>
          have := ih hothers
          simp only [joined, List.length_append, List.length_cons] at this ⊢
          omega

/-- Items with commas between them are read up to the closing mark. -/
lemma commaList_reads {γ : Type} {item : Parser α} {close : Mark} {spelling : γ → List Kind}
    {tree : γ → α} (hclose : .mark close ∈ enders) (hcomma : close ≠ .comma) :
    ∀ {xs : List γ} {bound : Nat}, (∀ x ∈ xs, Leading (spelling x)) →
      (∀ x ∈ xs, ∀ rest, Ending rest → Reads item room (spelling x) rest (tree x)) →
      xs.length < bound →
      Reads (commaList close item bound) room (joined (xs.map spelling)) (.mark close :: rest)
        (xs.map tree)
  | [], bound + 1, _, _, _ => by
      refine .peek (sees_reads close) ?_
      rw [if_pos (decide_eq_true rfl)]
      exact .pure _ _ _
  | x :: xs, bound + 1, hleading, hitem, hbound => by
      obtain ⟨hlead, hleads⟩ := List.forall_mem_cons.mp hleading
      obtain ⟨hfirst, hothers⟩ := List.forall_mem_cons.mp hitem
      have hopen {ls more : List Kind} {rule : Parser (List α)} {answer : List α}
          (hrule : Reads rule room (spelling x ++ ls) more answer) :
          Reads (sees close >>= fun closed => if closed then pure [] else rule) room
            (spelling x ++ ls) more answer := by
        obtain ⟨k, hk, leading, hspelling⟩ := hlead
        rw [hspelling] at hrule ⊢
        refine .peek (sees_reads close) ?_
        rw [if_neg (by simpa using fun heq : k = .mark close => hk (heq ▸ hclose))]
        exact hrule
      cases xs with
      | nil =>
          have hlast := hfirst (.mark close :: rest) ⟨_, hclose, rest, rfl⟩
          have hno : Reads (accept .comma) room [] (.mark close :: rest) false :=
            accept_reads_other (by simpa using hcomma)
          rw [List.map_singleton, joined, ← List.append_nil (spelling x)]
          exact hopen (.bind hlast (.peek hno (.pure _ _ _)))
      | cons next xs =>
          have hrest : Reads (commaList close item bound) room (joined ((next :: xs).map spelling))
              (.mark close :: rest) ((next :: xs).map tree) :=
            commaList_reads hclose hcomma hleads hothers (Nat.lt_of_succ_lt_succ hbound)
          have hitem := hfirst (.mark .comma :: (joined ((next :: xs).map spelling) ++
            .mark close :: rest)) ⟨.mark .comma, by decide, _, rfl⟩
          exact hopen (.bind hitem (.step (accept_reads .comma) (.answer hrest)))

/-- Items in brackets are read with the brackets. -/
lemma bracketed_reads {γ : Type} {item : Parser α} {opening close : Mark} {xs : List γ}
    {spelling : γ → List Kind} {tree : γ → α} (wrap : List α → β) (hclose : .mark close ∈ enders)
    (hcomma : close ≠ .comma) (hleading : ∀ x ∈ xs, Leading (spelling x))
    (hitem : ∀ x ∈ xs, ∀ rest, Ending rest → Reads item room (spelling x) rest (tree x)) :
    Reads (do
      take
      let items ← commaList close item ((← remaining) + 1)
      expect close
      return wrap items) room (.mark opening :: (joined (xs.map spelling) ++ [.mark close])) rest
      (wrap (xs.map tree)) := by
  have hroom : xs.length ≤ (joined (xs.map spelling)).length := by
    simpa using length_le_joined (List.forall_mem_map.mpr hleading)
  have hlist (bound : Nat) (hbound : xs.length < bound) :
      Reads (commaList close item bound) room (joined (xs.map spelling)) ([.mark close] ++ rest)
        (xs.map tree) := commaList_reads hclose hcomma hleading hitem hbound
  refine .step take_reads (.peek remaining_reads (.bind (hlist _ ?_) ?_))
  · simp only [List.length_append]
    omega
  · exact .step (expect_reads close) (.pure _ _ _)

/-! ## Operands -/

section Operands

variable {deeper : Level} {e : Expression} {last : Kind} (hlast : endsOperand last = true)

include hlast

lemma links_reads (bound : Nat) :
    Reads (links deeper e (bound + 1)) room [] (last :: rest) e := by
  refine .peek currentKind_reads ?_
  split
  · cases hlast
  · cases hlast
  · cases hlast
  · exact .pure _ _ _

omit hlast in
/-- What is linked is read between two notes of the nesting. -/
lemma linked_eq : linked deeper = restoring ((currentKind >>= fun kind =>
    if kind = .keyword .newWord then construction deeper else primary deeper) >>= fun first =>
      remaining >>= fun bound => links deeper first (bound + 1)) := by
  unfold linked
  simp only [restoring, bind_assoc]
  refine bind_congr fun mark => bind_congr fun kind => ?_
  split <;> rfl

/-- A primary expression is an operand, if no operator or `new` is in front. -/
lemma operand_reads (hupdate : updateOp? k = none) (hunary : unaryOp? k = none)
    (hnew : decide (k = .keyword .newWord) = false)
    (h : Reads (primary deeper) room (k :: ks) (last :: rest) e) :
    Reads (operand deeper) room (k :: ks) (last :: rest) e := by
  have hfirst : Reads (currentKind >>= fun kind =>
      if kind = .keyword .newWord then construction deeper else primary deeper) room
      (k :: ks) (last :: rest) e := by
    refine .peek currentKind_reads ?_
    rw [if_neg (of_decide_eq_false hnew)]
    exact h
  have hlinked : Reads (linked deeper) room (k :: ks) (last :: rest) e := by
    rw [linked_eq]
    refine Passes.restoring (.of_reads ?_)
    exact .finish hfirst (.peek remaining_reads (links_reads hlast _))
  refine .peek currentKind_reads ?_
  rw [hupdate]
  dsimp only
  rw [hunary]
  refine .finish hlinked (.current rfl fun t ht => ?_)
  have hnone : updateOp? t.kind = none := by
    rw [ht]
    unfold updateOp?
    split <;> first | rfl | cases hlast
  rw [hnone]
  exact .pure _ _ _

end Operands

/-! ## Expressions -/

section Expressions

variable {deeper : Level} {e : Expression}

/-- No operator of a tier is ahead. -/
lemma tierChain_reads {t : Tier} {last : Kind} (hnone : t.ofKind? last = none)
    (stronger : Parser Expression) (bound : Nat) :
    Reads (tierChain t stronger e (bound + 1)) room [] (last :: rest) e := by
  refine .peek currentKind_reads ?_
  rw [hnone]
  exact .pure _ _ _

lemma tiered_cons (operand : Parser Expression) (t : Tier) (ts : List Tier) :
    tiered operand (t :: ts) = restoring (tiered operand ts >>= fun first =>
      remaining >>= fun bound => tierChain t (tiered operand ts) first (bound + 1)) := by
  simp only [tiered, restoring, bind_assoc]

/-- What is read with operators is an expression. -/
lemma assignment_reads_of_tiered (hrest : Ending rest)
    (h : Reads (tiered (operand deeper) tiers) room ks rest e) :
    Reads (assignment deeper) room ks rest e := by
  obtain ⟨k, hk, more, rfl⟩ := hrest
  obtain ⟨hquestion, hassign⟩ :=
    (by decide : ∀ k ∈ enders, k ≠ .mark .question ∧ assignOp? k = none) k hk
  have hconditional : Reads (conditional deeper) room ks (k :: more) e :=
    .finish h (.peek (accept_reads_other hquestion) (.pure _ _ _))
  refine .finish hconditional (.peek currentKind_reads ?_)
  rw [hassign]
  exact .pure _ _ _

/-- An operand alone is read at every binding strength. -/
lemma tiered_reads {operand : Parser Expression} (hrest : Ending rest)
    (h : Reads operand room ks rest e) :
    ∀ {ts : List Tier}, (∀ t ∈ ts, t ∈ tiers) → Reads (tiered operand ts) room ks rest e
  | [], _ => h
  | t :: ts, hts => by
      obtain ⟨ht, hts⟩ := List.forall_mem_cons.mp hts
      have hstronger := tiered_reads hrest h hts
      obtain ⟨last, hlast, more, rfl⟩ := hrest
      have hnone : t.ofKind? last = none := by
        simp only [enders, List.mem_cons, List.not_mem_nil, or_false] at hlast
        simp only [tiers, List.mem_cons, List.not_mem_nil, or_false] at ht
        rcases ht with rfl | rfl | rfl | rfl | rfl | rfl <;>
        rcases hlast with rfl | rfl | rfl | rfl | rfl <;> rfl
      rw [tiered_cons]
      refine Passes.restoring (.of_reads ?_)
      exact .finish hstronger (.peek remaining_reads (tierChain_reads hnone _ _))

/-- An operand alone is an expression. -/
lemma assignment_reads (hrest : Ending rest) (h : Reads (operand deeper) room ks rest e) :
    Reads (assignment deeper) room ks rest e :=
  assignment_reads_of_tiered hrest (tiered_reads hrest h fun _ ht => ht)

/-- A primary expression alone is an operand, if no operator or `new` is in front. -/
lemma operand_reads_alone (hrest : Ending rest) (hupdate : updateOp? k = none)
    (hunary : unaryOp? k = none) (hnew : decide (k = .keyword .newWord) = false)
    (h : Reads (primary deeper) room (k :: ks) rest e) :
    Reads (operand deeper) room (k :: ks) rest e := by
  obtain ⟨last, hlast, more, rfl⟩ := hrest
  exact operand_reads (endsOperand_of_mem_enders hlast) hupdate hunary hnew h

end Expressions

/-! ## Programs -/

/-- A statement up to the end of input is a program. -/
lemma program_reads {s : Statement} (hk : k ≠ .endOfInput)
    (h : Reads (level (maxNesting + 1)).statement room (k :: ks) [.endOfInput] s) :
    Reads program room (k :: ks) [.endOfInput] [s] := by
  refine .peek remaining_reads (.peek currentKind_reads ?_)
  rw [if_neg (by simpa using hk)]
  exact .finish h (.answer (.peek currentKind_reads (.pure _ _ _)))

lemma parse_of_reads {source : String} {body : List Statement}
    (hkinds : kinds source.toList = ks ++ [.endOfInput])
    (h : Reads program room ks [.endOfInput] body) (hroom : room ≤ maxNesting) :
    parse source = .ok body := by
  have hrun := h (tokens source.toList).toArray ⟨0, 0⟩ hkinds (by simpa using hroom)
  rw [parse, parseTokens, hrun]

end Parser

end ModuleRunner.Script
