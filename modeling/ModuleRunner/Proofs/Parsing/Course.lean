import ModuleRunner.Proofs.Lexing.Kinds
import ModuleRunner.Script.Parser

/-!
# The course of a rule over its tokens

A rule goes forwards over the tokens and never beyond one that no phrase has: the end of the text, or
what spoils a text.  It decides by the kinds of the tokens and by the line feeds before them, so that
over two texts that agree in these it goes the same way, to the same cursor, and ends in the same
manner.  Both are followed through the grammar at once, by setting two runs beside each other.

A list is cut off when it has gone on for as many rounds as it is allowed.  Each round takes a token, so
a list that is cut off has taken as many tokens as it is allowed rounds.

* `Parallel` — two texts that agree up to such a token.
* `InStep` — rules that go the same way over such texts, forwards and not beyond that token.
* `commaList_inStep`, `commaChain_inStep`, `sequence_inStep` — lists of whatever an item does.
* `nested_inStep` — a rule one level deeper.
-/

namespace ModuleRunner.Script

namespace Parser

variable {α β γ : Type}

/-- Two texts with tokens of the same kinds, and line feeds before the same ones, up to one at `e` that
no phrase has. -/
structure Parallel (left right : Array Token) (e : Nat) : Prop where
  size : left.size = right.size
  inside : e ≤ left.size
  kind : ∀ i ≤ e, (left.getD i nowhere).kind = (right.getD i nowhere).kind
  newline : ∀ i ≤ e,
    (left.getD i nowhere).newlineBefore = (right.getD i nowhere).newlineBefore
  stop : (left.getD e nowhere).kind.stops = true

/-- Up to the last, the token at a place of a text is one of its tokens. -/
lemma getD_toArray {ts : List Token} {i : Nat} (hi : i < ts.length) :
    ts.toArray.getD i nowhere = ts[i] := by
  simp [hi]

/-- A fault that shows at a token. -/
def faultAt (tokens : Array Token) (i : Nat) (cause : Cause) : Fault :=
  ⟨cause, (tokens.getD i nowhere).span.line, (tokens.getD i nowhere).span.column⟩

/-- How two runs end in step that start behind `n` tokens: they go forwards to the same cursor, not
beyond the token at `e`, and either both answer, or both refuse a token for the same cause.  They are
cut off behind no less than `limit` tokens. -/
inductive Ended (left right : Array Token) (e limit n : Nat) (Q : Nat → α → α → Prop) :
    Except Refusal (α × Cursor) → Except Refusal (α × Cursor) → Prop
  | answered {a a' : α} {c : Cursor} : n ≤ c.taken → c.taken ≤ e → Q c.taken a a' →
      Ended left right e limit n Q (.ok (a, c)) (.ok (a', c))
  | refused {cause : Cause} {i : Nat} {c : Cursor} : n ≤ c.taken → c.taken ≤ e → i ≤ e →
      (cause = .stalled → limit ≤ c.taken) →
      Ended left right e limit n Q (.error ⟨faultAt left i cause, c⟩)
        (.error ⟨faultAt right i cause, c⟩)

/-- Two rules go in step over texts that agree up to the token at `e`, if they start behind `n` tokens
and not behind that one. -/
def InStep (e limit : Nat) (x x' : Parser α) (n : Nat) (Q : Nat → α → α → Prop) : Prop :=
  ∀ left right c, Parallel left right e → c.taken = n → n ≤ e →
    Ended left right e limit n Q (x left c) (x' right c)

variable {e limit limit' n : Nat} {x x' : Parser α} {f f' : α → Parser β}
  {Q Q' : Nat → α → α → Prop} {S : Nat → β → β → Prop}

/-! ## Rules one after another -/

/-- What is cut off late enough is not cut off earlier, and what would be cut off beyond the last token
is never cut off. -/
lemma Ended.imp {left right : Array Token} {o o' : Except Refusal (α × Cursor)}
    (h : Ended left right e limit' n Q o o') (hlimit : limit ≤ limit' ∨ e < limit')
    (himp : ∀ m a a', n ≤ m → Q m a a' → Q' m a a') : Ended left right e limit n Q' o o' := by
  cases h with
  | answered hforwards hinside ha =>
      exact .answered hforwards hinside (himp _ _ _ hforwards ha)
  | refused hforwards hinside hi hstalled =>
      refine .refused hforwards hinside hi fun hcause => ?_
      have hbehind := hstalled hcause
      omega

/-- Behind two runs in step, two more. -/
lemma Ended.bind {left right : Array Token} {o o' : Except Refusal (α × Cursor)}
    {next next' : α × Cursor → Except Refusal (β × Cursor)} (h : Ended left right e limit n Q o o')
    (hnext : ∀ a a' c, n ≤ c.taken → c.taken ≤ e → Q c.taken a a' →
      Ended left right e limit c.taken S (next (a, c)) (next' (a', c))) :
    Ended left right e limit n S (o >>= next) (o' >>= next') := by
  cases h with
  | refused hforwards hinside hi hstalled => exact .refused hforwards hinside hi hstalled
  | @answered a a' c hforwards hinside ha =>
      show Ended left right e limit n S (next (a, c)) (next' (a', c))
      have hrest := hnext a a' c hforwards hinside ha
      generalize next (a, c) = r, next' (a', c) = r' at hrest
      cases hrest with
      | refused hforwards' hinside' hi hstalled =>
          exact .refused (hforwards.trans hforwards') hinside' hi hstalled
      | answered hforwards' hinside' hb =>
          exact .answered (hforwards.trans hforwards') hinside' hb

namespace InStep

lemma bind (hx : InStep e limit x x' n Q)
    (hf : ∀ m a a', n ≤ m → Q m a a' → InStep e limit (f a) (f' a') m S) :
    InStep e limit (x >>= f) (x' >>= f') n S := by
  intro left right c htexts hc hn
  exact (hx left right c htexts hc hn).bind fun a a' c' hforwards hinside ha =>
    hf c'.taken a a' hforwards ha left right c' htexts rfl hinside

lemma pure {a a' : α} (h : Q n a a') :
    InStep e limit (pure a : Parser α) (pure a' : Parser α) n Q := by
  rintro left right c - rfl hn
  exact .answered le_rfl hn h

lemma imp (hx : InStep e limit x x' n Q) (himp : ∀ m a a', n ≤ m → Q m a a' → Q' m a a') :
    InStep e limit x x' n Q' :=
  fun left right c htexts hc hn => (hx left right c htexts hc hn).imp (.inl le_rfl) himp

lemma relax (hx : InStep e limit' x x' n Q) (hlimit : limit ≤ limit' ∨ e < limit') :
    InStep e limit x x' n Q :=
  fun left right c htexts hc hn =>
    (hx left right c htexts hc hn).imp hlimit fun _ _ _ _ ha => ha

lemma map {g : α → β} (hx : InStep e limit x x' n fun m a a' => S m (g a) (g a')) :
    InStep e limit (g <$> x) (g <$> x') n S := by
  rw [map_eq_pure_bind, map_eq_pure_bind]
  exact hx.bind fun _ _ _ _ ha => pure ha

lemma map_bind {g : α → β} {k k' : β → Parser γ} {T : Nat → γ → γ → Prop}
    (hx : InStep e limit x x' n Q)
    (hk : ∀ m a a', n ≤ m → Q m a a' → InStep e limit (k (g a)) (k' (g a')) m T) :
    InStep e limit (g <$> x >>= k) (g <$> x' >>= k') n T := by
  rw [bind_map_left, bind_map_left]
  exact hx.bind hk

lemma ite {c : Prop} [Decidable c] {y y' : Parser α} (hx : c → InStep e limit x x' n Q)
    (hy : ¬ c → InStep e limit y y' n Q) :
    InStep e limit (if c then x else y) (if c then x' else y') n Q := by
  split
  · next h => exact hx h
  · next h => exact hy h

/-- Nothing follows a refusal. -/
lemma never (hx : InStep e limit x x' n fun _ _ _ => False) :
    InStep e limit (x >>= f) (x' >>= f') n S :=
  hx.bind fun _ _ _ _ h => h.elim

end InStep

/-! ## Single tokens -/

lemma fail_inStep {cause : Cause} (h : cause = .stalled → limit ≤ n) :
    InStep e limit (fail cause : Parser α) (fail cause) n Q := by
  rintro left right c - rfl hn
  exact .refused le_rfl hn hn h

lemma failBehind_inStep {cause : Cause} (h : cause = .stalled → limit ≤ n) (hpos : 0 < n) :
    InStep e limit (failBehind cause : Parser α) (failBehind cause) n Q := by
  rintro left right c - rfl hn
  have hprevious (tokens : Array Token) : (failBehind cause : Parser α) tokens c
      = .error ⟨faultAt tokens (c.taken - 1) cause, c⟩ := by
    show Except.error (Refusal.mk ⟨cause, _, _⟩ c) = _
    rw [if_neg hpos.ne']
    rfl
  rw [hprevious, hprevious]
  exact .refused le_rfl hn (by omega) h

/-- The token ahead.  Where it is one that a phrase may have, another one is behind it. -/
lemma current_inStep : InStep e limit current current n fun m t t' =>
    n = m ∧ t.kind = t'.kind ∧ t.newlineBefore = t'.newlineBefore ∧
      (t.kind.stops = false → n < e) := by
  rintro left right c htexts rfl hn
  refine .answered le_rfl hn ⟨rfl, htexts.kind _ hn, htexts.newline _ hn, fun hgoes => ?_⟩
  refine lt_of_le_of_ne hn fun hend => ?_
  rw [hend, htexts.stop] at hgoes
  cases hgoes

lemma currentKind_inStep : InStep e limit currentKind currentKind n fun m k k' =>
    n = m ∧ k = k' ∧ (k.stops = false → n < e) :=
  current_inStep.bind fun _ _ _ _ ⟨hm, hkind, _, hgoes⟩ => .pure ⟨hm, hkind, hgoes⟩

lemma take_inStep (h : n < e) : InStep e limit take take n fun m _ _ => n < m := by
  rintro left right c - rfl -
  exact .answered (Nat.le_succ _) h (Nat.lt_succ_self _)

/-- A list may have as many rounds as tokens are ahead, and one more. -/
lemma remaining_inStep : InStep e limit remaining remaining n fun m r r' =>
    n = m ∧ r = r' ∧ e < n + (r + 1) := by
  rintro left right c htexts rfl hn
  have hinside := htexts.inside
  refine .answered le_rfl hn ⟨rfl, ?_, ?_⟩
  · rw [htexts.size]
  · omega

lemma depth_inStep : InStep e limit depth depth n fun m d d' => n = m ∧ d = d' := by
  rintro left right c - rfl hn
  exact .answered le_rfl hn ⟨rfl, rfl⟩

lemma restoreDepth_inStep (mark : Nat) :
    InStep e limit (restoreDepth mark) (restoreDepth mark) n fun m _ _ => n = m := by
  rintro left right c - rfl hn
  exact .answered le_rfl hn rfl

lemma sees_inStep (mark : Mark) : InStep e limit (sees mark) (sees mark) n fun m b b' =>
    n = m ∧ b = b' ∧ (b = true → n < e) := by
  refine currentKind_inStep.bind fun _ k _ _ ⟨hm, hkind, hgoes⟩ => .pure ⟨hm, by rw [hkind], ?_⟩
  intro hseen
  exact hgoes (by rw [of_decide_eq_true hseen]; rfl)

/-- A list that is allowed a round for each token ahead, and one more, is never cut off. -/
lemma InStep.bounded {x x' : Nat → Parser α} {R : α → α → Prop}
    (hx : ∀ bound, InStep e (n + bound) (x bound) (x' bound) n fun _ a a' => R a a')
    (hf : ∀ m a a', n ≤ m → R a a' → InStep e (e + 1) (f a) (f' a') m S) :
    InStep e (e + 1) (do f (← x ((← remaining) + 1))) (do f' (← x' ((← remaining) + 1))) n S := by
  refine remaining_inStep.bind fun _ r _ _ ⟨hm, hr, hroom⟩ => ?_
  subst hm hr
  exact ((hx (r + 1)).relax (.inr hroom)).bind hf

/-- What is accepted is taken. -/
lemma accept_inStep (mark : Mark) : InStep e limit (accept mark) (accept mark) n fun m b b' =>
    b = b' ∧ (b = true → n < m) := by
  refine (sees_inStep mark).bind fun _ b _ _ ⟨hm, hb, hgoes⟩ => ?_
  subst hm hb
  refine .ite (fun hseen => ?_) fun _ => .pure ⟨rfl, nofun⟩
  exact (take_inStep (hgoes hseen)).bind fun _ _ _ _ htaken => .pure ⟨rfl, fun _ => htaken⟩

lemma acceptWord_inStep (word : Keyword) :
    InStep e limit (acceptWord word) (acceptWord word) n fun _ b b' => b = b' := by
  refine currentKind_inStep.bind fun _ k _ _ ⟨hm, hkind, hgoes⟩ => ?_
  subst hm hkind
  refine .ite (fun hword => ?_) fun _ => .pure rfl
  exact (take_inStep (hgoes (by rw [hword]; rfl))).bind fun _ _ _ _ _ => .pure rfl

lemma expect_inStep (mark : Mark) :
    InStep e limit (expect mark) (expect mark) n fun m _ _ => n < m := by
  refine (sees_inStep mark).bind fun _ b _ _ ⟨hm, hb, hgoes⟩ => ?_
  subst hm hb
  refine .ite (fun hseen => take_inStep (hgoes hseen)) fun _ => ?_
  refine currentKind_inStep.bind fun _ k _ _ ⟨_, hkind, _⟩ => ?_
  subst hkind
  exact fail_inStep nofun

lemma expectName_inStep :
    InStep e limit expectName expectName n fun m s s' => n < m ∧ s = s' := by
  refine currentKind_inStep.bind fun _ k _ _ ⟨hm, hkind, hgoes⟩ => ?_
  subst hm hkind
  split
  · exact (take_inStep (hgoes rfl)).bind fun _ _ _ _ htaken => .pure ⟨htaken, rfl⟩
  · exact fail_inStep nofun

/-- A token that names a property is one that a phrase may have. -/
lemma stops_of_propertyName? {k : Kind} {s : String} (h : k.propertyName? = some s) :
    k.stops = false := by
  cases k <;> first | rfl | cases h

lemma expectProperty_inStep :
    InStep e limit expectProperty expectProperty n fun m s s' => n < m ∧ s = s' := by
  refine currentKind_inStep.bind fun _ k _ _ ⟨hm, hkind, hgoes⟩ => ?_
  subst hm hkind
  split
  · next hname =>
      refine (take_inStep (hgoes (stops_of_propertyName? hname))).bind fun _ _ _ _ htaken => ?_
      exact .pure ⟨htaken, rfl⟩
  · exact fail_inStep nofun

lemma atStatementEnd_inStep :
    InStep e limit atStatementEnd atStatementEnd n fun _ b b' => b = b' :=
  current_inStep.bind fun _ _ _ _ ⟨_, hkind, hnewline, _⟩ => .pure (by rw [hkind, hnewline])

lemma endStatement_inStep :
    InStep e limit endStatement endStatement n fun _ _ _ => True := by
  refine (accept_inStep _).bind fun _ b _ _ ⟨hb, _⟩ => ?_
  subst hb
  refine .ite (fun _ => .pure trivial) fun _ => ?_
  refine atStatementEnd_inStep.bind fun _ b _ _ hb => ?_
  subst hb
  refine .ite (fun _ => .pure trivial) fun _ => ?_
  refine currentKind_inStep.bind fun _ k _ _ ⟨_, hkind, _⟩ => ?_
  subst hkind
  exact fail_inStep nofun

/-! ## Lists -/

section Lists

variable {item : Parser α} {g : α → γ}
  (hitem : ∀ n, InStep e (e + 1) item item n fun m a a' => n < m ∧ g a = g a')

include hitem

lemma commaList_inStep (close : Mark) : ∀ bound n,
    InStep e (n + bound) (commaList close item bound) (commaList close item bound) n
      fun _ items items' => items.map g = items'.map g
  | 0, _ => fail_inStep fun _ => le_rfl
  | bound + 1, n => by
      refine (sees_inStep close).bind fun _ b _ _ ⟨hm, hb, _⟩ => ?_
      subst hm hb
      refine .ite (fun _ => .pure rfl) fun _ => ?_
      refine ((hitem _).relax (.inr e.lt_succ_self)).bind fun m a a' _ ⟨htaken, ha⟩ => ?_
      refine (accept_inStep _).bind fun m' b _ _ ⟨hb, _⟩ => ?_
      subst hb
      refine .ite (fun _ => ?_) fun _ => .pure (by simp [ha])
      refine ((commaList_inStep close bound m').relax (.inl (by omega))).bind
        fun _ items items' _ hitems => .pure ?_
      rw [List.map_cons, List.map_cons, ha, hitems]

lemma commaChain_inStep : ∀ bound n,
    InStep e (n + bound) (commaChain item bound) (commaChain item bound) n
      fun _ items items' => items.map g = items'.map g
  | 0, _ => fail_inStep fun _ => le_rfl
  | bound + 1, n => by
      refine ((hitem _).relax (.inr e.lt_succ_self)).bind fun m a a' _ ⟨htaken, ha⟩ => ?_
      refine (accept_inStep _).bind fun m' b _ _ ⟨hb, _⟩ => ?_
      subst hb
      refine .ite (fun _ => ?_) fun _ => .pure (by simp [ha])
      refine ((commaChain_inStep bound m').relax (.inl (by omega))).bind
        fun _ items items' _ hitems => .pure ?_
      rw [List.map_cons, List.map_cons, ha, hitems]

lemma sequence_inStep (braced : Bool) : ∀ bound n,
    InStep e (n + bound) (sequence braced item bound) (sequence braced item bound) n
      fun _ items items' => items.map g = items'.map g
  | 0, _ => fail_inStep fun _ => le_rfl
  | bound + 1, n => by
      refine currentKind_inStep.bind fun _ k _ _ ⟨hm, hkind, _⟩ => ?_
      subst hm hkind
      refine .ite (fun _ => .pure rfl) fun _ => ?_
      refine ((hitem _).relax (.inr e.lt_succ_self)).bind fun m a a' _ ⟨htaken, ha⟩ => ?_
      refine ((sequence_inStep braced bound m).relax (.inl (by omega))).bind
        fun _ items items' _ hitems => .pure ?_
      rw [List.map_cons, List.map_cons, ha, hitems]

end Lists

/-! ## Nesting -/

lemma descend_inStep : InStep e limit descend descend n fun m _ _ => n = m := by
  refine depth_inStep.bind fun _ d _ _ ⟨hm, hd⟩ => ?_
  subst hm hd
  refine (restoreDepth_inStep _).bind fun _ _ _ _ hm => ?_
  subst hm
  refine depth_inStep.bind fun _ d _ _ ⟨hm, hd⟩ => ?_
  subst hm hd
  exact .ite (fun _ => fail_inStep nofun) fun _ => .pure rfl

/-- A rule one level deeper goes the way that it goes. -/
lemma nested_inStep (hx : InStep e limit x x' n Q) :
    InStep e limit (nested x) (nested x') n Q := by
  refine depth_inStep.bind fun _ d _ _ ⟨hm, hd⟩ => ?_
  subst hm hd
  refine descend_inStep.bind fun _ _ _ _ hm => ?_
  subst hm
  refine hx.bind fun _ _ _ _ ha => (restoreDepth_inStep _).bind fun _ _ _ _ hm => ?_
  subst hm
  exact .pure ha

end Parser

end ModuleRunner.Script
