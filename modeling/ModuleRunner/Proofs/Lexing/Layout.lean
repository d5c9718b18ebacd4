import Mathlib.Data.List.DropRight
import Mathlib.Tactic
import ModuleRunner.Script.Lexer

/-!
# How tokens lie in their text

A text is taken apart without remainder: a gap, the text of a token, a gap, and so on up to the end.
What a gap may be is a grammar of its own here, and the place of a token is counted from the start of
the text, so neither speaks of how a reader moves.

* `Gap` — the texts that stand before a token or before the end.
* `gapFrom_blank_cons`, `gapFrom_line`, `gapFrom_block` — what the reader of gaps passes.
* `Token.Covers` — a token stands where its text does.
* `LaidOut` — tokens that take a text apart.
* `tokens_laidOut` — what the reader finds does, and the reader finds the end.
-/

namespace ModuleRunner.Script

/-! ## Places -/

/-- The octets of a text in UTF-8. -/
def octets (cs : List Char) : Nat := (cs.map Char.utf8Size).sum

/-- The characters behind the last line feed of a text. -/
def lastLine (cs : List Char) : List Char := cs.rtakeWhile (· ≠ '\n')

@[simp] lemma octets_append (xs ys : List Char) : octets (xs ++ ys) = octets xs + octets ys := by
  simp [octets]

/-- A text that is not empty has octets. -/
lemma octets_pos {cs : List Char} (h : cs ≠ []) : 0 < octets cs := by
  obtain ⟨c, rest, rfl⟩ := List.exists_cons_of_ne_nil h
  have := Char.utf8Size_pos c
  simp only [octets, List.map_cons, List.sum_cons]
  omega

lemma eq_nil_of_octets_eq_zero {cs : List Char} (h : octets cs = 0) : cs = [] := by
  by_contra hne
  exact absurd h (octets_pos hne).ne'

/-- The place behind a text is what counting its octets, its line feeds and the characters of its last
line gives. -/
lemma Position.start_after (cs : List Char) :
    Position.start.after cs = ⟨octets cs, 1 + cs.count '\n', 1 + (lastLine cs).length⟩ := by
  induction cs using List.reverseRecOn with
  | nil => rfl
  | append_singleton cs c ih =>
      rw [after_append, ih]
      by_cases hc : c = '\n'
      · subst hc
        simp [after, next, octets, lastLine, Nat.add_assoc]
      · simp [after, next, octets, lastLine, hc, Nat.add_assoc]

/-! ## Gaps -/

/-- A text is a gap before what is left of the whole: blanks and comments.  A comment that is not
closed is the last of a gap, and nothing is left behind it. -/
inductive Gap (rest : List Char) : List Char → Prop
  /-- Nothing at all. -/
  | nil : Gap rest []
  /-- A blank. -/
  | blank {c : Char} {gap : List Char} :
      c ∈ [' ', '\t', '\r', '\n', '\ufeff'] → Gap rest gap → Gap rest (c :: gap)
  /-- A comment up to the end of its line. -/
  | line {body gap : List Char} :
      '\n' ∉ body → Gap rest gap → Gap rest ('/' :: '/' :: body ++ '\n' :: gap)
  /-- A comment up to the first star with a slash behind it. -/
  | block {body gap : List Char} :
      ¬ ['*', '/'] <:+: body → Gap rest gap → Gap rest ('/' :: '*' :: body ++ '*' :: '/' :: gap)
  /-- A comment in the last line. -/
  | openLine {body : List Char} : rest = [] → '\n' ∉ body → Gap rest ('/' :: '/' :: body)
  /-- A comment that is never closed. -/
  | openBlock {body : List Char} :
      rest = [] → ¬ ['*', '/'] <:+: body → Gap rest ('/' :: '*' :: body)

/-- What may be ahead inside a comment between stars: the rest of its body and a gap behind it. -/
def Closes (rest ahead : List Char) : Prop :=
  rest = [] ∧ ¬ ['*', '/'] <:+: ahead ∨
    ∃ body gap, ahead = body ++ '*' :: '/' :: gap ∧ ¬ ['*', '/'] <:+: body ∧ Gap rest gap

/-- What a reader may have ahead of it, up to what is left of the whole. -/
def GapState.Leads (rest : List Char) : GapState → List Char → Prop
  | .blank, ahead => Gap rest ahead
  | .lineComment, ahead =>
      rest = [] ∧ '\n' ∉ ahead ∨
        ∃ body gap, ahead = body ++ '\n' :: gap ∧ '\n' ∉ body ∧ Gap rest gap
  | .blockComment star, ahead => Closes rest (if star then '*' :: ahead else ahead)

/-- One more character of a comment in a line. -/
lemma GapState.leads_lineComment {rest ahead : List Char} {c : Char}
    (h : Leads rest (if c = '\n' then .blank else .lineComment) ahead) :
    Leads rest .lineComment (c :: ahead) := by
  by_cases hc : c = '\n'
  · rw [if_pos hc] at h
    exact .inr ⟨[], ahead, by rw [hc, List.nil_append], List.not_mem_nil, h⟩
  · rw [if_neg hc] at h
    have hne : '\n' ≠ c := fun heq => hc heq.symm
    obtain ⟨hrest, hahead⟩ | ⟨body, gap, hahead, hbody, hgap⟩ := h
    · exact .inl ⟨hrest, List.not_mem_cons_of_ne_of_not_mem hne hahead⟩
    · exact .inr ⟨c :: body, gap, by rw [hahead, List.cons_append],
        List.not_mem_cons_of_ne_of_not_mem hne hbody, hgap⟩

/-- Nothing is closed by a character in front, unless it is a star in front of a slash. -/
lemma not_infix_cons {c : Char} {cs : List Char} (hcs : ¬ ['*', '/'] <:+: cs)
    (hc : c = '*' → cs.head? ≠ some '/') : ¬ ['*', '/'] <:+: c :: cs := by
  intro h
  obtain h | h := List.infix_cons_iff.mp h
  · obtain ⟨rfl, t, rfl⟩ := List.cons_prefix_cons.mp h
    exact hc rfl rfl
  · exact hcs h

/-- One more character in front of the body of a comment between stars. -/
lemma Closes.cons {rest ahead : List Char} {c : Char} (h : Closes rest ahead)
    (hc : c = '*' → ahead.head? ≠ some '/') : Closes rest (c :: ahead) := by
  obtain ⟨hrest, hahead⟩ | ⟨body, gap, hahead, hbody, hgap⟩ := h
  · exact .inl ⟨hrest, not_infix_cons hahead hc⟩
  · have hhead : c = '*' → body.head? ≠ some '/' := by
      intro hstar hslash
      refine hc hstar ?_
      rw [hahead, List.head?_append, hslash, Option.some_or]
    exact .inr ⟨c :: body, gap, by rw [hahead, List.cons_append], not_infix_cons hbody hhead, hgap⟩

/-- One more character of a comment between stars. -/
lemma GapState.leads_blockComment {rest ahead : List Char} {star : Bool} {c : Char}
    (h : Leads rest (if star && c = '/' then .blank else .blockComment (c == '*')) ahead) :
    Leads rest (.blockComment star) (c :: ahead) := by
  by_cases hclosed : star && c = '/'
  · rw [if_pos hclosed] at h
    obtain ⟨rfl, hslash⟩ := Bool.and_eq_true_iff.mp hclosed
    obtain rfl := of_decide_eq_true hslash
    exact .inr ⟨[], ahead, rfl, by decide, h⟩
  · rw [if_neg hclosed] at h
    have hbehind : Closes rest (c :: ahead) := by
      by_cases hc : c = '*'
      · simpa [Leads, hc] using h
      · have hahead : Closes rest ahead := by simpa [Leads, hc] using h
        exact hahead.cons fun hstar => absurd hstar hc
    cases star with
    | false => exact hbehind
    | true => exact hbehind.cons fun _ hhead => hclosed (by simpa using hhead)

section Reader

variable {c : Char} {body rest : List Char}

lemma gapFrom_of_not_opener
    (h : c = '/' → ∀ d ∈ rest.head?, ¬ (d = '/' ∨ d = '*')) :
    gapFrom .blank (c :: rest) = if isGapBlank c then 1 + gapFrom .blank rest else 0 := by
  conv_lhs => unfold gapFrom
  split
  · next heq => cases heq
  · next heq => cases heq; exact absurd (.inl rfl) (h rfl _ rfl)
  · next heq => cases heq; exact absurd (.inr rfl) (h rfl _ rfl)
  · next heq => cases heq; rfl
  · next hstate _ => cases hstate
  · next hstate _ => cases hstate

lemma gapFrom_of_opener {d : Char} (hd : d = '/' ∨ d = '*') (rest : List Char) :
    gapFrom .blank ('/' :: d :: rest) =
      2 + gapFrom (if d = '/' then .lineComment else .blockComment false) rest := by
  obtain rfl | rfl := hd <;> rfl

/-- A blank in front. -/
lemma gapFrom_blank_cons (hc : isGapBlank c) (rest : List Char) :
    gapFrom .blank (c :: rest) = 1 + gapFrom .blank rest := by
  have hslash : c ≠ '/' := by rintro rfl; cases hc
  rw [gapFrom_of_not_opener (fun heq => absurd heq hslash), if_pos hc]

/-- A comment up to the end of its line. -/
lemma gapFrom_line (hbody : '\n' ∉ body) (rest : List Char) :
    gapFrom .lineComment (body ++ rest) = body.length + gapFrom .lineComment rest := by
  induction body with
  | nil => simp
  | cons c body ih =>
      obtain ⟨hc, hbody⟩ := not_or.mp (mt List.mem_cons.mpr hbody)
      rw [List.cons_append, gapFrom, if_neg (Ne.symm hc), ih hbody, List.length_cons]
      omega

/-- A comment up to the first star with a slash behind it. -/
lemma gapFrom_block {star : Bool} (hbody : ¬ ['*', '/'] <:+: body)
    (hstar : star = true → body.head? ≠ some '/') (rest : List Char) :
    gapFrom (.blockComment star) (body ++ '*' :: '/' :: rest) =
      body.length + 2 + gapFrom .blank rest := by
  induction body generalizing star with
  | nil => simp [gapFrom]; omega
  | cons c body ih =>
      have hclosed : ¬ (star && c = '/') := by
        rintro hboth
        obtain ⟨hstar', hslash⟩ := Bool.and_eq_true_iff.mp hboth
        exact hstar hstar' (by rw [List.head?_cons, of_decide_eq_true hslash])
      have hnext : ¬ ['*', '/'] <:+: body := fun h => hbody (h.trans (List.suffix_cons c body).isInfix)
      rw [List.cons_append, gapFrom, if_neg hclosed, ih hnext, List.length_cons]
      · omega
      · intro hc hhead
        obtain ⟨tail, rfl⟩ := List.head?_eq_some_iff.mp hhead
        rw [beq_iff_eq.mp hc] at hbody
        exact hbody (List.prefix_append ['*', '/'] tail).isInfix

end Reader

/-- What the reader passes leads up to what it leaves. -/
lemma leads_take_gapFrom (state : GapState) (cs : List Char) :
    state.Leads (cs.drop (gapFrom state cs)) (cs.take (gapFrom state cs)) := by
  fun_induction gapFrom state cs with
  | case1 state =>
      cases state with
      | blank => exact .nil
      | lineComment => exact .inl ⟨rfl, List.not_mem_nil⟩
      | blockComment star => exact .inl ⟨rfl, by cases star <;> decide⟩
  | case2 rest ih =>
      simp only [Nat.add_comm 2, List.drop_succ_cons, List.take_succ_cons]
      obtain ⟨hrest, hbody⟩ | ⟨body, gap, hahead, hbody, hgap⟩ := ih
      · exact .openLine hrest hbody
      · rw [hahead]
        exact .line hbody hgap
  | case3 rest ih =>
      simp only [Nat.add_comm 2, List.drop_succ_cons, List.take_succ_cons]
      obtain ⟨hrest, hbody⟩ | ⟨body, gap, hahead, hbody, hgap⟩ := ih
      · exact .openBlock hrest hbody
      · have hahead : List.take (gapFrom (.blockComment false) rest) rest =
            body ++ '*' :: '/' :: gap := hahead
        rw [hahead]
        exact .block hbody hgap
  | case4 c rest _ _ hblank ih =>
      rw [Nat.add_comm, List.drop_succ_cons, List.take_succ_cons]
      exact .blank (by simpa [isGapBlank, or_assoc] using hblank) ih
  | case5 => exact .nil
  | case6 c rest ih =>
      rw [Nat.add_comm, List.drop_succ_cons, List.take_succ_cons]
      exact GapState.leads_lineComment ih
  | case7 star c rest ih =>
      rw [Nat.add_comm, List.drop_succ_cons, List.take_succ_cons]
      exact GapState.leads_blockComment ih

/-- What stands before a token is a gap. -/
lemma gap_take_gapSize (cs : List Char) : Gap (cs.drop (gapSize cs)) (cs.take (gapSize cs)) :=
  leads_take_gapFrom .blank cs

/-! ## Lexemes -/

/-- A lexeme covers characters, and is not the end of its text. -/
structure Lexeme.Solid (l : Lexeme) : Prop where
  /-- It covers a character. -/
  size_pos : 0 < l.size
  /-- It is something. -/
  kind_ne : l.kind ≠ .endOfInput

lemma solid_literalFrom (quote : Char) (state : TextState) (done : List Char) {size : Nat}
    (hsize : 0 < size) (cs : List Char) : (literalFrom quote state done size cs).Solid := by
  fun_induction literalFrom quote state done size cs with
  | case1 | case2 => exact ⟨hsize, nofun⟩
  | case3 | case4 | case10 | case12 => exact ⟨Nat.succ_pos _, nofun⟩
  | _ => rename_i ih; exact ih (Nat.succ_pos _)

lemma solid_wordLexeme {c : Char} (rest : List Char) (hstart : isNameStart c) :
    (wordLexeme (c :: rest)).Solid where
  size_pos := by simp [wordLexeme, isNamePart, hstart]
  kind_ne := by
    simp only [wordLexeme, wordKind]
    split <;> exact nofun

/-- Where a numeral starts, its longest text is not empty. -/
lemma numeralRun_ne_nil {cs : List Char} (h : startsNumber cs) : numeralRun cs ≠ [] := by
  unfold startsNumber at h
  split at h
  · next d rest =>
      have hwhole : Decimal.digitRun ('.' :: d :: rest) = [] := rfl
      simp [numeralRun, hwhole, fractionRun]
  · next c rest _ => simp [numeralRun, Decimal.digitRun, h]
  · exact absurd h Bool.false_ne_true

lemma solid_numberLexeme {cs : List Char} (h : startsNumber cs) : (numberLexeme cs).Solid := by
  have hhex (digits : List Char) : (hexLexeme digits).Solid := by
    unfold hexLexeme
    dsimp only
    split <;> exact ⟨by simp, nofun⟩
  unfold numberLexeme
  split
  · exact hhex _
  · exact hhex _
  · have hrun := List.length_pos_of_ne_nil (numeralRun_ne_nil h)
    unfold decimalLexeme
    dsimp only
    split <;> exact ⟨hrun, nofun⟩
  · exact absurd h Bool.false_ne_true

lemma size_pos_of_mark? {cs : List Char} {m : Mark} {size : Nat} (h : mark? cs = some (m, size)) :
    0 < size := by
  unfold mark? at h
  split at h <;> cases h <;> decide

/-- Whatever a text starts with covers a character of it. -/
lemma solid_lexeme (c : Char) (rest : List Char) : (lexeme c rest).Solid := by
  unfold lexeme
  split
  · next hnumber => exact solid_numberLexeme hnumber
  · split
    · exact solid_literalFrom _ _ _ Nat.one_pos _
    · split
      · next hmark => exact ⟨size_pos_of_mark? hmark, nofun⟩
      · split
        · next hstart => exact solid_wordLexeme rest hstart
        · exact ⟨Nat.one_pos, nofun⟩

/-! ## Tokens -/

/-- A token stands where its text does, which is behind `before` and a gap: its places are counts of
what is before it. -/
structure Token.Covers (t : Token) (before gap text : List Char) : Prop where
  /-- It starts behind the octets before it. -/
  start : t.span.start = octets (before ++ gap)
  /-- It stops behind its own. -/
  stop : t.span.stop = octets (before ++ gap ++ text)
  /-- Its line is one more than the line feeds before it. -/
  line : t.span.line = 1 + (before ++ gap).count '\n'
  /-- Its column is one more than the characters since the last of them. -/
  column : t.span.column = 1 + (lastLine (before ++ gap)).length
  /-- It is behind a line feed where its gap has one. -/
  newlineBefore : t.newlineBefore = true ↔ '\n' ∈ gap

/-- Tokens take apart a text that stands behind another: each has a gap and a text of its own, up to the
end of input, which has a gap only. -/
inductive LaidOut : List Char → List Char → List Token → Prop
  /-- The end of input. -/
  | last {before gap : List Char} {t : Token} : Gap [] gap → t.kind = .endOfInput →
      t.Covers before gap [] → LaidOut before gap [t]
  /-- Any other token. -/
  | more {before gap text rest : List Char} {t : Token} {ts : List Token} : Gap (text ++ rest) gap →
      text ≠ [] → t.kind ≠ .endOfInput → t.Covers before gap text →
      LaidOut (before ++ gap ++ text) rest ts → LaidOut before (gap ++ (text ++ rest)) (t :: ts)

lemma Token.covers_between (kind : Kind) (before gap text : List Char) :
    Token.Covers ⟨kind, .between ((Position.start.after before).after gap)
      (((Position.start.after before).after gap).after text), gap.contains '\n'⟩ before gap text := by
  rw [← Position.after_append, ← Position.after_append, Position.start_after, Position.start_after]
  exact ⟨rfl, rfl, rfl, rfl, List.contains_iff_mem⟩

/-- What a reader finds in a text takes it apart, with as many tokens allowed as there are
characters. -/
lemma laidOut_tokensFrom {bound : Nat} {before cs : List Char} (h : cs.length ≤ bound) :
    LaidOut before cs (tokensFrom bound (Position.start.after before) cs) := by
  induction bound generalizing before cs with
  | zero =>
      obtain rfl := List.length_eq_zero_iff.mp (Nat.le_zero.mp h)
      exact .last .nil rfl (Token.covers_between _ _ _ _)
  | succ bound ih =>
      have hgap := gap_take_gapSize cs
      have hcs := List.take_append_drop (gapSize cs) cs
      generalize hahead : cs.take (gapSize cs) = gap at hgap hcs
      rw [tokensFrom, hahead]
      cases hdrop : cs.drop (gapSize cs) with
      | nil =>
          rw [hdrop] at hgap hcs
          have hlast := Token.covers_between .endOfInput before gap []
          rw [← hcs, List.append_nil]
          exact .last hgap rfl hlast
      | cons c rest =>
          rw [hdrop] at hgap hcs
          have htext := List.take_append_drop (lexeme c rest).size (c :: rest)
          have hsolid := solid_lexeme c rest
          have hne : (c :: rest).take (lexeme c rest).size ≠ [] := by
            simpa using hsolid.size_pos.ne'
          have hbound : ((c :: rest).drop (lexeme c rest).size).length ≤ bound := by
            have hlength := congrArg List.length hcs
            have hpos := hsolid.size_pos
            simp only [List.length_append, List.length_cons, List.length_drop] at hlength ⊢
            omega
          have hrest : LaidOut (before ++ gap ++ (c :: rest).take (lexeme c rest).size)
              ((c :: rest).drop (lexeme c rest).size) (tokensFrom bound (Position.start.after _) _) :=
            ih hbound
          rw [Position.after_append, Position.after_append] at hrest
          rw [← htext] at hgap
          have hlaid := LaidOut.more hgap hne hsolid.kind_ne (Token.covers_between _ _ _ _) hrest
          rwa [htext, hcs] at hlaid

namespace LaidOut

variable {before ahead : List Char} {ts : List Token}

/-- The end of input is the last of the tokens and no other, and there are no more of the others than
characters. -/
lemma ends (h : LaidOut before ahead ts) : ∃ found last, ts = found ++ [last] ∧
    last.kind = .endOfInput ∧ (∀ t ∈ found, t.kind ≠ .endOfInput) ∧ found.length ≤ ahead.length := by
  induction h with
  | last _ hkind _ => exact ⟨[], _, rfl, hkind, by simp, Nat.zero_le _⟩
  | @more before gap text rest t ts _ htext hkind _ _ ih =>
      obtain ⟨found, last, rfl, hlast, hfound, hlength⟩ := ih
      have hpos := List.length_pos_of_ne_nil htext
      refine ⟨t :: found, last, rfl, hlast, List.forall_mem_cons.mpr ⟨hkind, hfound⟩, ?_⟩
      simp only [List.length_cons, List.length_append]
      omega

/-- Each token has its place in the text. -/
lemma exists_covers (h : LaidOut before ahead ts) {t : Token} (ht : t ∈ ts) :
    ∃ between gap text behind, ahead = between ++ gap ++ text ++ behind ∧
      t.Covers (before ++ between) gap text := by
  induction h with
  | @last before gap t _ _ hcovers =>
      obtain rfl := List.mem_singleton.mp ht
      exact ⟨[], gap, [], [], by simp, by simpa using hcovers⟩
  | @more before gap text rest t ts _ _ _ hcovers _ ih =>
      obtain rfl | ht := List.mem_cons.mp ht
      · exact ⟨[], gap, text, rest, by simp, by simpa using hcovers⟩
      · obtain ⟨between, gap', text', behind, rfl, hcovers'⟩ := ih ht
        exact ⟨gap ++ text ++ between, gap', text', behind, by simp, by simpa using hcovers'⟩

/-- No token starts in the text before. -/
lemma start_le (h : LaidOut before ahead ts) {t : Token} (ht : t ∈ ts) :
    octets before ≤ t.span.start := by
  induction h with
  | last _ _ hcovers =>
      obtain rfl := List.mem_singleton.mp ht
      rw [hcovers.start, octets_append]
      exact Nat.le_add_right _ _
  | more _ _ _ hcovers _ ih =>
      obtain rfl | ht := List.mem_cons.mp ht
      · rw [hcovers.start, octets_append]
        exact Nat.le_add_right _ _
      · refine le_trans ?_ (ih ht)
        rw [octets_append, octets_append, Nat.add_assoc]
        exact Nat.le_add_right _ _

lemma start_le_stop (h : LaidOut before ahead ts) {t : Token} (ht : t ∈ ts) :
    t.span.start ≤ t.span.stop := by
  induction h with
  | last _ _ hcovers =>
      obtain rfl := List.mem_singleton.mp ht
      rw [hcovers.start, hcovers.stop, List.append_nil]
  | @more before gap text _ _ _ _ _ _ hcovers _ ih =>
      obtain rfl | ht := List.mem_cons.mp ht
      · rw [hcovers.start, hcovers.stop, octets_append _ text]
        exact Nat.le_add_right _ _
      · exact ih ht

/-- Each token stops where the next ones have not yet started. -/
lemma ordered (h : LaidOut before ahead ts) :
    ts.Pairwise fun t u => t.span.stop ≤ u.span.start := by
  induction h with
  | last => exact List.pairwise_singleton _ _
  | more _ _ _ hcovers hrest ih =>
      exact List.pairwise_cons.mpr ⟨fun u hu => hcovers.stop ▸ hrest.start_le hu, ih⟩

/-- Only the end of input has no text. -/
lemma start_lt_stop (h : LaidOut before ahead ts) {t : Token} (ht : t ∈ ts)
    (hkind : t.kind ≠ .endOfInput) : t.span.start < t.span.stop := by
  induction h with
  | last _ hlast _ => exact absurd (List.mem_singleton.mp ht ▸ hlast) hkind
  | @more before gap text _ _ _ _ htext _ hcovers _ ih =>
      obtain rfl | ht := List.mem_cons.mp ht
      · rw [hcovers.start, hcovers.stop, octets_append _ text]
        exact Nat.lt_add_of_pos_right (octets_pos htext)
      · exact ih ht

end LaidOut

/-- The tokens of every text take it apart: in front of each stands a gap, its place is that of its text,
and it tells whether its gap has a line feed.  They end with the end of input after at most as many
others as the text has characters, come one behind the other, and cover something each. -/
theorem tokens_laidOut (source : List Char) :
    LaidOut [] source (tokens source) ∧
    (∃ found last, tokens source = found ++ [last] ∧ last.kind = .endOfInput ∧
      (∀ t ∈ found, t.kind ≠ .endOfInput) ∧ found.length ≤ source.length) ∧
    ((tokens source).Pairwise fun t u => t.span.stop ≤ u.span.start) ∧
    ∀ t ∈ tokens source, t.kind ≠ .endOfInput → t.span.start < t.span.stop := by
  have hlaid : LaidOut [] source (tokens source) := laidOut_tokensFrom le_rfl
  exact ⟨hlaid, hlaid.ends, hlaid.ordered, fun _ => hlaid.start_lt_stop⟩

/-- A comment over two lines, and one that is not closed. -/
example : (tokens "a /*\n*/ é//".toList).map (fun t => (t.span, t.newlineBefore)) =
    [(⟨0, 1, 1, 1⟩, false), (⟨8, 10, 2, 4⟩, true), (⟨12, 12, 2, 7⟩, false)] := by
  decide +kernel

end ModuleRunner.Script
