import ModuleRunner.Proofs.Decimal.Count
import ModuleRunner.Proofs.Lexing.Literal
import ModuleRunner.Proofs.Script.RoundTrip

/-!
# The tokens of documents

The text of a document is a text of the script language, and a reader finds in it what the document
is made of: brackets, commas and colons, words, numerals behind a sign and text literals.  Numerals and
words end because something follows that belongs to neither, so every step says what follows.

* `Json.Whole` — documents whose numbers are whole and small enough to be exact.
* `Json.kinds` — the tokens that spell a document.
* `Closing` — what may follow a document inside another one, or in parentheses.
* `kinds_numeral`, `kinds_quote` — a reader finds numerals and text literals.
* `kinds_compact` — a reader finds the tokens of a document.
-/

namespace ModuleRunner

/-! ## Documents -/

namespace Json

open Script (Kind joined)

/-- A document whose numbers are whole and below `2 ^ 53` in magnitude.  Its objects are in the order
of their keys. -/
inductive Whole : Json → Prop where
  | null : Whole .null
  | boolean (b : Bool) : Whole (.boolean b)
  | number {x : Float} (hwhole : Number.isWhole x)
      (hsmall : (Number.truncate x).natAbs < 2 ^ 53) : Whole (.number x)
  | text (s : String) : Whole (.text s)
  | array {items : List Json} (h : ∀ item ∈ items, Whole item) : Whole (.array items)
  | object {entries : List (String × Json)} (hsorted : Sorted entries)
      (h : ∀ entry ∈ entries, Whole entry.2) : Whole (.object entries)

/-- The numeral of a whole number, its sign left aside. -/
def numeral (x : Float) : Kind := .number (Decimal.readDigits x)

mutual

/-- The tokens that spell a document. -/
def kinds : Json → List Kind
  | .null => [.keyword .nullWord]
  | .boolean true => [.keyword .trueWord]
  | .boolean false => [.keyword .falseWord]
  | .number x => if Number.truncate x < 0 then [.mark .minus, numeral x] else [numeral x]
  | .text s => [.text s]
  | .array items => .mark .leftBracket :: (joined (itemKinds items) ++ [.mark .rightBracket])
  | .object entries => .mark .leftBrace :: (joined (entryKinds entries) ++ [.mark .rightBrace])

/-- The tokens that spell each item. -/
def itemKinds : List Json → List (List Kind)
  | [] => []
  | item :: rest => kinds item :: itemKinds rest

/-- The tokens that spell each property. -/
def entryKinds : List (String × Json) → List (List Kind)
  | [] => []
  | (key, item) :: rest => (.text key :: .mark .colon :: kinds item) :: entryKinds rest

end

lemma itemKinds_eq (items : List Json) : itemKinds items = items.map kinds := by
  induction items with
  | nil => rfl
  | cons item rest ih => rw [itemKinds, ih, List.map_cons]

lemma entryKinds_eq (entries : List (String × Json)) :
    entryKinds entries = entries.map fun e => .text e.1 :: .mark .colon :: kinds e.2 := by
  induction entries with
  | nil => rfl
  | cons entry rest ih => rw [entryKinds, ih, List.map_cons]

end Json

namespace Script

variable {rest : List Char}

/-! ## Marks -/

/-- A text that starts with what may follow a document: a comma or a closing bracket. -/
def Closing (rest : List Char) : Prop := ∃ c ∈ [',', ']', '}', ')'], ∃ after, rest = c :: after

namespace Closing

lemma wordless (h : Closing rest) : ∀ d ∈ rest.head?, d ∈ wordless := by
  obtain ⟨c, hc, after, rfl⟩ := h
  rintro _ ⟨⟩
  fin_cases hc <;> decide

lemma isDigit (h : Closing rest) : ∀ d ∈ rest.head?, Decimal.isDigit d = false := by
  obtain ⟨c, hc, after, rfl⟩ := h
  rintro _ ⟨⟩
  fin_cases hc <;> decide

lemma isNamePart (h : Closing rest) : ∀ d ∈ rest.head?, isNamePart d = false := by
  intro d hd
  rw [Script.isNamePart, h.isDigit d hd, Bool.or_false, Bool.eq_false_iff]
  exact fun hstart => ne_of_isNameStart hstart (h.wordless d hd)

end Closing

/-- The marks that a document is written with and that start no other mark. -/
def documentMarks : List (Char × Mark) :=
  [('{', .leftBrace), ('}', .rightBrace), ('(', .leftParen), (')', .rightParen),
    ('[', .leftBracket), (']', .rightBracket), (',', .comma), (':', .colon)]

lemma kinds_mark {c : Char} {m : Mark} (h : (c, m) ∈ documentMarks) (rest : List Char) :
    kinds (c :: rest) = .mark m :: kinds rest := by
  simp only [documentMarks, List.mem_cons, Prod.mk.injEq, List.not_mem_nil, or_false] at h
  rcases h with ⟨rfl, rfl⟩ | ⟨rfl, rfl⟩ | ⟨rfl, rfl⟩ | ⟨rfl, rfl⟩ | ⟨rfl, rfl⟩ | ⟨rfl, rfl⟩ |
    ⟨rfl, rfl⟩ | ⟨rfl, rfl⟩ <;>
  exact kinds_cons (gapSize_eq_zero rfl (by decide) rest)

lemma kinds_keyword (k : Keyword) (hrest : Closing rest) :
    kinds (k.spelling.toList ++ rest) = .keyword k :: kinds rest := by
  have hshape : ∃ c cs, k.spelling.toList = c :: cs ∧ isNameStart c ∧ ∀ d ∈ cs, isNamePart d := by
    cases k <;>
    exact ⟨_, _, rfl, by decide +kernel, List.all_eq_true.mp (by decide +kernel)⟩
  obtain ⟨c, cs, hspelling, hc, hcs⟩ := hshape
  have hkind : wordKind (String.ofList (c :: cs)) = .keyword k := by
    rw [← hspelling, String.ofList_toList, wordKind, Keyword.ofSpelling?_spelling]
  rw [hspelling, kinds_word hc hcs hrest.isNamePart, hkind]

/-! ## Numerals -/

lemma numeralRun_toDigits (n : Nat) (hrest : Closing rest) :
    numeralRun (Nat.toDigits 10 n ++ rest) = Nat.toDigits 10 n := by
  have hrun : Decimal.digitRun (Nat.toDigits 10 n ++ rest) = Nat.toDigits 10 n :=
    takeWhile_append_eq (fun c hc => Decimal.isDigit_of_mem_toDigits hc) hrest.isDigit
  obtain ⟨c, hc, after, rfl⟩ := hrest
  have hfraction : fractionRun (c :: after) = [] := by
    simp only [List.mem_cons, List.not_mem_nil, or_false] at hc
    rcases hc with rfl | rfl | rfl | rfl <;> rfl
  have hexponent : exponentRun (c :: after) = [] := by
    simp only [List.mem_cons, List.not_mem_nil, or_false] at hc
    cases after with
    | nil => rfl
    | cons d after => rcases hc with rfl | rfl | rfl | rfl <;> rfl
  simp [numeralRun, hrun, hfraction, hexponent]

lemma startsNumber_of_mem_digits {c : Char} (h : c ∈ digits) (rest : List Char) :
    startsNumber (c :: rest) = true := by
  simp only [digits, List.mem_cons, List.not_mem_nil, or_false] at h
  rcases h with rfl | rfl | rfl | rfl | rfl | rfl | rfl | rfl | rfl | rfl <;> rfl

/-- A reader finds a numeral where no other character of a numeral follows. -/
lemma kinds_numeral (n : Nat) (hrest : Closing rest) :
    kinds (Nat.toDigits 10 n ++ rest) = .number (Decimal.nearest n 0) :: kinds rest := by
  have hrun := numeralRun_toDigits n hrest
  have hvalue := Decimal.unsigned?_toDigits n
  have hall : ∀ c ∈ Nat.toDigits 10 n, c ∈ digits := fun c hc =>
    mem_digits_of_isDigit (Decimal.isDigit_of_mem_toDigits hc)
  obtain ⟨c, cs, hdigits⟩ := List.exists_cons_of_ne_nil (Nat.toDigits_ne_nil (n := n) (b := 10))
  rw [hdigits] at hrun hvalue hall ⊢
  obtain ⟨hc, hcs⟩ := List.forall_mem_cons.mp hall
  have hhead : ∀ d ∈ (cs ++ rest).head?, d ∈ wordless := by
    cases cs with
    | nil => exact hrest.wordless
    | cons d cs =>
        rintro _ ⟨⟩
        exact List.mem_append_right _ (hcs d List.mem_cons_self)
  have hnone : c = '0' → ∀ x ∈ (cs ++ rest).head?, ¬ (x = 'x' ∨ x = 'X') := by
    rintro - x hx (rfl | rfl) <;> exact absurd (hhead _ hx) (by decide)
  have hgaps : (digits.all fun d => isGapBlank d = false ∧ d ≠ '/') = true := by decide
  have hgap := of_decide_eq_true (List.all_eq_true.mp hgaps c hc)
  rw [List.cons_append] at hrun ⊢
  rw [kinds_cons (gapSize_eq_zero hgap.1 hgap.2 _), lexeme,
    if_pos (startsNumber_of_mem_digits hc _), numberLexeme_of_no_hexMark hnone, decimalLexeme,
    hrun, hvalue]
  simp

/-- A minus sign in front of a digit is a mark of its own. -/
lemma kinds_minus {c : Char} (h : c ∈ digits) (rest : List Char) :
    kinds ('-' :: c :: rest) = .mark .minus :: kinds (c :: rest) := by
  simp only [digits, List.mem_cons, List.not_mem_nil, or_false] at h
  rcases h with rfl | rfl | rfl | rfl | rfl | rfl | rfl | rfl | rfl | rfl <;>
  exact kinds_cons (gapSize_eq_zero rfl (by decide) _)

/-- The text of a whole number is its digits, behind a minus sign if it is below zero. -/
lemma toList_numberText {x : Float} (hwhole : Number.isWhole x)
    (hsmall : (Number.truncate x).natAbs < 2 ^ 53) :
    (Json.numberText x).toList =
      if Number.truncate x < 0 then '-' :: Nat.toDigits 10 (Number.truncate x).natAbs
      else Nat.toDigits 10 (Number.truncate x).natAbs := by
  rw [Json.numberText_of_isWhole (Bool.and_eq_true_iff.mp hwhole).2 hsmall]
  obtain ⟨n, hn | hn⟩ := (Number.truncate x).eq_nat_or_neg
  · rw [hn, if_neg (by omega), Int.natAbs_natCast]
    exact Nat.toList_repr
  · rcases Nat.eq_zero_or_pos n with rfl | hpos
    · rw [hn]
      rfl
    · rw [hn, if_pos (by omega), Json.toString_neg_of_pos hpos, Int.natAbs_neg, Int.natAbs_natCast,
        String.toList_append]
      exact congrArg ('-' :: ·) Nat.toList_repr

/-! ## Text literals -/

lemma hexValue?_hexDigit {n : Nat} (h : n < 16) : Decimal.hexValue? (Json.hexDigit n) = some n := by
  interval_cases n <;> rfl

/-- A character as it stands between quotes in a document is read as that character. -/
lemma readBack_escapeChar : ReadBack '"' Json.escapeChar := by
  intro c done size rest
  unfold Json.escapeChar
  split
  case h_8 hquote hslash _ _ hline _ _ =>
    split
    · next hlow =>
      have hhigh := hexValue?_hexDigit (n := c.toNat / 16) (by omega)
      have hlow' := hexValue?_hexDigit (n := c.toNat % 16) (by omega)
      have hcode : 16 * (16 * 0 + c.toNat / 16) + c.toNat % 16 = c.toNat := by omega
      have hscalar : scalar? c.toNat = some c :=
        (if_pos c.valid).trans (congrArg some (Char.ofNat_toNat c))
      show literalFrom '"' (.unicode 2 0) done (size + 4)
        (Json.hexDigit (c.toNat / 16) :: Json.hexDigit (c.toNat % 16) :: rest) = _
      simp only [literalFrom, hhigh, hlow', Nat.one_lt_ofNat, if_true, Nat.add_one_sub_one,
        Nat.lt_irrefl, if_false, hcode, hscalar]
      rfl
    · simp only [List.cons_append, List.nil_append, literalFrom]
      rw [if_neg hquote, if_neg hline, if_neg hslash]
      rfl
  all_goals rfl

/-- A reader finds a text in its quotes. -/
lemma kinds_quote (s : String) (rest : List Char) :
    kinds ((Json.quote s).toList ++ rest) = .text s :: kinds rest := by
  have htext : (Json.quote s).toList ++ rest = '"' :: (Json.escape s.toList ++ '"' :: rest) := by
    simp [Json.quote]
  have hlexeme : lexeme '"' (Json.escape s.toList ++ '"' :: rest) =
      ⟨.text s, (Json.escape s.toList).length + 2⟩ := readBack_escapeChar.lexeme_eq (.inl rfl) s rest
  rw [htext, kinds_cons (gapSize_eq_zero rfl (by decide) _), hlexeme]
  simp

/-! ## Documents -/

section Containers

variable {items : List Json} {entries : List (String × Json)}

/-- Items are found one by one, each up to the comma behind it. -/
lemma kinds_items (h : ∀ item ∈ items, ∀ {rest}, Closing rest →
      kinds (item.compact.toList ++ rest) = item.kinds ++ kinds rest) (hrest : Closing rest) :
    kinds ((Json.compactItems items).toList ++ rest) =
      joined (Json.itemKinds items) ++ kinds rest := by
  induction items with
  | nil => rfl
  | cons item others ih =>
      obtain ⟨hitem, hothers⟩ := List.forall_mem_cons.mp h
      cases others with
      | nil => exact hitem hrest
      | cons next others =>
          have hcomma : Closing (',' :: ((Json.compactItems (next :: others)).toList ++ rest)) :=
            ⟨',', by decide, _, rfl⟩
          have hfirst := hitem hcomma
          rw [kinds_mark (m := .comma) (by decide), ih hothers] at hfirst
          simpa [Json.compactItems, Json.itemKinds, joined] using hfirst

/-- Properties are found one by one, each up to the comma behind it. -/
lemma kinds_entries (h : ∀ entry ∈ entries, ∀ {rest}, Closing rest →
      kinds (entry.2.compact.toList ++ rest) = entry.2.kinds ++ kinds rest) (hrest : Closing rest) :
    kinds ((Json.compactEntries entries).toList ++ rest) =
      joined (Json.entryKinds entries) ++ kinds rest := by
  induction entries with
  | nil => rfl
  | cons entry others ih =>
      obtain ⟨key, item⟩ := entry
      obtain ⟨hitem, hothers⟩ := List.forall_mem_cons.mp h
      have hkey (ahead : List Char) : kinds ((Json.quote key).toList ++ ':' :: ahead) =
          .text key :: .mark .colon :: kinds ahead := by
        rw [kinds_quote, kinds_mark (m := .colon) (by decide)]
      cases others with
      | nil =>
          have hfirst := hkey (item.compact.toList ++ rest)
          rw [hitem hrest] at hfirst
          simpa [Json.compactEntries, Json.entryKinds, joined] using hfirst
      | cons next others =>
          have hcomma : Closing (',' :: ((Json.compactEntries (next :: others)).toList ++ rest)) :=
            ⟨',', by decide, _, rfl⟩
          have hfirst := hkey (item.compact.toList ++
            ',' :: ((Json.compactEntries (next :: others)).toList ++ rest))
          rw [hitem hcomma, kinds_mark (m := .comma) (by decide), ih hothers] at hfirst
          simpa [Json.compactEntries, Json.entryKinds, joined] using hfirst

end Containers

/-- A reader finds the tokens of a document, up to what follows it. -/
theorem kinds_compact {document : Json} (h : document.Whole) (hrest : Closing rest) :
    kinds (document.compact.toList ++ rest) = document.kinds ++ kinds rest := by
  induction h generalizing rest with
  | null => exact kinds_keyword .nullWord hrest
  | boolean b =>
      cases b with
      | true => exact kinds_keyword .trueWord hrest
      | false => exact kinds_keyword .falseWord hrest
  | @number x hwhole hsmall =>
      have hnumeral := kinds_numeral (Number.truncate x).natAbs hrest
      rw [Json.compact, toList_numberText hwhole hsmall, Json.kinds]
      split
      · obtain ⟨c, cs, hdigits⟩ :=
          List.exists_cons_of_ne_nil (Nat.toDigits_ne_nil (n := (Number.truncate x).natAbs) (b := 10))
        have hc : c ∈ digits :=
          mem_digits_of_isDigit (Decimal.isDigit_of_mem_toDigits (hdigits ▸ List.mem_cons_self))
        rw [hdigits, List.cons_append] at hnumeral ⊢
        rw [List.cons_append, kinds_minus hc, hnumeral]
        rfl
      · exact hnumeral
  | text s => exact kinds_quote s rest
  | @array items _ ih =>
      have hclose : Closing (']' :: rest) := ⟨']', by decide, rest, rfl⟩
      have hitems := kinds_items (fun item hmem _ hrest => ih item hmem hrest) hclose
      rw [kinds_mark (m := .rightBracket) (by decide)] at hitems
      have hopen := kinds_mark (c := '[') (m := .leftBracket) (by decide)
        ((Json.compactItems items).toList ++ ']' :: rest)
      rw [hitems] at hopen
      simpa [Json.compact, Json.kinds] using hopen
  | @object entries _ _ ih =>
      have hclose : Closing ('}' :: rest) := ⟨'}', by decide, rest, rfl⟩
      have hentries := kinds_entries (fun entry hmem _ hrest => ih entry hmem hrest) hclose
      rw [kinds_mark (m := .rightBrace) (by decide)] at hentries
      have hopen := kinds_mark (c := '{') (m := .leftBrace) (by decide)
        ((Json.compactEntries entries).toList ++ '}' :: rest)
      rw [hentries] at hopen
      simpa [Json.compact, Json.kinds] using hopen

end Script

end ModuleRunner
