import Mathlib.Tactic
import ModuleRunner.Url.Reader

/-!
# Texts that start with a slash

Relative to an address of the web, a text that starts with a slash has no scheme of its own, and takes
from the address what stands before its path and nothing else.  So it stands for the same thing relative
to all addresses of one site.

* `SameSite` — addresses that differ at most behind their hosts and ports.
* `Reference.ofText_of_slash` — the parts of a text that starts with a slash.
* `parse_of_slash` — it stands for the same thing everywhere on a site.
-/

namespace ModuleRunner.Url

/-- Two addresses of the web that agree in all that stands before their paths. -/
structure SameSite (url other : Url) : Prop where
  remote : url.scheme = "http" ∨ url.scheme = "https"
  before : other = { url with path := other.path, query := other.query, fragment := other.fragment }
  clear : url.isOpaque = false ∧ other.isOpaque = false

/-! ## The parts of the text -/

/-- What is before a mark starts with a slash if the text does. -/
lemma cut_slash (mark : Char) (hmark : '/' ≠ mark) (cs : List Char) :
    ∃ before, (cut mark ('/' :: cs)).1 = '/' :: before := by
  have htake : ('/' :: cs).takeWhile (· ≠ mark) = '/' :: cs.takeWhile (· ≠ mark) := by
    rw [List.takeWhile_cons, if_pos (by simpa using hmark)]
  refine ⟨cs.takeWhile (· ≠ mark), ?_⟩
  unfold cut
  dsimp only
  split <;> exact htake

/-- What starts with a slash has no scheme. -/
lemma cutScheme_slash (cs : List Char) : cutScheme ('/' :: cs) = (none, '/' :: cs) := by
  obtain ⟨before, hbefore⟩ := cut_slash ':' (by decide) cs
  have hunbroken : unbroken (cut ':' ('/' :: cs)).1 = '/' :: unbroken before := by
    rw [hbefore]
    rfl
  unfold cutScheme
  dsimp only
  split
  · rename_i c rest behind hc hbehind
    rw [hunbroken] at hc
    obtain ⟨rfl, -⟩ := List.cons.inj hc
    rfl
  · rfl

/-- Blanks around a text that starts with a slash are only behind it. -/
lemma trimmed_slash {s : String} (h : ['/'] <+: s.toList) : ∃ cs, trimmed s = '/' :: cs := by
  obtain ⟨rest, hrest⟩ := h
  unfold trimmed
  dsimp only
  rw [← hrest, List.cons_append, List.dropWhile_cons_of_neg (by decide), List.nil_append,
    List.reverse_cons, List.dropWhile_append]
  split
  · exact ⟨[], rfl⟩
  · exact ⟨_, by rw [List.reverse_append]; rfl⟩

/-- The parts of a text that starts with a slash: no scheme, and a path that starts with it. -/
lemma Reference.ofText_of_slash {s : String} (h : ['/'] <+: s.toList) :
    (ofText s).scheme = none ∧ ∃ rest, (ofText s).body = '/' :: rest := by
  obtain ⟨cs, hcs⟩ := trimmed_slash h
  obtain ⟨beforeNumber, hnumber⟩ := cut_slash '#' (by decide) cs
  obtain ⟨beforeQuestion, hquestion⟩ := cut_slash '?' (by decide) beforeNumber
  have hscheme := cutScheme_slash beforeQuestion
  unfold ofText
  dsimp only
  rw [hcs, hnumber, hquestion, hscheme]
  exact ⟨rfl, beforeQuestion, rfl⟩

/-! ## The address -/

variable {url other : Url}

lemma SameSite.scheme_eq (h : SameSite url other) : other.scheme = url.scheme := by
  rw [h.before]

/-- Behind a slash, nothing is left of a path, a query or a fragment. -/
lemma SameSite.relative_of_slash (h : SameSite url other) {r : Reference} {rest : List Char}
    (hbody : r.body = '/' :: rest) : relative url r = relative other r := by
  unfold relative
  rw [hbody, h.before]
  rfl

/-- **One site.**  A text that starts with a slash stands for the same thing relative to all addresses
of a site. -/
lemma SameSite.parse_of_slash (h : SameSite url other) {s : String} (hs : ['/'] <+: s.toList) :
    parse (some url) s = parse (some other) s := by
  obtain ⟨hscheme, rest, hbody⟩ := Reference.ofText_of_slash hs
  have hbare : (Reference.ofText s).withoutBreaks.body = '/' :: unbroken rest := by
    rw [Reference.withoutBreaks, hbody]
    rfl
  have hfile : url.scheme ≠ "file" := by
    rcases h.remote with hremote | hremote <;> rw [hremote] <;> decide
  have hsite (site : Url) (hclear : site.isOpaque = false) (hsite : site.scheme = url.scheme) :
      parse (some site) s = relativeOrAuthority site (Reference.ofText s).withoutBreaks := by
    unfold parse
    dsimp only
    rw [hscheme]
    dsimp only
    unfold withoutScheme
    dsimp only
    rw [hbare, hclear, hsite]
    simp [hfile]
  rw [hsite url h.clear.1 rfl, hsite other h.clear.2 h.scheme_eq]
  unfold relativeOrAuthority
  rw [h.scheme_eq, h.relative_of_slash hbare]

end ModuleRunner.Url
