import ModuleRunner.Config
import ModuleRunner.Proofs.Decimal.Word

/-!
# Settings by name

Five settings can be given by a name and a text.  Each has its own texts: a base, a function and the
name given in requests are any text, a number of seconds is a whole number of at most 64 bits, and for
the console there are two words.  A name that is none of the five, or a text that the setting does not
have, is refused, and then nothing changes; else that setting changes and no other one does.

The console is the exception.  It takes every text, and but for the one word that grants it every text
withholds it, words that mean nothing among them.

* `Setting`, `Content` — the settings, and what they can be.
* `Setting.Reads` — the texts of a setting.
* `Setting.Takes` — the texts that change a setting.
* `Config.Sets` — one setting has changed.
* `set?_of_takes`, `takes_of_set?` — giving a setting by name.
* `Config.StandsFor` — the variables that stand for a setting.
* `set?_follows_iff` — keys and texts, and whole environments.
-/

namespace ModuleRunner

/-! ## Settings -/

/-- A setting that is given by a name and a text. -/
inductive Setting where
  | base
  | entryFunction
  | console
  | timeout
  | userAgent
deriving DecidableEq

/-- What a setting can be. -/
inductive Content where
  | text (s : String)
  | truth (b : Bool)
  | count (n : Nat)

namespace Setting

/-- The name of a setting. -/
def key : Setting → String
  | base => "base"
  | entryFunction => "entry-function"
  | console => "console"
  | timeout => "timeout"
  | userAgent => "user-agent"

/-- A text of a setting, and what it says. -/
inductive Reads : Setting → String → Content → Prop where
  | base (s : String) : Reads base s (.text s)
  | entryFunction (s : String) : Reads entryFunction s (.text s)
  | userAgent (s : String) : Reads userAgent s (.text s)
  | granted : Reads console "true" (.truth true)
  | withheld : Reads console "false" (.truth false)
  | timeout {s : String} {n : Nat} (h : Decimal.Spells s.toList n) : Reads timeout s (.count n)

/-- A text that changes a setting: one of its own, and any but `true` withholds the console. -/
inductive Takes : Setting → String → Content → Prop where
  | reads {setting : Setting} {text : String} {content : Content}
      (h : setting.Reads text content) : Takes setting text content
  | other {text : String} (h : text ≠ "true") : Takes console text (.truth false)

lemma key_injective {s t : Setting} (h : s.key = t.key) : s = t := by
  revert h
  cases s <;> cases t <;> decide

end Setting

namespace Config

/-- What a setting is. -/
def content (config : Config) : Setting → Content
  | .base => .text config.base
  | .entryFunction => .text config.entryFunction
  | .console => .truth config.console
  | .timeout => .count config.timeout
  | .userAgent => .text config.userAgent

/-- A setting has changed, and nothing else. -/
structure Sets (config : Config) (setting : Setting) (content : Content) (config' : Config) : Prop where
  contents : config'.content = Function.update config.content setting content
  modules : config'.modules = config.modules

/-! ## Keys and texts -/

lemma seconds?_eq (s : String) : seconds? s = Decimal.word? (Decimal.unsigned s.toList) := by
  unfold seconds? Decimal.word?
  rw [Nat.pow_eq]
  dsimp only
  split
  · next rest hsign => rw [hsign]; rfl
  · next hbare => rw [Decimal.unsigned_of_ne hbare]

lemma seconds?_eq_some_iff {s : String} {n : Nat} :
    seconds? s = some n ↔ Decimal.Spells s.toList n := by
  rw [seconds?_eq, Decimal.word?_eq_some_iff, Decimal.spells_iff_word]

lemma ext_content {config config' : Config} (hcontent : config.content = config'.content)
    (hmodules : config.modules = config'.modules) : config = config' := by
  have hsame (s : Setting) : config.content s = config'.content s := by rw [hcontent]
  have hbase := hsame .base
  have hfunction := hsame .entryFunction
  have hconsole := hsame .console
  have htimeout := hsame .timeout
  have hagent := hsame .userAgent
  cases config
  cases config'
  simp_all [content]

/-- There is one way to change a setting and nothing else. -/
lemma Sets.unique {config config₁ config₂ : Config} {s : Setting} {c : Content}
    (h₁ : config.Sets s c config₁) (h₂ : config.Sets s c config₂) : config₁ = config₂ :=
  ext_content (h₁.contents.trans h₂.contents.symm) (h₁.modules.trans h₂.modules.symm)

/-- A text that changes a setting changes it, and nothing else. -/
lemma set?_of_takes (config : Config) {s : Setting} {text : String} {c : Content}
    (h : s.Takes text c) : ∃ config', config.set? s.key text = some config' ∧ config.Sets s c config' := by
  have hconsole (b : Bool) : config.Sets .console (.truth b) { config with console := b } :=
    ⟨funext fun t => by cases t <;> rfl, rfl⟩
  cases h with
  | reads h =>
    cases h with
    | base | entryFunction | userAgent => exact ⟨_, rfl, funext fun t => by cases t <;> rfl, rfl⟩
    | granted => exact ⟨_, rfl, hconsole true⟩
    | withheld => exact ⟨_, rfl, hconsole false⟩
    | timeout h =>
      refine ⟨_, congrArg (Option.map _) (seconds?_eq_some_iff.mpr h), funext fun t => ?_, rfl⟩
      cases t <;> rfl
  | other h =>
    refine ⟨_, rfl, ?_⟩
    rw [beq_eq_false_iff_ne.mpr h]
    exact hconsole false

/-- A key and a text that are accepted are a setting and a text that changes it. -/
lemma takes_of_set? {config config' : Config} {key text : String}
    (h : config.set? key text = some config') :
    ∃ s c, s.key = key ∧ s.Takes text c ∧ config.Sets s c config' := by
  have htaken : ∃ s : Setting, ∃ c, s.key = key ∧ s.Takes text c := by
    unfold set? at h
    split at h
    · exact ⟨.base, _, rfl, .reads (.base _)⟩
    · exact ⟨.entryFunction, _, rfl, .reads (.entryFunction _)⟩
    · rcases eq_or_ne text "true" with rfl | hother
      · exact ⟨.console, _, rfl, .reads .granted⟩
      · exact ⟨.console, _, rfl, .other hother⟩
    · obtain ⟨n, hn, -⟩ := Option.map_eq_some_iff.mp h
      exact ⟨.timeout, _, rfl, .reads (.timeout (seconds?_eq_some_iff.mp hn))⟩
    · exact ⟨.userAgent, _, rfl, .reads (.userAgent _)⟩
    · cases h
  obtain ⟨s, c, rfl, htakes⟩ := htaken
  obtain ⟨config'', hset, hsets⟩ := config.set?_of_takes htakes
  obtain rfl := Option.some.inj (h.symm.trans hset)
  exact ⟨s, c, rfl, htakes, hsets⟩

/-! ## Environments -/

/-- The name of a variable stands for a key: behind the start that the names of all such variables have,
it is the key, in letters of any case and with underscores for dashes. -/
def StandsFor (name key : String) : Prop :=
  ∃ rest, name.toList = variableStart.toList ++ rest ∧
    key = String.ofList ((Text.lowercase rest).map fun c => if c = '_' then '-' else c)

lemma dropStart?_eq_some_iff {start cs rest : List Char} :
    dropStart? start cs = some rest ↔ cs = start ++ rest := by
  induction start generalizing cs with
  | nil => simp [dropStart?]
  | cons s start ih =>
    cases cs with
    | nil => simp [dropStart?]
    | cons c cs =>
      rw [dropStart?]
      split
      · next heq => simp [ih, heq]
      · next hne => simp [Ne.symm hne]

lemma settingName?_eq_some_iff {name key : String} : settingName? name = some key ↔ StandsFor name key := by
  simp only [settingName?, Option.map_eq_some_iff, dropStart?_eq_some_iff, StandsFor]
  exact exists_congr fun rest => and_congr_right fun _ => eq_comm

/-- A variable stands for a setting, and its text is one of that setting. -/
def Means (entry : String × String) : Prop :=
  ∃ s : Setting, ∃ c, StandsFor entry.1 s.key ∧ s.Reads entry.2 c

/-- The key of the console with a text that is none of its two words. -/
def Misspelt (key text : String) : Prop := key = Setting.console.key ∧ text ≠ "true" ∧ text ≠ "false"

/-- A text that changes a setting is one of its own, or the console is misspelt. -/
lemma reads_or_misspelt {s : Setting} {text : String} {c : Content} (h : s.Takes text c) :
    s.Reads text c ∨ Misspelt s.key text := by
  cases h with
  | reads h => exact .inl h
  | other htrue =>
    rcases eq_or_ne text "false" with rfl | hfalse
    · exact .inl .withheld
    · exact .inr ⟨rfl, htrue, hfalse⟩

lemma takes_of_misspelt {key text : String} (h : Misspelt key text) :
    Setting.console.key = key ∧ Setting.console.Takes text (.truth false) :=
  ⟨h.1.symm, .other h.2.1⟩

/-- A variable that changes a setting means something, or its key is misspelt. -/
def Heeded (entry : String × String) : Prop :=
  Means entry ∨ ∃ key, StandsFor entry.1 key ∧ Misspelt key entry.2

lemma heeded_iff {entry : String × String} :
    Heeded entry ↔ ∃ s : Setting, ∃ c, StandsFor entry.1 s.key ∧ s.Takes entry.2 c := by
  constructor
  · rintro (⟨s, c, hname, hreads⟩ | ⟨key, hname, hmisspelt⟩)
    · exact ⟨s, c, hname, .reads hreads⟩
    · obtain ⟨rfl, htakes⟩ := takes_of_misspelt hmisspelt
      exact ⟨.console, _, hname, htakes⟩
  · rintro ⟨s, c, hname, htakes⟩
    exact (reads_or_misspelt htakes).imp (fun h => ⟨s, c, hname, h⟩) fun h => ⟨s.key, hname, h⟩

/-- Any other variable does nothing. -/
lemma applyVariable_of_not_heeded (config : Config) {entry : String × String} (h : ¬ Heeded entry) :
    config.applyVariable entry = config := by
  unfold applyVariable
  split
  · next key hname =>
    cases hset : config.set? key entry.2 with
    | none => rfl
    | some config' =>
      obtain ⟨s, c, rfl, htakes, -⟩ := takes_of_set? hset
      exact absurd (heeded_iff.mpr ⟨s, c, settingName?_eq_some_iff.mp hname, htakes⟩) h
  · rfl

open scoped Classical in
lemma applyEnvironment_filter (config : Config) (environment : List (String × String)) :
    config.applyEnvironment environment = config.applyEnvironment (environment.filter (Heeded ·)) := by
  induction environment generalizing config with
  | nil => rfl
  | cons entry rest ih =>
    rw [applyEnvironment, List.foldl_cons, ← applyEnvironment]
    by_cases hheeded : Heeded entry
    · rw [List.filter_cons_of_pos (by simpa using hheeded), ih]
      rfl
    · rw [List.filter_cons_of_neg (by simpa using hheeded), applyVariable_of_not_heeded config hheeded, ih]

/-! ## What is accepted and what is refused -/

/-- An answer to a key and a text that goes by the texts of the settings.  A configuration is answered if
the key is that of a setting and the text is one of that setting; then it has changed in this setting
and in nothing else.  If there is no answer, the text is none of a setting with that key. -/
structure Follows (config : Config) (key text : String) (answer : Option Config) : Prop where
  accepted : ∀ config', answer = some config' →
    ∃ s c, s.key = key ∧ s.Reads text c ∧ config.Sets s c config'
  refused : answer = none → ∀ (s : Setting) c, s.key = key → ¬ s.Reads text c

lemma follows_iff_not_misspelt (config : Config) (key text : String) :
    config.Follows key text (config.set? key text) ↔ ¬ Misspelt key text := by
  constructor
  · intro hfollows hmisspelt
    obtain ⟨rfl, htakes⟩ := takes_of_misspelt hmisspelt
    obtain ⟨config', hset, -⟩ := config.set?_of_takes htakes
    obtain ⟨s, c, hkey, hreads, -⟩ := hfollows.accepted config' hset
    obtain rfl := Setting.key_injective hkey
    cases hreads with
    | granted => exact hmisspelt.2.1 rfl
    | withheld => exact hmisspelt.2.2 rfl
  · intro hspelt
    refine ⟨fun config' hset => ?_, fun hset s c hkey hreads => ?_⟩
    · obtain ⟨s, c, rfl, htakes, hsets⟩ := takes_of_set? hset
      exact ⟨s, c, rfl, (reads_or_misspelt htakes).resolve_right hspelt, hsets⟩
    · obtain ⟨config', hset', -⟩ := config.set?_of_takes (.reads hreads)
      rw [hkey, hset] at hset'
      cases hset'

open scoped Classical in
/-- **Settings by name.**  For every configuration, every key and every text: a key that is none of a
setting and a text that the setting does not have are refused, and all others change the setting and
nothing else, exactly if the text is not given for the console and another word than its two.  Such a
word withholds the console.  So of the variables of any environment, all that stand for no setting and
all whose texts are none of their settings might as well be left out, but for those that misspell the
console. -/
theorem set?_follows_iff (config : Config) (key text : String) :
    (config.Follows key text (config.set? key text) ↔ ¬ Misspelt key text) ∧
    (Misspelt key text → config.set? key text = config.set? key "false") ∧
    ∀ environment, config.applyEnvironment environment =
      config.applyEnvironment (environment.filter (Heeded ·)) := by
  refine ⟨config.follows_iff_not_misspelt key text, ?_, config.applyEnvironment_filter⟩
  rintro ⟨rfl, htrue, -⟩
  obtain ⟨config₁, hset₁, hsets₁⟩ := config.set?_of_takes (.other htrue)
  obtain ⟨config₂, hset₂, hsets₂⟩ := config.set?_of_takes (.reads .withheld)
  rw [hset₁, hset₂, hsets₁.unique hsets₂]

/-- A word that is none of the console's two, a text that is no number, and an environment with both. -/
theorem set?_follows_iff_yes :
    Misspelt "console" "yes" ∧ ¬ default.Follows "console" "yes" (default.set? "console" "yes") ∧
      default.set? "console" "yes" = default.set? "console" "false" ∧
      ¬ Misspelt "timeout" "never" ∧ default.Follows "timeout" "never" none ∧
      let environment := [("MODRUN_TIMEOUT", "never"), ("MODRUN_CONSOLE", "yes")]
      default.applyEnvironment environment = default.applyEnvironment [("MODRUN_CONSOLE", "yes")] ∧
        (default.applyEnvironment environment).content .console = .truth false := by
  have hyes : Misspelt "console" "yes" := ⟨rfl, by decide, by decide⟩
  have hnever : ¬ Misspelt "timeout" "never" := fun h => absurd h.1 (by decide)
  obtain ⟨hwrong, hfalse, henvironment⟩ := default.set?_follows_iff "console" "yes"
  obtain ⟨hright, -⟩ := default.set?_follows_iff "timeout" "never"
  have hrefused : default.set? "timeout" "never" = none := by rfl
  refine ⟨hyes, fun h => hwrong.mp h hyes, hfalse hyes, hnever, hrefused ▸ hright.mpr hnever, ?_, ?_⟩
  · have hconsole : StandsFor "MODRUN_CONSOLE" "console" :=
      settingName?_eq_some_iff.mp (by decide +kernel)
    have htimeout : settingName? "MODRUN_TIMEOUT" = some "timeout" := by decide +kernel
    have hkept : Heeded ("MODRUN_CONSOLE", "yes") := .inr ⟨"console", hconsole, hyes⟩
    have hdropped : ¬ Heeded ("MODRUN_TIMEOUT", "never") := by
      intro hheeded
      obtain ⟨s, c, hname, htakes⟩ := heeded_iff.mp hheeded
      obtain ⟨config', hset, -⟩ := default.set?_of_takes htakes
      rw [← Option.some.inj (htimeout.symm.trans (settingName?_eq_some_iff.mpr hname)), hrefused] at hset
      cases hset
    rw [henvironment, List.filter_cons_of_neg (by simpa using hdropped),
      List.filter_cons_of_pos (by simpa using hkept), List.filter_nil]
  · have hwithheld : (default.applyEnvironment
        [("MODRUN_TIMEOUT", "never"), ("MODRUN_CONSOLE", "yes")]).console = false := by decide +kernel
    exact congrArg Content.truth hwithheld

end Config

end ModuleRunner
