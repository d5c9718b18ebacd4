import ModuleRunner.Command.Run
import ModuleRunner.Proofs.Configuration.Settings
import ModuleRunner.Proofs.Script.RoundTrip

/-!
# Layers of settings

A configuration is made of four layers.  An option counts before all variables, the last variable that
says something of a setting before the file, and the file before the defaults.  Layers are applied the
other way round, from the defaults on, and each leaves alone what it says nothing of; so the layer that
counts is the last one that changes the setting.

Values of the host have two layers.  The table of the file comes first, and then come the definitions,
each of which puts its value in the place of an older one with the same id.  One definition that is
malformed is enough for there to be no configuration.

* `Says`, `LastSays`, `Silent` — what variables say of a setting.
* `content_applyVariable`, `content_applyEnvironment` — what variables do to the settings, one and all.
* `FileSays`, `content_ofEntries?` — what a file says.
* `Defines`, `Malformed` — definitions.
* `Effective` — what a setting is in the end.
* `configuration_layers` — whole configurations.
-/

namespace ModuleRunner

open Command

namespace Config

/-! ## Variables -/

/-- A variable says something of a setting: it stands for the setting, and its text changes it. -/
def Says (entry : String × String) (s : Setting) (c : Content) : Prop :=
  StandsFor entry.1 s.key ∧ s.Takes entry.2 c

/-- The last variable that says something of a setting. -/
def LastSays (environment : List (String × String)) (s : Setting) (c : Content) : Prop :=
  ∃ before entry after, environment = before ++ entry :: after ∧ Says entry s c ∧
    ∀ other ∈ after, ∀ c', ¬ Says other s c'

/-- No variable says anything of a setting. -/
def Silent (environment : List (String × String)) (s : Setting) : Prop :=
  ∀ entry ∈ environment, ∀ c, ¬ Says entry s c

/-- A variable stands for one setting at most. -/
lemma Says.unique {entry : String × String} {s t : Setting} {c c' : Content} (h : Says entry s c)
    (h' : Says entry t c') : s = t := by
  have hs := settingName?_eq_some_iff.mpr h.1
  have ht := settingName?_eq_some_iff.mpr h'.1
  exact Setting.key_injective (Option.some.inj (hs.symm.trans ht))

lemma heeded_iff_saying {entry : String × String} : Heeded entry ↔ ∃ s c, Says entry s c := heeded_iff

/-- What a variable says of a setting is what the setting is then. -/
lemma content_applyVariable_of_saying (config : Config) {entry : String × String} {s : Setting}
    {c : Content} (h : Says entry s c) : config.Sets s c (config.applyVariable entry) := by
  obtain ⟨config', hset, hsets⟩ := config.set?_of_takes h.2
  rw [applyVariable, settingName?_eq_some_iff.mpr h.1]
  dsimp only
  rwa [hset]

/-- A variable that says nothing of a setting leaves it alone. -/
lemma content_applyVariable_of_silent (config : Config) {entry : String × String} {s : Setting}
    (h : ∀ c, ¬ Says entry s c) : (config.applyVariable entry).content s = config.content s := by
  by_cases hheeded : Heeded entry
  · obtain ⟨t, c, hsaid⟩ := heeded_iff_saying.mp hheeded
    have hne : s ≠ t := by
      rintro rfl
      exact h c hsaid
    rw [(config.content_applyVariable_of_saying hsaid).contents, Function.update_of_ne hne]
  · rw [config.applyVariable_of_not_heeded hheeded]

lemma modules_applyVariable (config : Config) (entry : String × String) :
    (config.applyVariable entry).modules = config.modules := by
  by_cases hheeded : Heeded entry
  · obtain ⟨t, c, hsaid⟩ := heeded_iff_saying.mp hheeded
    exact (config.content_applyVariable_of_saying hsaid).modules
  · rw [config.applyVariable_of_not_heeded hheeded]

/-- The last variable that says something of a setting decides it. -/
theorem content_applyEnvironment (config : Config) (environment : List (String × String)) (s : Setting) :
    LastSays environment s ((config.applyEnvironment environment).content s) ∨
      Silent environment s ∧ (config.applyEnvironment environment).content s = config.content s := by
  induction environment using List.reverseRecOn with
  | nil => exact .inr ⟨fun _ hmem => (nomatch hmem), rfl⟩
  | append_singleton before last ih =>
    rw [applyEnvironment, List.foldl_concat, ← applyEnvironment]
    by_cases hsaid : ∃ c, Says last s c
    · obtain ⟨c, hsaid⟩ := hsaid
      rw [(content_applyVariable_of_saying _ hsaid).contents, Function.update_self]
      exact .inl ⟨before, last, [], rfl, hsaid, fun _ hmem => nomatch hmem⟩
    · have hlast : ∀ c, ¬ Says last s c := fun c h => hsaid ⟨c, h⟩
      rw [content_applyVariable_of_silent _ hlast]
      rcases ih with ⟨front, entry, after, henvironment, hentry, hafter⟩ | ⟨hsilent, hkept⟩
      · refine .inl ⟨front, entry, after ++ [last], by rw [henvironment]; simp, hentry, ?_⟩
        rw [List.forall_mem_append]
        exact ⟨hafter, List.forall_mem_singleton.mpr hlast⟩
      · refine .inr ⟨?_, hkept⟩
        rw [Silent, List.forall_mem_append]
        exact ⟨hsilent, List.forall_mem_singleton.mpr hlast⟩

lemma modules_applyEnvironment (config : Config) (environment : List (String × String)) :
    (config.applyEnvironment environment).modules = config.modules := by
  induction environment using List.reverseRecOn with
  | nil => rfl
  | append_singleton before last ih =>
    rw [applyEnvironment, List.foldl_concat, ← applyEnvironment, modules_applyVariable, ih]

/-! ## Files -/

end Config

/-- The name of a setting in a file. -/
def Setting.fileKey : Setting → String
  | base => "base"
  | entryFunction => "entry_function"
  | console => "console"
  | timeout => "timeout"
  | userAgent => "user_agent"

/-- A value of a file says what a setting is. -/
inductive Content.IsOf : Toml → Content → Prop where
  | text (s : String) : IsOf (.text s) (.text s)
  | truth (b : Bool) : IsOf (.boolean b) (.truth b)
  | count (n : Nat) : IsOf (.integer n) (.count n)

namespace Config

/-- A file says something of a setting. -/
def FileSays (entries : List (String × Toml)) (s : Setting) (c : Content) : Prop :=
  ∃ value, Toml.get? entries s.fileKey = some value ∧ Content.IsOf value c

/-- The values of the host that a file has. -/
def fileModules (entries : List (String × Toml)) : List (String × Json) :=
  ((Toml.get? entries "modules").bind table?).getD []

lemma setting?_eq_some {α : Type} {entries : List (String × Toml)} {key : String} {old found : α}
    {read : Toml → Option α} (h : setting? entries key old read = some found) :
    (∃ value, Toml.get? entries key = some value ∧ read value = some found) ∨
      Toml.get? entries key = none ∧ found = old := by
  unfold setting? at h
  cases hget : Toml.get? entries key with
  | none =>
    rw [hget] at h
    exact .inr ⟨rfl, (Option.some.inj h).symm⟩
  | some value =>
    rw [hget] at h
    exact .inl ⟨value, rfl, h⟩

lemma isOf_of_text? {value : Toml} {s : String} (h : text? value = some s) :
    Content.IsOf value (.text s) := by
  cases value <;> cases h
  exact .text s

lemma isOf_of_boolean? {value : Toml} {b : Bool} (h : boolean? value = some b) :
    Content.IsOf value (.truth b) := by
  cases value <;> cases h
  exact .truth b

lemma isOf_of_natural? {value : Toml} {n : Nat} (h : natural? value = some n) :
    Content.IsOf value (.count n) := by
  cases value with
  | integer m =>
    simp only [natural?] at h
    split at h
    · next hpos =>
      obtain ⟨n, rfl⟩ := Int.eq_ofNat_of_zero_le hpos
      cases h
      exact .count n
    · cases h
  | _ => cases h

/-- What a file says of a setting, where its value is read as a content. -/
lemma fileSays_or {α : Type} {entries : List (String × Toml)} {s : Setting} {found : α}
    {read : Toml → Option α} {wrap : α → Content}
    (hread : ∀ {value a}, read value = some a → Content.IsOf value (wrap a)) {old : α}
    (h : setting? entries s.fileKey old read = some found) :
    FileSays entries s (wrap found) ∨ Toml.get? entries s.fileKey = none ∧ wrap found = wrap old := by
  rcases setting?_eq_some h with ⟨value, hget, hfound⟩ | ⟨hnone, rfl⟩
  · exact .inl ⟨value, hget, hread hfound⟩
  · exact .inr ⟨hnone, rfl⟩

/-- A file that loads decides the settings that it has a value for, and leaves the others at their
defaults. -/
theorem content_ofEntries? {entries : List (String × Toml)} {file : Config}
    (h : ofEntries? entries = some file) :
    (∀ s, FileSays entries s (file.content s) ∨
      Toml.get? entries s.fileKey = none ∧ file.content s = default.content s) ∧
    file.modules = fileModules entries := by
  simp only [ofEntries?, Option.bind_eq_bind, Option.bind_eq_some_iff, Option.pure_def] at h
  obtain ⟨base, hbase, function, hfunction, console, hconsole, timeout, htimeout, agent, hagent,
    modules, hmodules, hfile⟩ := h
  cases hfile
  refine ⟨fun s => ?_, ?_⟩
  · cases s with
    | base => exact fileSays_or (s := .base) isOf_of_text? hbase
    | entryFunction => exact fileSays_or (s := .entryFunction) isOf_of_text? hfunction
    | console => exact fileSays_or (s := .console) isOf_of_boolean? hconsole
    | timeout => exact fileSays_or (s := .timeout) isOf_of_natural? htimeout
    | userAgent => exact fileSays_or (s := .userAgent) isOf_of_text? hagent
  · rcases setting?_eq_some hmodules with ⟨value, hget, hfound⟩ | ⟨hnone, rfl⟩
    · rw [fileModules, hget, Option.bind_some, hfound, Option.getD_some]
    · rw [fileModules, hnone]
      rfl

/-- The values of the host that a file has are in order. -/
lemma sorted_fileModules (entries : List (String × Toml)) : Json.Sorted (fileModules entries) := by
  rw [fileModules]
  cases hfound : (Toml.get? entries "modules").bind table? with
  | none => exact List.Pairwise.nil
  | some modules =>
    obtain ⟨value, -, htable⟩ := Option.bind_eq_some_iff.mp hfound
    rw [Option.getD_some]
    cases value with
    | table entries =>
      cases htable
      exact Json.sorted_ofEntries _
    | moment m =>
      cases htable
      exact List.pairwise_singleton _ _
    | float x =>
      simp only [table?, Toml.toJson] at htable
      split at htable
      · next hjson => split at hjson <;> cases hjson
      · cases htable
    | _ => cases htable

end Config

/-! ## Definitions -/

/-- A definition: an id, an equals sign, and a document. -/
def Defines (text : String) (entry : String × Json) : Prop :=
  ∃ id value, text.toList = id ++ '=' :: value ∧ '=' ∉ id ∧ id ≠ [] ∧
    entry.1 = String.ofList id ∧ Json.parse? (String.ofList value) = some entry.2

/-- What is wrong with a text that is no definition. -/
inductive Malformed (text : String) : Fault → Prop where
  | noEquals (h : '=' ∉ text.toList) : Malformed text (.noEquals text)
  | noId {value : List Char} (h : text.toList = '=' :: value) : Malformed text (.noId text)
  | badValue {id value : List Char} (h : text.toList = id ++ '=' :: value) (hid : '=' ∉ id)
      (hsome : id ≠ []) (hvalue : Json.parse? (String.ofList value) = none) :
      Malformed text (.badValue (String.ofList id))

lemma cutAtEquals_of_not_mem {cs : List Char} (h : '=' ∉ cs) : cutAtEquals cs = (cs, none) := by
  induction cs with
  | nil => rfl
  | cons c cs ih =>
    obtain ⟨hc, hcs⟩ := not_or.mp (mt List.mem_cons.mpr h)
    simp [cutAtEquals, Ne.symm hc, ih hcs]

lemma cutAtEquals_append {id : List Char} (h : '=' ∉ id) (value : List Char) :
    cutAtEquals (id ++ '=' :: value) = (id, some value) := by
  induction id with
  | nil => rfl
  | cons c cs ih =>
    obtain ⟨hc, hcs⟩ := not_or.mp (mt List.mem_cons.mpr h)
    simp [cutAtEquals, Ne.symm hc, ih hcs]

/-- A text has no equals sign, or a first one. -/
lemma cut_cases (cs : List Char) : '=' ∉ cs ∨ ∃ id value, cs = id ++ '=' :: value ∧ '=' ∉ id := by
  by_cases h : '=' ∈ cs
  · obtain ⟨id, value, rfl, hid⟩ := List.eq_append_cons_of_mem h
    exact .inr ⟨id, value, rfl, hid⟩
  · exact .inl h

/-- A text is a definition or malformed. -/
lemma definition_cases (text : String) :
    (∃ entry, definition text = .ok entry ∧ Defines text entry) ∨
      ∃ fault, definition text = .error fault ∧ Malformed text fault := by
  unfold definition
  rcases cut_cases text.toList with hnone | ⟨id, value, htext, hid⟩
  · rw [cutAtEquals_of_not_mem hnone]
    exact .inr ⟨_, rfl, .noEquals hnone⟩
  · rw [htext, cutAtEquals_append hid]
    cases id with
    | nil => exact .inr ⟨_, rfl, .noId htext⟩
    | cons c cs =>
      dsimp only
      cases hparse : Json.parse? (String.ofList value) with
      | some document => exact .inl ⟨_, rfl, _, _, htext, hid, by simp, rfl, hparse⟩
      | none => exact .inr ⟨_, rfl, .badValue htext hid (by simp) hparse⟩

/-- No text is both. -/
lemma Defines.not_malformed {text : String} {entry : String × Json} (h : Defines text entry)
    (fault : Fault) : ¬ Malformed text fault := by
  obtain ⟨id, value, htext, hid, hsome, -, hparse⟩ := h
  have hcut := cutAtEquals_append hid value
  rw [← htext] at hcut
  rintro (hnone | hempty | ⟨htext', hid', hsome', hparse'⟩)
  · exact hnone (by rw [htext]; simp)
  · next value' =>
    rw [hempty] at hcut
    cases hcut
    exact hsome rfl
  · next id' value' =>
    rw [htext', cutAtEquals_append hid'] at hcut
    cases hcut
    rw [hparse] at hparse'
    cases hparse'

lemma exists_defines {texts : List String} {entries : List (String × Json)}
    (h : List.Forall₂ Defines texts entries) {text : String} (hmem : text ∈ texts) :
    ∃ entry, Defines text entry := by
  induction h with
  | nil => cases hmem
  | cons hfirst _ ih =>
    rcases List.mem_cons.mp hmem with rfl | hrest
    · exact ⟨_, hfirst⟩
    · exact ih hrest

/-- Definitions put their values in place, one after the other, or one of them is malformed. -/
lemma define_cases (texts : List String) (config : Config) :
    (∃ entries, List.Forall₂ Defines texts entries ∧ define config texts =
      .ok { config with
        modules := entries.foldl (fun done e => Json.insert e.1 e.2 done) config.modules }) ∨
    ∃ text ∈ texts, ∃ fault, Malformed text fault ∧ define config texts = .error fault := by
  induction texts generalizing config with
  | nil => exact .inl ⟨[], .nil, rfl⟩
  | cons text rest ih =>
    rw [define, List.foldlM_cons]
    rcases definition_cases text with ⟨entry, hrun, hdefines⟩ | ⟨fault, hrun, hmalformed⟩
    · rw [hrun]
      rcases ih { config with modules := Json.insert entry.1 entry.2 config.modules } with
        ⟨entries, hentries, hrest⟩ | ⟨other, hmem, fault, hmalformed, hrest⟩
      · exact .inl ⟨entry :: entries, .cons hdefines hentries, hrest⟩
      · exact .inr ⟨other, List.mem_cons_of_mem _ hmem, fault, hmalformed, hrest⟩
    · rw [hrun]
      exact .inr ⟨text, List.mem_cons_self, fault, hmalformed, rfl⟩

/-- The last definition of an id counts, and what was there before if there is none. -/
lemma lookup_foldl_insert {α : Type} (entries before : List (String × α)) (id : String) :
    (entries.foldl (fun done e => Json.insert e.1 e.2 done) before).lookup id =
      (entries.reverse.lookup id).or (before.lookup id) := by
  induction entries using List.reverseRecOn with
  | nil => rfl
  | append_singleton entries last ih =>
    rw [List.foldl_concat, List.reverse_concat, List.lookup_cons]
    rcases eq_or_ne id last.1 with rfl | hne
    · rw [Json.lookup_insert_self, beq_self_eq_true]
      rfl
    · rw [Json.lookup_insert_of_ne _ hne, ih, beq_eq_false_iff_ne.mpr hne]

lemma sorted_foldl_insert {α : Type} (entries : List (String × α)) {before : List (String × α)}
    (h : Json.Sorted before) :
    Json.Sorted (entries.foldl (fun done e => Json.insert e.1 e.2 done) before) := by
  induction entries using List.reverseRecOn with
  | nil => exact h
  | append_singleton entries last ih =>
    rw [List.foldl_concat]
    exact Json.sorted_insert ih

/-! ## Whole configurations -/

/-- What options ask a setting to be. -/
def Command.Options.asks (options : Options) : Setting → Option Content
  | .base => options.base.map .text
  | .entryFunction => options.function.map .text
  | .console => if options.noConsole then some (.truth false) else none
  | .timeout => none
  | .userAgent => none

/-- The entries of the file that options name, and none if they name no file. -/
inductive Command.Options.FileHas (options : Options) (storage : Files.Storage) :
    List (String × Toml) → Prop where
  | unnamed (h : options.config = none) : FileHas options storage []
  | named {path source : String} {entries : List (String × Toml)} (hpath : options.config = some path)
      (hsource : storage.text path = .ok source) (hparse : Toml.parse? source = some entries) :
      FileHas options storage entries

/-- What a setting is in the end: what the options say of it, or else the last variable that says
something, or else the file, or else what it is by default. -/
inductive Effective (options : Options) (environment : List (String × String))
    (entries : List (String × Toml)) (s : Setting) : Content → Prop where
  | option {c : Content} (hoption : options.asks s = some c) :
      Effective options environment entries s c
  | variable {c : Content} (hoption : options.asks s = none)
      (hvariable : Config.LastSays environment s c) : Effective options environment entries s c
  | file {c : Content} (hoption : options.asks s = none) (hsilent : Config.Silent environment s)
      (hfile : Config.FileSays entries s c) : Effective options environment entries s c
  | default (hoption : options.asks s = none) (hsilent : Config.Silent environment s)
      (hfile : Toml.get? entries s.fileKey = none) :
      Effective options environment entries s (Config.default.content s)

lemma content_withOptions (config : Config) (options : Options) (s : Setting) :
    (withOptions config options).content s = (options.asks s).getD (config.content s) := by
  cases s with
  | base => cases h : options.base <;> simp [withOptions, Config.content, Options.asks, h]
  | entryFunction => cases h : options.function <;> simp [withOptions, Config.content, Options.asks, h]
  | console => cases h : options.noConsole <;> simp [withOptions, Config.content, Options.asks, h]
  | timeout => rfl
  | userAgent => rfl

section Whole

variable {options : Options} {storage : Files.Storage} {entries : List (String × Toml)} {file : Config}
  {environment : List (String × String)}

/-- The layers behind a file that loads. -/
lemma configuration_of_fileHas (hfile : options.FileHas storage entries)
    (hloads : Config.ofEntries? entries = some file) :
    configuration options environment storage =
      define (withOptions (file.applyEnvironment environment) options) options.define := by
  cases hfile with
  | unnamed h =>
    cases hloads
    rw [configuration, h]
    rfl
  | @named path _ _ hpath hsource hparse =>
    have hread : fileConfiguration storage path = .ok file := by
      rw [fileConfiguration, hsource]
      dsimp only
      rw [Config.ofToml?, hparse, Option.bind_some, hloads]
    rw [configuration, hpath]
    dsimp only
    rw [hread]
    rfl

/-- A setting is what the layers make of it. -/
lemma effective_withOptions (hloads : Config.ofEntries? entries = some file) (s : Setting) :
    Effective options environment entries s
      ((withOptions (file.applyEnvironment environment) options).content s) := by
  rw [content_withOptions]
  cases hoption : options.asks s with
  | some c => exact .option hoption
  | none =>
    rw [Option.getD_none]
    rcases file.content_applyEnvironment environment s with hvariable | ⟨hsilent, hkept⟩
    · exact .variable hoption hvariable
    · rw [hkept]
      rcases (Config.content_ofEntries? hloads).1 s with hsaid | ⟨hnone, hdefault⟩
      · exact .file hoption hsilent hsaid
      · rw [hdefault]
        exact .default hoption hsilent hnone

/-- **Layers.**  Take any options, any environment and any file that loads, or none.  There is no
configuration exactly if a definition has no equals sign, no id, or no document, and the fault is that
of such a definition.  Else every setting is what the options say, or else the last variable that says
something of it, or else the file, or else the default; and the values of the host are those of the
definitions, the last one with an id counting, and under the other ids those of the file. -/
theorem configuration_layers (hfile : options.FileHas storage entries)
    (hloads : (Config.ofEntries? entries).isSome) :
    ((∃ fault, configuration options environment storage = .error fault) ↔
      ∃ text ∈ options.define, ∃ fault, Malformed text fault) ∧
    (∀ fault, configuration options environment storage = .error fault →
      ∃ text ∈ options.define, Malformed text fault) ∧
    ∀ config, configuration options environment storage = .ok config →
      (∀ s, Effective options environment entries s (config.content s)) ∧
      ∃ defined, List.Forall₂ Defines options.define defined ∧
        (∀ id, config.modules.lookup id =
          (defined.reverse.lookup id).or ((Config.fileModules entries).lookup id)) ∧
        Json.Sorted config.modules := by
  obtain ⟨file, hloads⟩ := Option.isSome_iff_exists.mp hloads
  have hmodules : (withOptions (file.applyEnvironment environment) options).modules =
      Config.fileModules entries :=
    (file.modules_applyEnvironment environment).trans (Config.content_ofEntries? hloads).2
  rw [configuration_of_fileHas hfile hloads]
  rcases define_cases options.define (withOptions (file.applyEnvironment environment) options) with
    ⟨defined, hdefined, hrun⟩ | ⟨text, hmem, fault, hmalformed, hrun⟩
  · rw [hrun]
    refine ⟨iff_of_false (by rintro ⟨fault, ⟨⟩⟩) ?_, fun fault h => (by cases h), fun config h => ?_⟩
    · rintro ⟨text, hmem, fault, hmalformed⟩
      obtain ⟨entry, hdefines⟩ := exists_defines hdefined hmem
      exact hdefines.not_malformed fault hmalformed
    · cases h
      refine ⟨effective_withOptions hloads, defined, hdefined, fun id => ?_, ?_⟩
      · rw [lookup_foldl_insert, hmodules]
      · rw [hmodules]
        exact sorted_foldl_insert defined (Config.sorted_fileModules entries)
  · rw [hrun]
    refine ⟨iff_of_true ⟨fault, rfl⟩ ⟨text, hmem, fault, hmalformed⟩, fun other h => ?_, ?_⟩
    · cases h
      exact ⟨text, hmem, hmalformed⟩
    · rintro config ⟨⟩

end Whole

namespace Sample

/-- A file that gives a base and two values of the host. -/
def settings : String := "base = \"lib\"\n[modules]\na = \"file\"\nb = \"file\"\n"

/-- A tree with nothing but the file. -/
def disk : Files.Storage where
  root := [("settings.toml", .file (settings.toList.map fun c => c.toNat.toUInt8))]
  current := []

/-- A timeout, a word that is no number for it, and the word that grants the console. -/
def environment : List (String × String) :=
  [("MODRUN_TIMEOUT", "7"), ("MODRUN_TIMEOUT", "soon"), ("MODRUN_CONSOLE", "true")]

/-- Options that name the file and a function, withhold the console, and define some values. -/
def options (define : List String) : Options where
  module := "m"
  base := none
  config := some "settings.toml"
  function := some "go"
  args := "null"
  define := define
  noConsole := true
  verbose := false

end Sample

open Sample in
/-- The file gives the base, the flags the function and the console, the first variable the timeout, and
the second definition of an id its value; a definition without an equals sign is a fault. -/
theorem configuration_layers_settings :
    (∃ config, configuration (options ["a=\"first\"", "a=\"second\""]) environment disk = .ok config ∧
      Json.Sorted config.modules ∧
      config.base = "lib" ∧ config.entryFunction = "go" ∧ config.console = false ∧ config.timeout = 7 ∧
      (config.modules.lookup "a").map Json.compact = some "\"second\"" ∧
      (config.modules.lookup "b").map Json.compact = some "\"file\"") ∧
    ∃ fault, configuration (options ["a=\"first\"", "b"]) environment disk = .error fault := by
  have hparse : Toml.parse? settings = some [("base", .text "lib"),
      ("modules", .table [("a", .text "file"), ("b", .text "file")])] := by cbv
  have hsource : disk.text "settings.toml" = .ok settings := by cbv
  have hfile (define : List String) : (options define).FileHas disk _ := .named rfl hsource hparse
  constructor
  · have hvalues : (configuration (options ["a=\"first\"", "a=\"second\""]) environment disk).toOption.any
        (fun c => c.base == "lib" && c.entryFunction == "go" && !c.console && c.timeout == 7 &&
          (c.modules.lookup "a").map Json.compact == some "\"second\"" &&
          (c.modules.lookup "b").map Json.compact == some "\"file\"") := by
      rw [configuration_of_fileHas (hfile _) rfl]
      decide +kernel
    cases hrun : configuration (options ["a=\"first\"", "a=\"second\""]) environment disk with
    | error fault =>
      rw [hrun] at hvalues
      cases hvalues
    | ok config =>
      obtain ⟨-, defined, -, -, hsorted⟩ := (configuration_layers (hfile _) (by rfl)).2.2 config hrun
      rw [hrun] at hvalues
      simpa [hsorted, Except.toOption, and_assoc] using hvalues
  · exact (configuration_layers (hfile _) (by rfl)).1.mpr
      ⟨"b", List.mem_cons_of_mem _ (List.mem_singleton_self _), _, .noEquals (by decide)⟩

end ModuleRunner
