/-!
# Command lines

A command line names one module.  Options stand before it or behind it, in any order: a long name
with its value behind an equals sign or as the next word, or a letter with its value right behind
it, behind an equals sign, or as the next word.  Letters of flags may share a dash.  Two dashes end
the options.

No option but a definition may be given twice, and a word that starts with a dash is no value.

* `Options`, `Options.parse` — what a command line asks for.
* `Stop` — why a command line is answered without a run.
-/

namespace ModuleRunner.Command

/-- An option that has a value. -/
inductive Valued where
  | base
  | config
  | function
  | args
  | define
deriving DecidableEq, Repr

/-- An option without a value. -/
inductive Flag where
  | noConsole
  | verbose
  | help
  | version
deriving DecidableEq, Repr

/-- An option. -/
inductive Name where
  | valued (option : Valued)
  | flag (option : Flag)
deriving DecidableEq, Repr

/-- The option with a long name. -/
def longName? : String → Option Name
  | "base" => some (.valued .base)
  | "config" => some (.valued .config)
  | "function" => some (.valued .function)
  | "args" => some (.valued .args)
  | "define" => some (.valued .define)
  | "no-console" => some (.flag .noConsole)
  | "verbose" => some (.flag .verbose)
  | "help" => some (.flag .help)
  | "version" => some (.flag .version)
  | _ => none

/-- The option with a letter. -/
def shortName? : Char → Option Name
  | 'b' => some (.valued .base)
  | 'c' => some (.valued .config)
  | 'f' => some (.valued .function)
  | 'a' => some (.valued .args)
  | 'D' => some (.valued .define)
  | 'v' => some (.flag .verbose)
  | 'h' => some (.flag .help)
  | 'V' => some (.flag .version)
  | _ => none

/-- What a command line asks for. -/
structure Options where
  /-- The module to load. -/
  module : String
  /-- The base, if given. -/
  base : Option String
  /-- The path of the configuration, if given. -/
  config : Option String
  /-- The function to call, if given. -/
  function : Option String
  /-- The JSON text of the argument. -/
  args : String
  /-- The definitions, in order. -/
  define : List String
  /-- Whether the console is withheld. -/
  noConsole : Bool
  /-- Whether more is logged. -/
  verbose : Bool
deriving DecidableEq, Repr

/-- Why a command line is answered without a run. -/
inductive Stop where
  /-- The words make no sense together. -/
  | usage
  /-- Help is asked for. -/
  | help
  /-- The version is asked for. -/
  | version
deriving DecidableEq, Repr

/-- What is printed when the version is asked for. -/
def versionText : String := "modrun 0.1.0\n"

/-- What the words of a command line come to, in order. -/
inductive Word where
  /-- An option with its value. -/
  | value (option : Valued) (text : String)
  /-- An option without a value. -/
  | flag (option : Flag)
  /-- A word that is no option. -/
  | plain (text : String)
  /-- A word that makes no sense; nothing behind it counts. -/
  | wrong
deriving DecidableEq, Repr

/-- Whether a word is read as an option. -/
def looksLikeOption (word : String) : Bool := word.startsWith "-" && word != "-"

/-- What stands before the first equals sign, and behind it if there is one. -/
def cutAtEquals : List Char → List Char × Option (List Char)
  | [] => ([], none)
  | '=' :: rest => ([], some rest)
  | c :: rest =>
    let (before, behind) := cutAtEquals rest
    (c :: before, behind)

/-- What a word with dashes comes to: words, and the option that the next word is the value of. -/
abbrev Reading := List Word × Option Valued

/-- What the letters behind one dash come to. -/
def letters : List Char → Reading
  | [] => ([], none)
  | c :: rest =>
    match shortName? c with
    | none => ([.wrong], none)
    | some (.flag option) =>
      let (words, next) := letters rest
      (.flag option :: words, next)
    | some (.valued option) =>
      match rest with
      | [] => ([], some option)
      | '=' :: value => ([.value option (String.ofList value)], none)
      | value => ([.value option (String.ofList value)], none)

/-- What a name behind two dashes comes to. -/
def longOption (cs : List Char) : Reading :=
  let (name, value) := cutAtEquals cs
  match longName? (String.ofList name), value with
  | some (.valued option), some value => ([.value option (String.ofList value)], none)
  | some (.valued option), none => ([], some option)
  | some (.flag option), none => ([.flag option], none)
  | some (.flag _), some _ | none, _ => ([.wrong], none)

/-- What a word that is read as an option comes to. -/
def optionWord (word : String) : Reading :=
  match word.toList with
  | '-' :: '-' :: name => longOption name
  | '-' :: cs => letters cs
  | _ => ([.plain word], none)

/-- What the words of a command line come to; `pending` is an option that waits for its value. -/
def wordsOf (pending : Option Valued) : List String → List Word
  | [] => if pending.isSome then [.wrong] else []
  | word :: rest =>
    match pending with
    | some option =>
      if looksLikeOption word then [.wrong] else .value option word :: wordsOf none rest
    | none =>
      if word = "--" then rest.map .plain
      else if looksLikeOption word then
        let (words, next) := optionWord word
        words ++ wordsOf next rest
      else .plain word :: wordsOf none rest

/-- A command line that is read in part. -/
structure Draft where
  module : Option String := none
  base : Option String := none
  config : Option String := none
  function : Option String := none
  args : Option String := none
  define : List String := []
  noConsole : Bool := false
  verbose : Bool := false

/-- Gives an option its value, which it may not have yet. -/
def once (old : Option String) (value : String) : Except Stop (Option String) :=
  if old.isSome then .error .usage else .ok (some value)

/-- What a word adds. -/
def Draft.add (draft : Draft) : Word → Except Stop Draft
  | .value .base s => do return { draft with base := ← once draft.base s }
  | .value .config s => do
    if s.isEmpty then throw .usage
    return { draft with config := ← once draft.config s }
  | .value .function s => do return { draft with function := ← once draft.function s }
  | .value .args s => do return { draft with args := ← once draft.args s }
  | .value .define s => .ok { draft with define := draft.define ++ [s] }
  | .flag .noConsole =>
    if draft.noConsole then .error .usage else .ok { draft with noConsole := true }
  | .flag .verbose =>
    if draft.verbose then .error .usage else .ok { draft with verbose := true }
  | .flag .help => .error .help
  | .flag .version => .error .version
  | .plain s => do return { draft with module := ← once draft.module s }
  | .wrong => .error .usage

/-- The name of the variable that gives the path of the configuration if no option does. -/
def configVariable : String := "MODRUN_CONFIG"

/-- The path of the configuration: the option's, or else the variable's, which may not be empty. -/
def configPath (option : Option String) (environment : List (String × String)) :
    Except Stop (Option String) :=
  match option with
  | some path => .ok (some path)
  | none =>
    match environment.lookup configVariable with
    | some "" => .error .usage
    | found => .ok found

/-- What a command line asks for in an environment. -/
def Options.parse (words : List String) (environment : List (String × String)) :
    Except Stop Options := do
  let draft ← (wordsOf none words).foldlM Draft.add {}
  let config ← configPath draft.config environment
  match draft.module with
  | none => throw .usage
  | some module =>
    return {
      module, config
      base := draft.base
      function := draft.function
      args := draft.args.getD "\x7b\x7d"
      define := draft.define
      noConsole := draft.noConsole
      verbose := draft.verbose }

example : (Options.parse ["-b", "x", "-vD=a=1", "m", "--args=[1]"] []).toOption.map
    (fun o => (o.module, o.base, o.define, o.verbose, o.args)) =
    some ("m", some "x", ["a=1"], true, "[1]") := by decide +kernel
example : (Options.parse ["m", "-b", "-1"] []).toOption = none := by decide +kernel

end ModuleRunner.Command
