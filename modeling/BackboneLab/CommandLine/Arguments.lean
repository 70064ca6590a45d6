import BackboneLab.CommandLine.Invocation

/-!
# Arguments

Reads an invocation from the words of a command line. Options may stand before and after the command if
they belong to all commands, and after it if they belong to it. An option is given by its long name or by
a letter, its value follows as a word of its own or behind an equals sign, and a word that looks like an
option is no value. Words are read from left to right, and the first one that cannot be used or that asks
for help decides.
-/

namespace BackboneLab

/-- The options of the command line. -/
inductive OptionName
  | settings
  | controller
  | controllerPort
  | tool
  | timeout
  | outputDir
  | topology
  | configDir
  | host
  | bundle
  | startupDelay
  | isLocal
  | help
  | version
deriving DecidableEq, Inhabited

/-- How an option is written. -/
structure OptionForm where
  name : OptionName
  long : String
  letter : Option Char
  takesValue : Bool

/-- Why a command line leads to no invocation. -/
inductive Decline
  /-- The words make no sense. -/
  | misuse
  /-- The words ask how the program is used, or for its version. -/
  | information
deriving DecidableEq, Inhabited

namespace CommandLine

/-! ## Forms -/

/-- The options of all commands. -/
def globalForms : List OptionForm :=
  [⟨.settings, "settings", some 's', true⟩, ⟨.controller, "controller", none, true⟩,
    ⟨.controllerPort, "controller-port", none, true⟩, ⟨.tool, "tool", none, true⟩,
    ⟨.timeout, "timeout", none, true⟩, ⟨.help, "help", some 'h', false⟩]

/-- The options that may stand before a command. -/
def rootForms : List OptionForm := globalForms ++ [⟨.version, "version", some 'V', false⟩]

/-- The option for the directory with the configuration. -/
def configDirForm : OptionForm := ⟨.configDir, "config-dir", some 'c', true⟩

/-- The commands with their own options. -/
def commands : List (String × List OptionForm) :=
  [("compile",
      [⟨.outputDir, "output-dir", some 'o', true⟩, ⟨.topology, "topology", some 't', true⟩]),
    ("expected-intents", [configDirForm]),
    ("wait", [configDirForm]),
    ("trigger", []),
    ("send-bundle", [⟨.host, "host", none, true⟩]),
    ("run",
      [configDirForm, ⟨.bundle, "bundle", some 'b', true⟩,
        ⟨.startupDelay, "startup-delay", none, true⟩, ⟨.isLocal, "local", none, false⟩])]

/-! ## Words -/

/-- What a part of the command line is. -/
inductive Part
  | option (name : OptionName) (value : String)
  | positional (text : String)
  /-- A word behind two dashes. -/
  | trailing (text : String)
  /-- Something that cannot be used. -/
  | unusable
deriving DecidableEq, Inhabited

/-- Whether a word cannot be the value of an option. -/
def looksLikeOption (word : String) : Bool :=
  match word.toList with
  | '-' :: _ :: _ => true
  | _ => false

/-- An option whose value is the next word. -/
def withNextValue (name : OptionName) : List String → Part × List String
  | [] => (.unusable, [])
  | value :: rest => if looksLikeOption value then (.unusable, rest) else (.option name value, rest)

/-- The option with the given form, and perhaps a value from the same word. -/
def ofForm (f : OptionForm) (value : Option String) (rest : List String) : Part × List String :=
  match f.takesValue, value with
  | true, some v => (.option f.name v, rest)
  | true, none => withNextValue f.name rest
  | false, none => (.option f.name "", rest)
  | false, some _ => (.unusable, rest)

/-- The option with a long name, and the text behind an equals sign. -/
def longPart (forms : List OptionForm) (cs : List Char) (rest : List String) : Part × List String :=
  let name := cs.takeWhile (· ≠ '=')
  let value := (cs.drop name.length).tail?.map String.ofList
  match forms.find? fun f => f.long.toList = name with
  | some f => ofForm f value rest
  | none => (.unusable, rest)

/-- The option with a letter, and the text behind it. An equals sign is no part of that text. Letters that
take no value need not stand alone. -/
def letterPart (forms : List OptionForm) (c : Char) (cs : List Char) (rest : List String) :
    Part × List String :=
  match forms.find? fun f => f.letter = some c with
  | some f =>
    let cs := if f.takesValue then cs else []
    let value :=
      match cs with
      | [] => none
      | '=' :: value => some (String.ofList value)
      | value => some (String.ofList value)
    ofForm f value rest
  | none => (.unusable, rest)

/-- The part that begins with a word, and the words behind it. -/
def partAt (forms : List OptionForm) (word : String) (rest : List String) : Part × List String :=
  match word.toList with
  | '-' :: '-' :: cs => longPart forms cs rest
  | '-' :: c :: cs => letterPart forms c cs rest
  | _ => (.positional word, rest)

/-- The parts of a command's own words, which are not more than the given number. -/
def partsOf (forms : List OptionForm) : Nat → List String → List Part
  | 0, _ | _, [] => []
  | _ + 1, "--" :: rest => rest.map .trailing
  | n + 1, word :: rest =>
    match partAt forms word rest with
    | (p, rest) => p :: partsOf forms n rest

/-- The parts before the command, with its name as the last one, and the words behind it. -/
def partsBefore (forms : List OptionForm) : Nat → List String → List Part × List String
  | 0, _ | _, [] => ([], [])
  | _ + 1, "--" :: _ => ([.unusable], [])
  | n + 1, word :: rest =>
    match partAt forms word rest with
    | (.positional name, rest) => ([.positional name], rest)
    | (p, rest) =>
      match partsBefore forms n rest with
      | (ps, rest) => (p :: ps, rest)

/-! ## Values -/

/-- The natural number below a limit that a text holds, perhaps behind a plus sign. -/
def readBelow? (limit : Nat) (text : String) : Option Nat :=
  let digits :=
    match text.toList with
    | '+' :: cs => cs
    | cs => cs
  if digits ≠ [] ∧ digits.all Char.isDigit then
    let n := Nat.ofDigitChars 10 digits 0
    if n < limit then some n else none
  else none

/-- The port that a text holds. Zero may have a minus sign. -/
def readPort? (text : String) : Option UInt16 :=
  match text.toList with
  | '-' :: '0' :: zeros => if zeros.all (· = '0') then some 0 else none
  | _ => (readBelow? UInt16.size text).map UInt16.ofNat

/-- The number that a text holds. -/
def readNumber? (text : String) : Option UInt64 := (readBelow? UInt64.size text).map UInt64.ofNat

/-- The path that a text is, unless it is empty. -/
def readPath? (text : String) : Option Path := if text = "" then none else some ⟨text⟩

/-- Whether a text can be the value of an option. -/
def isValue (name : OptionName) (text : String) : Bool :=
  match name with
  | .settings | .outputDir | .topology | .configDir | .bundle => (readPath? text).isSome
  | .controllerPort => (readPort? text).isSome
  | .tool => (Generator.ofName? text).isSome
  | .timeout | .startupDelay => (readNumber? text).isSome
  | .host => (Ipv4.read? text.toList).isSome
  | .controller | .isLocal | .help | .version => true

/-! ## Invocations -/

/-- What a list of parts gives. -/
structure Given where
  options : List (OptionName × String)
  positionals : List String
  trailing : List String
deriving Inhabited

/-- Takes parts in order. No option may be given twice. -/
def Given.take (g : Given) : List Part → Except Decline Given
  | [] => .ok g
  | .unusable :: _ => .error .misuse
  | .positional t :: ps => Given.take { g with positionals := g.positionals ++ [t] } ps
  | .trailing t :: ps => Given.take { g with trailing := g.trailing ++ [t] } ps
  | .option .help _ :: _ | .option .version _ :: _ => .error .information
  | .option name value :: ps =>
    if (g.options.lookup name).isSome || !isValue name value then .error .misuse
    else Given.take { g with options := g.options ++ [(name, value)] } ps

/-- The value of an option. -/
def Given.value? {α : Type} (g : Given) (name : OptionName) (read : String → Option α) : Option α :=
  (g.options.lookup name).bind read

/-- The values that take the place of settings. Behind the command they count more than before it. -/
def overridesOf (before behind : Given) : Overrides :=
  let g : Given := { behind with options := behind.options ++ before.options }
  { settingsFile := g.value? .settings readPath?
    controller := g.value? .controller some
    controllerPort := g.value? .controllerPort readPort?
    tool := g.value? .tool Generator.ofName?
    timeout := g.value? .timeout readNumber? }

/-- The host that is meant if none is given. -/
def defaultHost : Ipv4 := ⟨127, 0, 0, 1⟩

/-- The directory with the configuration that is meant if none is given. -/
def defaultConfigDir : Path := ⟨"configs"⟩

/-- The command with the given name and arguments. -/
def commandOf (name : String) (g : Given) : Option LabCommand :=
  let configDir := (g.value? .configDir readPath?).getD defaultConfigDir
  match name, g.positionals ++ (if name = "run" then [] else g.trailing) with
  | "compile", [] =>
    some (.compile ((g.value? .outputDir readPath?).getD defaultConfigDir)
      (g.value? .topology readPath?))
  | "expected-intents", [] => some (.expectedIntents configDir)
  | "wait", [] => some (.wait configDir)
  | "trigger", [] => some (.trigger defaultHost)
  | "trigger", [host] => (Ipv4.read? host.toList).map .trigger
  | "send-bundle", [bundle] =>
    (readPath? bundle).map
      (.sendBundle ((g.value? .host fun t => Ipv4.read? t.toList).getD defaultHost))
  | "run", [] =>
    match g.trailing with
    | program :: args =>
      some (.run ⟨configDir, g.value? .bundle readPath?,
        (g.value? .startupDelay readNumber?).getD 10, (g.options.lookup .isLocal).isSome,
        ⟨program, args⟩⟩)
    | [] => none
  | _, _ => none

/-- What is said to a command line that asks for help with a command. -/
def helpOf : List String → Decline
  | [] => .information
  | [name] => if (commands.lookup name).isSome then .information else .misuse
  | _ => .misuse

/-- The invocation of a command line. -/
def invocationOf (words : List String) : Except Decline Invocation := do
  let (parts, rest) := partsBefore rootForms words.length words
  let before ← Given.take default parts
  match before.positionals with
  | ["help"] => throw (helpOf rest)
  | [name] =>
    match commands.lookup name with
    | none => throw .misuse
    | some forms =>
      let behind ← Given.take default (partsOf (forms ++ globalForms) rest.length rest)
      match commandOf name behind with
      | some command => return ⟨overridesOf before behind, command⟩
      | none => throw .misuse
  | _ => throw .misuse

end CommandLine

end BackboneLab
