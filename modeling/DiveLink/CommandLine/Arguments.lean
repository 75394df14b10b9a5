import DiveLink.Settings

/-!
# Arguments of the command line

What can be asked for on the command line, and how the arguments say it.

1. `Invocation` is what is asked for: a `Command` and what holds for all commands.
2. `Grammar` lists the options, positional arguments and subcommands of one level.
3. `Invocation.ofArguments` reads the arguments; `Refusal` is why they are refused.
-/

namespace DiveLink.CommandLine

/-! ## §1 What is asked for -/

/-- What the tool is to do. -/
inductive Command where
  /-- Write the memory of a computer to a file. -/
  | dump (output : String)
  /-- List the new dives of a computer. -/
  | download (output : Option String) (noCache : Bool) (fingerprint : Option String)
  /-- List the dives of a dump file. -/
  | extract (dump : String) (metadata since output : Option String)
  /-- Show the settings or change them. -/
  | settings (update : SettingsUpdate)
  /-- Forget the fingerprint of a computer. -/
  | forget (serial : UInt32)
  deriving DecidableEq, Repr

/-- A command, and what holds for all commands. -/
structure Invocation where
  config : Option String
  cacheDir : Option String
  /-- Whether JSON is printed with indentation. -/
  pretty : Bool
  command : Command
  deriving DecidableEq, Repr

/-- Why arguments are refused. Asking for help or the version ends the reading, too. -/
inductive Refusal where
  | missingRequired
  | unknownArgument
  /-- A value is missing, is empty or is not one of those that are known. -/
  | invalidValue
  /-- A value is not a number in range. -/
  | notInRange
  | invalidSubcommand
  /-- An option came twice. -/
  | repeated
  /-- A flag came with a value. -/
  | tooManyValues
  | help
  | version
  /-- There were arguments but no subcommand. -/
  | missingSubcommand
  /-- There were no arguments at all. -/
  | nothingAsked
  deriving DecidableEq, Repr

/-! ## §2 Grammars -/

/-- Everything that can be given. -/
inductive Slot where
  | config | cacheDir | pretty | output | noCache | fingerprint | dump | metadata | since
  | fingerprintDir | logLevel | prettyJson | reset | serial
  deriving DecidableEq, Repr

/-- The subcommands. -/
inductive Verb where
  | dump | download | extract | settings | forget
  deriving DecidableEq, Repr

/-- The kinds of values. -/
inductive ValueKind where
  /-- A text that is not empty. -/
  | path
  | text
  | flag
  | word
  deriving DecidableEq, Repr

/-- A value that was given. -/
inductive Value where
  | present
  | text (s : String)
  | flag (b : Bool)
  | word (w : UInt32)
  deriving DecidableEq, Repr

/-- What an option does. -/
inductive Effect where
  | mark (slot : Slot)
  | take (slot : Slot) (kind : ValueKind)
  | help
  | version
  deriving DecidableEq, Repr

/-- An option by its names. -/
structure Switch where
  long : String
  short : Option Char
  effect : Effect
  deriving DecidableEq, Repr

/-- What one level of the command line knows. -/
structure Grammar where
  switches : List Switch
  positionals : List (Slot × ValueKind)
  verbs : List (String × Verb)
  required : List Slot
  deriving DecidableEq, Repr

/-- Whether the text names a subcommand, or asks for help with one. -/
def Grammar.isWord (grammar : Grammar) (text : String) : Bool :=
  grammar.verbs ≠ [] && (text = "help" || grammar.verbs.any (·.1 = text))

/-- The options of all levels. -/
def everywhere : List Switch :=
  [⟨"config", none, .take .config .path⟩, ⟨"cache-dir", none, .take .cacheDir .path⟩,
    ⟨"pretty", none, .mark .pretty⟩, ⟨"help", some 'h', .help⟩]

/-- The option for the file that is written. -/
def outputSwitch : Switch := ⟨"output", some 'o', .take .output .path⟩

/-- The level above the subcommands. -/
def top : Grammar where
  switches := everywhere ++ [⟨"version", some 'V', .version⟩]
  positionals := []
  verbs := [("dump", .dump), ("download", .download), ("extract", .extract),
    ("settings", .settings), ("forget", .forget)]
  required := []

def Verb.grammar : Verb → Grammar
  | dump => ⟨everywhere ++ [outputSwitch], [], [], [.output]⟩
  | download =>
    ⟨everywhere ++ [outputSwitch, ⟨"no-cache", none, .mark .noCache⟩,
      ⟨"fingerprint", none, .take .fingerprint .text⟩], [], [], []⟩
  | extract =>
    ⟨everywhere ++ [⟨"metadata", none, .take .metadata .path⟩,
      ⟨"since", none, .take .since .text⟩, outputSwitch], [(.dump, .path)], [], [.dump]⟩
  | settings =>
    ⟨everywhere ++ [⟨"fingerprint-dir", none, .take .fingerprintDir .path⟩,
      ⟨"log-level", none, .take .logLevel .text⟩, ⟨"pretty-json", none, .take .prettyJson .flag⟩,
      ⟨"reset", none, .mark .reset⟩], [], [], []⟩
  | forget => ⟨everywhere, [(.serial, .word)], [], [.serial]⟩

/-! ## §3 One level -/

/-- An option or positional argument whose value has not been checked yet. -/
structure Pending where
  slot : Slot
  kind : ValueKind
  /-- The value; nothing while it is awaited. -/
  value : Option String
  deriving DecidableEq, Repr

/-- How far a level has been read. -/
structure Level where
  given : List (Slot × Value)
  pending : Option Pending
  /-- The positional arguments that have not come. -/
  positionals : List (Slot × ValueKind)
  /-- Whether only positional arguments can follow. -/
  trailing : Bool
  deriving DecidableEq, Repr

/-- The value that a text stands for. -/
def ValueKind.read (kind : ValueKind) (s : String) : Except Refusal Value :=
  match kind with
  | path => if s = "" then .error .invalidValue else .ok (.text s)
  | text => .ok (.text s)
  | flag =>
    if s = "true" then .ok (.flag true)
    else if s = "false" then .ok (.flag false)
    else .error .invalidValue
  | word =>
    match Decimal.signed? s.toList with
    | some (.ofNat n) =>
      if n < UInt32.size then .ok (.word (UInt32.ofNat n)) else .error .notInRange
    | _ => .error .notInRange

namespace Level

/-- Whether an option awaits its value. -/
def isWaiting (level : Level) : Bool := level.pending.any (·.value.isNone)

/-- Keeps a value that nothing was given for yet. -/
def keep (level : Level) (slot : Slot) (value : Except Refusal Value) : Except Refusal Level :=
  if level.given.any (·.1 = slot) then .error .repeated
  else do return { level with given := level.given ++ [(slot, ← value)] }

/-- Checks the value that has not been checked yet, if there is one. -/
def resolve (level : Level) : Except Refusal Level :=
  match level.pending with
  | none => .ok level
  | some ⟨_, _, none⟩ => .error .invalidValue
  | some ⟨slot, kind, some s⟩ => { level with pending := none }.keep slot (kind.read s)

/-- An option without a value of its own. -/
def mark (level : Level) (effect : Effect) : Except Refusal Level := do
  let level ← level.resolve
  match effect with
  | .mark slot => level.keep slot (.ok .present)
  | .take slot kind => return { level with pending := some ⟨slot, kind, none⟩ }
  | .help => throw .help
  | .version => throw .version

/-- An option with a value attached to it. -/
def attach (level : Level) (slot : Slot) (kind : ValueKind) (value : String) :
    Except Refusal Level := do
  (← level.resolve).keep slot (kind.read value)

/-- A long option; behind an equals sign stands its value. -/
def long (grammar : Grammar) (level : Level) (text : List Char) : Except Refusal Level :=
  let name := text.takeWhile (· ≠ '=')
  let value := text.drop (name.length + 1)
  match grammar.switches.find? (·.long = String.ofList name) with
  | none => .error .unknownArgument
  | some switch =>
    if name.length = text.length then level.mark switch.effect
    else match switch.effect with
      | .take slot kind => level.attach slot kind (String.ofList value)
      | _ => .error .tooManyValues

/-- Short options, one letter each. What follows one that takes a value is its value. -/
def short (grammar : Grammar) (level : Level) : List Char → Except Refusal Level
  | [] => .ok level
  | c :: cs =>
    match grammar.switches.find? (·.short = some c) with
    | none => .error .unknownArgument
    | some switch =>
      match switch.effect, cs with
      | .take .., [] => level.mark switch.effect
      | .take slot kind, '=' :: value => level.attach slot kind (String.ofList value)
      | .take slot kind, value => level.attach slot kind (String.ofList value)
      | effect, cs => do short grammar (← level.mark effect) cs

def positional (grammar : Grammar) (level : Level) (text : String) : Except Refusal Level :=
  match level.positionals with
  | (slot, kind) :: others => do
    return { ← level.resolve with positionals := others, pending := some ⟨slot, kind, some text⟩ }
  | [] =>
    if grammar.verbs = [] ∨ (level.trailing ∧ grammar.isWord text) then .error .unknownArgument
    else .error .invalidSubcommand

/-- One argument that is not a subcommand. -/
def argument (grammar : Grammar) (level : Level) (text : String) : Except Refusal Level :=
  if level.trailing then level.positional grammar text
  else match text.toList, level.pending with
    | ['-', '-'], _ => .ok { level with trailing := true }
    | '-' :: '-' :: cs, _ => level.long grammar cs
    | '-' :: c :: cs, _ => level.short grammar (c :: cs)
    | _, some ⟨slot, kind, none⟩ =>
      .ok { level with pending := some ⟨slot, kind, some text⟩ }
    | _, _ => level.positional grammar text

/-- Reads arguments up to a subcommand or to the end. -/
def read (grammar : Grammar) :
    Level → List String → Except Refusal (Level × Option (Verb × List String))
  | level, [] => .ok (level, none)
  | level, text :: texts =>
    if level.trailing ∨ level.isWaiting then do read grammar (← level.argument grammar text) texts
    else match grammar.verbs.lookup text with
      | some verb => .ok (level, some (verb, texts))
      | none =>
        if grammar.isWord text then
          -- the subcommands to be explained follow; none of them has subcommands of its own
          match texts with
          | [] => .error .help
          | [name] => if grammar.isWord name then .error .help else .error .invalidSubcommand
          | _ => .error .invalidSubcommand
        else do read grammar (← level.argument grammar text) texts

/-- A level of which nothing has been read. -/
def start (grammar : Grammar) : Level := ⟨[], none, grammar.positionals, false⟩

/-! ## §4 What was given -/

def has (level : Level) (slot : Slot) : Bool := level.given.any (·.1 = slot)

def text? (level : Level) (slot : Slot) : Option String :=
  level.given.findSome? fun
    | (other, .text s) => if other = slot then some s else none
    | _ => none

/-- The flag value that was given. -/
def flag? (level : Level) (slot : Slot) : Option Bool :=
  level.given.findSome? fun
    | (other, .flag b) => if other = slot then some b else none
    | _ => none

def word? (level : Level) (slot : Slot) : Option UInt32 :=
  level.given.findSome? fun
    | (other, .word w) => if other = slot then some w else none
    | _ => none

end Level

/-- The command of a subcommand's level, if nothing is missing. -/
def Verb.command (verb : Verb) (level : Level) : Option Command :=
  match verb with
  | dump => (level.text? .output).map .dump
  | download =>
    some (.download (level.text? .output) (level.has .noCache) (level.text? .fingerprint))
  | extract =>
    (level.text? .dump).map fun path =>
      .extract path (level.text? .metadata) (level.text? .since) (level.text? .output)
  | settings =>
    some (.settings {
      reset := level.has .reset
      cacheDir := level.text? .fingerprintDir
      logLevel := level.text? .logLevel
      prettyJson := level.flag? .prettyJson })
  | forget => (level.word? .serial).map .forget

/-- Reads the level of a subcommand. -/
def Verb.read (verb : Verb) (texts : List String) : Except Refusal (Level × Command) := do
  let (level, _) ← Level.read verb.grammar (.start verb.grammar) texts
  let level ← level.resolve
  match verb.command level with
  | some command => return (level, command)
  | none => throw .missingRequired

/-- Reads the arguments of the tool. What holds for all commands may be given before the
subcommand and behind it; what is given behind it counts. -/
def Invocation.ofArguments (texts : List String) : Except Refusal Invocation := do
  match ← Level.read top (.start top) texts with
  | (level, none) => do
    let level ← level.resolve
    throw (if level.given = [] then .nothingAsked else .missingSubcommand)
  | (level, some (verb, texts)) => do
    let (own, command) ← verb.read texts
    let level ← level.resolve
    return {
      config := (own.text? .config).or (level.text? .config)
      cacheDir := (own.text? .cacheDir).or (level.text? .cacheDir)
      pretty := own.has .pretty || level.has .pretty
      command := command }

end DiveLink.CommandLine
