import BuildWatch.Path
import BuildWatch.Project.Sources

/-!
The command line. Options are taken one after another. An option whose value is the next argument
is kept open until something known follows or the line ends; only then is its value looked at.
Something unknown ends reading at once, before the open option is looked at.
-/

namespace BuildWatch

inductive ColorChoice where
  | auto
  | always
  | never
  deriving DecidableEq, Repr

namespace ColorChoice

def label : ColorChoice → String
  | auto => "auto"
  | always => "always"
  | never => "never"

def ofLabel? (label : String) : Option ColorChoice :=
  [auto, always, never].find? fun choice => choice.label = label

end ColorChoice

structure Arguments where
  color : ColorChoice
  dir : Path
  config : Option Path
  settings : Option Path
  mode : Option BuildMode
  verbose : Bool
  deriving DecidableEq, Repr

inductive UsageError where
  | unknownArgument
  | invalidValue
  | argumentConflict
  | tooManyValues
  | help
  | version
  deriving DecidableEq, Repr

def UsageError.exitCode : UsageError → Nat
  | help | version => 0
  | _ => 2

namespace CommandLine

inductive OptionName where
  | color
  | dir
  | config
  | settings
  | mode
  deriving DecidableEq, Repr

inductive Item where
  | option (name : OptionName)
  | verbose
  | help
  | version
  deriving DecidableEq, Repr

def itemOfLong? : String → Option Item
  | "color" => some (.option .color)
  | "dir" => some (.option .dir)
  | "config" => some (.option .config)
  | "settings" => some (.option .settings)
  | "mode" => some (.option .mode)
  | "verbose" => some .verbose
  | "help" => some .help
  | "version" => some .version
  | _ => none

def itemOfShort? : Char → Option Item
  | 'd' => some (.option .dir)
  | 'C' => some (.option .config)
  | 's' => some (.option .settings)
  | 'm' => some (.option .mode)
  | 'v' => some .verbose
  | 'h' => some .help
  | 'V' => some .version
  | _ => none

structure Given where
  color : Option ColorChoice
  dir : Option Path
  config : Option Path
  settings : Option Path
  mode : Option BuildMode
  verbose : Bool
  deriving DecidableEq, Repr

namespace Given

def nothing : Given := ⟨none, none, none, none, none, false⟩

def has (given : Given) : OptionName → Bool
  | .color => given.color.isSome
  | .dir => given.dir.isSome
  | .config => given.config.isSome
  | .settings => given.settings.isSome
  | .mode => given.mode.isSome

def path (value : String) : Except UsageError Path :=
  if value = "" then .error .invalidValue else .ok (Path.ofText value)

def known (value : Option α) : Except UsageError α :=
  match value with
  | some value => .ok value
  | none => .error .invalidValue

def set (given : Given) (name : OptionName) (value : String) : Except UsageError Given := do
  if given.has name then .error .argumentConflict
  else match name with
    | .color => .ok { given with color := some (← known (ColorChoice.ofLabel? value)) }
    | .dir => .ok { given with dir := some (← path value) }
    | .config => .ok { given with config := some (← path value) }
    | .settings => .ok { given with settings := some (← path value) }
    | .mode => .ok { given with mode := some (← known (BuildMode.ofLabel? value)) }

def arguments (given : Given) : Arguments where
  color := given.color.getD .auto
  dir := given.dir.getD (Path.ofText ".")
  config := given.config
  settings := given.settings
  mode := given.mode
  verbose := given.verbose

end Given

structure OpenOption where
  name : OptionName
  value : Option String
  deriving DecidableEq, Repr

structure Progress where
  given : Given
  opened : Option OpenOption
  optionsEnded : Bool
  deriving DecidableEq, Repr

namespace Progress

def start : Progress := ⟨.nothing, none, false⟩

def resolve (progress : Progress) : Except UsageError Progress := do
  match progress.opened with
  | none => .ok progress
  | some ⟨_, none⟩ => .error .invalidValue
  | some ⟨name, some value⟩ =>
    .ok { progress with given := ← progress.given.set name value, opened := none }

def setOption (progress : Progress) (name : OptionName) (value : String) :
    Except UsageError Progress := do
  let progress ← progress.resolve
  .ok { progress with given := ← progress.given.set name value }

def openOption (progress : Progress) (name : OptionName) : Except UsageError Progress := do
  let progress ← progress.resolve
  .ok { progress with opened := some ⟨name, none⟩ }

def setFlag (progress : Progress) (item : Item) : Except UsageError Progress := do
  let progress ← progress.resolve
  match item with
  | .help => .error .help
  | .version => .error .version
  | .option _ | .verbose =>
    if progress.given.verbose then .error .argumentConflict
    else .ok { progress with given := { progress.given with verbose := true } }

def cutEquals (chars : List Char) : List Char × Option (List Char) :=
  let name := chars.takeWhile (· ≠ '=')
  match chars.drop name.length with
  | _ :: value => (name, some value)
  | [] => (name, none)

def long (progress : Progress) (chars : List Char) : Except UsageError Progress :=
  let (name, value) := cutEquals chars
  match itemOfLong? (String.ofList name), value with
  | none, _ => .error .unknownArgument
  | some (.option name), some value => progress.setOption name (String.ofList value)
  | some (.option name), none => progress.openOption name
  | some _, some _ => .error .tooManyValues
  | some item, none => progress.setFlag item

/-- An argument that starts with one dash, that left out: letters without values, and perhaps one
with a value behind them. -/
def short (progress : Progress) : List Char → Except UsageError Progress
  | [] => .ok progress
  | letter :: rest => do
    match itemOfShort? letter with
    | none => .error .unknownArgument
    | some (.option name) =>
      match rest with
      | [] => progress.openOption name
      | '=' :: value => progress.setOption name (String.ofList value)
      | value => progress.setOption name (String.ofList value)
    | some item => short (← progress.setFlag item) rest

def word (progress : Progress) (argument : String) : Except UsageError Progress :=
  match progress.opened with
  | some ⟨name, none⟩ =>
    if progress.optionsEnded then .error .unknownArgument
    else .ok { progress with opened := some ⟨name, some argument⟩ }
  | _ => .error .unknownArgument

def next (progress : Progress) (argument : String) : Except UsageError Progress :=
  if progress.optionsEnded then progress.word argument
  else match argument.toList with
    | ['-', '-'] => .ok { progress with optionsEnded := true }
    | '-' :: '-' :: chars => progress.long chars
    | '-' :: char :: chars => progress.short (char :: chars)
    | _ => progress.word argument

end Progress

def parse (arguments : List String) : Except UsageError Arguments := do
  let progress ← arguments.foldlM Progress.next Progress.start
  .ok (← progress.resolve).given.arguments

end CommandLine

end BuildWatch
