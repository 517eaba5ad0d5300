import UtilityCss.Command.Error
import UtilityCss.Preset.Basic
import UtilityCss.Preset.ConfigText

/-!
# Running the command

A run reads its arguments and the configuration, and ends with a code and two texts. Files are looked
up by a function, so that a run is a function of its input. Warnings are shown before a failure; other
messages are not shown.
-/
namespace UtilityCss.Command

open UtilityCss.Palette UtilityCss.Utility

/-- The texts of files, or why they are not read. -/
abbrev Files := String → Except FileFault String

/-- How a run ends. -/
structure Outcome where
  code : Nat
  output : String
  errors : String
  deriving DecidableEq, Repr

def usage : String :=
  "Usage:\n  preset palette [--config FILE] [--dark] [--mode css|class|alias|reference] [--prefix P]\n" ++
  "  preset root [--config FILE] [--dark]\n" ++
  "  preset resolve UTILITY [VALUE] [--key K] [--unit U] [--second V] [--second-unit U] " ++
  "[--config FILE]\n"

/-- The configuration that is named, or the default. -/
def configuration (files : Files) (args : Arguments) : Logged CommandError Config :=
  match args.setting? .config with
  | some path => (Config.load files path).mapError .preset
  | none => Logged.pure {}

def outputMode (args : Arguments) : Except CommandError OutputMode :=
  match args.setting? .mode with
  | none => .ok default
  | some name =>
    match OutputMode.ofName? name with
    | some mode => .ok mode
    | none => .error (.unknownMode name)

/-- The configured colors, or the built-in ones when none are configured. -/
def paletteColors (config : Config) : Colors :=
  if config.colors.isEmpty then .ofList builtinColors else config.colors

def line (text : String) : String := text ++ "\n"

/-- Prints a palette. -/
def showPalette (files : Files) (args : Arguments) : Logged CommandError String := do
  let config ← configuration files args
  let mode ← Logged.ofExcept (outputMode args)
  let palette ← (generate mode
    ⟨paletteColors config, args.dark, (args.setting? .namePrefix).getD "", config.adjustments⟩).mapError
      .palette
  return match palette with
    | .text content => line content
    | .map entries => String.join (entries.toList.map fun (name, value) => line (name ++ ": " ++ value))

/-- Prints the root block, with the palette of the configured colors. -/
def showRoot (files : Files) (args : Arguments) : Logged CommandError String := do
  let config ← configuration files args
  let preset ← (Preset.create config).mapError .preset
  if config.colors.isEmpty then return line (preset.toRootCss none)
  else
    let palette ← (generate .cssVariables
      ⟨config.colors, args.dark, "", config.adjustments⟩).mapError .palette
    return line (preset.toRootCss (match palette with
      | .text content => some content
      | .map _ => none))

/-- The token that the arguments describe. A second unit without a second value is left out. -/
def token (args : Arguments) : Token where
  key := (args.setting? .key).getD ""
  value := args.positionals[1]?.getD ""
  unit := (args.setting? .unit).getD ""
  secondValue := (args.setting? .second).getD ""
  secondUnit := if (args.setting? .second).isSome then (args.setting? .secondUnit).getD "" else ""

/-- Prints the declarations of a token, or of a static class when there is no value. -/
def showUtility (files : Files) (args : Arguments) : Logged CommandError String := do
  let config ← configuration files args
  let preset ← (Preset.create config).mapError .preset
  match args.positionals.head? with
  | none => Logged.fail .missingUtility
  | some utility =>
    let t := token args
    match preset.resolve utility t with
    | some resolved => return line resolved.toCss
    | none =>
      match if t.value.isEmpty then preset.classes.toCss? utility else none with
      | some css => return line css
      | none => Logged.fail (.noDeclarations utility)

/-- Runs a command by its name. -/
def perform (files : Files) (words : List String) : Logged CommandError String :=
  match words with
  | [] => Logged.fail .missingCommand
  | command :: rest => do
    let args ← Logged.ofExcept ((Arguments.read rest).mapError .arguments)
    match command with
    | "palette" => showPalette files args
    | "root" => showRoot files args
    | "resolve" => showUtility files args
    | name => Logged.fail (.unknownCommand name)

/-- The warnings among the messages as they are shown. -/
def shownWarnings (log : List Message) : String :=
  String.join ((log.filter (·.level = .warning)).map fun m =>
    line ("[WARN  preset::config] " ++ m.text))

/-- Runs the command. -/
def run (files : Files) (words : List String) : Outcome :=
  let result := perform files words
  let warnings := shownWarnings result.log
  match result.result with
  | .ok output => ⟨0, output, warnings⟩
  | .error e => ⟨1, "", warnings ++ (if e.showsUsage then usage else "") ++ e.report⟩

/-- The file that a run looks up, if any. -/
def configPath? (words : List String) : Option String :=
  match words with
  | [] => none
  | _ :: rest => (Arguments.read rest).toOption.bind fun args => args.setting? .config

end UtilityCss.Command
