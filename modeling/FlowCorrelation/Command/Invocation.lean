import FlowCorrelation.About
import FlowCorrelation.Command.Argument

namespace FlowCorrelation.Command

inductive Action where
  | serve (dataFiles : List String) (host : Option String) (port : Option Nat)
  | enrich (input output : String)
  | correlate (input id : String) (timelineOnly : Bool)
  | analyze (input id : String)
  | status
deriving DecidableEq, Repr

structure Invocation where
  verbosity : Nat := 0
  logFormat : Option String := none
  settings : Option String := none
  action : Action
deriving Repr

structure CommandInfo where
  name : String
  summary : String
  options : List CommandOption := []
  settingsPlace : Nat := 2

def helpOption : CommandOption :=
  { name := "help", letter := some 'h', summary := "Print help", stop := some .help }

def versionOption : CommandOption :=
  { name := "version", letter := some 'V', summary := "Print version", stop := some .version }

def verboseOption : CommandOption :=
  { name := "verbose", letter := some 'v', summary := "Increase verbosity", repeatable := true }

def formatOption : CommandOption :=
  { name := "format", letter := some 'f', value := some .text
    summary := "Log format (text, json); overrides the config file" }

def settingsOption : CommandOption :=
  { name := "config", letter := some 'c', value := some .path, summary := "Path to configuration file" }

def inputOption : CommandOption :=
  { name := "input", letter := some 'i', value := some .path, required := true
    summary := "Input JSONL file" }

def idOption : CommandOption :=
  { name := "id", value := some .text, required := true, summary := "Correlation id" }

def commands : List CommandInfo := [
  { name := "serve", summary := "Load records and serve the correlation API"
    options := [
      { name := "data", letter := some 'd', value := some .path, repeatable := true
        summary := "JSONL record files to ingest at startup (repeatable)" },
      { name := "host", value := some .text, summary := "Host to bind" },
      { name := "port", letter := some 'p', value := some .port, summary := "Port to bind" }] },
  { name := "enrich", summary := "Enrich a JSONL record file and write the result"
    options := [inputOption,
      { name := "output", letter := some 'o', value := some .path, required := true
        summary := "Output JSONL file" }] },
  { name := "correlate", summary := "Print the correlated context for one id"
    options := [inputOption, idOption,
      { name := "timeline", summary := "Print only the timeline" }] },
  { name := "analyze", summary := "Run root-cause analysis for one id"
    options := [inputOption, idOption] },
  { name := "status", summary := "Show the effective configuration" }]

def helpCommand : CommandInfo :=
  { name := "help", summary := "Print this message or the help of the given subcommand(s)" }

def aboutText : String := "Correlate traces, logs and metrics by correlation id"

def mainOptions : List CommandOption :=
  [verboseOption, formatOption, settingsOption, helpOption, versionOption]

def CommandInfo.allOptions (c : CommandInfo) : List CommandOption :=
  c.options.take c.settingsPlace ++ [settingsOption] ++ c.options.drop c.settingsPlace ++ [helpOption]

def CommandOption.placeholder (o : CommandOption) : String := "<" ++ o.name.toUpper ++ ">"

def CommandOption.usage (o : CommandOption) : String :=
  "--" ++ o.name ++ match o.value with
    | some _ => " " ++ o.placeholder
    | none => if o.repeatable then "..." else ""

def CommandOption.label (o : CommandOption) : String :=
  (match o.letter with
    | some c => String.ofList ['-', c, ',', ' ']
    | none => "    ") ++ o.usage

def columns (l : List (String × String)) : String :=
  let width := (l.map (·.1.length)).foldl max 0
  String.join (l.map (fun (label, text) ↦
    "  " ++ label ++ "".pushn ' ' (width - label.length + 2) ++ text ++ "\n"))

def optionsText (settings : Option String) (l : List CommandOption) : String :=
  "\nOptions:\n" ++ columns (l.map (fun o ↦ (o.label,
    if o.name = settingsOption.name then
      o.summary ++ " [env: " ++ settingsVariable ++ "=" ++ settings.getD "" ++ "]"
    else o.summary)))

def mainHelp (settings : Option String) : String :=
  s!"{aboutText}\n\nUsage: {productName} [OPTIONS] <COMMAND>\n\nCommands:\n" ++
    columns ((commands ++ [helpCommand]).map (fun c ↦ (c.name, c.summary))) ++
    optionsText settings mainOptions

def CommandInfo.help (settings : Option String) (c : CommandInfo) : String :=
  s!"{c.summary}\n\nUsage: {productName} {c.name} [OPTIONS]" ++
    String.join ((c.options.filter (·.required)).map (" " ++ ·.usage)) ++ "\n" ++
    optionsText settings c.allOptions

def helpHelp : String :=
  s!"{helpCommand.summary}\n\nUsage: {productName} {helpCommand.name} [COMMAND]...\n" ++
    "\nArguments:\n" ++ columns [("[COMMAND]...", "Print help for the subcommand(s)")]

def misuseText : String :=
  s!"error: invalid arguments\n\nUsage: {productName} [OPTIONS] <COMMAND>\n\n" ++
    "For more information, try '--help'.\n"

def versionText : String := s!"{productName} {version}\n"

inductive Request where
  | run (i : Invocation)
  | show (text : String)
  | misuse
deriving Repr

def Action.ofGiven? (command : String) (g : Given) : Option Action :=
  match command with
  | "serve" => some (.serve (g.values "data") (g.value? "host") ((g.value? "port").bind port?))
  | "enrich" => do return .enrich (← g.value? "input") (← g.value? "output")
  | "correlate" => do return .correlate (← g.value? "input") (← g.value? "id") (g.has "timeline")
  | "analyze" => do return .analyze (← g.value? "input") (← g.value? "id")
  | "status" => some .status
  | _ => none

namespace Request

def ofHelp (settings : Option String) : List String → Request
  | [] => .show (mainHelp settings)
  | [name] =>
    if name = helpCommand.name then .show helpHelp
    else match commands.find? (·.name = name) with
      | some c => .show (c.help settings)
      | none => .misuse
  | _ => .misuse

/-- The request for a command after the options before it; those of the command come first where
both say the same. An empty variable for settings may not be needed. -/
def ofCommand (settings : Option String) (before : Given) (c : CommandInfo) (args : List String) :
    Request :=
  match readOptions c.allOptions [] args with
  | .error .help => .show (c.help settings)
  | .ok (g, []) =>
    if settings = some "" ∧ ¬(before.has settingsOption.name ∧ g.has settingsOption.name) then .misuse
    else match Action.ofGiven? c.name g with
      | some action => .run {
          verbosity := (before.values verboseOption.name).length
          logFormat := before.value? formatOption.name
          settings := ((g.value? settingsOption.name).or (before.value? settingsOption.name)).or settings
          action := action }
      | none => .misuse
  | _ => .misuse

def read (settings : Option String) (args : List String) : Request :=
  match readOptions mainOptions [] args with
  | .error .help => .show (mainHelp settings)
  | .error .version => .show versionText
  | .ok (before, name :: r) =>
    if name = helpCommand.name then ofHelp settings r
    else match commands.find? (·.name = name) with
      | some c => ofCommand settings before c r
      | none => .misuse
  | _ => .misuse

end Request

end FlowCorrelation.Command
