import FlowCorrelation.Disk
import FlowCorrelation.Journal
import FlowCorrelation.Settings.Check
import FlowCorrelation.Settings.Json
import FlowCorrelation.Toml.Writer

namespace FlowCorrelation

abbrev Variables := Dict String

inductive SettingsFault where
  | missing (path : String)
  | disk (f : DiskFault)
  | malformed
  | invalid (d : SettingsDefect)
  | outOfRange
deriving Repr

def SettingsFault.message : SettingsFault → String
  | .missing path => s!"Config file not found: {path}"
  | .disk f => s!"Failed to read config file: {f.message}"
  | .malformed => "Failed to parse TOML"
  | .invalid d => s!"Invalid configuration: {d.message}"
  | .outOfRange =>
    "Invalid configuration: Failed to serialize config: out-of-range value for u64 type"

def word? (bits : Nat) (s : String) : Option Nat :=
  let ds := match s.toList with
    | '+' :: r => r
    | r => r
  let n := Json.digitsValue ds
  if ds ≠ [] ∧ ds.all Char.isDigit ∧ n < Nat.pow 2 bits then some n else none

def settingsVariable : String := "OLLY_CONFIG"

namespace Settings

def clipped : Json → Json
  | .object m => .object (m.map (fun (name, j) ↦
      match j, sections.find? (fun e ↦ e.1 = name) with
      | .list l, some (_, names) => (name, .list (l.take names.length))
      | _, _ => (name, j)))
  | j => j

def read? (s : String) : Option Settings := (Toml.read? s).bind (fun j ↦ ofJson? (clipped j))

/-- The document of the settings; numbers beyond 63 bits have no place in it. -/
def render? (s : Settings) : Option String := Toml.render? s.toJson

def userPath? (v : Variables) : Option String :=
  ((Dict.get? v "XDG_CONFIG_HOME").or ((Dict.get? v "HOME").map (joinPath · ".config"))).map
    (joinPath · "ollystack/config.toml")

def commonPath : String := "/etc/ollystack/config.toml"

def sources (given : Option String) (v : Variables) : List (String × List Notice) :=
  (given.map (fun p ↦ (p, [.warn s!"CLI config path does not exist: {p}"]))).toList ++
    ((Dict.get? v settingsVariable).map
      (fun p ↦ (p, [.warn s!"{settingsVariable} path does not exist: {p}"]))).toList ++
    ((userPath? v).map (fun p ↦ (p, []))).toList ++ [(commonPath, [])]

def overrides : List (String × (String → Settings → Settings)) := [
  ("OLLY_LOG_LEVEL", fun x s ↦ { s with logging := { s.logging with level := x } }),
  ("OLLY_WEB_PORT", fun x s ↦ { s with web := { s.web with port := (word? 16 x).getD s.web.port } }),
  ("OLLY_WEB_HOST", fun x s ↦ { s with web := { s.web with host := x } }),
  ("OLLY_ID_PREFIX", fun x s ↦ { s with ids := { s.ids with head := x } }),
  ("OLLY_QUERY_TIMEOUT_MS", fun x s ↦
    { s with query := { s.query with timeoutMs := (word? 64 x).getD s.query.timeoutMs } }),
  ("OLLY_CACHE_TTL_SECS", fun x s ↦
    { s with query := { s.query with cacheTtlSecs := (word? 64 x).getD s.query.cacheTtlSecs } }),
  ("OLLY_NARRATOR_ENDPOINT", fun x s ↦ { s with narrator := { s.narrator with endpoint := x } }),
  ("OLLY_NARRATOR_API_KEY", fun x s ↦
    { s with narrator := { s.narrator with apiKey := some x, enabled := true } })]

def overridden (v : Variables) (s : Settings) : Settings :=
  overrides.foldl (fun s (name, change) ↦
    match Dict.get? v name with
    | some x => change x s
    | none => s) s

def checked (s : Settings) : Except SettingsFault Settings :=
  match s.defect? with
  | none => .ok s
  | some d => .error (.invalid d)

variable {m : Type → Type} [Monad m] [MonadDisk m]

def readFile (path : String) : m (Except SettingsFault Settings) := do
  if !(← pathExists path) then return .error (.missing path)
  return match ← readText path with
    | .error f => .error (.disk f)
    | .ok text => match read? text with
      | some s => .ok s
      | none => .error .malformed

def locate : List (String × List Notice) → m (Option String × List Notice)
  | [] => return (none, [])
  | (path, absent) :: l => do
    if ← pathExists path then return (some path, [])
    let (found, said) ← locate l
    return (found, absent ++ said)

def load (given : Option String) (v : Variables) : m (Except SettingsFault Settings × List Notice) := do
  let (found, said) ← locate (sources given v)
  match found with
  | none =>
    return ((overridden v {}).checked, said ++ [.debug "No config file found, using defaults"])
  | some path =>
    let read ← readFile path
    return (read.bind (fun s ↦ (overridden v s).checked),
      said ++ [.info s!"Loading configuration from: {path}"])

def save (s : Settings) (path : String) : m (Except SettingsFault Unit × List Notice) := do
  let some text := s.render? | return (.error .outOfRange, [])
  match ← makeDirectory (m := m) (parentPath path) with
  | .error f => return (.error (.disk f), [])
  | .ok () => match ← MonadDisk.write path text.toUTF8 with
    | .error f => return (.error (.disk f), [])
    | .ok () => return (.ok (), [.info s!"Configuration saved to: {path}"])

end Settings

end FlowCorrelation
