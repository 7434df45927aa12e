import FlowCorrelation.Journal
import FlowCorrelation.Json.Writer
import FlowCorrelation.Settings.Basic
import FlowCorrelation.Text.Lowercase
import FlowCorrelation.Text.Quoted
import FlowCorrelation.Text.Split

namespace FlowCorrelation

def Level.rank : Level → Nat
  | .error => 0
  | .warn => 1
  | .info => 2
  | .debug => 3
  | .trace => 4

def Level.all : List Level := [.error, .warn, .info, .debug, .trace]

structure LogDirective where
  target : String := ""
  level : Option Level
deriving DecidableEq, Repr

structure LogFilter where
  directives : List LogDirective
deriving Repr

/-- A level by its name or by its number, where nothing at all counts as zero. -/
def levelNamed? (s : String) : Option (Option Level) :=
  let name := s.map Char.toUpper
  if name = "OFF" ∨ name = "0" then some none
  else (Level.all.find? (fun l ↦ name = l.label ∨ name = toString (l.rank + 1))).map some

def isTargetChar (c : Char) : Bool := c.isAlphanum || c = '_' || c = ':' || c = '-'

namespace LogDirective

def read? (s : String) : Option LogDirective :=
  match levelNamed? s with
  | some level => some { level := level }
  | none =>
    let (target, r) := s.toList.span isTargetChar
    if target.isEmpty then none
    else match r with
      | [] => some ⟨String.ofList target, some .trace⟩
      | ['='] => some ⟨String.ofList target, some .trace⟩
      | '=' :: level => (levelNamed? (String.ofList level)).map (⟨String.ofList target, ·⟩)
      | _ => none

end LogDirective

namespace LogFilter

def ofLevel (l : Level) : LogFilter := ⟨[{ level := some l }]⟩

/-- Reads directives between commas; without any, only errors are shown. -/
def read? (s : String) : Option LogFilter :=
  let parts := ((Text.splitAll (· = ',') s.toList).filter (· ≠ [])).map String.ofList
  if parts.isEmpty then some (ofLevel .error) else (parts.mapM LogDirective.read?).map (⟨·⟩)

def directive? (f : LogFilter) (target : String) : Option LogDirective :=
  (f.directives.filter (target.startsWith ·.target)).foldl (fun best d ↦
    match best with
    | none => some d
    | some b => if b.target.length ≤ d.target.length then some d else some b) none

def shows (f : LogFilter) (target : String) (l : Level) : Bool :=
  ((f.directive? target).bind (·.level)).any (fun most ↦ l.rank ≤ most.rank)

/-- The filter that the environment sets, or else the number of requests for more, or else the
settings. -/
def chosen (environment : Option String) (verbosity : Nat) (s : LogSettings) : LogFilter :=
  (environment.bind read?).getD (match verbosity with
    | 0 => (read? (Text.lower s.level)).getD (ofLevel .error)
    | 1 => ofLevel .info
    | 2 => ofLevel .debug
    | _ => ofLevel .trace)

end LogFilter

/-- How a character stands in a line of text: controls that steer a terminal are shown by their
number. -/
def terminalSafe (c : Char) : List Char :=
  let n := c.toNat
  if n = 0x07 ∨ n = 0x08 ∨ n = 0x0C then ['\\', 'x', '0', Nat.digitChar n]
  else if n = 0x1B then ['\\', 'x', '1', 'b']
  else if n = 0x7F then ['\\', 'x', '7', 'f']
  else if 0x80 ≤ n ∧ n ≤ 0x9F then ['\\', 'u', '\x7b'] ++ Text.hexDigits n ++ ['\x7d']
  else [c]

def Notice.shownText (n : Notice) : String :=
  n.level.label ++ " " ++ String.ofList (n.text.toList.flatMap terminalSafe)

def Notice.textLine (time : String) (n : Notice) : String :=
  time ++ " " ++ "".pushn ' ' (5 - n.level.label.length) ++ n.shownText

def Notice.jsonLine (time : String) (n : Notice) : String :=
  (Json.object [("timestamp", .text time), ("level", .text n.level.label),
    ("fields", .object [("message", .text n.text)])]).render

end FlowCorrelation
