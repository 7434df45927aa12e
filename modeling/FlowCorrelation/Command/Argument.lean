import FlowCorrelation.Settings.File

namespace FlowCorrelation.Command

inductive ValueKind where
  | text
  | path
  | port
deriving DecidableEq, Repr

def port? (s : String) : Option Nat :=
  match s.toList with
  | '-' :: r => if r ≠ [] ∧ r.all (· = '0') then some 0 else none
  | _ => word? 16 s

def ValueKind.accepts : ValueKind → String → Bool
  | .text, _ => true
  | .path, s => !s.isEmpty
  | .port, s => (port? s).isSome

inductive Stop where
  | help
  | version
  | misuse
deriving DecidableEq, Repr

structure CommandOption where
  name : String
  letter : Option Char := none
  summary : String
  value : Option ValueKind := none
  repeatable : Bool := false
  required : Bool := false
  stop : Option Stop := none
deriving Repr

abbrev Given := List (String × String)

namespace Given

def values (g : Given) (name : String) : List String := (g.filter (·.1 = name)).map Prod.snd

def value? (g : Given) (name : String) : Option String := (g.values name).head?

def has (g : Given) (name : String) : Bool := g.any (·.1 = name)

end Given

/-- Adds an option with its value; only a repeatable one may have been given before. -/
def CommandOption.give (o : CommandOption) (value : String) (g : Given) : Except Stop Given :=
  match o.stop with
  | some stop => .error stop
  | none =>
    if o.value.all (·.accepts value) && (o.repeatable || !g.has o.name) then
      .ok (g ++ [(o.name, value)])
    else .error .misuse

/-- What an argument is by its look. -/
inductive Argument where
  | word
  | dashes
  | long (name : String) (value : Option String)
  | short (letters : List Char)
deriving DecidableEq, Repr

def Argument.ofText (s : String) : Argument :=
  match s.toList with
  | ['-', '-'] => .dashes
  | '-' :: '-' :: r => match r.span (· ≠ '=') with
    | (name, '=' :: value) => .long (String.ofList name) (some (String.ofList value))
    | (name, _) => .long (String.ofList name) none
  | '-' :: c :: r => .short (c :: r)
  | _ => .word

/-- The options so far, and the one that still waits for its value. -/
abbrev Pending := Given × Option CommandOption

def readLong (known : List CommandOption) (g : Given) (name : String) (value : Option String) :
    Except Stop Pending :=
  match known.find? (·.name = name) with
  | none => .error .misuse
  | some o => match o.value, value with
    | none, none => (o.give "" g).map (·, none)
    | none, some _ => .error .misuse
    | some _, some v => (o.give v g).map (·, none)
    | some _, none => .ok (g, some o)

def readLetters (known : List CommandOption) : Given → List Char → Except Stop Pending
  | g, [] => .ok (g, none)
  | g, c :: r =>
    match known.find? (·.letter = some c) with
    | none => .error .misuse
    | some o => match o.value, r with
      | none, r => (o.give "" g).bind (fun g ↦ readLetters known g r)
      | some _, [] => .ok (g, some o)
      | some _, '=' :: v => (o.give (String.ofList v) g).map (·, none)
      | some _, v => (o.give (String.ofList v) g).map (·, none)

def readOptions (known : List CommandOption) : Given → List String → Except Stop (Given × List String)
  | g, [] => .ok (g, [])
  | g, a :: r =>
    let pending? : Option (Except Stop Pending) := match Argument.ofText a with
      | .long name value => some (readLong known g name value)
      | .short letters => some (readLetters known g letters)
      | .dashes => if r.isEmpty then some (.ok (g, none)) else some (.error .misuse)
      | .word => none
    match pending?, r with
    | none, r => .ok (g, a :: r)
    | some (.error stop), _ => .error stop
    | some (.ok (g, none)), r => readOptions known g r
    | some (.ok (_, some _)), [] => .error .misuse
    | some (.ok (g, some o)), v :: r =>
      if Argument.ofText v = .word then (o.give v g).bind (fun g ↦ readOptions known g r)
      else .error .misuse

end FlowCorrelation.Command
