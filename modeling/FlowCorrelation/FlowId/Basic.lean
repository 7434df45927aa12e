import FlowCorrelation.FlowId.Base36
import FlowCorrelation.Text.Lowercase
import FlowCorrelation.Text.Quoted
import FlowCorrelation.Text.Split

namespace FlowCorrelation

def maxIdLength : Nat := 100

def injectionMarkers : List String :=
  ["<script", "</script", "javascript:", "--", ";", "'", "\"", "/*", "*/", "../", "..\\", "%00",
    "union select", "drop table", " or 1=1"]

inductive IdDefect where
  | empty
  | tooLong (bytes : Nat)
  | controlCharacter
  | injection (marker : String)
  | illegalCharacter (c : Char)
deriving DecidableEq, Repr

def IdDefect.message : IdDefect → String
  | .empty => "correlation id is empty"
  | .tooLong n => s!"correlation id too long: {n} > {maxIdLength}"
  | .controlCharacter => "correlation id contains a control character"
  | .injection marker => "correlation id contains injection marker " ++ Text.quoted marker
  | .illegalCharacter c => "correlation id contains illegal character " ++ Text.quotedChar c

def isIdChar (c : Char) : Bool := c.isAlphanum || c = '-' || c = '_'

def isControl (c : Char) : Bool := c.toNat < 0x20 || (0x7F ≤ c.toNat && c.toNat < 0xA0)

def findMarker (raw : String) : Option String :=
  let l := (Text.lower raw).toList
  injectionMarkers.find? (fun m ↦ Text.occursIn m.toList l)

/-- What keeps the text from being an id: the first of emptiness, length in bytes, controls,
markers and foreign characters. -/
def idDefect? (raw : String) : Option IdDefect :=
  if raw.isEmpty then some .empty
  else if maxIdLength < raw.utf8ByteSize then some (.tooLong raw.utf8ByteSize)
  else if raw.toList.any isControl then some .controlCharacter
  else match findMarker raw with
    | some m => some (.injection m)
    | none => (raw.toList.find? (fun c ↦ !isIdChar c)).map .illegalCharacter

structure FlowId where
  text : String
  sound : idDefect? text = none
deriving DecidableEq

namespace FlowId

theorem ext {x y : FlowId} (h : x.text = y.text) : x = y := by
  cases x; cases y; simp_all

def parse (raw : String) : Except IdDefect FlowId :=
  match h : idDefect? raw with
  | none => .ok ⟨raw, h⟩
  | some d => .error d

theorem text_of_parse {raw : String} {id : FlowId} (h : parse raw = .ok id) : id.text = raw := by
  unfold parse at h
  split at h <;> cases h
  rfl

theorem parse_eq_error_iff {raw : String} {d : IdDefect} :
    parse raw = .error d ↔ idDefect? raw = some d := by
  unfold parse
  split
  · simp [*]
  · rename_i d' hd; simp [hd]

theorem parse_text (id : FlowId) : parse id.text = .ok id := by
  unfold parse
  split
  · rfl
  · rename_i d hd; simp [id.sound] at hd

def extend (built : List Char) (c : Char) : List Char :=
  if !isIdChar c then built
  else if c = '-' ∧ built.getLast? = some '-' then built
  else if built.length = maxIdLength then built
  else built ++ [c]

/-- The characters of a text that can stand in an id, dashes never doubled. -/
def cleaned (raw : String) : String := String.ofList (raw.toList.foldl extend [])

def sanitize (raw : String) : Except IdDefect FlowId := parse (cleaned raw)

def compose (head : String) (millis : Nat) (suffix : String) : Except IdDefect FlowId :=
  parse (head ++ "-" ++ String.ofList (Base36.render millis) ++ "-" ++ suffix)

end FlowId

/-- Whether a text came from outside, to be repaired where possible, or from this library. -/
inductive IdOrigin where
  | outside
  | inside
deriving DecidableEq, Repr

/-- An id together with the defect that had to be repaired to get it. -/
structure AcceptedId where
  id : FlowId
  repaired : Option IdDefect

def acceptId (raw : String) (origin : IdOrigin) : Except IdDefect AcceptedId :=
  match FlowId.parse raw, origin with
  | .ok id, _ => .ok ⟨id, none⟩
  | .error d, .inside => .error d
  | .error d, .outside => do return ⟨← FlowId.sanitize raw, some d⟩

end FlowCorrelation
