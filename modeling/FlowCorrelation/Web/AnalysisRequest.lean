import FlowCorrelation.Json.Skip

namespace FlowCorrelation.Web

inductive BodyDefect where
  | malformed
  | unsuitable
deriving DecidableEq, Repr

def idField : String := "correlation_id"

def idValue (l : List Char) : Except BodyDefect (String × List Char) :=
  match Json.skipSpace l with
  | '[' :: _ => .error .unsuitable
  | '\x7b' :: _ => .error .unsuitable
  | l => match Json.value 1 l with
    | some (.text s, r) => .ok (s, r)
    | some _ => .error .unsuitable
    | none => .error .malformed

def memberName (l : List Char) : Except BodyDefect (String × List Char) :=
  match Json.skipSpace l with
  | '"' :: r => match Json.string r with
    | some (name, r) => .ok (name, r)
    | none => .error .malformed
  | _ => .error .malformed

def afterColon (l : List Char) : Except BodyDefect (List Char) :=
  match Json.skipSpace l with
  | ':' :: r => .ok r
  | _ => .error .malformed

/-- Takes one member off the front; `found` is the id that stood before. A second id is refused as
soon as its name is read, and the values of other members are passed over. -/
def idMember (found : Option String) (l : List Char) : Except BodyDefect (Option String × List Char) := do
  let (name, r) ← memberName l
  if name = idField then
    if found.isSome then .error .unsuitable
    let (s, r) ← idValue (← afterColon r)
    return (some s, r)
  else match Json.skip (← afterColon r) with
    | some r => return (found, r)
    | none => .error .malformed

/-- Reads what follows a member, at most `fuel` members more. -/
def moreMembers : Nat → Option String → List Char → Except BodyDefect (Option String × List Char)
  | 0, _, _ => .error .malformed
  | fuel + 1, found, l =>
    match Json.skipSpace l with
    | '\x7d' :: r => .ok (found, r)
    | ',' :: r => do
      let (found, r) ← idMember found r
      moreMembers fuel found r
    | _ => .error .malformed

def idOfMembers (l : List Char) : Except BodyDefect (String × List Char) := do
  let (found, r) ← match Json.skipSpace l with
    | '\x7d' :: r => Except.ok (none, r)
    | l => do
      let (found, r) ← idMember none l
      moreMembers (r.length + 1) found r
  match found with
  | some s => return (s, r)
  | none => .error .unsuitable

def idOfItems (l : List Char) : Except BodyDefect (String × List Char) :=
  match Json.skipSpace l with
  | ']' :: _ => .error .unsuitable
  | l => do
    let (s, r) ← idValue l
    match Json.skipSpace r with
    | ']' :: r => return (s, r)
    | _ => .error .malformed

def requestedId (body : String) : Except BodyDefect String := do
  let (s, r) ← match Json.skipSpace body.toList with
    | '\x7b' :: r => idOfMembers r
    | '[' :: r => idOfItems r
    | l => match Json.value 1 l with
      | some _ => Except.error BodyDefect.unsuitable
      | none => .error .malformed
  if (Json.skipSpace r).isEmpty then return s else .error .malformed

end FlowCorrelation.Web
