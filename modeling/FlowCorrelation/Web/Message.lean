import FlowCorrelation.Web.Target

namespace FlowCorrelation.Web

structure Request where
  method : String := "GET"
  target : String
  contentType : Option String := none
  body : String := ""
deriving Repr

inductive Body where
  | none
  | json (j : Json)
  | text (s : String)

structure Response where
  status : Nat
  contentType : Option String := none
  body : Body := .none

namespace Response

def bare (status : Nat) : Response := { status := status }

def json (status : Nat) (j : Json) : Response := ⟨status, some "application/json", .json j⟩

def error (status : Nat) (message : String) : Response := json status (.object [("error", .text message)])

def withoutBody (r : Response) : Response := { r with body := .none }

end Response

def isHeaderValue (s : String) : Bool :=
  s.toList.all (fun c ↦ c = '\t' || (0x20 ≤ c.toNat && c.toNat ≠ 0x7F))

def Request.isSendable (r : Request) : Bool :=
  !r.method.isEmpty && r.method.toList.all isTokenChar && (path? r.target).isSome &&
    r.contentType.all isHeaderValue

def afterQuoted? (l : List Char) : Option (List Char) :=
  match l.dropWhile (· = ' ') with
  | [] => some []
  | ';' :: r => some r
  | _ => none

def afterValue? : List Char → Option (List Char)
  | '"' :: r => match r.span (fun c ↦ c ≠ '"' && 0x20 ≤ c.toNat && c.toNat < 0x7F) with
    | (_ :: _, '"' :: r) => afterQuoted? r
    | _ => none
  | l => match l.dropWhile isTokenChar with
    | [] => some []
    | ';' :: r => if l.head? = some ';' then none else some r
    | _ => none

def areParameters : Nat → List Char → Bool
  | 0, _ => false
  | fuel + 1, l =>
    match l.dropWhile (· = ' ') with
    | [] => true
    | l => match l.span isTokenChar with
      | (_ :: _, '=' :: r) => match afterValue? r with
        | some r => areParameters fuel r
        | none => false
      | _ => false

def isJsonType (s : String) : Bool :=
  let (kind, r) := (s.toList.map Char.toLower).span (· ≠ '/')
  let (subtype, r) := r.drop 1 |>.span (· ≠ ';')
  let suffix := (Text.splitLast '+' subtype).any (fun (before, after) ↦ before ≠ [] && after = "json".toList)
  kind = "application".toList && subtype.all isTokenChar && (subtype = "json".toList || suffix) &&
    s.toList.all (fun c ↦ c = '\t' || (0x20 ≤ c.toNat && c.toNat < 0x7F)) &&
    areParameters (r.length + 1) (r.drop 1)

end FlowCorrelation.Web
