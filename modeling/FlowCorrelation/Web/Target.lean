import FlowCorrelation.Json.Reader
import FlowCorrelation.Text.Split

namespace FlowCorrelation.Web

def isTokenChar (c : Char) : Bool := c.isAlphanum || "!#$%&'*+-.^_`|~".toList.contains c

def isPathChar (c : Char) : Bool := 0x21 ≤ c.toNat && !"#?<>`".toList.contains c

def isQueryChar (c : Char) : Bool := 0x21 ≤ c.toNat && !"\"#<>".toList.contains c

def isSchemeChar (c : Char) : Bool := c.isAlphanum || c = '+' || c = '-' || c = '.'

def isAuthorityChar (c : Char) : Bool := c.isAlphanum || "!$&'()*+,-.:;=@[]_~".toList.contains c

def isAuthority (l : List Char) : Bool :=
  let host := match Text.splitLast '@' l with
    | some (_, host) => host
    | none => l
  l.all isAuthorityChar && !host.isEmpty && host.count ':' ≤ 1

def pathBefore? (l : List Char) : Option (List Char) :=
  let (path, r) := l.span isPathChar
  match r with
  | [] => some path
  | '#' :: _ => some path
  | '?' :: r => match r.dropWhile isQueryChar with
    | [] => some path
    | '#' :: _ => some path
    | _ => none
  | _ => none

def afterScheme? (l : List Char) : Option (List Char) :=
  match l.dropWhile isSchemeChar with
  | ':' :: '/' :: '/' :: r => some r
  | _ => none

def maxTargetLength : Nat := 65534

/-- The path of a target; one without a path has an empty path. -/
def path? (target : String) : Option (List Char) :=
  let l := target.toList
  if maxTargetLength < target.utf8ByteSize then none
  else match l with
    | [] => none
    | ['*'] => some l
    | '/' :: _ => pathBefore? l
    | _ => match afterScheme? l with
      | none => if isAuthority l then some [] else none
      | some r =>
        let (authority, r) := r.span (fun c ↦ c ≠ '/' && c ≠ '?' && c ≠ '#')
        if isAuthority authority then pathBefore? r else none

def percentBytes : List Char → List UInt8
  | [] => []
  | '%' :: a :: b :: r =>
    match Json.hexValue? a, Json.hexValue? b with
    | some x, some y => UInt8.ofNat (16 * x + y) :: percentBytes r
    | _, _ => 37 :: percentBytes (a :: b :: r)
  | c :: r => (String.singleton c).toUTF8.data.toList ++ percentBytes r

/-- The text of a segment, unless its bytes are none. -/
def decoded? (segment : List Char) : Option String :=
  String.fromUTF8? ⟨(percentBytes segment).toArray⟩

end FlowCorrelation.Web
