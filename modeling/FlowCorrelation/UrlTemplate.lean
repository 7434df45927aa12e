import FlowCorrelation.Text.Blank
import FlowCorrelation.Text.DecimalDigit
import FlowCorrelation.Text.Split

namespace FlowCorrelation

open Text

def urlAttributes : List String := ["http.route", "http.target", "url.path", "http.url", "url.full"]

def methodAttribute : String := "http.method"

def knownMethods : List String :=
  ["GET", "HEAD", "POST", "PUT", "DELETE", "CONNECT", "OPTIONS", "TRACE", "PATCH"]

def isHex (c : Char) : Bool :=
  c.isDigit || ('a' ≤ c && c ≤ 'f') || ('A' ≤ c && c ≤ 'F')

def isUuid (l : List Char) : Bool :=
  let groups := splitAll (· = '-') l
  groups.map List.length = [8, 4, 4, 4, 12] && groups.all (·.all isHex)

def isNumeral (l : List Char) : Bool := !l.isEmpty && l.all isDecimalDigit

def isUlidChar (c : Char) : Bool :=
  c.isDigit || (c.isUpper && c ≠ 'I' && c ≠ 'L' && c ≠ 'O' && c ≠ 'U')

def isUlid (l : List Char) : Bool := l.length = 26 && l.all isUlidChar

def isHash (l : List Char) : Bool := 16 ≤ l.length && l.all isHex

def templateSegment (l : List Char) : List Char :=
  if isUuid l then "\x7buuid\x7d".toList
  else if isNumeral l || isUlid l then "\x7bid\x7d".toList
  else if isHash l then "\x7bhash\x7d".toList
  else l

def isSchemeChar (c : Char) : Bool := c.isAlphanum || c = '+' || c = '.' || c = '-'

def splitOrigin (l : List Char) : List Char × List Char :=
  let scheme := l.takeWhile isSchemeChar
  match l.drop scheme.length with
  | ':' :: '/' :: '/' :: r =>
    if scheme.head?.any Char.isAlpha then
      let authority := r.takeWhile (fun c ↦ c ≠ '/' && c ≠ '?' && c ≠ '#')
      (scheme ++ ':' :: '/' :: '/' :: authority, r.drop authority.length)
    else ([], l)
  | _ => ([], l)

def withoutQuery (l : List Char) : List Char := l.takeWhile (fun c ↦ c ≠ '?' && c ≠ '#')

def normalizeUrlChars (l : List Char) : List Char :=
  let (origin, path) := splitOrigin (withoutQuery l)
  origin ++ joinWith ['/'] ((splitAll (· = '/') path).map templateSegment)

def normalizeUrl (s : String) : String := String.ofList (normalizeUrlChars s.toList)

def normalizeMethod (s : String) : String :=
  let upper := (trimmed s).map Char.toUpper
  if knownMethods.contains upper then upper else "_OTHER"

end FlowCorrelation
