import FormGuard.Config.Host
import FormGuard.Fault
import FormGuard.Json.Reader
import FormGuard.Text.LetterCase
import FormGuard.Text.Utf8

/-! Addresses of documents. An address without a scheme is a path. -/
namespace FormGuard
open FormGuard.Text

structure Address where
  -- in lower case; empty when there is none
  scheme : String
  -- as written, between the host and the query
  path : List Char
  deriving DecidableEq, Repr

namespace Address

def isControlOrSpace (c : Char) : Bool := c.toNat ≤ 32

def clean (cs : List Char) : List Char :=
  (cs.dropWhile isControlOrSpace).filter fun c => c != '\t' && c != '\r' && c != '\n'

def isLetter (c : Char) : Bool :=
  let n := c.toNat
  (65 ≤ n && n ≤ 90) || (97 ≤ n && n ≤ 122)

def isSchemeChar (c : Char) : Bool := isLetter c || Numeral.isDigit c || c == '+' || c == '-' || c == '.'

def splitScheme (cs : List Char) : List Char × List Char :=
  match breakOn? [':'] cs with
  | some (c :: scheme,rest) =>
    if isLetter c && scheme.all isSchemeChar then
      ((c :: scheme).map fun c => Char.ofNat (asciiLower c.toNat),rest)
    else ([],cs)
  | _ => ([],cs)

def splitHost : List Char → List Char × List Char
  | '/' :: '/' :: cs =>
    let ends (c : Char) : Bool := c == '/' || c == '?' || c == '#'
    (cs.takeWhile (!ends ·),cs.dropWhile (!ends ·))
  | cs => ([],cs)

def read (s : String) : Except Fault Address :=
  let (scheme,rest) := splitScheme (clean s.toList)
  let (host,rest) := splitHost rest
  if Host.isUsable host then .ok ⟨String.ofList scheme,rest.takeWhile fun c => c != '#' && c != '?'⟩
  else .error .badValue

def octets : List Char → List Nat
  | '%' :: p :: q :: cs =>
    match Json.hexValue? p,Json.hexValue? q with
    | some m,some n => (m * 16 + n) :: octets cs
    | _,_ => '%'.toNat :: octets (p :: q :: cs)
  | c :: cs => c.toNat :: octets cs
  | [] => []

/-- Each run of ASCII characters is decoded on its own; `run` is the present one, backwards. -/
def unescapeFrom : (run : List Char) → List Char → List Char
  | run,[] => Utf8.decode (octets run.reverse)
  | run,c :: cs =>
    if c.toNat < 128 then unescapeFrom (c :: run) cs
    else Utf8.decode (octets run.reverse) ++ c :: unescapeFrom [] cs

def unescape (cs : List Char) : List Char := unescapeFrom [] cs

end Address
end FormGuard
