import FormGuard.Number.Numeral
import FormGuard.Text.Pieces

/-! Hosts in square brackets: an IPv6 address, whose last two groups may be written as an IPv4 address and which may
name a zone, or an address of a later version. -/
namespace FormGuard.Host
open FormGuard.Text

def isHex (c : Char) : Bool :=
  let n := c.toNat
  (48 ≤ n && n ≤ 57) || (65 ≤ n && n ≤ 70) || (97 ≤ n && n ≤ 102)

def isOctet (cs : List Char) : Bool :=
  !cs.isEmpty && cs.all Numeral.isDigit && cs.length ≤ 3 && (cs.length == 1 || cs.head? != some '0') &&
    Numeral.natOf cs ≤ 255

def isIpv4 (cs : List Char) : Bool :=
  let parts := splitOn '.' cs
  parts.length == 4 && parts.all isOctet

def isGroup (cs : List Char) : Bool := !cs.isEmpty && cs.length ≤ 4 && cs.all isHex

def groups? (cs : List Char) : Option (List (List Char)) :=
  let parts := splitOn ':' cs
  if parts.length < 3 then none
  else
    match parts.getLast? with
    | some last =>
      if last.contains '.' then
        if isIpv4 last then some (parts.dropLast ++ [['0'],['0']]) else none
      else some parts
    | none => none

def isGroups (parts : List (List Char)) : Bool :=
  let inner := parts.tail.dropLast
  match inner.findIdx? List.isEmpty with
  | none => parts.length == 8 && parts.all isGroup
  | some i =>
    let before := parts.take (i + 1)
    let behind := parts.drop (i + 2)
    let side (open_ : Bool) (ps : List (List Char)) : Option Nat :=
      if open_ then if ps.length = 1 then some 0 else none
      else if ps.all isGroup then some ps.length else none
    parts.length ≤ 9 && !(inner.drop (i + 1)).any List.isEmpty &&
      match side (before.head? == some []) before,side (behind.getLast? == some []) behind with
      | some m,some n => m + n < 8
      | _,_ => false

def isIpv6 (cs : List Char) : Bool :=
  match splitOn '%' cs with
  | [address] => (groups? address).any isGroups
  | [address,zone] => !zone.isEmpty && (groups? address).any isGroups
  | _ => false

def isLaterVersion : List Char → Bool
  | 'v' :: cs =>
    match breakOn? ['.'] cs with
    | some (version,rest) =>
      !version.isEmpty && version.all isHex && !rest.isEmpty && !rest.contains '\n'
    | none => false
  | _ => false

def isBracketed (cs : List Char) : Bool :=
  if cs.head? == some 'v' then isLaterVersion cs else isIpv6 cs

/-- Characters that stand for a text with a `/`, `?`, `#`, `@` or `:` in it. -/
def misleading : List Nat :=
  [0x2047,0x2048,0x2049,0x2100,0x2101,0x2105,0x2106,0x2a74,0xfe13,0xfe16,0xfe55,0xfe56,0xfe5f,0xfe6b,
   0xff03,0xff0f,0xff1a,0xff1f,0xff20]

def isUsable (cs : List Char) : Bool :=
  let opened := cs.contains '['
  let closed := cs.contains ']'
  let inside := ((cs.dropWhile (· != '[')).drop 1).takeWhile (· != ']')
  opened == closed && (!opened || isBracketed inside) && !cs.any fun c => misleading.contains c.toNat

end FormGuard.Host
