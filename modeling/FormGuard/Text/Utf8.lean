/-! Octets read as UTF-8. A start of a character that is broken off, and an octet that starts none, read as the
replacement character. -/
namespace FormGuard.Text.Utf8

def replacement : Char := '\ufffd'

structure Begun where
  bits : Nat
  lacks : Nat
  least : Nat
  most : Nat
  deriving DecidableEq, Repr

def begin (b : Nat) : List Char × Option Begun :=
  if b < 0x80 then ([Char.ofNat b],none)
  else if 0xc2 ≤ b ∧ b ≤ 0xdf then ([],some ⟨b % 32,1,0x80,0xbf⟩)
  else if b = 0xe0 then ([],some ⟨0,2,0xa0,0xbf⟩)
  else if b = 0xed then ([],some ⟨13,2,0x80,0x9f⟩)
  else if 0xe1 ≤ b ∧ b ≤ 0xef then ([],some ⟨b % 16,2,0x80,0xbf⟩)
  else if b = 0xf0 then ([],some ⟨0,3,0x90,0xbf⟩)
  else if b = 0xf4 then ([],some ⟨4,3,0x80,0x8f⟩)
  else if 0xf1 ≤ b ∧ b ≤ 0xf3 then ([],some ⟨b % 8,3,0x80,0xbf⟩)
  else ([replacement],none)

def decodeFrom : Option Begun → List Nat → List Char
  | none,[] => []
  | some _,[] => [replacement]
  | none,b :: bs =>
    let (cs,state) := begin b
    cs ++ decodeFrom state bs
  | some p,b :: bs =>
    if p.least ≤ b ∧ b ≤ p.most then
      let bits := p.bits * 64 + b % 64
      if p.lacks = 1 then Char.ofNat bits :: decodeFrom none bs
      else decodeFrom (some ⟨bits,p.lacks - 1,0x80,0xbf⟩) bs
    else
      let (cs,state) := begin b
      replacement :: cs ++ decodeFrom state bs

def decode (octets : List Nat) : List Char := decodeFrom none octets

end FormGuard.Text.Utf8
