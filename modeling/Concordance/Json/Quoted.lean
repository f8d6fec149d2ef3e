import Concordance.Json.Basic
/-!
Quoted strings. Writing escapes the quote, the backslash and control characters and nothing else;
reading accepts every escape, with surrogate escapes only in pairs. A string whose value nobody
wants is skimmed: there a surrogate may stand alone.
-/
namespace Concordance.Json.Quoted

def hexDigit (n : Nat) : Char := Nat.digitChar (n % 16)

def escape (c : Char) : List Char :=
  if c = '"' then ['\\', '"']
  else if c = '\\' then ['\\', '\\']
  else if c = '\n' then ['\\', 'n']
  else if c = '\t' then ['\\', 't']
  else if c = '\r' then ['\\', 'r']
  else if c = '\x08' then ['\\', 'b']
  else if c = '\x0c' then ['\\', 'f']
  else if c.toNat < 32 then ['\\', 'u', '0', '0', hexDigit (c.toNat / 16), hexDigit c.toNat]
  else [c]

def escapeAll (cs : List Char) : List Char := cs.flatMap escape

def render (s : String) : List Char := '"' :: escapeAll s.toList ++ ['"']

def shortEscape? (c : Char) : Option Char :=
  if c = '"' ∨ c = '\\' ∨ c = '/' then some c
  else if c = 'n' then some '\n'
  else if c = 't' then some '\t'
  else if c = 'r' then some '\r'
  else if c = 'b' then some '\x08'
  else if c = 'f' then some '\x0c'
  else none

def hexValue? (c : Char) : Option Nat :=
  if c.isDigit then some (c.toNat - 48)
  else if 'a' ≤ c ∧ c ≤ 'f' then some (c.toNat - 87)
  else if 'A' ≤ c ∧ c ≤ 'F' then some (c.toNat - 55)
  else none

def unit? (a b c d : Char) : Option Nat := do
  return (((← hexValue? a) * 16 + (← hexValue? b)) * 16 + (← hexValue? c)) * 16 + (← hexValue? d)

/-- Why four hexadecimal digits cannot be read: a unit is cut when fewer than four bytes follow. -/
def unitStop (rest : List Char) : Stop :=
  if (String.ofList rest).utf8ByteSize < 4 then .endOfText else .malformed

def isLead (n : Nat) : Bool := 0xD800 ≤ n && n ≤ 0xDBFF
def isTrail (n : Nat) : Bool := 0xDC00 ≤ n && n ≤ 0xDFFF

def pair (lead trail : Nat) : Char :=
  Char.ofNat ((lead - 0xD800) * 0x400 + (trail - 0xDC00) + 0x10000)

def prepend (c : Char) : Except Stop (List Char × List Char) → Except Stop (List Char × List Char)
  | .error e => .error e
  | .ok (cs, r) => .ok (c :: cs, r)

mutual

def read : List Char → Except Stop (List Char × List Char)
  | [] => .error .endOfText
  | c :: r =>
    if c = '"' then .ok ([], r)
    else if c = '\\' then readEscape r
    else if c.toNat < 32 then .error .malformed
    else prepend c (read r)

def readEscape : List Char → Except Stop (List Char × List Char)
  | [] => .error .endOfText
  | c :: r =>
    if c = 'u' then
      match r with
      | h₁ :: h₂ :: h₃ :: h₄ :: r' =>
        match unit? h₁ h₂ h₃ h₄ with
        | none => .error (unitStop r)
        | some n =>
          if isTrail n then .error .malformed
          else if isLead n then readTrail n r'
          else prepend (Char.ofNat n) (read r')
      | _ => .error (unitStop r)
    else match shortEscape? c with
      | none => .error .malformed
      | some e => prepend e (read r)

def readTrail (lead : Nat) : List Char → Except Stop (List Char × List Char)
  | [] => .error .endOfText
  | c :: r =>
    if c = '\\' then
      match r with
      | [] => .error .endOfText
      | d :: r₁ =>
        if d = 'u' then
          match r₁ with
          | h₁ :: h₂ :: h₃ :: h₄ :: r' =>
            match unit? h₁ h₂ h₃ h₄ with
            | none => .error (unitStop r₁)
            | some n => if isTrail n then prepend (pair lead n) (read r') else .error .malformed
          | _ => .error (unitStop r₁)
        else .error .malformed
    else .error .malformed

end

def skim : List Char → Except Stop (List Char)
  | [] => .error .endOfText
  | c :: r =>
    if c = '"' then .ok r
    else if c = '\\' then
      match r with
      | [] => .error .endOfText
      | d :: r₁ =>
        if d = 'u' then
          match r₁ with
          | h₁ :: h₂ :: h₃ :: h₄ :: r' =>
            if (unit? h₁ h₂ h₃ h₄).isSome then skim r' else .error (unitStop r₁)
          | _ => .error (unitStop r₁)
        else if (shortEscape? d).isSome then skim r₁
        else .error .malformed
    else if c.toNat < 32 then .error .malformed
    else skim r

end Concordance.Json.Quoted
