import Declutter.Text.Basic

namespace Declutter.Text

/-- The UTF-8 bytes of a character. -/
def bytesOf (c : Char) : List Nat :=
  let n := c.toNat
  if n < 0x80 then [n]
  else if n < 0x800 then [0xC0 + n / 64, 0x80 + n % 64]
  else if n < 0x10000 then [0xE0 + n / 4096, 0x80 + n / 64 % 64, 0x80 + n % 64]
  else [0xF0 + n / 262144, 0x80 + n / 4096 % 64, 0x80 + n / 64 % 64, 0x80 + n % 64]

def isTailByte (b : Nat) : Bool :=
  0x80 ≤ b && b < 0xC0

/-- The character of a code point within its range of bytes. -/
def scalar? (least n : Nat) : Option Char :=
  if least ≤ n ∧ n.isValidChar then some (Char.ofNat n) else none

/-- The text that bytes encode in UTF-8. -/
def ofBytes? : List Nat → Option Text
  | [] => some []
  | a :: rest =>
    if a < 0x80 then (ofBytes? rest).map (Char.ofNat a :: ·)
    else match rest with
      | b :: rest =>
        if !isTailByte b then none
        else if 0xC0 ≤ a ∧ a < 0xE0 then
          match scalar? 0x80 ((a - 0xC0) * 64 + (b - 0x80)), ofBytes? rest with
          | some c, some t => some (c :: t)
          | _, _ => none
        else match rest with
          | c :: rest =>
            if !isTailByte c then none
            else if 0xE0 ≤ a ∧ a < 0xF0 then
              match scalar? 0x800 (((a - 0xE0) * 64 + (b - 0x80)) * 64 + (c - 0x80)),
                ofBytes? rest with
              | some c, some t => some (c :: t)
              | _, _ => none
            else match rest with
              | d :: rest =>
                if !isTailByte d ∨ a < 0xF0 ∨ 0xF8 ≤ a then none
                else
                  match scalar? 0x10000
                      ((((a - 0xF0) * 64 + (b - 0x80)) * 64 + (c - 0x80)) * 64 + (d - 0x80)),
                    ofBytes? rest with
                  | some c, some t => some (c :: t)
                  | _, _ => none
              | [] => none
          | [] => none
      | [] => none

end Declutter.Text
