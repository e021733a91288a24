import ScopeGen.Text.Affix
import ScopeGen.Text.Hex

/-!
# Yaml/Number — integers in plain texts

An integer is written in decimal, or in base sixteen, eight or two after `0x`, `0o` or `0b`.  It may
have a sign in front.  A decimal number does not begin with a zero that another digit follows.
-/

namespace ScopeGen.Yaml

/-- The number that digits of this base write; at least one digit is needed. -/
def natOfDigits? (base : Nat) (digits : List Char) : Option Nat :=
  if digits.isEmpty then
    none
  else
    digits.foldlM (fun n c => do
      let d ← hexDigit? c
      if d < base then some (base * n + d) else none) 0

/-- The number without sign that a text writes. -/
def natOfText? (cs : List Char) : Option Nat :=
  match cs with
  | '0' :: 'x' :: digits => natOfDigits? 16 digits
  | '0' :: 'o' :: digits => natOfDigits? 8 digits
  | '0' :: 'b' :: digits => natOfDigits? 2 digits
  | '0' :: _ :: _ => none
  | digits => natOfDigits? 10 digits

/-- The integer that a text writes. -/
def intOfText? (text : String) : Option Int :=
  match text.toList with
  | '+' :: cs => (natOfText? cs).map fun n => (n : Int)
  | '-' :: cs => (natOfText? cs).map fun n => -(n : Int)
  | cs => (natOfText? cs).map fun n => (n : Int)

end ScopeGen.Yaml
