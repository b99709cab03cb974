/-!
# Digits

Hexadecimal digits in lower case, and the number that decimal digits spell.
-/

namespace Stepwise.Text

set_option autoImplicit false

def hexDigit (n : Nat) : Char := if n < 10 then Char.ofNat (48 + n) else Char.ofNat (87 + n)

def hexNumber (n : Nat) : String := String.ofList (Nat.toDigits 16 n)

def natOfDigits (digits : List Char) : Nat := digits.foldl (fun n c => n * 10 + (c.toNat - 48)) 0

end Stepwise.Text
