/- Texts as the rest of the library reads and writes them. Words that are looked up in a table are
   first brought into the form `normalised`, without blank characters at the ends and in lower case,
   of the ASCII letters only. Bytes are written as pairs of lowercase hexadecimal digits, which are
   read back in either case, and as digits of six bits, four for three bytes. -/

namespace DocQuery.Text

/-! ## Words -/

/-- The Unicode property White_Space. -/
def isBlank (c : Char) : Bool :=
  let n := c.toNat
  decide (9 ≤ n ∧ n ≤ 13) || n == 0x20 || n == 0x85 || n == 0xa0 || n == 0x1680 ||
    decide (0x2000 ≤ n ∧ n ≤ 0x200a) || n == 0x2028 || n == 0x2029 || n == 0x202f ||
    n == 0x205f || n == 0x3000

/-- The list without what blank characters it ends in. -/
def trimEnd (s : List Char) : List Char := (s.reverse.dropWhile isBlank).reverse

/-- The list without the blank characters in front and behind. -/
def trim (s : List Char) : List Char := trimEnd (s.dropWhile isBlank)

/-- Lower case for `A` to `Z`; every other character stays. -/
def lowerAscii (c : Char) : Char :=
  if 'A' ≤ c ∧ c ≤ 'Z' then Char.ofNat (c.toNat + 32) else c

/-- The form in which words are compared: trimmed, and in lower case. -/
def normalised (s : String) : String := String.ofList ((trim s.toList).map lowerAscii)

/-- Equality of words up to the case of ASCII letters. -/
def sameIgnoringCase (s t : String) : Bool :=
  s.toList.map lowerAscii == t.toList.map lowerAscii

/-! ## Hexadecimal digits -/

/-- The lowercase digit of a number below sixteen. -/
def hexDigit (n : Nat) : Char := Nat.digitChar n

/-- The value of a hexadecimal digit in either case. -/
def hexValue? (c : Char) : Option Nat :=
  if '0' ≤ c ∧ c ≤ '9' then some (c.toNat - '0'.toNat)
  else if 'a' ≤ c ∧ c ≤ 'f' then some (c.toNat - 'a'.toNat + 10)
  else if 'A' ≤ c ∧ c ≤ 'F' then some (c.toNat - 'A'.toNat + 10)
  else none

/-- The number that a run of hexadecimal digits spells, read from the left after `start`. -/
def hexNumber? : Nat → List Char → Option Nat
  | start, [] => some start
  | start, c :: rest => do
    let digit ← hexValue? c
    hexNumber? (16 * start + digit) rest

/-- Two digits for each byte. -/
def hexOfBytes (bytes : List UInt8) : List Char :=
  bytes.flatMap fun b => [hexDigit (b.toNat / 16), hexDigit (b.toNat % 16)]

/-- The bytes that pairs of digits spell. -/
def hexBytes? : List Char → Option (List UInt8)
  | [] => some []
  | [_] => none
  | high :: low :: rest => do
    let byte ← hexNumber? 0 [high, low]
    let bytes ← hexBytes? rest
    return UInt8.ofNat byte :: bytes

/-- The digits of a number, without leading zeros. -/
def hexOfNat (n : Nat) : List Char := Nat.toDigits 16 n

/-! ## Digits of six bits -/

/-- The digit of a number below sixty-four. -/
def base64Digit (n : Nat) : Char :=
  if n < 26 then Char.ofNat ('A'.toNat + n)
  else if n < 52 then Char.ofNat ('a'.toNat + (n - 26))
  else if n < 62 then Char.ofNat ('0'.toNat + (n - 52))
  else if n = 62 then '+'
  else '/'

/-- The digits of a list of bytes, group by group. A last group of one or two bytes is filled up with
    zero bits, and the digits that carry none of its bits are written `=`. -/
def base64 : List UInt8 → List Char
  | [] => []
  | [a] =>
    let n := a.toNat * 16
    [base64Digit (n / 64), base64Digit (n % 64), '=', '=']
  | [a, b] =>
    let n := (a.toNat * 256 + b.toNat) * 4
    [base64Digit (n / 4096), base64Digit (n / 64 % 64), base64Digit (n % 64), '=']
  | a :: b :: c :: rest =>
    let n := (a.toNat * 256 + b.toNat) * 256 + c.toNat
    base64Digit (n / 262144) :: base64Digit (n / 4096 % 64) :: base64Digit (n / 64 % 64) ::
      base64Digit (n % 64) :: base64 rest

end DocQuery.Text
