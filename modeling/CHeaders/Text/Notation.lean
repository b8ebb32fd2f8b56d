import CHeaders.Text.Class

/-!
# Characters and bytes in ASCII

Escapes and file tags write numbers in base sixteen, with small or capital letters and to a fixed
number of places.

Bytes are written as letters, digits and two marks, four characters for three bytes, with padding
at the end. Reading skips whatever does not belong to the writing, such as line ends.

Error messages and list shaped text show a piece of text between quotes. Single quotes are used
unless the text holds a single quote and no double quote. The quote in use and the backslash are
escaped, line ends and tabs have an escape of their own, and every other character that is not
printable is written by its code point, also half of a pair. So a quoted text is a string.

## Main definitions

* `CHeaders.Text.Hex.padded`: a number to a fixed number of hexadecimal places.
* `CHeaders.Text.Hex.value?`: the number a hexadecimal digit stands for.
* `CHeaders.Text.Hex.ofBytes`: two small digits for each byte.
* `CHeaders.Text.Base64.encodeLines`: bytes as lines of letters.
* `CHeaders.Text.Base64.decode?`: the bytes that letters stand for.
* `CHeaders.Text.quoted`: the quoted form of a text.
* `CHeaders.Text.quotedBytes`: the quoted form of a string of bytes.
-/

namespace CHeaders.Text

/-! ## Hexadecimal digits -/

namespace Hex

/-- Which letters stand for the digits from ten to fifteen. -/
inductive Letters where
  | small
  | capital
  deriving DecidableEq, Repr

/-- The digit for `n % 16`. -/
def digit (letters : Letters) (n : Nat) : Char :=
  let d := n % 16
  if d < 10 then Char.ofNat ('0'.toNat + d)
  else Char.ofNat ((match letters with | .small => 'a'.toNat | .capital => 'A'.toNat) + (d - 10))

/-- The last `places` digits of `n`, the most significant first. -/
def padded (letters : Letters) : (places : Nat) → (n : Nat) → List Char
  | 0, _ => []
  | places + 1, n => padded letters places (n / 16) ++ [digit letters n]

/-- The number that a hexadecimal digit stands for. -/
def value? (c : Char) : Option Nat :=
  let n := c.toNat
  if '0'.toNat ≤ n && n ≤ '9'.toNat then some (n - '0'.toNat)
  else if 'a'.toNat ≤ n && n ≤ 'f'.toNat then some (n - 'a'.toNat + 10)
  else if 'A'.toNat ≤ n && n ≤ 'F'.toNat then some (n - 'A'.toNat + 10)
  else none

/-- The number written by the digits `cs`, if all of them are hexadecimal digits. -/
def number? (cs : List Char) : Option Nat :=
  cs.foldl (fun acc c => do return (← acc) * 16 + (← value? c)) (some 0)

/-- Two small digits for every byte. -/
def ofBytes (bytes : List UInt8) : List Char :=
  bytes.flatMap fun b => padded .small 2 b.toNat

end Hex

/-! ## Bytes as letters -/

namespace Base64

/-- The characters for the numbers below sixty-four. -/
def alphabet : List Char :=
  "ABCDEFGHIJKLMNOPQRSTUVWXYZabcdefghijklmnopqrstuvwxyz0123456789+/".toList

/-- The character for a number below sixty-four. -/
def letter (n : Nat) : Char :=
  alphabet.getD (n % 64) 'A'

/-- The number that a character stands for. -/
def value? (c : Char) : Option Nat :=
  alphabet.idxOf? c

/-- The letters for bytes, with padding. -/
def encode : List UInt8 → List Char
  | [] => []
  | [a] => [letter (a.toNat / 4), letter (a.toNat % 4 * 16), '=', '=']
  | [a, b] =>
    [letter (a.toNat / 4), letter (a.toNat % 4 * 16 + b.toNat / 16), letter (b.toNat % 16 * 4),
      '=']
  | a :: b :: c :: rest =>
    letter (a.toNat / 4) :: letter (a.toNat % 4 * 16 + b.toNat / 16) ::
      letter (b.toNat % 16 * 4 + c.toNat / 64) :: letter (c.toNat % 64) :: encode rest

/-- Fifty-seven bytes to a line, each line ended. The first argument bounds the number of
lines. -/
def linesFrom : (bound : Nat) → List UInt8 → List Char
  | 0, _ => []
  | _ + 1, [] => []
  | bound + 1, bytes => encode (bytes.take 57) ++ '\n' :: linesFrom bound (bytes.drop 57)

/-- The letters for bytes in lines, each of them ended. -/
def encodeLines (bytes : List UInt8) : String :=
  String.ofList (linesFrom (bytes.length + 1) bytes)

/-- The bytes that characters stand for. `place` is the place in the group of four, `left` holds
the bits that are not used up, and `pads` counts the padding since the last letter. A group that
is padded in full is the end. -/
def decodeFrom (place left pads : Nat) : List Char → Option (List UInt8)
  | [] => if place = 0 then some [] else none
  | c :: rest =>
    if c = '=' then
      if 2 ≤ place then
        if 4 ≤ place + (pads + 1) then some [] else decodeFrom place left (pads + 1) rest
      else decodeFrom place left pads rest
    else
      match value? c with
      | none => decodeFrom place left pads rest
      | some n =>
        match place with
        | 0 => decodeFrom 1 n 0 rest
        | 1 => (decodeFrom 2 (n % 16) 0 rest).map (UInt8.ofNat (left * 4 + n / 16) :: ·)
        | 2 => (decodeFrom 3 (n % 4) 0 rest).map (UInt8.ofNat (left * 16 + n / 4) :: ·)
        | _ => (decodeFrom 0 0 0 rest).map (UInt8.ofNat (left * 64 + n) :: ·)

/-- The bytes that characters stand for, if they end with a full group. -/
def decode? (cs : List Char) : Option (List UInt8) :=
  decodeFrom 0 0 0 cs

end Base64

/-! ## Quoted texts -/

/-- A code point as an escape of the least sufficient width. -/
def codePointEscape (n : Nat) : List Char :=
  if n ≤ 0xFF then '\\' :: 'x' :: Hex.padded .small 2 n
  else if n ≤ 0xFFFF then '\\' :: 'u' :: Hex.padded .small 4 n
  else '\\' :: 'U' :: Hex.padded .small 8 n

/-- How a character stands in a text quoted by `quote`. -/
def quotedChar (quote c : Char) : List Char :=
  if c = quote || c = '\\' then ['\\', c]
  else if c = '\n' then ['\\', 'n']
  else if c = '\r' then ['\\', 'r']
  else if c = '\t' then ['\\', 't']
  else if isPrintable c then [c]
  else codePointEscape c.toNat

/-- How a letter stands in a text quoted by `quote`. -/
def quotedLetter (quote : Char) : Letter → List Char
  | .char c => quotedChar quote c
  | .half n => codePointEscape (Letter.half n).code

/-- The quote for a text: double when it holds a single quote and no double one. -/
def quoteFor (ls : List Letter) : Char :=
  if ls.contains (.char '\'') && !ls.contains (.char '"') then '"' else '\''

/-- A text between quotes, as characters. -/
def quotedChars (t : Text) : List Char :=
  let quote := quoteFor t.letters
  quote :: t.letters.flatMap (quotedLetter quote) ++ [quote]

/-- A text between quotes. -/
def quoted (t : Text) : String :=
  String.ofList (quotedChars t)

/-- How a byte stands in a byte string quoted by `quote`: visible ASCII as itself. -/
def quotedByte (quote : Char) (b : UInt8) : List Char :=
  let c := Char.ofNat b.toNat
  if c = quote || c = '\\' then ['\\', c]
  else if c = '\n' then ['\\', 'n']
  else if c = '\r' then ['\\', 'r']
  else if c = '\t' then ['\\', 't']
  else if 0x20 ≤ b.toNat && b.toNat < 0x7F then [c]
  else '\\' :: 'x' :: Hex.padded .small 2 b.toNat

/-- The bytes `bs` between quotes, after the mark `b`. -/
def quotedBytes (bs : List UInt8) : String :=
  let quote := quoteFor (bs.map fun b => .char (Char.ofNat b.toNat))
  String.ofList ('b' :: quote :: bs.flatMap (quotedByte quote) ++ [quote])

end CHeaders.Text
