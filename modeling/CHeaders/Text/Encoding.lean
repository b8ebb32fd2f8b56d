import CHeaders.Text.Notation

/-!
# Encodings

A text is kept as bytes in one of several encodings: UTF-8, or units of two or four bytes in
either order. Bytes that stand for no text are refused, and the first fault is named by the
position of its bytes.

File names are turned into bytes in UTF-8, and files are read from it. Reading refuses a byte that
cannot start a character, a byte that cannot continue one, and a character that the end of the
file cuts off.

Units of two bytes write the characters beyond the first plane in pairs. A half of a pair stands for
no character on its own; only some readers of bytes take it for a letter. A unit of four bytes is a
code point.

## Main definitions

* `CHeaders.Text.Encoding`: the encodings.
* `CHeaders.Text.Encoding.Fault`: the first place where bytes are no text.
* `CHeaders.Text.Encoding.Fault.message`: the wording of a fault.
* `CHeaders.Text.isHighHalf`, `CHeaders.Text.isLowHalf`, `CHeaders.Text.pair`: halves of pairs.
* `CHeaders.Text.Utf8.decode`, `CHeaders.Text.Utf16.decode`, `CHeaders.Text.Utf32.decode`: the text
  that bytes stand for, or the first fault.
* `CHeaders.Text.Utf8.gap?`: the first place where a text has no bytes.
* `CHeaders.Text.Utf8.encode`: the bytes of a text, if it has no such place.

## Main results

* `CHeaders.Text.Utf8.encode_ofString`: the bytes of a string.
-/

namespace CHeaders.Text

/-- Which byte of a unit comes first. -/
inductive ByteOrder where
  /-- The least significant byte. -/
  | little
  /-- The most significant byte. -/
  | big
  deriving DecidableEq, Repr

namespace ByteOrder

/-- The ending of the name of an encoding. -/
def ending : ByteOrder → String
  | little => "le"
  | big => "be"

/-- The number that the bytes of a unit stand for. -/
def number (order : ByteOrder) (bytes : List UInt8) : Nat :=
  let digits := match order with
    | little => bytes.reverse
    | big => bytes
  digits.foldl (fun n b => n * 256 + b.toNat) 0

end ByteOrder

/-- The ways in which a text is kept as bytes. -/
inductive Encoding where
  | utf8
  | utf16 (order : ByteOrder)
  | utf32 (order : ByteOrder)
  deriving DecidableEq, Repr

namespace Encoding

/-- The name of an encoding. -/
def name : Encoding → String
  | utf8 => "utf-8"
  | utf16 order => "utf-16-" ++ order.ending
  | utf32 order => "utf-32-" ++ order.ending

/-- Why bytes are no text. -/
inductive Cause where
  | invalidStart
  | invalidContinuation
  | unexpectedEnd
  /-- The last unit is not complete. -/
  | truncated
  /-- The second half of a pair comes without the first. -/
  | loneLow
  /-- The first half of a pair comes without the second. -/
  | loneHigh
  /-- A number is beyond the last code point. -/
  | outOfRange
  deriving DecidableEq, Repr

/-- The wording of a cause. -/
def Cause.reason : Cause → String
  | .invalidStart => "invalid start byte"
  | .invalidContinuation => "invalid continuation byte"
  | .unexpectedEnd => "unexpected end of data"
  | .truncated => "truncated data"
  | .loneLow => "illegal encoding"
  | .loneHigh => "illegal UTF-16 surrogate"
  | .outOfRange => "code point not in range(0x110000)"

/-- The first place where bytes are no text: `length` bytes from `position`, the first of them
`byte`. -/
structure Fault where
  encoding : Encoding
  byte : UInt8
  position : Nat
  length : Nat
  cause : Cause
  deriving DecidableEq, Repr

/-- The wording of a fault: a single byte is shown, a run of bytes is given by its ends. -/
def Fault.message (f : Fault) : String :=
  let front := "'" ++ f.encoding.name ++ "' codec can't decode byte"
  if f.length ≤ 1 then
    front ++ " 0x" ++ String.ofList (Hex.padded .small 2 f.byte.toNat) ++
      " in position " ++ toString f.position ++ ": " ++ f.cause.reason
  else
    front ++ "s in position " ++ toString f.position ++ "-" ++
      toString (f.position + f.length - 1) ++ ": " ++ f.cause.reason

end Encoding

/-- Whether a unit is the first half of a pair. -/
def isHighHalf (n : Nat) : Bool :=
  0xD800 ≤ n && n < 0xDC00

/-- Whether a unit is the second half of a pair. -/
def isLowHalf (n : Nat) : Bool :=
  0xDC00 ≤ n && n < 0xE000

/-- The letter for the two halves of a pair. -/
def pair (high low : Nat) : Letter :=
  .char (Char.ofNat (0x10000 + (high - 0xD800) * 0x400 + (low - 0xDC00)))

/-! ## UTF-8 -/

namespace Utf8

open Encoding (Fault)

/-! ### From bytes -/

/-- How many bytes continue a character that starts with `b`, and between which bounds the first
of them lies. -/
def continuation? (b : Nat) : Option (Nat × Nat × Nat) :=
  if 0xC2 ≤ b && b ≤ 0xDF then some (1, 0x80, 0xBF)
  else if b == 0xE0 then some (2, 0xA0, 0xBF)
  else if b == 0xED then some (2, 0x80, 0x9F)
  else if 0xE1 ≤ b && b ≤ 0xEF then some (2, 0x80, 0xBF)
  else if b == 0xF0 then some (3, 0x90, 0xBF)
  else if b == 0xF4 then some (3, 0x80, 0x8F)
  else if 0xF1 ≤ b && b ≤ 0xF3 then some (3, 0x80, 0xBF)
  else none

/-- How many of the first `count` bytes continue a character whose first continuation lies
between `lo` and `hi`. -/
def continuing : (count : Nat) → (lo hi : Nat) → List UInt8 → Nat
  | 0, _, _, _ => 0
  | _ + 1, _, _, [] => 0
  | count + 1, lo, hi, b :: rest =>
    if lo ≤ b.toNat && b.toNat ≤ hi then continuing count 0x80 0xBF rest + 1 else 0

/-- The code point of a character from the bits of its first byte and its continuations. -/
def codePoint (first : Nat) (count : Nat) (more : List UInt8) : Nat :=
  more.foldl (fun acc b => acc * 64 + b.toNat % 64) (first % (1 <<< (6 - count)))

/-- The half of a pair at the beginning of the bytes, if there is one. -/
def half? (b : UInt8) (rest : List UInt8) : Option Letter :=
  match rest with
  | c :: d :: _ =>
    if b == 0xED && 0xA0 ≤ c.toNat && c.toNat ≤ 0xBF && 0x80 ≤ d.toNat && d.toNat ≤ 0xBF then
      some (Letter.ofCode (codePoint b.toNat 2 [c, d]))
    else none
  | _ => none

/-- The text of `bytes`, which start at `position` of the whole. The first argument bounds the
number of letters. Halves of pairs are letters if they are allowed. -/
def decodeFrom (halves : Bool) :
    (bound : Nat) → (position : Nat) → List UInt8 → Except Fault (List Letter)
  | 0, _, _ => .ok []
  | _ + 1, _, [] => .ok []
  | bound + 1, position, b :: rest =>
    if b.toNat < 0x80 then
      (decodeFrom halves bound (position + 1) rest).map (.char (Char.ofNat b.toNat) :: ·)
    else
      match if halves then half? b rest else none with
      | some l => (decodeFrom halves bound (position + 3) (rest.drop 2)).map (l :: ·)
      | none =>
        match continuation? b.toNat with
        | none => .error ⟨.utf8, b, position, 1, .invalidStart⟩
        | some (count, lo, hi) =>
          let good := continuing count lo hi rest
          if good == count then
            let c := Char.ofNat (codePoint b.toNat count (rest.take count))
            (decodeFrom halves bound (position + 1 + count) (rest.drop count)).map (.char c :: ·)
          else if good == rest.length then .error ⟨.utf8, b, position, 1 + good, .unexpectedEnd⟩
          else .error ⟨.utf8, b, position, 1 + good, .invalidContinuation⟩

/-- The text that `bytes` stand for, or the first place where they stand for none. -/
def decode (halves : Bool) (bytes : List UInt8) : Except Fault Text :=
  (decodeFrom halves bytes.length 0 bytes).map Text.mk

/-! ### To bytes -/

/-- The first place where a text has no bytes: `length` halves of pairs from `position`, the first
of them `half`. -/
structure Gap where
  half : Nat
  position : Nat
  length : Nat
  deriving DecidableEq, Repr

/-- The wording of such a place. -/
def Gap.message (g : Gap) : String :=
  let front := "'utf-8' codec can't encode character"
  if g.length ≤ 1 then
    front ++ " '\\u" ++ String.ofList (Hex.padded .small 4 g.half) ++ "' in position " ++
      toString g.position ++ ": surrogates not allowed"
  else
    front ++ "s in position " ++ toString g.position ++ "-" ++
      toString (g.position + g.length - 1) ++ ": surrogates not allowed"

/-- The first place where letters, which start at `position` of the whole, have no bytes. -/
def gapFrom? (position : Nat) : List Letter → Option Gap
  | [] => none
  | .char _ :: rest => gapFrom? (position + 1) rest
  | .half n :: rest =>
    some ⟨(Letter.half n).code, position, 1 + (rest.takeWhile Letter.isHalf).length⟩

/-- The first place where a text has no bytes. -/
def gap? (t : Text) : Option Gap :=
  gapFrom? 0 t.letters

/-- The bytes of a letter; half of a pair has none. -/
def letterBytes : Letter → List UInt8
  | .char c => String.utf8EncodeChar c
  | .half _ => []

/-- The bytes of a text, or the first place where it has none. -/
def encode (t : Text) : Except Gap (List UInt8) :=
  match gap? t with
  | some gap => .error gap
  | none => .ok (t.letters.flatMap letterBytes)

/-- Characters have bytes everywhere. -/
theorem gapFrom?_chars (position : Nat) (cs : List Char) :
    gapFrom? position (cs.map .char) = none := by
  induction cs generalizing position with
  | nil => rfl
  | cons c cs ih => exact ih (position + 1)

/-- The bytes of a string are those of its characters. -/
theorem encode_ofString (s : String) :
    encode (ofString s) = .ok (s.toList.flatMap String.utf8EncodeChar) := by
  have h : gap? (ofString s) = none := gapFrom?_chars 0 s.toList
  rw [encode, h]
  simp only [ofString, ofChars, List.flatMap_map]
  rfl

end Utf8

/-! ## UTF-16 -/

namespace Utf16

open Encoding (Fault)

/-- The second half of a pair, if it begins the bytes. -/
def lowHalf? (order : ByteOrder) : List UInt8 → Option Nat
  | c :: d :: _ =>
    let low := order.number [c, d]
    if isLowHalf low then some low else none
  | _ => none

/-- The fault of a unit at `position` that is half of a pair, with `rest` behind it. -/
def loneHalf (order : ByteOrder) (position : Nat) (first : UInt8) (unit : Nat)
    (rest : List UInt8) : Fault :=
  if isLowHalf unit then ⟨.utf16 order, first, position, 2, .loneLow⟩
  else if rest.length < 2 then ⟨.utf16 order, first, position, 2 + rest.length, .unexpectedEnd⟩
  else ⟨.utf16 order, first, position, 2, .loneHigh⟩

/-- The text of `bytes`, which start at `position` of the whole. Halves of pairs may be alone if
they are allowed. -/
def decodeFrom (order : ByteOrder) (halves : Bool) (position : Nat) :
    (bytes : List UInt8) → Except Fault (List Letter)
  | [] => .ok []
  | [a] => .error ⟨.utf16 order, a, position, 1, .truncated⟩
  | a :: b :: rest =>
    let unit := order.number [a, b]
    match if isHighHalf unit then lowHalf? order rest else none with
    | some low =>
      (decodeFrom order halves (position + 4) (rest.drop 2)).map (pair unit low :: ·)
    | none =>
      if (isHighHalf unit || isLowHalf unit) && !halves then
        .error (loneHalf order position a unit rest)
      else (decodeFrom order halves (position + 2) rest).map (Letter.ofCode unit :: ·)
termination_by bytes => bytes.length

/-- The text of `bytes`, of which those up to `start` do not count. -/
def decode (order : ByteOrder) (halves : Bool) (start : Nat) (bytes : List UInt8) :
    Except Fault Text :=
  (decodeFrom order halves start (bytes.drop start)).map Text.mk

end Utf16

/-! ## UTF-32 -/

namespace Utf32

open Encoding (Fault)

/-- The text of `bytes`, which start at `position` of the whole. -/
def decodeFrom (order : ByteOrder) (position : Nat) : List UInt8 → Except Fault (List Letter)
  | [] => .ok []
  | a :: b :: c :: d :: rest =>
    let n := order.number [a, b, c, d]
    if n < 0x110000 then (decodeFrom order (position + 4) rest).map (Letter.ofCode n :: ·)
    else .error ⟨.utf32 order, a, position, 4, .outOfRange⟩
  | a :: rest => .error ⟨.utf32 order, a, position, 1 + rest.length, .truncated⟩

/-- The text of `bytes`, of which those up to `start` do not count. -/
def decode (order : ByteOrder) (start : Nat) (bytes : List UInt8) : Except Fault Text :=
  (decodeFrom order start (bytes.drop start)).map Text.mk

end Utf32

end CHeaders.Text
