import CHeaders.Fault

/-!
# Fragments

A fragment is a piece of generated C text. Fragments are made from pieces by joining; an empty
piece leaves no trace, not even a separator.

## Main definitions

* `CHeaders.Fragment.texts`: the texts of pieces that have to be texts.
* `CHeaders.Fragment.join`: the pieces that are not empty with a separator between them.
* `CHeaders.Fragment.joinValue`: the same for a separator of any kind.
-/

namespace CHeaders.Fragment

/-- The texts of the pieces, or the first piece that is no text; `index` is the index of the first
one. -/
def texts (index : Nat) : List Value → Except Fault (List Text)
  | [] => .ok []
  | v :: vs =>
    match v.text? with
    | some t => (texts (index + 1) vs).map (t :: ·)
    | none => .error (.notText index v.kind)

/-- The pieces that count as true with `separator` between them. -/
def join (separator : Text) (pieces : List Value) : Except Fault Text :=
  (texts 0 (pieces.filter Value.isTrue)).map (Text.join separator)

/-- The bytes of the pieces, or the first piece that has none; `index` is the index of the first
one. -/
def byteStrings (index : Nat) : List Value → Except Fault (List (List UInt8))
  | [] => .ok []
  | .bytes bs :: vs => (byteStrings (index + 1) vs).map (bs :: ·)
  | v :: _ => .error (.notByteString index v.kind)

/-- The pieces that count as true, which have to be strings of bytes, with `separator` between
them. They make text by being shown. -/
def joinBytes (separator : List UInt8) (pieces : List Value) : Except Fault Text :=
  (byteStrings 0 (pieces.filter Value.isTrue)).map fun strings =>
    (Value.bytes (List.intercalate separator strings)).display

/-- The pieces got by going through a value, joined by a text or by a string of bytes. -/
def joinValue (pieces separator : Value) : Except Fault Value :=
  match separator with
  | .text t | .fragment t => do return .fragment (← join t (← itemsOf pieces))
  | .bytes bs => do return .fragment (← joinBytes bs (← itemsOf pieces))
  | _ => .error (.noAttribute separator.kind "join")
where
  /-- The values that one gets by going through a value, which has to be possible. -/
  itemsOf (v : Value) : Except Fault (List Value) :=
    match v.items? with
    | some items => .ok items
    | none => .error (.notIterable v.kind)

end CHeaders.Fragment
