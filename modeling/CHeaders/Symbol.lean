import CHeaders.Fault
import CHeaders.Text.Encoding
import CHeaders.Value.Arithmetic

/-!
# Symbol names

C has no hygiene, so generated code names its private variables after the place that they are
made for: a stem and a short id, then the line, the column if it is known, and the file if it is
known. The same parts always give the same name.

## Main definitions

* `CHeaders.Symbol.Place`: the line, the column and the file of an expansion.
* `CHeaders.Symbol.Place.tag`: what a place adds to a name.
* `CHeaders.Symbol.name`: the name for a stem, an id and a position.
-/

namespace CHeaders.Symbol

/-- The place of an expansion. -/
structure Place where
  line : Nat
  column : Option Nat
  file : Option Text
  deriving DecidableEq, Repr

/-- A number of lines or columns. -/
def coordinate (what : String) (v : Value) : Except Fault Nat :=
  match v with
  | .int (.ofNat n) => .ok n
  | _ => .error (.refusal .typeMismatch "gen_sym" ("a non-negative integer " ++ what) v)

/-- The place that a line number or a source position stands for. -/
def Place.ofValue (v : Value) : Except Fault Place :=
  match v with
  | .int _ => do
    let line ← coordinate "line" v
    return ⟨line, none, none⟩
  | .position line column file => do
    let line ← coordinate "line" line
    let column ←
      if column.isNone then pure none else (coordinate "column" column).map some
    match file, file.text? with
    | .none, _ => return ⟨line, column, none⟩
    | _, some name => return ⟨line, column, some name⟩
    | _, none => throw (.refusal .typeMismatch "gen_sym" "a file name string" file)
  | _ => .error (.refusal .typeMismatch "gen_sym" "a line number or SourcePosition" v)

/-- The name of a file as digits and letters: two for each of its bytes. -/
def fileTag (file : Text) : Except Fault String :=
  match Text.Utf8.encode file with
  | .ok bytes => .ok (String.ofList (Text.Hex.ofBytes bytes))
  | .error gap => .error (.notEncodable gap)

/-- The line and the column of a place, as values that a name shows. -/
def Place.numbers (p : Place) : List Value :=
  .int p.line :: (p.column.map fun c => .int c).toList

/-- What the line and the column of a place add to a name. -/
def Place.coordinates (p : Place) : String :=
  "_" ++ Decimal.ofNat p.line ++
    match p.column with
    | none => ""
    | some c => "_" ++ Decimal.ofNat c

/-- What a place adds to a name. -/
def Place.tag (p : Place) : Except Fault String := do
  let coordinates ← Fault.whenShown p.numbers (.ok p.coordinates)
  match p.file with
  | none => return coordinates
  | some file => return coordinates ++ "_f" ++ (← fileTag file)

/-- The name for a stem, an id and a position: the stem, the id and what the position adds, if the
stem and the id make an identifier. The stem and the id are judged before the position. -/
def name (stem id position : Value) : Except Fault Text :=
  match stem.text?, id.text? with
  | some s, some i =>
    if Text.isIdPart i && Text.isIdentifier (s ++ i) then do
      let place ← Place.ofValue position
      let tag ← place.tag
      return s ++ i ++ tag
    else do
      let both ← stem.plus id
      throw (.refusal .typeMismatch "gen_sym" "prefix + id forming a C identifier" both)
  | _, _ => .error (.refusal .typeMismatch "gen_sym" "string prefix and id" (.tuple [stem, id]))

end CHeaders.Symbol
