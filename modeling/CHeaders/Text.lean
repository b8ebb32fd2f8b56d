/-!
# Texts

A text is a list of letters. Nearly every letter is a character. Some documents also hold a half of
one of the pairs in which sixteen bits at a time write the characters beyond the first plane; where
its other half is missing, such a half is no character, and is a letter of its own kind.

Letters are ordered by their codes. The codes of the halves are those that no character has.

Files may end their lines in any of three ways; a text read from a file has one. Joining puts a
separator between texts, and splitting takes a list apart at a separator.

## Main definitions

* `CHeaders.Letter`: characters and lone halves, with `CHeaders.Letter.code`.
* `CHeaders.Text`: texts. Strings are texts.
* `CHeaders.Text.chars?`, `CHeaders.Text.string?`: the characters of a text without halves.
* `CHeaders.Text.less`: the order of texts.
* `CHeaders.Text.unifyLineEnds`: the text with a single line feed for each line end.
* `CHeaders.Text.join`: texts with a separator between them.
* `CHeaders.Text.commas`: strings with commas between them.
* `CHeaders.Text.split`: the parts between separators.

## Main results

* `CHeaders.Letter.ofCode_code`: a letter is found under its code.
* `CHeaders.Text.string?_ofString`: a string that is taken for a text stays what it is.
* `CHeaders.Text.ofString_append`: strings may be joined before or after they are taken for texts.
* `CHeaders.Text.commas_cons_cons`: strings with commas between them, one string at a time.
-/

namespace CHeaders

/-- A letter of a text. -/
inductive Letter where
  | char (c : Char)
  /-- Half of a pair without its other half; the first halves come before the second ones. -/
  | half (n : Fin 0x800)
  deriving DecidableEq, Repr, Inhabited

namespace Letter

/-- The number of a letter. -/
def code : Letter → Nat
  | char c => c.toNat
  | half n => 0xD800 + n

/-- The letter with a number. -/
def ofCode (n : Nat) : Letter :=
  if h : 0xD800 ≤ n ∧ n < 0xE000 then half ⟨n - 0xD800, by omega⟩ else char (Char.ofNat n)

/-- The character that a letter is, if it is one. -/
def char? : Letter → Option Char
  | char c => some c
  | half _ => none

/-- Whether a letter is a character in a class. -/
def isIn (p : Char → Bool) : Letter → Bool
  | char c => p c
  | half _ => false

/-- Whether a letter is half of a pair. -/
def isHalf : Letter → Bool
  | char _ => false
  | half _ => true

/-- The character that is shown for a letter where only characters can be shown. -/
def shown : Letter → Char
  | char c => c
  | half _ => '\uFFFD'

/-- A letter is found under its code. -/
theorem ofCode_code (l : Letter) : ofCode l.code = l := by
  cases l with
  | char c =>
    have hc : c.toNat < 0xD800 ∨ (0xDFFF < c.toNat ∧ c.toNat < 0x110000) := c.valid
    have h : ¬(0xD800 ≤ c.toNat ∧ c.toNat < 0xE000) := by omega
    simp only [code, ofCode, dif_neg h, Char.ofNat_toNat]
  | half n =>
    have h : 0xD800 ≤ 0xD800 + n.val ∧ 0xD800 + n.val < 0xE000 := by omega
    simp only [code, ofCode, dif_pos h, Nat.add_sub_cancel_left]

end Letter

/-- A text: letters in order. -/
structure Text where
  letters : List Letter
  deriving DecidableEq, Repr, Inhabited

namespace Text

/-- The text of characters. -/
def ofChars (cs : List Char) : Text :=
  ⟨cs.map .char⟩

/-- The text that a string is. -/
def ofString (s : String) : Text :=
  ofChars s.toList

instance : Coe String Text where
  coe := ofString

instance : Append Text where
  append s t := ⟨s.letters ++ t.letters⟩

/-- Whether a text holds no letter. -/
def isEmpty (t : Text) : Bool :=
  t.letters.isEmpty

/-- The number of letters of a text. -/
def length (t : Text) : Nat :=
  t.letters.length

/-- The characters of a text that holds no halves. -/
def chars? (t : Text) : Option (List Char) :=
  t.letters.mapM Letter.char?

/-- The string that a text without halves is. -/
def string? (t : Text) : Option String :=
  t.chars?.map String.ofList

/-- A text as a string, in which a mark stands for each half. -/
def shown (t : Text) : String :=
  String.ofList (t.letters.map Letter.shown)

/-- Whether a text comes before another one: by the codes of the first letters that differ, else by
length. -/
def less (s t : Text) : Bool :=
  s.letters.lex t.letters fun a b => a.code < b.code

/-- The letters of a text that is put in front of another come first. -/
@[simp] theorem letters_append (s t : Text) : (s ++ t).letters = s.letters ++ t.letters := rfl

/-- Texts may be joined in any grouping. -/
theorem append_assoc (s t u : Text) : s ++ t ++ u = s ++ (t ++ u) := by
  simp only [HAppend.hAppend, Append.append, Text.mk.injEq]
  exact List.append_assoc ..

/-- Strings may be joined before or after they are taken for texts. -/
theorem ofString_append (s t : String) : ofString (s ++ t) = ofString s ++ ofString t := by
  simp only [ofString, ofChars, String.toList_append, List.map_append]
  rfl

/-- The characters of a text that is made of characters are these characters. -/
theorem chars?_ofChars (cs : List Char) : (ofChars cs).chars? = some cs := by
  induction cs with
  | nil => rfl
  | cons c cs ih => simp_all [ofChars, chars?, Letter.char?]

/-- A string that is taken for a text stays what it is. -/
theorem string?_ofString (s : String) : (ofString s).string? = some s := by
  simp only [string?, ofString, chars?_ofChars, Option.map_some, String.ofList_toList]

/-! ## Joining and splitting -/

/-- A carriage return, alone or before a line feed, becomes a line feed. -/
def unifyLineEndsIn : List Letter → List Letter
  | [] => []
  | .char '\r' :: .char '\n' :: rest => .char '\n' :: unifyLineEndsIn rest
  | .char '\r' :: rest => .char '\n' :: unifyLineEndsIn rest
  | l :: rest => l :: unifyLineEndsIn rest

/-- The text with a single line feed for each line end. -/
def unifyLineEnds (t : Text) : Text :=
  ⟨unifyLineEndsIn t.letters⟩

/-- The texts in order with `separator` between neighbours. -/
def join (separator : Text) : List Text → Text
  | [] => ""
  | [x] => x
  | x :: y :: rest => x ++ separator ++ join separator (y :: rest)

/-- The strings in order with a comma and a space between neighbours. -/
def commas : List String → String
  | [] => ""
  | x :: rest => rest.foldl (fun line y => line ++ ", " ++ y) x

/-- The parts of a list between the places where `c` stands. -/
def split {α : Type} [DecidableEq α] (c : α) : List α → List (List α)
  | [] => [[]]
  | d :: rest =>
    if d = c then [] :: split c rest
    else
      match split c rest with
      | part :: parts => (d :: part) :: parts
      | [] => [[d]]

/-- What stands in front of strings may be put there before the commas. -/
theorem foldl_append (front x : String) (xs : List String) :
    xs.foldl (fun line y => line ++ ", " ++ y) (front ++ x) =
      front ++ xs.foldl (fun line y => line ++ ", " ++ y) x := by
  induction xs generalizing x with
  | nil => rfl
  | cons y ys ih =>
    rw [List.foldl_cons, List.foldl_cons, ← ih]
    simp only [String.append_assoc]

/-- Of two strings or more the first one has a comma behind it. -/
theorem commas_cons_cons (x y : String) (xs : List String) :
    commas (x :: y :: xs) = x ++ ", " ++ commas (y :: xs) := by
  simp only [commas, List.foldl_cons, foldl_append]

end Text

end CHeaders
