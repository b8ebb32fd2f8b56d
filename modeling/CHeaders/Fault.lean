import CHeaders.Text.Encoding
import CHeaders.Value.Cycle
import CHeaders.Value.Render
import CHeaders.Value.Writable

/-!
# Faults

A generator either returns its text in full or fails with one fault. The faults of the library's
own are *refusals*: an operation names what it wanted and what it was given. The other faults
arise where a value is used as something that it is not.

## Main definitions

* `CHeaders.Refusal`: the kinds of refusal, ordered by `CHeaders.Refusal.lineage`.
* `CHeaders.Fault`: all faults.
* `CHeaders.Fault.message`: the wording of a fault.
* `CHeaders.Fault.isRefusal`: whether a fault is a refusal.
* `CHeaders.Fault.refusal`: the fault of an operation that refuses a value, which it has to show.
* `CHeaders.Fault.whenShown`: a result whose making shows values.
* `CHeaders.Value.written`: the text of a value that has to be shown.
-/

namespace CHeaders

/-- Why an operation refuses its input. -/
inductive Refusal where
  /-- For any reason; every other kind is a case of this one. -/
  | generation
  /-- Too few or too many arguments, or a missing handler. -/
  | arity
  /-- An argument of the wrong shape. -/
  | typeMismatch
  /-- A cell whose tail is no sequence. -/
  | malformedSequence
  /-- A value that had to be there and is not. -/
  | nullPointer
  /-- A malformed declaration plan. -/
  | plan
  deriving DecidableEq, Repr

namespace Refusal

/-- A kind and the kinds of which it is a case, the nearest first. -/
def lineage : Refusal → List Refusal
  | generation => [generation]
  | nullPointer => [nullPointer, typeMismatch, generation]
  | k => [k, generation]

/-- The wording of a refusal. -/
def wording (operation expected given : String) : String :=
  operation ++ ": expected " ++ expected ++ ", given " ++ given

/-- The text of a refusal with a message of its own, which counts when it is not empty. -/
def text (operation expected given message : Value) : Text :=
  if message.isTrue then message.display
  else operation.display ++ ": expected " ++ expected.display ++ ", given " ++ given.literal

end Refusal

/-- What can go wrong. -/
inductive Fault where
  /-- An operation refuses its input. -/
  | refused (kind : Refusal) (operation expected : String) (given : Value)
  /-- A guard of the given family is entered a second time. -/
  | reused (family : String)
  /-- A name is given to a value that an operation has another use for. -/
  | nameTaken (operation name : String)
  /-- A value of the given kind cannot be gone through. -/
  | notIterable (kind : String)
  /-- The piece at an index is no text. -/
  | notText (index : Nat) (kind : String)
  /-- The piece at an index is no string of bytes. -/
  | notByteString (index : Nat) (kind : String)
  /-- A value of the second kind cannot be put behind one of the first. -/
  | notAppendable (kind other : String)
  /-- A value of the kind cannot be put behind a string of bytes. -/
  | notAppendableToBytes (kind : String)
  /-- Two kinds of values have no sum. -/
  | noSum (kind other : String)
  /-- Two kinds of values have no product. -/
  | noProduct (kind other : String)
  /-- A list cannot be repeated by a value of the kind. -/
  | notCount (kind : String)
  /-- Values of the kind lack an attribute. -/
  | noAttribute (kind name : String)
  /-- A value of the kind cannot be the name of an attribute. -/
  | notName (kind : String)
  /-- Text is given where bytes are wanted. -/
  | notBytes
  /-- A string of bytes is asked whether it begins with a text. -/
  | notByteBeginning
  /-- A value of the kind is given where a whole number is wanted. -/
  | notWholeNumber (kind : String)
  /-- A whole number is too large for any real. -/
  | tooLargeForReal
  /-- A whole number is too large for the length of a list. -/
  | tooLargeForLength
  /-- A whole number is too large for a place in a list. -/
  | tooLargeForPlace
  /-- A whole number is too large for the code of a letter to be looked for. -/
  | tooLargeForLetter
  /-- A whole number is the code of no letter. -/
  | noLetter
  /-- A list is too long to be made. -/
  | tooLong
  /-- A whole number has more digits than are read, or than are written if their number is not
  known. -/
  | tooManyDigits (count : Option Nat)
  /-- A value of the kind cannot be called. -/
  | notCallable (kind : String)
  /-- A value of the kind cannot be looked up. -/
  | unhashable (kind : String)
  /-- Two kinds of values have no order. -/
  | unordered (kind other : String)
  /-- A day and an instant have no order. -/
  | dayAgainstInstant
  /-- Two instants have no order because the offset is known of one of them only. -/
  | unknownOffset
  /-- A value of the kind has no JSON form. -/
  | notJson (kind : String)
  /-- A value of the kind cannot be a JSON key. -/
  | notJsonKey (kind : String)
  /-- A value that holds itself has no JSON form. -/
  | circular
  /-- A value of the kind is given where a JSON text is wanted. -/
  | notJsonText (kind : String)
  /-- The value has no YAML form. -/
  | notYaml (value : Value)
  /-- Bytes are no text. -/
  | notDecodable (fault : Text.Encoding.Fault)
  /-- A text has no bytes. -/
  | notEncodable (gap : Text.Utf8.Gap)
  /-- A day or an instant does not exist. -/
  | notMoment (fault : Moment.Fault)
  /-- Digits do not make a whole number in the base. -/
  | notNumeral (base : Nat) (text : Text)
  /-- A text does not make a real. -/
  | notReal (text : Text)
  /-- A text has no character at an index. -/
  | noCharacter
  /-- A text has not the form that is taken apart. -/
  | noGroups
  /-- A value of the kind is given where a text is to be taken apart. -/
  | notSubject (kind : String)
  /-- Something that was called fails with a text. -/
  | raised (text : String)
  /-- A key is missing. -/
  | missingKey (key : Value)
  /-- The last item of an empty list is asked for. -/
  | emptyPop
  /-- An item beyond the end of a list is asked for. -/
  | popRange
  /-- A method is left open. -/
  | unimplemented
  /-- A text names no level. -/
  | unknownLevel (name : String)
  /-- A value is neither a number nor the name of a level. -/
  | notLevel (shown : String)
  /-- A record is given a level that is no whole number. -/
  | notLevelNumber
  deriving Inhabited

namespace Fault

/-- The wording of a fault. -/
def message : Fault → String
  | refused _ operation expected given => Refusal.wording operation expected given.literal
  | reused family => family ++ " governs exactly one block and was already entered"
  | nameTaken operation name =>
    operation ++ "() got multiple values for argument '" ++ name ++ "'"
  | notIterable kind => "'" ++ kind ++ "' object is not iterable"
  | notText index kind =>
    "sequence item " ++ Decimal.ofNat index ++ ": expected str instance, " ++ kind ++ " found"
  | notByteString index kind =>
    "sequence item " ++ Decimal.ofNat index ++ ": expected a bytes-like object, " ++ kind ++
      " found"
  | notAppendableToBytes kind => "can't concat " ++ kind ++ " to bytes"
  | notAppendable kind other =>
    "can only concatenate " ++ kind ++ " (not \"" ++ other ++ "\") to " ++ kind
  | noSum kind other => "unsupported operand type(s) for +: '" ++ kind ++ "' and '" ++ other ++ "'"
  | noProduct kind other =>
    "unsupported operand type(s) for *: '" ++ kind ++ "' and '" ++ other ++ "'"
  | notCount kind => "can't multiply sequence by non-int of type '" ++ kind ++ "'"
  | noAttribute kind name => "'" ++ kind ++ "' object has no attribute '" ++ name ++ "'"
  | notName kind => "attribute name must be string, not '" ++ kind ++ "'"
  | notBytes => "a bytes-like object is required, not 'str'"
  | notByteBeginning => "startswith first arg must be bytes or a tuple of bytes, not str"
  | notWholeNumber kind => "'" ++ kind ++ "' object cannot be interpreted as an integer"
  | tooLargeForReal => "int too large to convert to float"
  | tooLargeForLength => "cannot fit 'int' into an index-sized integer"
  | tooLargeForPlace => "Python int too large to convert to C ssize_t"
  | tooLargeForLetter => "Python int too large to convert to C int"
  | noLetter => "chr() arg not in range(0x110000)"
  | tooLong => ""
  | tooManyDigits count =>
    "Exceeds the limit (" ++ Decimal.ofNat Decimal.mostDigits ++
      " digits) for integer string conversion" ++
      (count.elim "" fun n => ": value has " ++ Decimal.ofNat n ++ " digits") ++
      "; use sys.set_int_max_str_digits() to increase the limit"
  | notCallable kind => "'" ++ kind ++ "' object is not callable"
  | unhashable kind => "unhashable type: '" ++ kind ++ "'"
  | unordered kind other =>
    "'<' not supported between instances of '" ++ kind ++ "' and '" ++ other ++ "'"
  | dayAgainstInstant => "can't compare datetime.datetime to datetime.date"
  | unknownOffset => "can't compare offset-naive and offset-aware datetimes"
  | notJson kind => "Object of type " ++ kind ++ " is not JSON serializable"
  | notJsonKey kind => "keys must be str, int, float, bool or None, not " ++ kind
  | circular => "Circular reference detected"
  | notJsonText kind => "the JSON object must be str, bytes or bytearray, not " ++ kind
  | notYaml value => "('cannot represent an object', " ++ value.literal ++ ")"
  | notDecodable fault => fault.message
  | notEncodable gap => gap.message
  | notMoment fault => fault.message
  | notNumeral base text =>
    "invalid literal for int() with base " ++ Decimal.ofNat base ++ ": " ++
      String.ofList ((Text.quotedChars text).take 200)
  | notReal text => "could not convert string to float: " ++ Text.quoted text
  | noCharacter => "string index out of range"
  | noGroups => "'NoneType' object has no attribute 'groupdict'"
  | notSubject kind => "expected string or bytes-like object, got '" ++ kind ++ "'"
  | raised text => text
  | missingKey key => key.literal
  | emptyPop => "pop from empty list"
  | popRange => "pop index out of range"
  | unimplemented => ""
  | unknownLevel name => "Unknown level: " ++ Text.quoted name
  | notLevel shown => "Level not an integer or a valid string: " ++ shown
  | notLevelNumber => "level must be an integer"

/-- Whether an operation of the library refuses its input. -/
def isRefusal : Fault → Bool
  | refused .. => true
  | _ => false

/-- The fault of an operation that refuses what it is given: the refusal, or, as it shows what was
given, that of a number in it which is not writable. -/
def refusal (kind : Refusal) (operation expected : String) (given : Value) : Fault :=
  if given.isWritable then refused kind operation expected given else tooManyDigits none

/-- The fault that comes of wording a fault. -/
def worded : Fault → Fault
  | refused kind operation expected given => refusal kind operation expected given
  | f => f

/-- The fault if the value that a refusal shows is a part of `whole`. -/
def within (whole : Value) : Fault → Fault
  | refused kind operation expected given => refused kind operation expected (given.within whole)
  | f => f

/-- A result for which values are shown: on the way to it, or by the refusal that it is. -/
def whenShown {α : Type} (values : List Value) : Except Fault α → Except Fault α
  | .ok a => if values.all Value.isWritable then .ok a else .error (tooManyDigits none)
  | .error f => .error f.worded

/-- Nothing changes for a result if the values can be written. -/
theorem whenShown_ok {α : Type} {values : List Value} (h : values.all Value.isWritable = true)
    (a : α) : whenShown values (.ok a) = .ok a := by
  simp only [whenShown, h, if_true]

/-- What is returned after values are shown is what there was to return. -/
theorem eq_ok_of_whenShown {α : Type} {values : List Value} {x : Except Fault α} {a : α}
    (h : whenShown values x = .ok a) : x = .ok a := by
  cases x with
  | ok b =>
    rw [whenShown] at h
    split at h
    · exact h
    · cases h
  | error f => cases h

/-- What is returned does not depend on what a refusal would show. -/
theorem whenShown_nil_eq_ok_iff {α : Type} {x : Except Fault α} {a : α} :
    whenShown [] x = .ok a ↔ x = .ok a := by
  refine ⟨eq_ok_of_whenShown, ?_⟩
  rintro rfl
  exact whenShown_ok rfl a

/-- What is made of a result is shown as the result is. -/
theorem whenShown_bind {α β : Type} (values : List Value) (a : α) (g : α → β) :
    (whenShown values (.ok a) >>= fun x => .ok (g x)) = whenShown values (.ok (g a)) := by
  simp only [whenShown]
  split <;> rfl

/-- A value that can be written is refused. -/
theorem refusal_of_isWritable {given : Value} (h : given.isWritable = true) (kind : Refusal)
    (operation expected : String) :
    refusal kind operation expected given = refused kind operation expected given :=
  if_pos h

/-- A value that cannot be written cannot be shown by a refusal either. -/
theorem refusal_of_not_isWritable {given : Value} (h : given.isWritable = false) (kind : Refusal)
    (operation expected : String) :
    refusal kind operation expected given = tooManyDigits none :=
  if_neg (by simp [h])

end Fault

/-- The text of a value in which no number has too many digits. -/
def Value.written (v : Value) : Except Fault Text :=
  Fault.whenShown [v] (.ok v.display)

/-- The text of a value that can be written. -/
theorem Value.written_of_isWritable {v : Value} (h : v.isWritable = true) :
    v.written = .ok v.display :=
  Fault.whenShown_ok (by simp [h]) _

/-- What is written for a value is its text. -/
theorem Value.display_of_written {v : Value} {t : Text} (h : v.written = .ok t) : v.display = t :=
  Except.ok.inj (Fault.eq_ok_of_whenShown h)

end CHeaders
