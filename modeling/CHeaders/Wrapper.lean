import CHeaders.Fault
import CHeaders.Text.Class

/-!
# Wrapped declarations

A declaration puts a body between braces, after a keyword and a tag, or makes it the target of a
`typedef`. The body is taken as it is; only a sequence is refused, because a sequence is a list of
terms that has not become text yet.

## Main definitions

* `CHeaders.Wrapper.wrap`: a body between braces after an optional keyword and tag.
* `CHeaders.Wrapper.typedef`, `CHeaders.Wrapper.tagged`, `CHeaders.Wrapper.anonymous`,
  `CHeaders.Wrapper.braced`: the declarations in use.

## Main results

* `CHeaders.Wrapper.wrap_eq`: what is written when nothing is refused.
-/

namespace CHeaders.Wrapper

/-- A tag that is a text with something in it. -/
def checkName (operation : String) (name : Value) : Except Fault Value :=
  match name.text? with
  | some s =>
    if Text.isInhabited s then .ok name
    else .error (.refusal .typeMismatch operation "a non-empty name string" name)
  | none => .error (.refusal .typeMismatch operation "a non-empty name string" name)

/-- A body that is not a sequence. -/
def checkBody (operation : String) (body : Value) : Except Fault Value :=
  if body.isSequence then
    .error (.refusal .typeMismatch operation "a declaration body fragment, not a Sequence" body)
  else .ok body

/-- The text in front of the opening brace. A tag without a keyword is refused. -/
def head (operation : String) (keyword name : Value) : Except Fault Text :=
  match keyword, name with
  | .none, .none => .ok ""
  | .none, _ => .error (.refusal .typeMismatch operation "no name for a bare braced body" name)
  | _, .none => do return (← keyword.written) ++ " "
  | _, _ => do return (← keyword.written) ++ " " ++ (← name.written)

/-- A body between braces. -/
def inBraces (body : Text) : Text :=
  "\x7b" ++ body ++ "\x7d"

/-- A body between braces, after the keyword and the tag if there are any. -/
def wrap (operation : String) (keyword name body : Value) : Except Fault Text := do
  let body ← checkBody operation body
  let front ← head operation keyword name
  return front ++ inBraces (← body.written)

/-- A body between bare braces. -/
def braced (body : Value) : Except Fault Text :=
  wrap "braced" .none .none body

/-- A type name for a body. -/
def typedef (name body : Value) : Except Fault Text := do
  let name ← checkName "typedef" name
  let body ← checkBody "typedef" body
  return "typedef " ++ (← body.written) ++ " " ++ name.display ++ ";"

/-- The kinds of type that have a tag and a braced body. -/
inductive Keyword where
  | struct
  | union
  | enumeration
  deriving DecidableEq, Repr

/-- The keyword as it is written. -/
def Keyword.text : Keyword → String
  | .struct => "struct"
  | .union => "union"
  | .enumeration => "enum"

/-- The name of the operation that writes the keyword without a tag. -/
def Keyword.anonymousOperation : Keyword → String
  | .struct => "anonStruct"
  | .union => "anonUnion"
  | .enumeration => "anonEnum"

/-- A type with a tag. -/
def tagged (keyword : Keyword) (name body : Value) : Except Fault Text := do
  let name ← checkName keyword.text name
  wrap keyword.text (.text keyword.text) name body

/-- A type without a tag. -/
def anonymous (keyword : Keyword) (body : Value) : Except Fault Text :=
  wrap keyword.anonymousOperation (.text keyword.text) .none body

/-- What is written when the body is no sequence and the front is accepted: the body is shown. -/
theorem wrap_eq {operation : String} {front : Text} {keyword name body : Value}
    (hbody : body.isSequence = false) (hhead : head operation keyword name = .ok front) :
    wrap operation keyword name body =
      Fault.whenShown [body] (.ok (front ++ inBraces body.display)) := by
  have hcheck : checkBody operation body = .ok body := by simp [checkBody, hbody]
  rw [wrap, hcheck]
  change (head operation keyword name >>= fun front => body.written >>= fun text =>
    .ok (front ++ inBraces text)) = _
  rw [hhead]
  exact Fault.whenShown_bind [body] body.display fun text => front ++ inBraces text

/-- A sequence is never a body. -/
theorem wrap_of_isSequence {operation : String} {keyword name body : Value}
    (h : body.isSequence = true) :
    wrap operation keyword name body = .error
      (.refusal .typeMismatch operation "a declaration body fragment, not a Sequence" body) := by
  simp [wrap, checkBody, h, bind, Except.bind]

end CHeaders.Wrapper
