import CHeaders.Proofs.Operation

/-!
# What operations write

An operation checks what it is given before it writes anything. So if it returns, then its text is
known: it is made of the texts of the arguments and of letters that do not depend on them.

## Main results

* `CHeaders.Wrapper.exists_of_wrap`, `CHeaders.Wrapper.eq_of_tagged`,
  `CHeaders.Wrapper.eq_of_typedef`: the texts of wrapped declarations.
* `CHeaders.Indexed.exists_of_initializerList`, `CHeaders.Indexed.exists_of_args`: the texts of
  lists of names.
* `CHeaders.Statement.exists_of_introduceVars`, `CHeaders.Statement.exists_of_introduceNonNull`,
  `CHeaders.Statement.exists_of_chainExpr`: the texts of openings.
-/

namespace CHeaders

/-! ## Wrapped declarations -/

namespace Wrapper

/-- A body that passed the check is no sequence. -/
theorem eq_of_checkBody {operation : String} {body v : Value}
    (h : checkBody operation body = .ok v) : v = body ∧ body.isSequence = false := by
  unfold checkBody at h
  split at h
  · cases h
  · next hsequence => exact ⟨(Except.ok.inj h).symm, by simpa using hsequence⟩

/-- A name that passed the check is a text with something in it. -/
theorem eq_of_checkName {operation : String} {name v : Value}
    (h : checkName operation name = .ok v) :
    v = name ∧ Operation.isInhabitedText name = true := by
  rw [Operation.checkName_eq] at h
  split at h
  · next htext => exact ⟨(Except.ok.inj h).symm, htext⟩
  · cases h

/-- A text with something in it is no sequence. -/
theorem isSequence_of_isInhabitedText {v : Value} (h : Operation.isInhabitedText v = true) :
    v.isSequence = false := by
  cases v <;> first | rfl | simp [Operation.isInhabitedText, Value.text?] at h

/-- What is written for a body behind a front. -/
theorem exists_of_wrap {operation : String} {keyword name body : Value} {r : Text}
    (h : wrap operation keyword name body = .ok r) :
    body.isSequence = false ∧ ∃ front, head operation keyword name = .ok front ∧
      front ++ inBraces body.display = r := by
  rw [wrap, bind_eq_ok_iff] at h
  obtain ⟨body', hbody, h⟩ := h
  obtain ⟨rfl, hsequence⟩ := eq_of_checkBody hbody
  rw [bind_eq_ok_iff] at h
  obtain ⟨front, hfront, h⟩ := h
  rw [bind_eq_ok_iff] at h
  obtain ⟨text, htext, h⟩ := h
  obtain rfl := Value.display_of_written htext
  exact ⟨hsequence, front, hfront, Except.ok.inj h⟩

/-- What is written for a type with a tag. -/
theorem eq_of_tagged {keyword : Keyword} {name body : Value} {r : Text}
    (h : tagged keyword name body = .ok r) :
    name.isSequence = false ∧ body.isSequence = false ∧
      keyword.text ++ " " ++ name.display ++ inBraces body.display = r := by
  rw [tagged, bind_eq_ok_iff] at h
  obtain ⟨name', hname, h⟩ := h
  obtain ⟨rfl, htext⟩ := eq_of_checkName hname
  obtain ⟨hbody, front, hfront, rfl⟩ := exists_of_wrap h
  obtain rfl := Except.ok.inj ((Operation.head_tagged keyword htext).symm.trans hfront)
  exact ⟨isSequence_of_isInhabitedText htext, hbody, rfl⟩

/-- What is written for a name of a type. -/
theorem eq_of_typedef {name body : Value} {r : Text} (h : typedef name body = .ok r) :
    name.isSequence = false ∧ body.isSequence = false ∧
      "typedef " ++ body.display ++ " " ++ name.display ++ ";" = r := by
  rw [typedef, bind_eq_ok_iff] at h
  obtain ⟨name', hname, h⟩ := h
  obtain ⟨rfl, htext⟩ := eq_of_checkName hname
  rw [bind_eq_ok_iff] at h
  obtain ⟨body', hbody, h⟩ := h
  obtain ⟨rfl, hsequence⟩ := eq_of_checkBody hbody
  rw [bind_eq_ok_iff] at h
  obtain ⟨text, hwritten, h⟩ := h
  obtain rfl := Value.display_of_written hwritten
  exact ⟨isSequence_of_isInhabitedText htext, hsequence, Except.ok.inj h⟩

end Wrapper

/-! ## Lists of names -/

namespace Indexed

/-- What is written for an initializer. -/
theorem exists_of_initializerList {n : Value} {r : Text} (h : initializerList n = .ok r) :
    ∃ k : Nat, Wrapper.inBraces (if k = 0 then "0" else names k) = r := by
  rw [initializerList, bind_eq_ok_iff] at h
  obtain ⟨k, -, h⟩ := h
  exact ⟨k, Except.ok.inj h⟩

/-- What is written for names as arguments. -/
theorem exists_of_args {n : Value} {r : Text} (h : args n = .ok r) : ∃ k : Nat, names k = r := by
  rw [args, map_eq_ok_iff] at h
  obtain ⟨k, -, h⟩ := h
  exact ⟨k, h⟩

end Indexed

/-! ## Openings -/

namespace Statement

/-- A text that was asked for is the text of the value without the white space around it. -/
theorem eq_of_requireText {operation expected : String} {v : Value} {t : Text}
    (h : requireText operation expected v = .ok t) :
    v.isSequence = false ∧ Text.trim v.display = t := by
  rw [Operation.requireText_eq] at h
  split at h
  · next htext => exact ⟨Wrapper.isSequence_of_isInhabitedText htext, Except.ok.inj h⟩
  · cases h

/-- A text is asked for, and it has to have something in it. -/
theorem exists_text_of_requireText {operation expected : String} {v : Value} {t : Text}
    (h : requireText operation expected v = .ok t) :
    ∃ s, v.text? = some s ∧ Text.isInhabited s = true ∧ Text.trim s = t := by
  unfold requireText at h
  split at h
  · next s htext =>
    split at h
    · next hinhabited => exact ⟨s, htext, hinhabited, Except.ok.inj h⟩
    · cases h
  · cases h

/-- What is written for introduced variables. -/
theorem exists_of_introduceVars {vs : List Value} {suppressShadow : Bool} {r : Text}
    (h : introduceVars vs suppressShadow = .ok r) :
    ∃ ts, vs.mapM (requireText "introduceVarToStmt" "a non-empty declaration") = .ok ts ∧
      finish (varsLoop ts) suppressShadow = r := by
  rcases vs with _ | ⟨v, vs⟩
  · cases h
  · change (List.mapM (requireText "introduceVarToStmt" "a non-empty declaration") (v :: vs) >>=
      fun ts => Except.ok (finish (varsLoop ts) suppressShadow)) = Except.ok r at h
    rw [bind_eq_ok_iff] at h
    obtain ⟨ts, hts, h⟩ := h
    exact ⟨ts, hts, Except.ok.inj h⟩

/-- What is written for an introduced pointer. -/
theorem exists_of_introduceNonNull {type name init : Value} {suppressShadow : Bool} {r : Text}
    (h : introduceNonNull type name init suppressShadow = .ok r) :
    ∃ t n i : Text,
      requireText "introduceNonNullPtrToStmt" "a pointee type" type = .ok t ∧
      requireText "introduceNonNullPtrToStmt" "a pointer name" name = .ok n ∧
      requireText "introduceNonNullPtrToStmt" "an initializer" init = .ok i ∧
      finish (pointerLoop t n i) suppressShadow = r := by
  rw [introduceNonNull, bind_eq_ok_iff] at h
  obtain ⟨t, ht, h⟩ := h
  rw [bind_eq_ok_iff] at h
  obtain ⟨n, hn, h⟩ := h
  rw [bind_eq_ok_iff] at h
  obtain ⟨i, hi, h⟩ := h
  exact ⟨t, n, i, ht, hn, hi, Except.ok.inj h⟩

/-- What is written for an evaluated expression. -/
theorem exists_of_chainExpr {expr : Value} {suppressShadow : Bool} {r : Text}
    (h : chainExpr expr suppressShadow = .ok r) :
    ∃ t, requireText "chainExprStmt" "an expression" expr = .ok t ∧
      finish (exprLoop t) suppressShadow = r := by
  rw [chainExpr, bind_eq_ok_iff] at h
  obtain ⟨t, ht, h⟩ := h
  exact ⟨t, ht, Except.ok.inj h⟩

end Statement

end CHeaders
