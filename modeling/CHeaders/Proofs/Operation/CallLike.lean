import CHeaders.Proofs.Operation.Divergence

/-!
# Operations that write what looks like a call

The literal form of a call begins with `Call(`. Most operations write a text that begins otherwise.
Fields begin with the first type, which may be any text, also one that looks like a call.

## Main definitions

* `CHeaders.Operation.looksLikeCall`: whether letters begin like a call.

## Main results

* `CHeaders.Operation.not_looksLikeCall_run`: no other operation writes what looks like a call.
* `CHeaders.Operation.exists_ink_fields`: fields begin with the first type and the first name.
-/

namespace CHeaders.Operation

open Text (ink)

/-- An operation is found under its name only. -/
theorem name_of_find? {name : Text} {op : Operation} (h : find? name = some op) :
    name = Text.ofString op.name := by
  have hname := List.find?_some h
  exact (beq_iff_eq.mp hname).symm

/-- Whether ink begins like the literal form of a call. -/
def looksLikeCall (ls : List Letter) : Prop :=
  ls.head? = some (.char 'C')

/-- What begins with another letter does not look like a call. -/
theorem not_looksLikeCall {l : Letter} {ls : List Letter} (h : l ≠ .char 'C') :
    ¬looksLikeCall (l :: ls) :=
  fun hcall => h (Option.some.inj hcall)

/-! ## Wrapped declarations -/

/-- A body between bare braces does not look like a call. -/
theorem not_looksLikeCall_braced {body : Value} {r : Text} (h : Wrapper.braced body = .ok r) :
    ¬looksLikeCall (ink r) := by
  obtain ⟨-, front, hfront, hr⟩ := Wrapper.ink_wrap h
  obtain rfl := Except.ok.inj hfront
  rw [hr]
  exact not_looksLikeCall (by decide)

/-- A type without a tag does not look like a call. -/
theorem not_looksLikeCall_anonymous {keyword : Wrapper.Keyword} {body : Value} {r : Text}
    (h : Wrapper.anonymous keyword body = .ok r) : ¬looksLikeCall (ink r) := by
  obtain ⟨-, front, hfront, hr⟩ := Wrapper.ink_wrap h
  obtain rfl := Except.ok.inj hfront
  rw [hr]
  cases keyword <;> exact not_looksLikeCall (by decide)

/-- A name for a type does not look like a call. -/
theorem not_looksLikeCall_typedef {name body : Value} {r : Text}
    (h : Wrapper.typedef name body = .ok r) : ¬looksLikeCall (ink r) := by
  obtain ⟨-, -, hr⟩ := Wrapper.ink_typedef h
  rw [hr]
  exact not_looksLikeCall (by decide)

/-- A type with a tag does not look like a call. -/
theorem not_looksLikeCall_tagged {keyword : Wrapper.Keyword} {name body : Value} {r : Text}
    (h : Wrapper.tagged keyword name body = .ok r) : ¬looksLikeCall (ink r) := by
  obtain ⟨-, -, hr⟩ := Wrapper.ink_tagged h
  rw [hr]
  cases keyword <;> exact not_looksLikeCall (by decide)

/-! ## Indexed names -/

/-- Parameters do not look like a call. -/
theorem not_looksLikeCall_params {types : Value} {r : Text} (hgiven : IsGiven types)
    (h : Indexed.params types = .ok r) : ¬looksLikeCall (ink r) := by
  cases hgiven with
  | text s | fragment s | int n => cases h
  | sequence vs =>
    rw [Indexed.params_ofList] at h
    obtain rfl := Except.ok.inj (Fault.eq_ok_of_whenShown h)
    split
    · exact not_looksLikeCall (by decide)
    · rw [Text.ink_append, Text.ink_append]
      exact not_looksLikeCall (by decide)

/-- An initializer does not look like a call. -/
theorem not_looksLikeCall_initializerList {n : Value} {r : Text}
    (h : Indexed.initializerList n = .ok r) : ¬looksLikeCall (ink r) := by
  obtain ⟨k, rfl⟩ := Indexed.exists_of_initializerList h
  rw [Wrapper.inBraces, Text.ink_append, Text.ink_append]
  exact not_looksLikeCall (by decide)

/-- Names do not look like a call. -/
theorem not_looksLikeCall_args {n : Value} {r : Text} (h : Indexed.args n = .ok r) :
    ¬looksLikeCall (ink r) := by
  obtain ⟨_ | k, rfl⟩ := Indexed.exists_of_args h
  · exact fun hcall => by cases hcall
  · rw [Indexed.names, List.range_succ_eq_map, List.map_cons, Text.ink_join_cons]
    exact not_looksLikeCall (by decide)

/-- Fields begin with the first type, and the first name stands behind it. -/
theorem exists_ink_fields {w : Value} {ws : List Value} {r : Text}
    (h : Indexed.fields (Value.ofList (w :: ws)) = .ok r) :
    ∃ rest, ink r = w.ink ++ .char '_' :: .char '0' :: rest := by
  rw [Indexed.fields_ofList] at h
  obtain rfl := Except.ok.inj (Fault.eq_ok_of_whenShown h)
  rw [Indexed.declaratorsFrom, Text.ink_join_cons, Indexed.ink_declarator, List.append_assoc,
    List.append_assoc, List.append_assoc]
  exact ⟨_, rfl⟩

/-- Fields look like a call only if there is one. -/
theorem exists_of_looksLikeCall_fields {types : Value} {r : Text} (hgiven : IsGiven types)
    (h : Indexed.fields types = .ok r) (hcall : looksLikeCall (ink r)) :
    ∃ w ws, types = Value.ofList (w :: ws) := by
  cases hgiven with
  | text s | fragment s | int n => cases h
  | sequence vs =>
    rcases vs with _ | ⟨w, ws⟩
    · obtain rfl := Except.ok.inj h
      cases hcall
    · exact ⟨w, ws, rfl⟩

/-! ## Statements -/

/-- A loop between pragmas does not look like a call. -/
theorem not_looksLikeCall_finish (start condition step : Text) :
    ¬looksLikeCall (ink (Statement.finish (Statement.once start condition step) true)) := by
  simp only [Statement.finish, if_true, Statement.shadows, Statement.pragma, Text.append_assoc,
    Text.ink_append]
  exact not_looksLikeCall (by decide)

/-- Introduced variables do not look like a call. -/
theorem not_looksLikeCall_introduceVars {d : Value} {ds : List Value} {r : Text}
    (h : Statement.introduceVars (d :: ds) true = .ok r) : ¬looksLikeCall (ink r) := by
  obtain ⟨ts, -, rfl⟩ := Statement.exists_of_introduceVars h
  exact not_looksLikeCall_finish _ _ _

/-- An introduced pointer does not look like a call. -/
theorem not_looksLikeCall_introduceNonNull {type name init : Value} {r : Text}
    (h : Statement.introduceNonNull type name init true = .ok r) : ¬looksLikeCall (ink r) := by
  obtain ⟨t, n, i, -, -, -, rfl⟩ := Statement.exists_of_introduceNonNull h
  exact not_looksLikeCall_finish _ _ _

/-- An evaluated expression does not look like a call. -/
theorem not_looksLikeCall_chainExpr {expr : Value} {r : Text}
    (h : Statement.chainExpr expr true = .ok r) : ¬looksLikeCall (ink r) := by
  obtain ⟨t, -, rfl⟩ := Statement.exists_of_chainExpr h
  exact not_looksLikeCall_finish _ _ _

/-! ## Operations -/

/-- No operation but fields writes what looks like a call.

**Proof sketch.** One case for each operation. The number of values fixes the shape of the list, and
what the operation writes begins with another letter than a call. -/
theorem not_looksLikeCall_run {op : Operation} (hop : op ≠ fields) {vs : List Value} {r : Text}
    (hgiven : ∀ v ∈ vs, IsGiven v) (h : op.run vs = .ok r) : ¬looksLikeCall (ink r) := by
  have htakes := takes_of_run h
  cases op with
  | fields => exact absurd rfl hop
  | braced =>
    obtain ⟨body, rfl⟩ := eq_singleton_of_takes rfl htakes
    exact not_looksLikeCall_braced h
  | anonymous keyword =>
    obtain ⟨body, rfl⟩ := eq_singleton_of_takes rfl htakes
    exact not_looksLikeCall_anonymous h
  | typedef =>
    obtain ⟨name, body, rfl⟩ := eq_pair_of_takes rfl htakes
    exact not_looksLikeCall_typedef h
  | tagged keyword =>
    obtain ⟨name, body, rfl⟩ := eq_pair_of_takes rfl htakes
    exact not_looksLikeCall_tagged h
  | params =>
    obtain ⟨types, rfl⟩ := eq_singleton_of_takes rfl htakes
    exact not_looksLikeCall_params (hgiven types List.mem_cons_self) h
  | initializerList =>
    obtain ⟨n, rfl⟩ := eq_singleton_of_takes rfl htakes
    exact not_looksLikeCall_initializerList h
  | args =>
    obtain ⟨n, rfl⟩ := eq_singleton_of_takes rfl htakes
    exact not_looksLikeCall_args h
  | introduceVars =>
    obtain ⟨d, ds, rfl⟩ := eq_cons_of_takes rfl htakes
    exact not_looksLikeCall_introduceVars h
  | introduceNonNull =>
    obtain ⟨type, name, init, rfl⟩ := eq_triple_of_takes rfl htakes
    exact not_looksLikeCall_introduceNonNull h
  | chainExpr =>
    obtain ⟨expr, rfl⟩ := eq_singleton_of_takes rfl htakes
    exact not_looksLikeCall_chainExpr h

/-- What an operation writes looks like a call only if it writes fields. -/
theorem eq_fields_of_looksLikeCall {op : Operation} {vs : List Value} {r : Text}
    (hgiven : ∀ v ∈ vs, IsGiven v) (h : op.run vs = .ok r) (hcall : looksLikeCall (ink r)) :
    ∃ w ws, op = fields ∧ vs = [Value.ofList (w :: ws)] := by
  by_cases hop : op = fields
  · subst hop
    obtain ⟨types, rfl⟩ := eq_singleton_of_takes rfl (takes_of_run h)
    obtain ⟨w, ws, rfl⟩ := exists_of_looksLikeCall_fields (hgiven types List.mem_cons_self) h hcall
    exact ⟨w, ws, rfl, rfl⟩
  · exact absurd hcall (not_looksLikeCall_run hop hgiven h)

end CHeaders.Operation
