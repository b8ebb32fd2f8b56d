import CHeaders.Proofs.Operation.Written
import CHeaders.Proofs.Text.Bracket

/-!
# Operations on balanced values

A value is balanced if all texts in it are. Every operation opens and closes brackets of its own in
pairs, around and between what it is given, and puts each of its arguments in whole or trimmed. So
what an operation writes for balanced values is balanced. A sequence among the terms of a sequence
is written as a literal, with its texts between quotes.

## Main definitions

* `CHeaders.Value.IsBalanced`: the values that terms stand for, with balanced texts in them.

## Main results

* `CHeaders.Value.IsBalanced.literal`, `CHeaders.Value.IsBalanced.display`: the forms of a balanced
  value are balanced.
* `CHeaders.Operation.isBalanced_run`: what an operation writes for balanced values is balanced.
-/

namespace CHeaders

open Text (isBalanced_comma isBalanced_space)

/-! ## Values -/

namespace Value

/-- The texts, numbers and sequences in which every text is balanced. -/
inductive IsBalanced : Value → Prop
  | text {t : Text} (h : t.IsBalanced) : IsBalanced (.text t)
  | fragment {t : Text} (h : t.IsBalanced) : IsBalanced (.fragment t)
  | int (n : Int) : IsBalanced (.int n)
  | sequence {vs : List Value} (h : ∀ v ∈ vs, IsBalanced v) : IsBalanced (ofList vs)

/-- The literal of a balanced value is balanced. -/
theorem IsBalanced.literal {v : Value} (h : v.IsBalanced) :
    (Text.ofString v.literal).IsBalanced := by
  induction h with
  | text h => exact Text.isBalanced_quoted h
  | @fragment t h =>
    change (Text.ofString ("Fragment(" ++ Text.quoted t ++ ")")).IsBalanced
    rw [Text.ofString_append, Text.ofString_append]
    exact (Text.isBalanced_quoted h).between [.char ')'] rfl rfl
  | int n => exact Text.isBalanced_ofInt n
  | @sequence vs h ih =>
    rcases vs with _ | ⟨v, vs⟩
    · rfl
    · rw [literal_chain_nil, Text.ofString_append, Text.ofString_append]
      have hlist := Text.isBalanced_commas (List.forall_mem_map.mpr ih)
      exact hlist.between [.char ')'] rfl rfl

/-- The text of a balanced value is balanced. -/
theorem IsBalanced.display {v : Value} (h : v.IsBalanced) : v.display.IsBalanced := by
  have hliteral := h.literal
  cases h with
  | text h => exact h
  | fragment h => exact h
  | int n => exact hliteral
  | @sequence vs h =>
    have hbare : (ofList vs).display = Text.ofString (ofList vs).literal := by
      rcases vs with _ | ⟨v, vs⟩ <;> rfl
    rw [hbare]
    exact hliteral

end Value

/-! ## Wrapped declarations -/

namespace Wrapper

/-- A balanced body is balanced between braces. -/
theorem isBalanced_inBraces {body : Text} (h : body.IsBalanced) : (inBraces body).IsBalanced :=
  h.between [.char '\x7d'] rfl rfl

/-- A balanced body behind a balanced front is balanced. -/
theorem isBalanced_wrap {operation : String} {keyword name body : Value} {front r : Text}
    (hhead : head operation keyword name = .ok front) (hfront : front.IsBalanced)
    (hbody : body.IsBalanced) (hr : wrap operation keyword name body = .ok r) : r.IsBalanced := by
  obtain ⟨-, front', hfront', rfl⟩ := exists_of_wrap hr
  obtain rfl := Except.ok.inj (hhead.symm.trans hfront')
  exact hfront.append (isBalanced_inBraces hbody.display)

/-- A keyword holds no brackets. -/
theorem isBalanced_keyword (keyword : Keyword) : (Text.ofString keyword.text).IsBalanced := by
  cases keyword <;> rfl

/-- A type with a tag is balanced. -/
theorem isBalanced_tagged {keyword : Keyword} {name body : Value} {r : Text}
    (hname : name.IsBalanced) (hbody : body.IsBalanced) (hr : tagged keyword name body = .ok r) :
    r.IsBalanced := by
  obtain ⟨-, -, rfl⟩ := eq_of_tagged hr
  have hfront := (isBalanced_keyword keyword).append isBalanced_space
  exact (hfront.append hname.display).append (isBalanced_inBraces hbody.display)

/-- A name for a type is balanced. -/
theorem isBalanced_typedef {name body : Value} {r : Text} (hname : name.IsBalanced)
    (hbody : body.IsBalanced) (hr : typedef name body = .ok r) : r.IsBalanced := by
  obtain ⟨-, -, rfl⟩ := eq_of_typedef hr
  have hkeyword : Text.IsBalanced "typedef " := rfl
  have hend : Text.IsBalanced ";" := rfl
  have hfront := (hkeyword.append hbody.display).append isBalanced_space
  exact (hfront.append hname.display).append hend

end Wrapper

/-! ## Indexed names -/

namespace Indexed

/-- The name for a place is balanced. -/
theorem isBalanced_name (i : Int) : (name (.int i)).IsBalanced := by
  have hmark : Text.IsBalanced "_" := rfl
  exact hmark.append (Text.isBalanced_ofInt i)

/-- The declarators of balanced terms are balanced. -/
theorem isBalanced_of_mem_declaratorsFrom {ending : Text} (hending : ending.IsBalanced)
    {vs : List Value} (h : ∀ v ∈ vs, v.IsBalanced) (i : Int) :
    ∀ t ∈ declaratorsFrom ending i vs, t.IsBalanced := by
  induction vs generalizing i with
  | nil => simp [declaratorsFrom]
  | cons v vs ih =>
    obtain ⟨hv, hvs⟩ := List.forall_mem_cons.mp h
    have hhead : (declarator ending v i).IsBalanced :=
      ((hv.display.append isBalanced_space).append (isBalanced_name i)).append hending
    exact List.forall_mem_cons.mpr ⟨hhead, ih hvs (i + 1)⟩

/-- Fields of balanced types are balanced. -/
theorem isBalanced_fields {types : Value} {r : Text} (h : types.IsBalanced)
    (hr : fields types = .ok r) : r.IsBalanced := by
  cases h with
  | text h | fragment h | int n => cases hr
  | sequence h =>
    rw [fields_ofList] at hr
    obtain rfl := Except.ok.inj (Fault.eq_ok_of_whenShown hr)
    have hending : Text.IsBalanced ";" := rfl
    exact isBalanced_space.join (isBalanced_of_mem_declaratorsFrom hending h 0)

/-- Parameters of balanced types are balanced. -/
theorem isBalanced_params {types : Value} {r : Text} (h : types.IsBalanced)
    (hr : params types = .ok r) : r.IsBalanced := by
  cases h with
  | text h | fragment h | int n => cases hr
  | sequence h =>
    rw [params_ofList] at hr
    obtain rfl := Except.ok.inj (Fault.eq_ok_of_whenShown hr)
    split
    · rfl
    · have hending : Text.IsBalanced "" := rfl
      have hlist := isBalanced_comma.join (isBalanced_of_mem_declaratorsFrom hending h 0)
      exact hlist.between [.char ')'] rfl rfl

/-- The first names are balanced. -/
theorem isBalanced_names (n : Nat) : (names n).IsBalanced :=
  isBalanced_comma.join (List.forall_mem_map.mpr fun k _ => isBalanced_name k)

/-- An initializer with names is balanced. -/
theorem isBalanced_initializerList {n : Value} {r : Text} (hr : initializerList n = .ok r) :
    r.IsBalanced := by
  obtain ⟨k, rfl⟩ := exists_of_initializerList hr
  refine Wrapper.isBalanced_inBraces ?_
  split
  · rfl
  · exact isBalanced_names k

/-- Names as arguments are balanced. -/
theorem isBalanced_args {n : Value} {r : Text} (hr : args n = .ok r) : r.IsBalanced := by
  obtain ⟨k, rfl⟩ := exists_of_args hr
  exact isBalanced_names k

end Indexed

/-! ## Statement chains -/

namespace Statement

/-- A text that was asked for is balanced if the value is. -/
theorem isBalanced_requireText {operation expected : String} {v : Value} {t : Text}
    (hv : v.IsBalanced) (ht : requireText operation expected v = .ok t) : t.IsBalanced := by
  obtain ⟨-, rfl⟩ := eq_of_requireText ht
  exact Text.isBalanced_trim.mpr hv.display

/-- A loop of balanced parts, between pragmas, is balanced. -/
theorem isBalanced_finish_once {start condition step : Text} (hstart : start.IsBalanced)
    (hcondition : condition.IsBalanced) (hstep : step.IsBalanced) :
    (finish (once start condition step) true).IsBalanced := by
  have hsep : Text.IsBalanced "; " := rfl
  have hparts : (start ++ "; " ++ condition ++ "; " ++ step).IsBalanced :=
    (((hstart.append hsep).append hcondition).append hsep).append hstep
  have honce : (once start condition step).IsBalanced := by
    have hassoc : once start condition step =
        "for (" ++ (start ++ "; " ++ condition ++ "; " ++ step) ++ ")" := by
      simp only [once, Text.append_assoc]
    rw [hassoc]
    exact hparts.between [.char ')'] rfl rfl
  have hpush : (pragma "push" ++ " " ++ pragma "ignored \\\"-Wshadow\\\"" ++ " ").IsBalanced := rfl
  have hpop : (pragma "pop").IsBalanced := rfl
  exact ((hpush.append honce).append isBalanced_space).append hpop

/-- Texts that were asked for are balanced if the values are. -/
theorem isBalanced_mapM_requireText {operation expected : String} {vs : List Value}
    {ts : List Text} (h : ∀ v ∈ vs, v.IsBalanced)
    (hts : vs.mapM (requireText operation expected) = .ok ts) : ∀ t ∈ ts, t.IsBalanced := by
  intro t ht
  obtain ⟨v, hv, hvt⟩ := exists_mem_of_mapM hts t ht
  exact isBalanced_requireText (h v hv) hvt

/-- An opening that introduces variables is balanced. -/
theorem isBalanced_introduceVars {vs : List Value} {r : Text} (h : ∀ v ∈ vs, v.IsBalanced)
    (hr : introduceVars vs true = .ok r) : r.IsBalanced := by
  obtain ⟨ts, hts, rfl⟩ := exists_of_introduceVars hr
  have hstar : Text.IsBalanced ", *" := rfl
  have hflag : (Text.ofString varsFlag).IsBalanced := rfl
  have hnull : Text.IsBalanced " = (void *)0" := rfl
  have hlist := isBalanced_comma.join (isBalanced_mapM_requireText h hts)
  exact isBalanced_finish_once (((hlist.append hstar).append hflag).append hnull) rfl rfl

/-- An opening that introduces a pointer is balanced. -/
theorem isBalanced_introduceNonNull {type name init : Value} {r : Text} (htype : type.IsBalanced)
    (hname : name.IsBalanced) (hinit : init.IsBalanced)
    (hr : introduceNonNull type name init true = .ok r) : r.IsBalanced := by
  obtain ⟨t, n, i, ht, hn, hi, rfl⟩ := exists_of_introduceNonNull hr
  have ht := isBalanced_requireText htype ht
  have hn := isBalanced_requireText hname hn
  have hi := isBalanced_requireText hinit hi
  have hstar : Text.IsBalanced " *" := rfl
  have hinit : (" = (" ++ i ++ ")" : Text).IsBalanced :=
    hi.between [.char ')'] rfl rfl
  have hstart : (t ++ " *" ++ n ++ " = (" ++ i ++ ")").IsBalanced := by
    have hassoc : t ++ " *" ++ n ++ " = (" ++ i ++ ")" =
        t ++ " *" ++ n ++ (" = (" ++ i ++ ")") := by
      simp only [Text.append_assoc]
    rw [hassoc]
    exact ((ht.append hstar).append hn).append hinit
  have hdiffers : Text.IsBalanced " != (void *)0" := rfl
  have hnull : Text.IsBalanced " = (void *)0" := rfl
  exact isBalanced_finish_once hstart (hn.append hdiffers) (hn.append hnull)

/-- An opening that evaluates an expression is balanced. -/
theorem isBalanced_chainExpr {expr : Value} {r : Text} (h : expr.IsBalanced)
    (hr : chainExpr expr true = .ok r) : r.IsBalanced := by
  obtain ⟨t, ht, rfl⟩ := exists_of_chainExpr hr
  have ht := isBalanced_requireText h ht
  refine isBalanced_finish_once ?_ rfl rfl
  exact ht.between [.char ')', .char ')'] rfl rfl

end Statement

/-! ## Operations -/

namespace Operation

/-- What an operation writes for balanced values is balanced.

**Proof sketch.** One case for each operation. What returns has checked its arguments, so the text
that it writes is known; the brackets in it that come from no argument close each other. -/
theorem isBalanced_run {op : Operation} {vs : List Value} {r : Text} (h : ∀ v ∈ vs, v.IsBalanced)
    (hr : op.run vs = .ok r) : r.IsBalanced := by
  have htakes := takes_of_run hr
  cases op with
  | braced =>
    obtain ⟨body, rfl⟩ := eq_singleton_of_takes rfl htakes
    have hfront : Text.IsBalanced "" := rfl
    exact Wrapper.isBalanced_wrap rfl hfront (h body (by simp)) hr
  | anonymous keyword =>
    obtain ⟨body, rfl⟩ := eq_singleton_of_takes rfl htakes
    have hfront := (Wrapper.isBalanced_keyword keyword).append isBalanced_space
    exact Wrapper.isBalanced_wrap rfl hfront (h body (by simp)) hr
  | typedef =>
    obtain ⟨name, body, rfl⟩ := eq_pair_of_takes rfl htakes
    exact Wrapper.isBalanced_typedef (h name (by simp)) (h body (by simp)) hr
  | tagged keyword =>
    obtain ⟨name, body, rfl⟩ := eq_pair_of_takes rfl htakes
    exact Wrapper.isBalanced_tagged (h name (by simp)) (h body (by simp)) hr
  | params =>
    obtain ⟨types, rfl⟩ := eq_singleton_of_takes rfl htakes
    exact Indexed.isBalanced_params (h types (by simp)) hr
  | fields =>
    obtain ⟨types, rfl⟩ := eq_singleton_of_takes rfl htakes
    exact Indexed.isBalanced_fields (h types (by simp)) hr
  | initializerList =>
    obtain ⟨n, rfl⟩ := eq_singleton_of_takes rfl htakes
    exact Indexed.isBalanced_initializerList hr
  | args =>
    obtain ⟨n, rfl⟩ := eq_singleton_of_takes rfl htakes
    exact Indexed.isBalanced_args hr
  | introduceVars =>
    obtain ⟨d, ds, rfl⟩ := eq_cons_of_takes rfl htakes
    exact Statement.isBalanced_introduceVars h hr
  | introduceNonNull =>
    obtain ⟨type, name, init, rfl⟩ := eq_triple_of_takes rfl htakes
    exact Statement.isBalanced_introduceNonNull (h type (by simp)) (h name (by simp))
      (h init (by simp)) hr
  | chainExpr =>
    obtain ⟨expr, rfl⟩ := eq_singleton_of_takes rfl htakes
    exact Statement.isBalanced_chainExpr (h expr (by simp)) hr

end Operation

end CHeaders
