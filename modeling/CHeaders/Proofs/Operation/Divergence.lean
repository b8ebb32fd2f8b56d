import CHeaders.Proofs.Operation.Written
import CHeaders.Proofs.Value.Divergence

/-!
# Operations on values that look different

Every operation writes all that it is given. So if an operation returns for two lists of values that
are the same or diverge, one by one, and that are not the same, then what it returns is apart.

## Main definitions

* `CHeaders.Value.Alike`: values that are the same or diverge.

## Main results

* `CHeaders.Operation.apart_run`: what an operation writes for values that diverge is apart.
-/

namespace CHeaders

/-- The values are the same or diverge. -/
def Value.Alike (v w : Value) : Prop :=
  v = w ∨ Value.Diverges v w

open Value (Alike Differs Diverges)
open Text (ink)

/-- Values that are the same or diverge, but are not the same, diverge. -/
theorem Value.Alike.diverges {v w : Value} (h : Alike v w) (hne : v ≠ w) : Diverges v w :=
  h.resolve_left hne

/-- In front of the same or of what is apart, values that are no sequences leave the same or what is
apart. -/
theorem Value.Alike.apart_append {v w : Value} (h : Alike v w) (hv : v.isSequence = false)
    {back back' : List Letter} (hback : v = w → Apart back back') :
    Apart (v.ink ++ back) (w.ink ++ back') := by
  by_cases heq : v = w
  · subst heq
    exact Forks.append_left (hback rfl) _
  · exact ((h.diverges heq).apart hv).append _ _

/-! ## What operations write -/

namespace Wrapper

/-- The ink of a body between braces. -/
theorem ink_wrap {operation : String} {keyword name body : Value} {r : Text}
    (h : wrap operation keyword name body = .ok r) :
    body.isSequence = false ∧ ∃ front, head operation keyword name = .ok front ∧
      ink r = ink front ++ ink "\x7b" ++ (body.ink ++ ink "\x7d") := by
  obtain ⟨hbody, front, hfront, rfl⟩ := exists_of_wrap h
  refine ⟨hbody, front, hfront, ?_⟩
  simp only [inBraces, Text.ink_append, Value.ink, List.append_assoc]

/-- Bodies that diverge are apart between braces. -/
theorem apart_wrap {operation : String} {keyword name body body' : Value} {r s : Text}
    (h : Diverges body body') (hr : wrap operation keyword name body = .ok r)
    (hs : wrap operation keyword name body' = .ok s) : Apart (ink r) (ink s) := by
  obtain ⟨hbody, front, hfront, hr⟩ := ink_wrap hr
  obtain ⟨-, front', hfront', hs⟩ := ink_wrap hs
  obtain rfl := Except.ok.inj (hfront.symm.trans hfront')
  rw [hr, hs]
  exact Forks.append_left ((h.apart hbody).append _ _) _

/-- The ink of a type with a tag. -/
theorem ink_tagged {keyword : Keyword} {name body : Value} {r : Text}
    (h : tagged keyword name body = .ok r) :
    name.isSequence = false ∧ body.isSequence = false ∧
      ink r = ink (Text.ofString keyword.text) ++
        (name.ink ++ (ink "\x7b" ++ (body.ink ++ ink "\x7d"))) := by
  obtain ⟨hname, hbody, rfl⟩ := eq_of_tagged h
  refine ⟨hname, hbody, ?_⟩
  simp only [inBraces, Text.ink_append, Value.ink, List.append_assoc]
  rfl

/-- Types with a tag are apart if one of their parts diverges. -/
theorem apart_tagged {keyword : Keyword} {name name' body body' : Value} {r s : Text}
    (hname : Alike name name') (hbody : Alike body body') (hne : ¬(name = name' ∧ body = body'))
    (hr : tagged keyword name body = .ok r) (hs : tagged keyword name' body' = .ok s) :
    Apart (ink r) (ink s) := by
  obtain ⟨hn, hb, hr⟩ := ink_tagged hr
  obtain ⟨-, -, hs⟩ := ink_tagged hs
  rw [hr, hs]
  refine Forks.append_left (hname.apart_append hn fun hname => ?_) _
  refine Forks.append_left (hbody.apart_append hb fun hbody => ?_) _
  exact absurd ⟨hname, hbody⟩ hne

/-- The ink of a name for a type. -/
theorem ink_typedef {name body : Value} {r : Text} (h : typedef name body = .ok r) :
    name.isSequence = false ∧ body.isSequence = false ∧
      ink r = ink "typedef " ++ (body.ink ++ (name.ink ++ ink ";")) := by
  obtain ⟨hname, hbody, rfl⟩ := eq_of_typedef h
  refine ⟨hname, hbody, ?_⟩
  simp only [Text.ink_append, Value.ink, List.append_assoc]
  rfl

/-- Names for types are apart if one of their parts diverges. The type is written first. -/
theorem apart_typedef {name name' body body' : Value} {r s : Text} (hname : Alike name name')
    (hbody : Alike body body') (hne : ¬(name = name' ∧ body = body'))
    (hr : typedef name body = .ok r) (hs : typedef name' body' = .ok s) :
    Apart (ink r) (ink s) := by
  obtain ⟨hn, hb, hr⟩ := ink_typedef hr
  obtain ⟨-, -, hs⟩ := ink_typedef hs
  rw [hr, hs]
  refine Forks.append_left (hbody.apart_append hb fun hbody => ?_) _
  refine hname.apart_append hn fun hname => ?_
  exact absurd ⟨hname, hbody⟩ hne

end Wrapper

namespace Statement

/-- The ink of a text that was asked for. -/
theorem ink_requireText {operation expected : String} {v : Value} {t : Text}
    (h : requireText operation expected v = .ok t) : v.isSequence = false ∧ ink t = v.ink := by
  obtain ⟨hv, rfl⟩ := eq_of_requireText h
  exact ⟨hv, Text.ink_trim _⟩

/-- Values that diverge are apart when they are asked for as texts. -/
theorem apart_requireText {operation expected : String} {v w : Value} {t u : Text}
    (h : Diverges v w) (ht : requireText operation expected v = .ok t)
    (hu : requireText operation expected w = .ok u) : Apart (ink t) (ink u) := by
  obtain ⟨hv, ht⟩ := ink_requireText ht
  obtain ⟨-, hu⟩ := ink_requireText hu
  rw [ht, hu]
  exact h.apart hv

/-- A loop between pragmas begins the same way, whatever its start is. -/
theorem exists_finish_once : ∃ front : Text, ∀ start condition step, ∃ back,
    finish (once start condition step) true = front ++ (start ++ back) := by
  refine ⟨pragma "push" ++ " " ++ pragma "ignored \\\"-Wshadow\\\"" ++ " " ++ "for (", ?_⟩
  intro start condition step
  refine ⟨"; " ++ condition ++ "; " ++ step ++ ")" ++ " " ++ pragma "pop", ?_⟩
  simp only [finish, if_true, shadows, once, Text.append_assoc]

/-- Loops are apart if what they start with is. -/
theorem apart_finish_once {start start' : Text} (h : Apart (ink start) (ink start'))
    (condition condition' step step' : Text) :
    Apart (ink (finish (once start condition step) true))
      (ink (finish (once start' condition' step') true)) := by
  obtain ⟨front, hfront⟩ := exists_finish_once
  obtain ⟨back, hback⟩ := hfront start condition step
  obtain ⟨back', hback'⟩ := hfront start' condition' step'
  rw [hback, hback']
  simp only [Text.ink_append]
  exact Forks.append_left (h.append _ _) _

/-- Introduced variables that diverge are apart. -/
theorem apart_introduceVars {vs ws : List Value} {r s : Text} (h : Forks Diverges vs ws)
    (hr : introduceVars vs true = .ok r) (hs : introduceVars ws true = .ok s) :
    Apart (ink r) (ink s) := by
  obtain ⟨ts, hts, rfl⟩ := exists_of_introduceVars hr
  obtain ⟨us, hus, rfl⟩ := exists_of_introduceVars hs
  have htexts := Text.apart_join ", " (h.mapM
    (f := requireText "introduceVarToStmt" "a non-empty declaration")
    (fun _ _ _ _ => apart_requireText) hts hus)
  refine apart_finish_once ?_ _ _ _ _
  simp only [Text.append_assoc, Text.ink_append (Text.join _ _)]
  exact htexts.append _ _

/-- Introduced pointers are apart if one of their parts diverges. -/
theorem apart_introduceNonNull {type type' name name' init init' : Value} {r s : Text}
    (htype : Alike type type') (hname : Alike name name') (hinit : Alike init init')
    (hne : ¬(type = type' ∧ name = name' ∧ init = init'))
    (hr : introduceNonNull type name init true = .ok r)
    (hs : introduceNonNull type' name' init' true = .ok s) : Apart (ink r) (ink s) := by
  obtain ⟨t, n, i, ht, hn, hi, rfl⟩ := exists_of_introduceNonNull hr
  obtain ⟨t', n', i', ht', hn', hi', rfl⟩ := exists_of_introduceNonNull hs
  obtain ⟨ht, htink⟩ := ink_requireText ht
  obtain ⟨hn, hnink⟩ := ink_requireText hn
  obtain ⟨hi, hiink⟩ := ink_requireText hi
  obtain ⟨-, htink'⟩ := ink_requireText ht'
  obtain ⟨-, hnink'⟩ := ink_requireText hn'
  obtain ⟨-, hiink'⟩ := ink_requireText hi'
  refine apart_finish_once ?_ _ _ _ _
  simp only [Text.append_assoc, Text.ink_append, htink, hnink, hiink, htink', hnink', hiink']
  refine htype.apart_append ht fun htype => ?_
  refine Forks.append_left (hname.apart_append hn fun hname => ?_) _
  refine Forks.append_left (hinit.apart_append hi fun hinit => ?_) _
  exact absurd ⟨htype, hname, hinit⟩ hne

/-- Expressions that diverge are apart. -/
theorem apart_chainExpr {expr expr' : Value} {r s : Text} (h : Diverges expr expr')
    (hr : chainExpr expr true = .ok r) (hs : chainExpr expr' true = .ok s) :
    Apart (ink r) (ink s) := by
  obtain ⟨t, ht, rfl⟩ := exists_of_chainExpr hr
  obtain ⟨u, hu, rfl⟩ := exists_of_chainExpr hs
  refine apart_finish_once ?_ _ _ _ _
  simp only [Text.append_assoc, Text.ink_append]
  exact Forks.append_left (Forks.append_left
    (Forks.append_left ((apart_requireText h ht hu).append _ _) _) _) _

end Statement

namespace Indexed

/-- The ink of a declarator. -/
theorem ink_declarator (ending : Text) (v : Value) (i : Int) :
    ink (declarator ending v i) = v.ink ++ ([.char '_'] ++ (Value.int i).ink) ++ ink ending := by
  have hname : ink (name (.int i)) = [.char '_'] ++ (Value.int i).ink := by
    rw [name, Text.ink_append]
    rfl
  rw [declarator, Text.ink_append, Text.ink_append, Text.ink_append, hname]
  have hspace : ink (Text.ofString " ") = [] := rfl
  rw [hspace, List.append_nil]
  rfl

/-- Declarators fork where their terms differ. -/
theorem forks_declaratorsFrom (ending : Text) {vs ws : List Value} (h : Forks Differs vs ws)
    (i : Int) : Forks (fun t u => Apart (ink t) (ink u)) (declaratorsFrom ending i vs)
      (declaratorsFrom ending i ws) := by
  induction h generalizing i with
  | here h =>
    refine .here ?_
    rw [ink_declarator, ink_declarator]
    simp only [← List.append_assoc]
    exact Forks.append (Forks.append h.display _ _) _ _
  | there _ ih => exact .there (ih (i + 1))

/-- Fields are apart if their types diverge. -/
theorem apart_fields {types types' : Value} {r s : Text} (h : Diverges types types')
    (hr : fields types = .ok r) (hs : fields types' = .ok s) : Apart (ink r) (ink s) := by
  rcases h with ⟨-⟩ | ⟨h⟩
  · cases hr
  · rw [fields_ofList] at hr hs
    obtain rfl := Except.ok.inj (Fault.eq_ok_of_whenShown hr)
    obtain rfl := Except.ok.inj (Fault.eq_ok_of_whenShown hs)
    exact Text.apart_join _ (forks_declaratorsFrom ";" h 0)

/-- Parameters are apart if their types diverge. -/
theorem apart_params {types types' : Value} {r s : Text} (h : Diverges types types')
    (hr : params types = .ok r) (hs : params types' = .ok s) : Apart (ink r) (ink s) := by
  rcases h with ⟨-⟩ | @⟨vs, ws, h⟩
  · cases hr
  · rw [params_ofList] at hr hs
    obtain rfl := Except.ok.inj (Fault.eq_ok_of_whenShown hr)
    obtain rfl := Except.ok.inj (Fault.eq_ok_of_whenShown hs)
    have hjoin := Text.apart_join ", " (forks_declaratorsFrom "" h 0)
    have hempty : vs.isEmpty = false ∧ ws.isEmpty = false := by
      cases h <;> exact ⟨rfl, rfl⟩
    rw [hempty.1, hempty.2]
    simp only [Bool.false_eq_true, if_false, Text.ink_append, List.append_assoc]
    exact Forks.append_left (hjoin.append _ _) _

/-- What diverges counts nothing. -/
theorem count_of_diverges (operation : String) {v w : Value} (h : Diverges v w) :
    ∃ f, count operation v = .error f := by
  rcases h with ⟨-⟩ | @⟨vs, -, -⟩
  · exact ⟨_, rfl⟩
  · rcases vs with _ | ⟨v, vs⟩ <;> exact ⟨_, rfl⟩

/-- There are no names by a number that diverges. -/
theorem names_ne_ok_of_diverges {v w : Value} (h : Diverges v w) (r : Text) :
    initializerList v ≠ .ok r ∧ args v ≠ .ok r := by
  obtain ⟨f, hf⟩ := count_of_diverges "indexedInitializerList" h
  obtain ⟨g, hg⟩ := count_of_diverges "indexedArgs" h
  rw [initializerList, args, hf, hg]
  constructor
  · rintro ⟨⟩
  · rintro ⟨⟩

end Indexed

namespace Operation

/-- Values that are the same or diverge, but are not the same, diverge if there is only one. -/
theorem diverges_of_singleton {v w : Value} (h : Alike v w) (hne : [v] ≠ [w]) : Diverges v w :=
  h.diverges fun heq => hne (by rw [heq])

/-- What an operation writes for values that are the same or diverge, but are not the same, is
apart.

**Proof sketch.** Every operation writes the ink of its arguments between texts that do not depend
on them. So up to the first argument that diverges the same is written, and there it forks. -/
theorem apart_run {op : Operation} {vs ws : List Value} {r s : Text}
    (h : List.Forall₂ Alike vs ws) (hne : vs ≠ ws) (hr : op.run vs = .ok r)
    (hs : op.run ws = .ok s) : Apart (ink r) (ink s) := by
  have htakes := takes_of_run hr
  cases op with
  | braced | anonymous keyword =>
    obtain ⟨body, rfl⟩ := eq_singleton_of_takes rfl htakes
    rcases h with _ | ⟨hbody, _ | _⟩
    exact Wrapper.apart_wrap (diverges_of_singleton hbody hne) hr hs
  | typedef =>
    obtain ⟨name, body, rfl⟩ := eq_pair_of_takes rfl htakes
    rcases h with _ | ⟨hname, _ | ⟨hbody, _ | _⟩⟩
    refine Wrapper.apart_typedef hname hbody ?_ hr hs
    rintro ⟨rfl, rfl⟩
    exact hne rfl
  | tagged keyword =>
    obtain ⟨name, body, rfl⟩ := eq_pair_of_takes rfl htakes
    rcases h with _ | ⟨hname, _ | ⟨hbody, _ | _⟩⟩
    refine Wrapper.apart_tagged hname hbody ?_ hr hs
    rintro ⟨rfl, rfl⟩
    exact hne rfl
  | params =>
    obtain ⟨types, rfl⟩ := eq_singleton_of_takes rfl htakes
    rcases h with _ | ⟨htypes, _ | _⟩
    exact Indexed.apart_params (diverges_of_singleton htypes hne) hr hs
  | fields =>
    obtain ⟨types, rfl⟩ := eq_singleton_of_takes rfl htakes
    rcases h with _ | ⟨htypes, _ | _⟩
    exact Indexed.apart_fields (diverges_of_singleton htypes hne) hr hs
  | initializerList =>
    obtain ⟨n, rfl⟩ := eq_singleton_of_takes rfl htakes
    rcases h with _ | ⟨hn, _ | _⟩
    exact absurd hr (Indexed.names_ne_ok_of_diverges (diverges_of_singleton hn hne) r).1
  | args =>
    obtain ⟨n, rfl⟩ := eq_singleton_of_takes rfl htakes
    rcases h with _ | ⟨hn, _ | _⟩
    exact absurd hr (Indexed.names_ne_ok_of_diverges (diverges_of_singleton hn hne) r).2
  | introduceVars =>
    obtain ⟨d, ds, rfl⟩ := eq_cons_of_takes rfl htakes
    have hfork := (Forks.of_forall₂ h).resolve_left hne
    rcases h with _ | ⟨-, -⟩
    exact Statement.apart_introduceVars hfork hr hs
  | introduceNonNull =>
    obtain ⟨type, name, init, rfl⟩ := eq_triple_of_takes rfl htakes
    rcases h with _ | ⟨htype, _ | ⟨hname, _ | ⟨hinit, _ | _⟩⟩⟩
    refine Statement.apart_introduceNonNull htype hname hinit ?_ hr hs
    rintro ⟨rfl, rfl, rfl⟩
    exact hne rfl
  | chainExpr =>
    obtain ⟨expr, rfl⟩ := eq_singleton_of_takes rfl htakes
    rcases h with _ | ⟨hexpr, _ | _⟩
    exact Statement.apart_chainExpr (diverges_of_singleton hexpr hne) hr hs

end Operation

end CHeaders
