import CHeaders.Proofs.Text.Quoted
import CHeaders.Value.Render

/-!
# Values that look different

Inside generated text a value is displayed, and inside other values it is shown in its literal form.
Two values *differ* if both forms tell them apart, whatever stands behind them. The displayed forms
may need the underscore with which the name behind them begins: of a call and the text that it
stands for, one may begin with the other, but only if that text is empty. Generated texts that are
apart differ, and so do sequences that fork at items which differ.

## Main definitions

* `CHeaders.Value.ink`, `CHeaders.Value.inkLiteral`: the ink of the two forms of a value.
* `CHeaders.Value.Differs`: values that are told apart by both forms.
* `CHeaders.Value.Diverges`: generated texts and sequences that are told apart.

## Main results

* `CHeaders.Value.Diverges.differs`: what diverges differs.
-/

namespace CHeaders.Value

/-- The ink of a value inside generated text. -/
def ink (v : Value) : List Letter :=
  Text.ink v.display

/-- The ink of a value inside other values. -/
def inkLiteral (v : Value) : List Letter :=
  Text.ink (Text.ofString v.literal)

/-- The values are told apart by their forms inside other values, and by their forms inside
generated text in front of an underscore. -/
structure Differs (v w : Value) : Prop where
  literal : Apart v.inkLiteral w.inkLiteral
  display : Apart (v.ink ++ [.char '_']) (w.ink ++ [.char '_'])

/-- The values are generated texts that are apart, or sequences that fork at items which differ. -/
inductive Diverges : Value → Value → Prop
  | fragment {s t : Text} (h : Apart (Text.ink s) (Text.ink t)) :
      Diverges (.fragment s) (.fragment t)
  | sequence {vs ws : List Value} (h : Forks Differs vs ws) : Diverges (ofList vs) (ofList ws)

/-! ## The ink of literal forms -/

/-- The ink of a generated text inside other values. -/
theorem inkLiteral_fragment (t : Text) :
    (fragment t).inkLiteral =
      Text.ink "Fragment(" ++ Text.ink (Text.ofString (Text.quoted t)) ++ Text.ink ")" := by
  have hform : (fragment t).literal = "Fragment(" ++ Text.quoted t ++ ")" := rfl
  rw [inkLiteral, hform, Text.ink_ofString_append, Text.ink_ofString_append]

/-- The ink of a call inside other values. -/
theorem inkLiteral_call (op args : Value) :
    (call op args).inkLiteral = Text.ink "Call(op=" ++ op.inkLiteral ++ Text.ink ", args=" ++
      args.inkLiteral ++ Text.ink ")" := by
  have hform : (call op args).literal =
      "Call(op=" ++ op.literal ++ ", args=" ++ args.literal ++ ")" := rfl
  simp only [inkLiteral, hform, Text.ink_ofString_append]

/-- A list is shown between brackets. -/
theorem literal_list (vs : List Value) :
    (list vs).literal = "[" ++ Text.commas (vs.map literal) ++ "]" := by
  rw [← literals_eq_map]
  rfl

/-- A tuple begins with a parenthesis and its first item, if it has one. -/
theorem exists_literal_tuple (v : Value) (vs : List Value) :
    ∃ back, (tuple (v :: vs)).literal = "(" ++ v.literal ++ back := by
  rcases vs with _ | ⟨w, vs⟩
  · exact ⟨",)", rfl⟩
  · obtain ⟨back, hback⟩ := Text.exists_commas_cons v.literal ((w :: vs).map literal)
    refine ⟨back ++ ")", ?_⟩
    have hform : (tuple (v :: w :: vs)).literal =
        "(" ++ Text.commas (literals (v :: w :: vs)) ++ ")" := rfl
    rw [hform, literals_eq_map, List.map_cons, hback]
    simp only [String.append_assoc]

/-- The ink of a sequence with something in it. -/
theorem inkLiteral_ofList_cons (v : Value) (vs : List Value) :
    (ofList (v :: vs)).inkLiteral = Text.ink "seq_list(" ++
      Text.ink (Text.ofString (Text.commas ((v :: vs).map literal))) ++ Text.ink ")" := by
  rw [inkLiteral, literal_chain_nil, Text.ink_ofString_append, Text.ink_ofString_append]

/-- A sequence has the same form everywhere. -/
theorem ink_ofList (vs : List Value) : (ofList vs).ink = (ofList vs).inkLiteral := by
  rcases vs with _ | ⟨v, vs⟩ <;> rfl

/-- Values differ if their forms inside other values are apart and stand inside generated text
too. -/
theorem Differs.of_literal {v w : Value} (hv : v.ink = v.inkLiteral) (hw : w.ink = w.inkLiteral)
    (h : Apart v.inkLiteral w.inkLiteral) : Differs v w := by
  refine ⟨h, ?_⟩
  rw [hv, hw]
  exact h.append _ _

/-- Generated texts that are apart and sequences that fork differ. -/
theorem Diverges.differs {v w : Value} (h : Diverges v w) : Differs v w := by
  rcases h with ⟨h⟩ | ⟨h⟩
  · constructor
    · rw [inkLiteral_fragment, inkLiteral_fragment, List.append_assoc, List.append_assoc]
      exact Forks.append_left ((Text.apart_quoted h).append _ _) _
    · exact h.append _ _
  · refine .of_literal (ink_ofList _) (ink_ofList _) ?_
    have hliterals := Text.apart_commas
      (h.map (S := fun s t => Apart (Text.ink (Text.ofString s)) (Text.ink (Text.ofString t)))
        (f := literal) fun _ _ hvw => hvw.literal)
    cases h <;> rw [inkLiteral_ofList_cons, inkLiteral_ofList_cons, List.append_assoc,
      List.append_assoc] <;> exact Forks.append_left (hliterals.append _ _) _

/-- What diverges is no sequence on either side, or it is made of texts that are apart. -/
theorem Diverges.apart {v w : Value} (h : Diverges v w) (hv : v.isSequence = false) :
    Apart v.ink w.ink := by
  rcases h with ⟨h⟩ | @⟨vs, ws, -⟩
  · exact h
  · have hsequence : (ofList vs).isSequence = true := by
      rcases vs with _ | ⟨v, vs⟩ <;> rfl
    rw [hsequence] at hv
    cases hv

end CHeaders.Value
