import CHeaders.Proofs.Number.Decimal
import CHeaders.Proofs.Operation.CallLike
import CHeaders.Proofs.Term.Settled
import CHeaders.Proofs.Text.Ahead

/-!
# Calls that were not made

A call in a sequence is not made. It is shown in its literal form, which begins with `Call(`, where
its plain form has the text that the operation wrote. Only fields may look like a call, because they
begin with the first type. But the types of the fields stand in the literal form too, behind the
name of the operation. So the first name, which fields write behind the first type, stands further
back in the literal form.

## Main definitions

* `CHeaders.Term.Opens`: how the literal forms of collections begin.
* `CHeaders.Term.Trails`: in a literal form the first name stands no sooner than behind a value.

## Main results

* `CHeaders.Term.IsTerm.trails`: the literal form of any term.
* `CHeaders.Term.differs_call`: a call differs from what its plain form stands for.
-/

namespace CHeaders.Term

open Operation (looksLikeCall not_looksLikeCall)
open Text (ahead ahead_append ahead_quoted ink)
open Value (Differs)

/-! ## How literal forms begin -/

/-- The literal form of a value begins with `front` and the first of the items, if there is one. -/
def Opens (front : Text) (ts : List Value) (form : Value) : Prop :=
  ∀ t ts', ts = t :: ts' → ∃ back, form.inkLiteral = ink front ++ t.inkLiteral ++ back

/-- A list begins with a bracket. -/
theorem opens_list (ts : List Value) : Opens (Text.ofString "[") ts (.list ts) := by
  rintro t ts rfl
  obtain ⟨back, hback⟩ := Text.exists_commas_cons t.literal (ts.map Value.literal)
  refine ⟨ink (Text.ofString (back ++ "]")), ?_⟩
  rw [Value.inkLiteral, Value.literal_list, List.map_cons, hback]
  simp only [Text.ink_ofString_append, Value.inkLiteral, List.append_assoc]

/-- A tuple begins with a parenthesis. -/
theorem opens_tuple (ts : List Value) : Opens (Text.ofString "(") ts (.tuple ts) := by
  rintro t ts rfl
  obtain ⟨back, hback⟩ := Value.exists_literal_tuple t ts
  refine ⟨ink (Text.ofString back), ?_⟩
  rw [Value.inkLiteral, hback]
  simp only [Text.ink_ofString_append, Value.inkLiteral]

/-- A sequence begins with its name. -/
theorem opens_ofList (ts : List Value) :
    Opens (Text.ofString "seq_list(") ts (Value.ofList ts) := by
  rintro t ts rfl
  obtain ⟨back, hback⟩ := Text.exists_commas_cons t.literal (ts.map Value.literal)
  refine ⟨ink (Text.ofString back) ++ ink ")", ?_⟩
  rw [Value.inkLiteral_ofList_cons, List.map_cons, hback]
  simp only [Text.ink_ofString_append, Value.inkLiteral, List.append_assoc]

/-! ## The literal forms of terms -/

/-- If the value looks like a call, then in any text that begins with `form` the first name stands
no sooner than behind the value. -/
def Trails (v : Value) (form : List Letter) : Prop :=
  looksLikeCall v.ink → ∀ rest back,
    ahead (v.ink ++ .char '_' :: .char '0' :: rest) ≤ ahead (form ++ back)

/-- A value that does not look like a call is not asked for more. -/
theorem Trails.of_not {v : Value} (h : ¬looksLikeCall v.ink) (form : List Letter) :
    Trails v form :=
  fun hcall => absurd hcall h

/-- More may stand in front and behind, if no name begins in front. -/
theorem Trails.grow {v : Value} {form front : List Letter} (h : Trails v form)
    (hfront : ∀ ls, ahead ls ≤ ahead (front ++ ls)) (back : List Letter) :
    Trails v (front ++ form ++ back) := by
  intro hcall rest back'
  rw [List.append_assoc, List.append_assoc]
  exact (h hcall rest (back ++ back')).trans (hfront _)

/-- A sequence does not look like a call. -/
theorem not_looksLikeCall_ofList (vs : List Value) : ¬looksLikeCall (Value.ofList vs).ink := by
  rcases vs with _ | ⟨v, vs⟩
  · exact not_looksLikeCall (by decide)
  · rw [Value.ink_ofList, Value.inkLiteral_ofList_cons, List.append_assoc]
    exact not_looksLikeCall (by decide)

/-- A number does not look like a call. -/
theorem not_looksLikeCall_int (n : Int) : ¬looksLikeCall (Value.int n).ink := by
  intro hcall
  have hmem : Letter.char 'C' ∈ (Text.ofString (Decimal.ofInt n)).letters :=
    List.mem_of_mem_filter (List.mem_of_mem_head? hcall)
  obtain ⟨c, hc, heq⟩ := List.mem_map.mp hmem
  rcases Decimal.mem_ofInt hc with hdigit | rfl
  · rw [Letter.char.inj heq] at hdigit
    exact absurd hdigit (by decide)
  · exact absurd heq (by decide)

/-- In the literal form of a term the first name stands no sooner than behind what the term stands
for, and than behind the first item of that. -/
def TrailsIn (t v : Value) : Prop :=
  Trails v t.inkLiteral ∧ ∀ w ws, v = Value.ofList (w :: ws) → Trails w t.inkLiteral

/-- What a plain term stands for may be given to an operation. -/
theorem IsPlain.isGiven {t v : Value} (h : IsPlain t) (hv : (evaluate t).result = .ok v) :
    Operation.IsGiven v := by
  cases h with
  | text s => exact Except.ok.inj hv ▸ .text s
  | fragment s => exact Except.ok.inj hv ▸ .fragment s
  | int n => exact Except.ok.inj hv ▸ .int n
  | list =>
    obtain ⟨vs, -, rfl⟩ := evaluate_list_eq_ok_iff.mp hv
    exact .sequence vs
  | call =>
    obtain ⟨vs, r, -, -, rfl⟩ := evaluate_call_eq_ok_iff.mp hv
    exact .fragment r

/-- No name begins in the literal form of a call of the fields in front of the first argument. -/
theorem underscore_not_mem_front {op : Value}
    (hop : op.text?.bind Operation.find? = some .fields) {bracket : String}
    (hbracket : bracket ∈ ["[", "("]) :
    ∀ l ∈ ink "Call(op=" ++ op.inkLiteral ++ ink ", args=" ++ ink (Text.ofString bracket),
      l ≠ .char '_' := by
  obtain ⟨s, hs, hfind⟩ := Option.bind_eq_some_iff.mp hop
  obtain rfl := Operation.name_of_find? hfind
  have hbracket : bracket = "[" ∨ bracket = "(" := by simpa using hbracket
  cases op with
  | text t | fragment t =>
    obtain rfl := Option.some.inj hs
    rcases hbracket with rfl | rfl <;> decide +kernel
  | _ => cases hs

/-- If what a call stands for looks like a call, then the first name stands further back in the
literal form of the call.

**Proof sketch.** Only fields look like a call. They begin with what the first type stands for, and
behind that the first name stands. In the literal form the first type stands too, behind the name of
the operation, and there the first name comes no sooner. -/
theorem ahead_call {op args v : Value} {ts : List Value} {bracket : String}
    (hbracket : bracket ∈ ["[", "("])
    (hargs : Opens (Text.ofString bracket) ts args)
    (hts : ∀ t ∈ ts, IsTerm t)
    (ih : ∀ t ∈ ts, ∀ v, (evaluate (listed t)).result = .ok v → TrailsIn t v)
    (hv : (evaluate (.call op (.list (ts.map listed)))).result = .ok v)
    (hcall : looksLikeCall v.ink) (rest back : List Letter) :
    ahead (v.ink ++ rest) < ahead ((Value.call op args).inkLiteral ++ back) := by
  obtain ⟨vs, r, hvs, hr, rfl⟩ := evaluate_call_eq_ok_iff.mp hv
  rw [List.forall₂_map_left_iff] at hvs
  obtain ⟨o, ho, hrun⟩ := Operation.exists_run_of_call hr
  have hgiven : ∀ v ∈ vs, Operation.IsGiven v := by
    intro v hv
    obtain ⟨t, ht, htv⟩ := exists_mem_of_mapM ((mapM_eq_ok_iff _ _ _).mpr hvs) v hv
    exact (hts t ht).isPlain_listed.isGiven htv
  obtain ⟨w, ws, rfl, rfl⟩ := Operation.eq_fields_of_looksLikeCall hgiven hrun hcall
  rcases hvs with _ | ⟨ht, hrest⟩
  cases hrest
  next t =>
    obtain ⟨behind, hbehind⟩ := Operation.exists_ink_fields hrun
    have hw : looksLikeCall w.ink := by
      change looksLikeCall (ink r) at hcall
      rw [hbehind] at hcall
      rcases hink : w.ink with _ | ⟨l, ls⟩
      · rw [hink] at hcall
        exact absurd hcall (not_looksLikeCall (by decide))
      · rw [hink] at hcall
        exact hcall
    have htrails := (ih t List.mem_cons_self _ ht).2 w ws rfl hw
    obtain ⟨back', hback'⟩ := hargs t [] rfl
    calc ahead (ink r ++ rest)
        = ahead (w.ink ++ .char '_' :: .char '0' :: (behind ++ rest)) := by
          rw [hbehind, List.append_assoc]
          rfl
      _ ≤ ahead (t.inkLiteral ++ (back' ++ ink ")" ++ back)) := htrails _ _
      _ < ahead (ink "Call(op=" ++ op.inkLiteral ++ ink ", args=" ++
            ink (Text.ofString bracket) ++ (t.inkLiteral ++ (back' ++ ink ")" ++ back))) := by
          rw [ahead_append (underscore_not_mem_front ho hbracket)]
          have hpos : 0 < (ink "Call(op=").length := by decide
          simp only [List.length_append]
          omega
      _ = ahead ((Value.call op args).inkLiteral ++ back) := by
          rw [Value.inkLiteral_call, hback']
          simp only [List.append_assoc]

/-- A collection is trailed by its items: what it stands for does not look like a call, and what its
first item stands for is trailed by the form of that item. -/
theorem trailsIn_collection {ts : List Value} {form v : Value} {front : Text}
    (hfront : ∀ ls, ahead ls ≤ ahead (ink front ++ ls))
    (hform : Opens front ts form)
    (ih : ∀ t ∈ ts, ∀ v, (evaluate (listed t)).result = .ok v → TrailsIn t v)
    (hv : (evaluate (.list (ts.map listed))).result = .ok v) : TrailsIn form v := by
  obtain ⟨vs, hvs, rfl⟩ := evaluate_list_eq_ok_iff.mp hv
  rw [List.forall₂_map_left_iff] at hvs
  refine ⟨.of_not (not_looksLikeCall_ofList vs) _, fun w ws hw => ?_⟩
  rcases hvs with _ | ⟨ht, -⟩
  · cases hw
  · next t v' ts' vs' =>
    obtain rfl : v' = w := (Value.cons.inj hw).1
    obtain ⟨back, hback⟩ := hform t ts' rfl
    rw [hback]
    exact (ih t List.mem_cons_self _ ht).1.grow hfront back

/-- A call is trailed too, and what it stands for has no first item. -/
theorem trailsIn_call {op args v : Value} {ts : List Value} {bracket : String}
    (hbracket : bracket ∈ ["[", "("])
    (hargs : Opens (Text.ofString bracket) ts args) (hts : ∀ t ∈ ts, IsTerm t)
    (ih : ∀ t ∈ ts, ∀ v, (evaluate (listed t)).result = .ok v → TrailsIn t v)
    (hv : (evaluate (.call op (.list (ts.map listed)))).result = .ok v) :
    TrailsIn (.call op args) v := by
  refine ⟨fun hcall rest back => (ahead_call hbracket hargs hts ih hv hcall _ _).le,
    fun w ws hw => ?_⟩
  obtain ⟨vs, r, -, -, rfl⟩ := evaluate_call_eq_ok_iff.mp hv
  cases hw

/-- In the literal form of a term the first name stands no sooner than behind what the plain form of
the term stands for, if that looks like a call, and than behind the first item of that.

**Proof sketch.** By induction on the term. Between quotes no name comes sooner than in the text
itself. A collection has its first item behind a bracket. A call stands for something that looks
like a call only if it writes fields, and then the first name stands even further back. -/
theorem IsTerm.trails {t : Value} (h : IsTerm t) :
    ∀ v, (evaluate (listed t)).result = .ok v → TrailsIn t v := by
  induction h with
  | text s =>
    intro v hv
    obtain rfl := Except.ok.inj hv
    exact ⟨fun _ rest back => ahead_quoted s rest back, fun w ws hw => by cases hw⟩
  | fragment s =>
    intro v hv
    obtain rfl := Except.ok.inj hv
    refine ⟨fun _ rest back => ?_, fun w ws hw => by cases hw⟩
    have hfront : ∀ l ∈ ink "Fragment(", l ≠ .char '_' := by decide
    rw [Value.inkLiteral_fragment, List.append_assoc, List.append_assoc, ahead_append hfront]
    exact (ahead_quoted s rest _).trans (Nat.le_add_left _ _)
  | int n =>
    intro v hv
    obtain rfl := Except.ok.inj hv
    exact ⟨.of_not (not_looksLikeCall_int n) _, fun w ws hw => by cases hw⟩
  | @list ts _ ih =>
    intro v hv
    rw [listed, listedAll_eq_map] at hv
    exact trailsIn_collection (fun ls => Nat.le_succ _) (opens_list ts) ih hv
  | @tuple ts _ ih =>
    intro v hv
    rw [listed, listedAll_eq_map] at hv
    exact trailsIn_collection (fun ls => Nat.le_succ _) (opens_tuple ts) ih hv
  | @sequence ts _ ih =>
    intro v hv
    rw [listed_ofList] at hv
    exact trailsIn_collection (fun ls => Nat.le_add_right _ 9) (opens_ofList ts) ih hv
  | @call op ts _ hts ih =>
    intro v hv
    rw [listed, listedAll_eq_map] at hv
    exact trailsIn_call (by decide) (opens_list ts) hts ih hv
  | @callTuple op ts _ hts ih =>
    intro v hv
    rw [listed, listedAll_eq_map] at hv
    exact trailsIn_call (by decide) (opens_tuple ts) hts ih hv

/-- A call that was not made differs from what it stands for when it is made.

**Proof sketch.** The literal forms of a call and of a generated text begin with different letters.
As for their texts: if what the call stands for looks like a call itself, then its first name stands
sooner. If it does not, the two begin with different letters. -/
theorem differs_call {op args v : Value} {ts : List Value} {bracket : String}
    (hbracket : bracket ∈ ["[", "("])
    (hargs : Opens (Text.ofString bracket) ts args)
    (hts : ∀ t ∈ ts, IsTerm t)
    (hv : (evaluate (.call op (.list (ts.map listed)))).result = .ok v) :
    Differs (.call op args) v := by
  have hahead : looksLikeCall v.ink → ∀ rest back,
      ahead (v.ink ++ rest) < ahead ((Value.call op args).inkLiteral ++ back) :=
    ahead_call hbracket hargs hts (fun t ht => (hts t ht).trails) hv
  obtain ⟨vs, r, -, -, rfl⟩ := evaluate_call_eq_ok_iff.mp hv
  constructor
  · rw [Value.inkLiteral_call, Value.inkLiteral_fragment]
    simp only [List.append_assoc]
    exact .here (by decide)
  · have hink : (Value.call op args).ink = (Value.call op args).inkLiteral := rfl
    rw [hink, apart_iff]
    intro back back' heq
    by_cases hcall : looksLikeCall (ink r)
    · have hlt := hahead hcall ([.char '_'] ++ back') ([.char '_'] ++ back)
      rw [← List.append_assoc, ← List.append_assoc, heq] at hlt
      exact Nat.lt_irrefl _ hlt
    · have hhead := congrArg List.head? heq
      rw [Value.inkLiteral_call] at hhead
      apply hcall
      change _ = (ink r ++ [Letter.char '_'] ++ back').head? at hhead
      rcases hr : ink r with _ | ⟨l, ls⟩
      · rw [hr] at hhead
        exact absurd (Option.some.inj hhead) (by decide)
      · rw [hr] at hhead
        exact hhead.symm

end CHeaders.Term
