import CHeaders.Proofs.Term.CallForm

/-!
# Terms and their plain forms

A term that is not settled does not stand for the same as its plain form. If both can be evaluated,
then what they stand for is told apart by every text in which it is displayed.

## Main results

* `CHeaders.Term.IsTerm.differs`: a term that is not inert differs from what its plain form stands
  for.
* `CHeaders.Term.IsTerm.diverges`: what a term stands for that is not settled diverges from what its
  plain form stands for.
-/

namespace CHeaders.Term

open Text (ink)
open Value (Alike Differs Diverges)

/-- Values that differ are not the same. -/
theorem ne_of_differs {v w : Value} (h : Differs v w) : v ≠ w := by
  rintro rfl
  exact Apart.ne h.literal rfl

/-! ## Terms in sequences -/

/-- What begins with a bracket or a parenthesis differs from a sequence. -/
theorem differs_ofList {t : Value} (ht : t.ink = t.inkLiteral) {l : Letter} {ls : List Letter}
    (hform : t.inkLiteral = l :: ls) (hn : l ≠ .char 'n') (hs : l ≠ .char 's') (vs : List Value) :
    Differs t (Value.ofList vs) := by
  refine .of_literal ht (Value.ink_ofList vs) ?_
  rcases vs with _ | ⟨v, vs⟩
  · rw [hform]
    exact .here hn
  · rw [hform, Value.inkLiteral_ofList_cons, List.append_assoc]
    exact .here hs

/-- The terms of a sequence that is not inert fork from what their plain forms stand for, if this
holds of the terms that are not inert.

**Proof sketch.** Each term stands for itself or differs from what its plain form stands for. If all
of them stood for themselves, the sequence would be inert, so there is a first one that differs. -/
theorem forks_of_not_isInert {ts vs : List Value} (hts : ∀ t ∈ ts, IsTerm t)
    (ih : ∀ t ∈ ts, isInert t = false → ∀ v, (evaluate (listed t)).result = .ok v → Differs t v)
    (hnot : isInert (Value.ofList ts) = false)
    (hvs : List.Forall₂ (fun t v => (evaluate (listed t)).result = .ok v) ts vs) :
    Forks Differs ts vs := by
  have hpairs : List.Forall₂ (fun t v => t = v ∨ Differs t v) ts vs := by
    have hmem : List.Forall₂ (fun t v => t ∈ ts ∧ (evaluate (listed t)).result = .ok v) ts vs :=
      (List.forall₂_and_left _ _).mpr ⟨fun _ ht => ht, hvs⟩
    refine hmem.imp fun t v htv => ?_
    cases hinert : isInert t with
    | true =>
      have hself := (hts t htv.1).evaluate_listed_of_isInert hinert
      exact .inl (Except.ok.inj (hself.symm.trans htv.2))
    | false => exact .inr (ih t htv.1 hinert v htv.2)
  refine (Forks.of_forall₂ hpairs).resolve_left ?_
  rintro rfl
  -- Every term would stand for itself, also the one that is not inert.
  rw [List.forall₂_same] at hvs
  have hinert : isInert (Value.ofList ts) = true := by
    rw [isInert_ofList]
    intro t ht
    by_contra hnot
    rw [Bool.not_eq_true] at hnot
    exact ne_of_differs (ih t ht hnot t (hvs t ht)) rfl
  rw [hinert] at hnot
  cases hnot

/-- A term that is not inert differs from what its plain form stands for.

**Proof sketch.** By induction on the term. A list or a tuple is shown between brackets of its own,
but its plain form stands for a sequence. A sequence that is not inert holds a term that is not, and
there the literal forms fork. A call is shown as a call, and its plain form stands for a text. -/
theorem IsTerm.differs {t : Value} (h : IsTerm t) : isInert t = false →
    ∀ v, (evaluate (listed t)).result = .ok v → Differs t v := by
  induction h with
  | text s => exact fun hnot => by cases hnot
  | fragment s => exact fun hnot => by cases hnot
  | int n => exact fun hnot => by cases hnot
  | @list ts _ _ =>
    intro _ v hv
    rw [listed, listedAll_eq_map] at hv
    obtain ⟨vs, -, rfl⟩ := evaluate_list_eq_ok_iff.mp hv
    have hform : (Value.list ts).inkLiteral = .char '[' ::
        ink (Text.ofString (Text.commas (ts.map Value.literal) ++ "]")) := by
      rw [Value.inkLiteral, Value.literal_list, String.append_assoc, Text.ink_ofString_append]
      rfl
    exact differs_ofList rfl hform (by decide) (by decide) vs
  | @tuple ts _ _ =>
    intro _ v hv
    rw [listed, listedAll_eq_map] at hv
    obtain ⟨vs, -, rfl⟩ := evaluate_list_eq_ok_iff.mp hv
    rcases ts with _ | ⟨t, ts⟩
    · have hform : (Value.tuple []).inkLiteral = [.char '(', .char ')'] := rfl
      exact differs_ofList rfl hform (by decide) (by decide) vs
    · obtain ⟨back, hback⟩ := opens_tuple (t :: ts) t ts rfl
      rw [List.append_assoc] at hback
      exact differs_ofList rfl hback (by decide) (by decide) vs
  | sequence hts ih =>
    intro hnot v hv
    rw [listed_ofList] at hv
    obtain ⟨vs, hvs, rfl⟩ := evaluate_list_eq_ok_iff.mp hv
    rw [List.forall₂_map_left_iff] at hvs
    exact (Diverges.sequence (forks_of_not_isInert hts ih hnot hvs)).differs
  | @call op ts _ hts _ =>
    intro _ v hv
    rw [listed, listedAll_eq_map] at hv
    exact differs_call (by decide) (opens_list ts) hts hv
  | @callTuple op ts _ hts _ =>
    intro _ v hv
    rw [listed, listedAll_eq_map] at hv
    exact differs_call (by decide) (opens_tuple ts) hts hv

/-! ## Evaluated terms -/

/-- What several terms stand for is the same as what their plain forms stand for or diverges from
it, one by one, and it is not the same if one of the terms is not settled.

**Proof sketch.** By induction on the terms. A settled term stands for the same as its plain form,
one that is not settled diverges from it. -/
theorem alike_of_forall₂ {ts vs ws : List Value} (hts : ∀ t ∈ ts, IsTerm t)
    (ih : ∀ t ∈ ts, isSettled t = false → ∀ v w, (evaluate t).result = .ok v →
      (evaluate (listed t)).result = .ok w → Diverges v w)
    (hvs : List.Forall₂ (fun t v => (evaluate t).result = .ok v) ts vs)
    (hws : List.Forall₂ (fun t w => (evaluate (listed t)).result = .ok w) ts ws) :
    List.Forall₂ Alike vs ws ∧ (allSettled ts = false → vs ≠ ws) := by
  induction hvs generalizing ws with
  | nil =>
    cases hws
    exact ⟨.nil, fun hnot => by cases hnot⟩
  | @cons t v ts vs hv _ ihvs =>
    rcases hws with _ | ⟨hw, hws⟩
    next w ws =>
      obtain ⟨ht, hts⟩ := List.forall_mem_cons.mp hts
      obtain ⟨iht, ih⟩ := List.forall_mem_cons.mp ih
      obtain ⟨halike, hne⟩ := ihvs hts ih hws
      cases hsettled : isSettled t with
      | true =>
        have hsame := ht.evaluate_listed hsettled
        obtain rfl : v = w := Except.ok.inj (hv.symm.trans (hsame.symm.trans hw))
        refine ⟨.cons (.inl rfl) halike, fun hnot heq => ?_⟩
        rw [allSettled, hsettled, Bool.true_and] at hnot
        exact hne hnot (List.cons.inj heq).2
      | false =>
        have hdiverges := iht hsettled v w hv hw
        refine ⟨.cons (.inr hdiverges) halike, fun _ heq => ?_⟩
        exact ne_of_differs hdiverges.differs (List.cons.inj heq).1

/-- What a list stands for diverges from what its plain form stands for, if this holds of the terms
in it that are not settled and there is one. -/
theorem diverges_list {ts : List Value} {v w : Value} (hts : ∀ t ∈ ts, IsTerm t)
    (ih : ∀ t ∈ ts, isSettled t = false → ∀ v w, (evaluate t).result = .ok v →
      (evaluate (listed t)).result = .ok w → Diverges v w)
    (hnot : allSettled ts = false) (hv : (evaluate (.list ts)).result = .ok v)
    (hw : (evaluate (.list (ts.map listed))).result = .ok w) : Diverges v w := by
  obtain ⟨vs, hvs, rfl⟩ := evaluate_list_eq_ok_iff.mp hv
  obtain ⟨ws, hws, rfl⟩ := evaluate_list_eq_ok_iff.mp hw
  rw [List.forall₂_map_left_iff] at hws
  obtain ⟨halike, hne⟩ := alike_of_forall₂ hts ih hvs hws
  have hforks := (Forks.of_forall₂ halike).resolve_left (hne hnot)
  exact .sequence (by simpa using hforks.map (f := id) fun v w hvw => hvw.differs)

/-- The same for a call: what the operation writes diverges if an argument does. -/
theorem diverges_call {op v w : Value} {ts : List Value} (hts : ∀ t ∈ ts, IsTerm t)
    (ih : ∀ t ∈ ts, isSettled t = false → ∀ v w, (evaluate t).result = .ok v →
      (evaluate (listed t)).result = .ok w → Diverges v w)
    (hnot : allSettled ts = false) (hv : (evaluate (.call op (.list ts))).result = .ok v)
    (hw : (evaluate (.call op (.list (ts.map listed)))).result = .ok w) : Diverges v w := by
  obtain ⟨vs, r, hvs, hr, rfl⟩ := evaluate_call_eq_ok_iff.mp hv
  obtain ⟨ws, s, hws, hs, rfl⟩ := evaluate_call_eq_ok_iff.mp hw
  rw [List.forall₂_map_left_iff] at hws
  obtain ⟨halike, hne⟩ := alike_of_forall₂ hts ih hvs hws
  obtain ⟨o, ho, hrun⟩ := Operation.exists_run_of_call hr
  obtain ⟨o', ho', hrun'⟩ := Operation.exists_run_of_call hs
  obtain rfl := Option.some.inj (ho.symm.trans ho')
  exact .fragment (Operation.apart_run halike (hne hnot) hrun hrun')

/-- What a term stands for that is not settled diverges from what its plain form stands for, if both
can be evaluated.

**Proof sketch.** By induction on the term. Of the items of a list one is not settled, and what it
stands for diverges, so the sequences fork. A sequence stands for itself, but the items of its plain
form are evaluated, and so they fork. Of the arguments of a call one diverges, so what the operation
writes is apart. -/
theorem IsTerm.diverges {t : Value} (h : IsTerm t) : isSettled t = false →
    ∀ v w, (evaluate t).result = .ok v → (evaluate (listed t)).result = .ok w → Diverges v w := by
  induction h with
  | text s => exact fun hnot => by cases hnot
  | fragment s => exact fun hnot => by cases hnot
  | int n => exact fun hnot => by cases hnot
  | list hts ih =>
    intro hnot v w hv hw
    rw [listed, listedAll_eq_map] at hw
    exact diverges_list hts ih hnot hv hw
  | tuple hts ih =>
    intro hnot v w hv hw
    rw [listed, listedAll_eq_map] at hw
    rw [result_evaluate_tuple] at hv
    exact diverges_list hts ih hnot hv hw
  | sequence hts _ =>
    intro hnot v w hv hw
    rw [isSettled_ofList] at hnot
    rw [result_evaluate_ofList] at hv
    rw [listed_ofList] at hw
    obtain rfl := Except.ok.inj hv
    obtain ⟨ws, hws, rfl⟩ := evaluate_list_eq_ok_iff.mp hw
    rw [List.forall₂_map_left_iff] at hws
    exact .sequence (forks_of_not_isInert hts (fun t ht => (hts t ht).differs) hnot hws)
  | call _ hts ih =>
    intro hnot v w hv hw
    rw [listed, listedAll_eq_map] at hw
    exact diverges_call hts ih hnot hv hw
  | callTuple _ hts ih =>
    intro hnot v w hv hw
    rw [listed, listedAll_eq_map] at hw
    rw [result_evaluate_callTuple] at hv
    exact diverges_call hts ih hnot hv hw

end CHeaders.Term
