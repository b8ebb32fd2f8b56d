import CHeaders.Proofs.Fragment
import CHeaders.Proofs.Traversal

/-!
# Output in groups

Pieces that are texts may be joined in groups, and a traversal joins the pieces that its handlers
return. So the output for a chain is the output for its first cells, joined with that for the rest;
the latter is what a traversal writes that begins at the rest with the arguments passed on to it.

## Main definitions

* `CHeaders.Fragment.JoinsTo`: what pieces are joined to.

## Main results

* `CHeaders.Fragment.joinsTo_iff`: what pieces that are texts are joined to.
* `CHeaders.Fragment.joinsTo_append`: pieces may be joined in groups.
* `CHeaders.Passes.split`: cells are passed one group after the other.
* `CHeaders.joins_in_groups`: joining pieces, and the output of traversals.
-/

namespace CHeaders

open Value (chain)

namespace Fragment

/-- Pieces with a separator between them are joined to a text. -/
def JoinsTo (separator : Value) (vs : List Value) (t : Text) : Prop :=
  joinValue (.list vs) separator = .ok (.fragment t)

/-- Pieces that are texts have texts. -/
theorem exists_texts {vs : List Value} (h : ∀ v ∈ vs, v.text?.isSome = true) :
    ∃ ts, List.Forall₂ (fun v t => v.text? = some t) vs ts := by
  refine ⟨vs.map fun v => v.text?.getD "", ?_⟩
  rw [List.forall₂_map_right_iff, List.forall₂_same]
  intro v hv
  obtain ⟨t, ht⟩ := Option.isSome_iff_exists.mp (h v hv)
  rw [ht]
  rfl

variable {separator : Value} {s t u : Text} {vs : List Value} {ts : List Text}

/-- Pieces are joined to one text only. -/
theorem JoinsTo.unique (ht : JoinsTo separator vs t) (hu : JoinsTo separator vs u) : t = u :=
  Value.fragment.inj (Except.ok.inj (ht.symm.trans hu))

/-- With a text between them, the pieces in a list are joined to a fragment. -/
theorem joinValue_list (hs : separator.text? = some s) (vs : List Value) :
    joinValue (.list vs) separator = (join s vs).map .fragment := by
  cases separator with
  | text =>
    cases hs
    rfl
  | fragment =>
    cases hs
    rfl
  | _ => cases hs

/-- What is joined is what a traversal writes for the same pieces. -/
theorem joinsTo_iff_join (hs : separator.text? = some s) :
    JoinsTo separator vs t ↔ join s vs = .ok t := by
  rw [JoinsTo, joinValue_list hs, map_eq_ok_iff]
  simp

/-- Pieces that are texts are joined to their texts without the empty ones, and to nothing else. -/
theorem joinsTo_iff (hs : separator.text? = some s)
    (hvs : List.Forall₂ (fun v t => v.text? = some t) vs ts) :
    JoinsTo separator vs t ↔ Text.joinFilled s ts = t := by
  rw [joinsTo_iff_join hs, join_eq_ok s hvs, Except.ok.injEq]
  rfl

/-- Pieces that are texts are joined to an empty text if and only if each of them is empty. -/
theorem joinsTo_empty_iff (hs : separator.text? = some s)
    (hvs : ∀ v ∈ vs, v.text?.isSome = true) :
    JoinsTo separator vs "" ↔ ∀ v ∈ vs, v.text? = some ("" : Text) := by
  obtain ⟨ts, hts⟩ := exists_texts hvs
  rw [joinsTo_iff hs hts, Text.joinFilled_eq_empty_iff]
  clear hvs
  induction hts with
  | nil => simp
  | cons hv _ ih => simp [hv, ih]

/-- Two groups of pieces that are texts may be joined first, and then what they are joined to. -/
theorem joinsTo_append (hs : separator.text? = some s) {xs ys : List Value}
    (hxs : ∀ v ∈ xs, v.text?.isSome = true) (hys : ∀ v ∈ ys, v.text?.isSome = true) :
    ∃ l r t, JoinsTo separator xs l ∧ JoinsTo separator ys r ∧ JoinsTo separator (xs ++ ys) t ∧
      JoinsTo separator [.fragment l, .fragment r] t := by
  obtain ⟨ts, hts⟩ := exists_texts hxs
  obtain ⟨us, hus⟩ := exists_texts hys
  have hgroups : List.Forall₂ (fun (v : Value) t => v.text? = some t)
      [.fragment (Text.joinFilled s ts), .fragment (Text.joinFilled s us)]
      [Text.joinFilled s ts, Text.joinFilled s us] :=
    .cons rfl (.cons rfl .nil)
  refine ⟨_, _, _, (joinsTo_iff hs hts).mpr rfl, (joinsTo_iff hs hus).mpr rfl,
    (joinsTo_iff hs (List.rel_append hts hus)).mpr rfl, ?_⟩
  rw [joinsTo_iff hs hgroups]
  exact (Text.joinFilled_append s ts us).symm

/-- What pieces are joined to depends on those that count as true. -/
theorem joinValue_congr {xs ys : List Value} (h : xs.filter Value.isTrue = ys.filter Value.isTrue)
    (separator : Value) : joinValue (.list xs) separator = joinValue (.list ys) separator := by
  have hjoin (s : Text) : join s xs = join s ys := by rw [join, join, h]
  have hbytes (bs : List UInt8) : joinBytes bs xs = joinBytes bs ys := by
    rw [joinBytes, joinBytes, h]
  cases separator with
  | text s => exact congrArg (Except.map Value.fragment) (hjoin s)
  | fragment s => exact congrArg (Except.map Value.fragment) (hjoin s)
  | bytes bs => exact congrArg (Except.map Value.fragment) (hbytes bs)
  | _ => rfl

/-- Empty pieces are left out wherever they stand. -/
theorem joinValue_insert {empties : List Value} (h : ∀ v ∈ empties, v.text? = some ("" : Text))
    (front back : List Value) (separator : Value) :
    joinValue (.list (front ++ empties ++ back)) separator =
      joinValue (.list (front ++ back)) separator := by
  have hnone : empties.filter Value.isTrue = [] := by
    rw [List.filter_eq_nil_iff]
    intro v hv
    rw [isTrue_of_text? (h v hv)]
    decide
  apply joinValue_congr
  simp only [List.filter_append, hnone, List.append_nil]

end Fragment

/-! ## Traversals -/

variable {h : Handlers} {onNil : Handler} {onCons : Value → Value → Handler} {rest : Value}
  {first second args : List Value} {p : Passage}

/-- Cells are passed one group after the other: the second group gets the arguments that the first
one has passed on.

**Proof sketch.** By induction on the cells of the first group, along the calls for them. -/
theorem Passes.split (hp : Passes onCons rest (first ++ second) args p) :
    ∃ q r, Passes onCons (chain second rest) first args q ∧ Passes onCons rest second q.args r ∧
      p = ⟨q.calls ++ r.calls, q.pieces ++ r.pieces, r.args⟩ := by
  induction first generalizing args p with
  | nil => exact ⟨⟨[], [], args⟩, p, .done args, hp, rfl⟩
  | cons head first ih =>
    have hchain : chain (first ++ second) rest = chain first (chain second rest) :=
      List.foldr_append
    rw [List.cons_append] at hp
    cases hp with
    | step hcall hnext hrest =>
      obtain ⟨q, r, hq, hr, rfl⟩ := ih hrest
      rw [hchain] at hcall ⊢
      exact ⟨_, r, .step hcall hnext hq, hr, rfl⟩

open Fragment (JoinsTo joinValue) in
/-- Pieces that are texts may be joined in groups. Empty pieces are left out wherever they stand,
whatever the other ones are, and texts are joined to an empty text if and only if each of them is
empty.

If the handlers answer every call for a chain by a text, then what the traversal writes may be
divided behind any of these texts: it is what the texts in front are joined to, joined with what the
other ones are joined to. Between two cells this is what the traversal of the second group of cells
writes, with the arguments that the first group passes on.

**Proof sketch.** A group is joined to an empty text only if it is left out itself. The texts of a
traversal are those for the first cells and those of the traversal that begins behind them. -/
theorem joins_in_groups {separator : Value} {s : Text} (hs : separator.text? = some s) :
    (∀ xs ys : List Value, (∀ v ∈ xs, v.text?.isSome = true) → (∀ v ∈ ys, v.text?.isSome = true) →
      ∃ l r t, JoinsTo separator xs l ∧ JoinsTo separator ys r ∧ JoinsTo separator (xs ++ ys) t ∧
        JoinsTo separator [.fragment l, .fragment r] t) ∧
    (∀ front empties back : List Value, (∀ v ∈ empties, v.text? = some ("" : Text)) →
      joinValue (.list (front ++ empties ++ back)) separator =
        joinValue (.list (front ++ back)) separator) ∧
    (∀ vs : List Value, (∀ v ∈ vs, v.text?.isSome = true) →
      (JoinsTo separator vs "" ↔ ∀ v ∈ vs, v.text? = some ("" : Text))) ∧
    ∀ (h : Handlers) (onNil : Handler) (onCons : Value → Value → Handler) (heads args : List Value)
      (p : Passage) (last : Value) (operation : String),
      h.onNil = some onNil → h.onCons = some onCons → Passes onCons .nil heads args p →
      onNil p.args = .ok last → (∀ v ∈ p.pieces ++ [last], v.text?.isSome = true) →
      ∃ t, (traverse (chain heads .nil) h args s operation).result = .ok t ∧
        (∀ front back, p.pieces ++ [last] = front ++ back →
          ∃ l r, JoinsTo separator front l ∧ JoinsTo separator back r ∧
            JoinsTo separator [.fragment l, .fragment r] t) ∧
        ∀ first second, heads = first ++ second →
          ∃ q l r, Passes onCons (chain second .nil) first args q ∧ JoinsTo separator q.pieces l ∧
            (traverse (chain second .nil) h q.args s operation).result = .ok r ∧
            JoinsTo separator [.fragment l, .fragment r] t := by
  refine ⟨fun xs ys => Fragment.joinsTo_append hs,
    fun front empties back h => Fragment.joinValue_insert h front back separator,
    fun vs => Fragment.joinsTo_empty_iff hs, ?_⟩
  intro h onNil onCons heads args p last operation hnil hcons hp hlast htexts
  have hgroups (front back : List Value) (hfront : p.pieces ++ [last] = front ++ back) :
      ∃ l r t, JoinsTo separator front l ∧ JoinsTo separator back r ∧
        JoinsTo separator (p.pieces ++ [last]) t ∧
        JoinsTo separator [.fragment l, .fragment r] t := by
    rw [hfront] at htexts ⊢
    obtain ⟨hfrontTexts, hbackTexts⟩ := List.forall_mem_append.mp htexts
    exact Fragment.joinsTo_append hs hfrontTexts hbackTexts
  obtain ⟨l, r, t, -, -, ht, -⟩ := hgroups _ _ rfl
  refine ⟨t, ?_, ?_, ?_⟩
  · rw [hp.traverse_chain_nil hlast hnil hcons]
    exact (Fragment.joinsTo_iff_join hs).mp ht
  · intro front back hfront
    obtain ⟨l, r, u, hl, hr, hu, hjoined⟩ := hgroups front back hfront
    obtain rfl := hu.unique ht
    exact ⟨l, r, hl, hr, hjoined⟩
  · rintro first second rfl
    obtain ⟨q, rest, hq, hrest, rfl⟩ := hp.split
    obtain ⟨l, r, u, hl, hr, hu, hjoined⟩ :=
      hgroups q.pieces (rest.pieces ++ [last]) (List.append_assoc ..)
    obtain rfl := hu.unique ht
    refine ⟨q, l, r, hq, hl, ?_, hjoined⟩
    rw [hrest.traverse_chain_nil hlast hnil hcons]
    exact (Fragment.joinsTo_iff_join hs).mp hr

open Fragment (JoinsTo) in
/-- Texts between which empty ones stand, in two groups of which one holds nothing but empty texts,
and a traversal of two cells in groups of one.

**Proof sketch.** Each part of the general statement is applied to texts for which the joins can be
computed, and the calls for the two cells are gone through. -/
theorem joins_in_groups_numbered :
    JoinsTo (.text " ") [.text "a", .text "", .fragment "", .text "b"] "a b" ∧
    JoinsTo (.text " ") [.text "", .fragment ""] "" ∧
    JoinsTo (.text " ") [.text "a", .text "", .fragment ""] "a" ∧
    JoinsTo (.text " ") [.fragment "a", .fragment ""] "a" ∧
    (traverse (chain [.text "a", .text "b"] .nil) numbered [.int 0] " " "traverse").result =
      .ok "a0 b1" ∧
    (traverse (chain [.text "b"] .nil) numbered [.int 1] " " "traverse").result = .ok "b1" ∧
    JoinsTo (.text " ") [.fragment "a0", .fragment "b1"] "a0 b1" := by
  have hspace : Value.text? (.text " ") = some (" " : Text) := rfl
  obtain ⟨hgroups, hinsert, hempty, htraverse⟩ := joins_in_groups hspace
  have hinserted := hinsert [.text "a"] [.text "", .fragment ""] [.text "b"] (by simp [Value.text?])
  have hnone := (hempty [.text "", .fragment ""] (by simp [Value.text?])).mpr
    (by simp [Value.text?])
  obtain ⟨l, r, t, hl, hr, ht, hjoined⟩ := hgroups [.text "a"] [.text "", .fragment ""]
    (by simp [Value.text?]) (by simp [Value.text?])
  obtain rfl : l = "a" := hl.unique rfl
  obtain rfl : r = "" := hr.unique rfl
  obtain rfl : t = "a" := ht.unique rfl
  refine ⟨hinserted.trans rfl, hnone, ht, hjoined, ?_⟩
  obtain ⟨t, hresult, -, hcells⟩ := htraverse numbered _ _ [.text "a", .text "b"] [.int 0] _ _
    "traverse" rfl rfl (.step rfl rfl (.step rfl rfl (.done _))) rfl (by simp [Value.text?])
  obtain ⟨q, l, r, hq, hl, hr, hjoined⟩ := hcells [.text "a"] [.text "b"] rfl
  cases hq with
  | step hcall hnext hrest =>
    cases hcall
    cases hnext
    cases hrest
    obtain rfl : l = "a0" := hl.unique rfl
    obtain rfl : r = "b1" := Except.ok.inj hr.symm
    obtain rfl : t = "a0 b1" := hjoined.unique rfl
    exact ⟨hresult, hr, hjoined⟩

end CHeaders
