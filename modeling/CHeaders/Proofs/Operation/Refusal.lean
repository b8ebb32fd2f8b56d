import CHeaders.Proofs.Operation
import CHeaders.Proofs.Term.Form
import CHeaders.Proofs.Traversal.Refusal

/-!
# What a call may end in

Whatever is given as the name of an operation and as its arguments, a call returns a text or is
refused; nothing else goes wrong, as long as the numbers that have to be shown can be written. Three
kinds of refusals are left: of the name, of the number of arguments or of a text that holds nothing;
of an argument that is not what the operation asks for; and of a chain with a cell whose tail is no
sequence. The last kind is left to the two operations that go through a chain. An unknown name and a
wrong number of arguments are refused before any argument is looked at.

## Main definitions

* `CHeaders.Operation.TakesSequence`: the operations that go through a sequence.
* `CHeaders.Operation.Suits`: what an operation writes a text for.
* `CHeaders.Operation.Strays`: what is refused as a malformed sequence.
* `CHeaders.Operation.Verdict`: what a call may end in, and when.

## Main results

* `CHeaders.Operation.verdict_call`: every call ends in one of these ways.
* `CHeaders.Operation.call_fails_by_refusal`: when a call returns and how it is refused.
-/

namespace CHeaders.Operation

/-- The operation goes through a sequence. -/
def TakesSequence (op : Operation) : Prop :=
  op = params ∨ op = fields

/-- The name is that of an operation which takes as many values and admits them; if it goes through
a sequence, the sequence is well formed. -/
def Suits (name : Value) (given : List Value) : Prop :=
  ∃ op, name.text?.bind find? = some op ∧ op.takes given.length = true ∧ op.admits given = true ∧
    (op.TakesSequence → ∀ v ∈ given, v.unwind.2 = .nil)

/-- The name is that of an operation which goes through a sequence, and the only value is a chain
with a last cell whose tail is no sequence. -/
def Strays (name : Value) (given : List Value) : Prop :=
  ∃ op v, name.text?.bind find? = some op ∧ op.TakesSequence ∧ given = [v] ∧ v.unwind.1 ≠ [] ∧
    v.unwind.2.isSequence = false

/-- What a call may end in. -/
inductive Verdict (name : Value) (given : List Value) : Except Fault Text → Prop
  | written (t : Text) (h : Suits name given) : Verdict name given (.ok t)
  | astray {f : Fault} (h : Strays name given) (hf : f.IsRefusalOf [.malformedSequence]) :
      Verdict name given (.error f)
  | refused {f : Fault} (hsuits : ¬Suits name given) (hstrays : ¬Strays name given)
      (hf : f.IsRefusalOf kinds) : Verdict name given (.error f)

variable {name : Value} {given : List Value} {op : Operation}

/-- What suits is told by the operation with the name. -/
theorem suits_iff (hop : name.text?.bind find? = some op) :
    Suits name given ↔ op.takes given.length = true ∧ op.admits given = true ∧
      (op.TakesSequence → ∀ v ∈ given, v.unwind.2 = .nil) := by
  simp only [Suits, hop, Option.some.injEq, exists_eq_left']

/-- What strays is told by the operation with the name. -/
theorem strays_iff (hop : name.text?.bind find? = some op) :
    Strays name given ↔ op.TakesSequence ∧
      ∃ v, given = [v] ∧ v.unwind.1 ≠ [] ∧ v.unwind.2.isSequence = false := by
  simp only [Strays, hop, Option.some.injEq, exists_and_left, exists_eq_left']

/-- An operation that goes through a sequence which can be written returns if it is well formed, and
refuses its end otherwise. -/
theorem TakesSequence.judged_run (hop : op.TakesSequence) {v : Value} (hv : v.isWritable = true) :
    Judged (fun _ => v.unwind.2 = .nil) (Sequence.RefusesEnd op.name v.unwind.1 v.unwind.2)
      (op.run [v]) := by
  obtain rfl | rfl := hop
  · exact Indexed.judged_params hv
  · exact Indexed.judged_fields hv

/-- An operation that goes through a sequence takes one value, and admits the sequences. -/
theorem TakesSequence.spec (hop : op.TakesSequence) :
    op.arity = some 1 ∧ ∀ v, op.admits [v] = v.isSequence := by
  obtain rfl | rfl := hop <;> exact ⟨rfl, fun _ => rfl⟩

/-- The call of an operation that goes through a sequence.

**Proof sketch.** The operation judges the chain by its end. If it is the empty sequence, a text is
written. If it is no sequence and there are cells, the sequence is malformed. Every other end is a
refusal of the value. -/
theorem TakesSequence.verdict (hop : op.TakesSequence) (hname : name.text?.bind find? = some op)
    (htakes : op.takes given.length = true) (hgiven : ∀ v ∈ given, v.isWritable = true) :
    Verdict name given (op.run given) := by
  obtain ⟨v, rfl⟩ := eq_singleton_of_takes hop.spec.1 htakes
  have hwritable : v.isWritable = true := hgiven v (List.mem_singleton_self v)
  have hlast := (Value.isWritable_unwind hwritable).2
  have hjudged := hop.judged_run hwritable
  cases hrun : op.run [v] with
  | ok t =>
    rw [hrun] at hjudged
    have hend : v.unwind.2 = .nil := hjudged
    have hsequence : v.isSequence = true := Value.isSequence_of_unwind (by rw [hend]; rfl)
    refine .written t ((suits_iff hname).mpr ⟨htakes, (hop.spec.2 v).trans hsequence, fun _ => ?_⟩)
    exact List.forall_mem_singleton.mpr hend
  | error f =>
    rw [hrun] at hjudged
    have hend : Sequence.RefusesEnd op.name v.unwind.1 v.unwind.2 f := hjudged
    cases hend with
    | malformed hcells hstray =>
      exact .astray ⟨op, v, hname, hop, rfl, hcells, hstray⟩
        (Fault.isRefusalOf_refusal (by simp) _ _ hlast)
    | mismatch expected hends hnil =>
      refine .refused (fun hsuits => ?_) (fun hstrays => ?_)
        (Fault.isRefusalOf_refusal (by decide) _ _ hlast)
      · exact hnil (((suits_iff hname).mp hsuits).2.2 hop v (List.mem_singleton_self v))
      · obtain ⟨-, w, hw, hcells, hstray⟩ := (strays_iff hname).mp hstrays
        obtain rfl := List.singleton_inj.mp hw
        obtain hnone | hsequence := hends
        · exact hcells hnone
        · cases hstray.symm.trans hsequence

/-- The call of an operation that goes through no sequence. -/
theorem verdict_of_not_takesSequence (hop : ¬op.TakesSequence)
    (hname : name.text?.bind find? = some op) (htakes : op.takes given.length = true)
    (hgiven : ∀ v ∈ given, v.isWritable = true) :
    Verdict name given (op.run given) := by
  have hshown : given.all Value.isWritable = true := List.all_eq_true.mpr hgiven
  have hanswers := op.run_spec (fun h => absurd h hop) htakes
  cases hrun : op.run given with
  | ok t =>
    rw [hrun] at hanswers
    exact .written t ((suits_iff hname).mpr ⟨htakes, hanswers.1, fun h => absurd h hop⟩)
  | error f =>
    rw [hrun] at hanswers
    obtain ⟨hfails, hrefuses⟩ := hanswers
    obtain ⟨v, hv, kind, hkind, operation, expected, rfl⟩ := hrefuses hshown
    refine .refused (fun hsuits => ?_) (fun hstrays => hop ((strays_iff hname).mp hstrays).1)
      ⟨kind, hkind, operation, expected, v, rfl⟩
    rw [((suits_iff hname).mp hsuits).2.1, hshown] at hfails
    cases hfails

/-- A call ends in one of the ways that there are.

**Proof sketch.** The name and the number of arguments are looked at first. An operation that goes
through no sequence admits what it is given or refuses one of the values. One that goes through a
sequence gets to its end, and what the end is decides. -/
theorem verdict_call (hname : name.isWritable = true)
    (hgiven : ∀ v ∈ given, v.isWritable = true) : Verdict name given (call name given).result := by
  by_cases htakes : ∃ op, name.text?.bind find? = some op ∧ op.takes given.length = true
  · obtain ⟨op, hop, htakes⟩ := htakes
    rw [result_call_of_takes hop htakes]
    by_cases hsequence : op.TakesSequence
    · exact hsequence.verdict hop htakes hgiven
    · exact verdict_of_not_takesSequence hsequence hop htakes hgiven
  · have hnot : ∀ op, name.text?.bind find? = some op → op.takes given.length = false :=
      fun op hop => Bool.eq_false_iff.mpr fun h => htakes ⟨op, hop, h⟩
    obtain ⟨operation, expected, shown, hcall⟩ := result_call_of_not_takes hname hnot
    rw [hcall]
    refine .refused (fun hsuits => ?_) (fun hstrays => ?_) ⟨_, by decide, _, _, _, rfl⟩
    · obtain ⟨op, hop, hcount, -⟩ := hsuits
      exact htakes ⟨op, hop, hcount⟩
    · obtain ⟨op, v, hop, hsequence, rfl, -⟩ := hstrays
      exact htakes ⟨op, hop, by rw [takes, hsequence.spec.1]; rfl⟩

/-- What an operation writes a text for does not stray. -/
theorem Suits.not_strays (hsuits : Suits name given) : ¬Strays name given := by
  rintro ⟨op, v, hop, hsequence, rfl, -, hstray⟩
  have hend := ((suits_iff hop).mp hsuits).2.2 hsequence v (List.mem_singleton_self v)
  rw [hend] at hstray
  cases hstray

/-- A malformed sequence is refused as nothing else. -/
theorem not_isRefusalOf_malformed {f : Fault} (hf : f.IsRefusalOf kinds) :
    ¬f.IsRefusalOf [.malformedSequence] := by
  obtain ⟨kind, hkind, _, _, _, rfl⟩ := hf
  rintro ⟨kind', hkind', _, _, _, heq⟩
  obtain rfl := (Fault.refused.inj heq).1
  obtain rfl := List.mem_singleton.mp hkind'
  exact absurd hkind (by decide)

/-- A name that cannot be shown in a refusal is the name of no operation. -/
theorem result_call_of_not_isWritable (hname : name.isWritable = false) (given : List Value) :
    (call name given).result = .error (.tooManyDigits none) := by
  have htext : name.text? = none := by
    by_contra h
    rw [Value.isWritable_of_text (Option.isSome_iff_ne_none.mpr h)] at hname
    cases hname
  rw [result_call, ofName, htext, Fault.refusal_of_not_isWritable hname]
  rfl

/-- What a call by name ends in. If the numbers that it has to show can be written, it returns a
text if and only if the name is that of an operation which takes the values; it is refused as a
malformed sequence if and only if an operation that goes through a sequence is to go through a chain
with a cell whose tail is no sequence; and whatever else goes wrong is a refusal of the number or
the kind of what is given. If the name is unknown or the number of values is wrong, it is refused
for that, whatever the values are; only a name with a number that cannot be written cannot be shown
either.

**Proof sketch.** By the verdict on the call. What is written suits, what is astray strays, and what
is refused does neither; the three exclude each other, and so do the kinds of their refusals. -/
theorem call_fails_by_refusal (name : Value) (given : List Value) :
    (name.isWritable = true →
      ((∀ v ∈ given, v.isWritable = true) →
        ((∃ t, (call name given).result = .ok t) ↔ Suits name given) ∧
        ((∃ f, (call name given).result = .error f ∧ f.IsRefusalOf [.malformedSequence]) ↔
          Strays name given) ∧
        ∀ f, (call name given).result = .error f →
          f.IsRefusalOf [.arity, .typeMismatch, .malformedSequence]) ∧
      ((∀ op, name.text?.bind find? = some op → op.takes given.length = false) →
        ∃ f, (call name given).result = .error f ∧ f.IsRefusalOf [.arity])) ∧
    (name.isWritable = false → (call name given).result = .error (.tooManyDigits none)) := by
  refine ⟨fun hname => ⟨fun hgiven => ?_, fun hnot => ?_⟩,
    fun hname => result_call_of_not_isWritable hname given⟩
  · have hverdict := verdict_call hname hgiven
    generalize (call name given).result = result at hverdict
    cases hverdict with
    | written t hsuits =>
      refine ⟨iff_of_true ⟨t, rfl⟩ hsuits, iff_of_false ?_ hsuits.not_strays, fun f hf => ?_⟩
      · rintro ⟨f, hf, -⟩
        cases hf
      · cases hf
    | @astray f hstrays hmalformed =>
      refine ⟨iff_of_false ?_ fun hsuits => hsuits.not_strays hstrays,
        iff_of_true ⟨f, rfl, hmalformed⟩ hstrays, fun g hg => ?_⟩
      · rintro ⟨t, ht⟩
        cases ht
      · obtain rfl := Except.error.inj hg
        exact hmalformed.mono (by simp)
    | @refused f hsuits hstrays hrefused =>
      refine ⟨iff_of_false ?_ hsuits, iff_of_false ?_ hstrays, fun g hg => ?_⟩
      · rintro ⟨t, ht⟩
        cases ht
      · rintro ⟨g, hg, hmalformed⟩
        obtain rfl := Except.error.inj hg
        exact not_isRefusalOf_malformed hrefused hmalformed
      · obtain rfl := Except.error.inj hg
        exact hrefused.mono (by simp [kinds])
  · obtain ⟨operation, expected, shown, hcall⟩ := result_call_of_not_takes hname hnot
    exact ⟨_, hcall, .arity, List.mem_singleton_self _, operation, expected, shown, rfl⟩

/-- A number behind a cell is a malformed sequence for parameters and a body that is refused for
braces, and a name that is a list is refused whatever stands behind it. -/
theorem call_fails_by_refusal_numberBehind :
    numberBehind.isWritable = true ∧
    (∃ f, (call (.text "indexedParams") [numberBehind]).result = .error f ∧
      f.IsRefusalOf [.malformedSequence]) ∧
    (¬∃ f, (call (.text "braced") [numberBehind]).result = .error f ∧
      f.IsRefusalOf [.malformedSequence]) ∧
    (∃ t, (call (.text "braced") [.list [.none, .int 5]]).result = .ok t) ∧
    ∃ f, (call (.list []) [numberBehind]).result = .error f ∧ f.IsRefusalOf [.arity] := by
  have hwritable : numberBehind.isWritable = true := by decide +kernel
  have hgiven : ∀ v ∈ [numberBehind], v.isWritable = true := List.forall_mem_singleton.mpr hwritable
  have hlist : ∀ v ∈ [Value.list [.none, .int 5]], v.isWritable = true :=
    List.forall_mem_singleton.mpr (by decide +kernel)
  have hbraced : Value.text? (.text "braced") >>= find? = some braced := by decide +kernel
  refine ⟨hwritable, ?_, ?_, ?_, ?_⟩
  · have hparams : Value.text? (.text "indexedParams") >>= find? = some params := by decide +kernel
    refine (((call_fails_by_refusal _ _).1 rfl).1 hgiven).2.1.mpr ?_
    exact ⟨params, numberBehind, hparams, .inl rfl, rfl, by simp [numberBehind, Value.unwind], rfl⟩
  · rw [(((call_fails_by_refusal _ _).1 rfl).1 hgiven).2.1, strays_iff hbraced]
    rintro ⟨hsequence | hsequence, -⟩
    all_goals cases hsequence
  · refine (((call_fails_by_refusal _ _).1 rfl).1 hlist).1.mpr ?_
    refine (suits_iff hbraced).mpr ⟨rfl, rfl, ?_⟩
    rintro (hsequence | hsequence)
    all_goals cases hsequence
  · exact ((call_fails_by_refusal _ _).1 rfl).2 fun op hop => by cases hop

end CHeaders.Operation
