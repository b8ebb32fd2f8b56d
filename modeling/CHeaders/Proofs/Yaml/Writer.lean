import CHeaders.Proofs.Result
import CHeaders.Proofs.Value.Equality
import CHeaders.Yaml.Reader
import CHeaders.Yaml.Writer

/-!
# What can be written in YAML

A value is written in YAML if all its parts have a form and none of its numbers is too long. If only
forms are missing, the first part without one is refused.

## Main definitions

* `CHeaders.Yaml.formless`: the parts of a value that have no form.
* `CHeaders.Yaml.Inverts`: what is written of a document is read as that document.

## Main results

* `CHeaders.Yaml.check_eq`: the first part without a form is refused.
* `CHeaders.Yaml.check_eq_ok_iff`: the values that have a form.
* `CHeaders.Yaml.inverts_of_readsBack`: whether a document is read as itself can be tried out.
-/

namespace CHeaders.Yaml

/-! ## Parts without a form -/

mutual

/-- The parts of a value that have no form, in the order in which they are met. -/
def formless : Value → List Value
  | .none | .bool _ | .real _ | .text _ | .bytes _ | .moment _ | .cycle _ _ | .int _ => []
  | .list items | .tuple items | .set items => allFormless items
  | .dict entries => entriesFormless entries
  | .shared _ v => formless v
  | v => [v]

/-- The parts of several values that have no form. -/
def allFormless : List Value → List Value
  | [] => []
  | v :: vs => formless v ++ allFormless vs

/-- The parts of the entries of a mapping that have no form. -/
def entriesFormless : List (Value × Value) → List Value
  | [] => []
  | (k, v) :: es => formless k ++ formless v ++ entriesFormless es

end

/-- The parts of several values are the parts of each of them. -/
theorem allFormless_eq_flatMap (vs : List Value) : allFormless vs = vs.flatMap formless := by
  induction vs with
  | nil => rfl
  | cons v vs ih => rw [allFormless, ih, List.flatMap_cons]

/-- What is said about a value with the given parts without a form. -/
def verdict : List Value → Except Fault Unit
  | [] => .ok ()
  | v :: _ => .error (.notYaml v)

/-- The parts that come first are refused first. -/
theorem verdict_append (vs ws : List Value) :
    verdict (vs ++ ws) = (verdict vs >>= fun _ => verdict ws) := by
  cases vs <;> rfl

/-- Nothing is refused if no part is without a form. -/
theorem verdict_eq_ok_iff {vs : List Value} : verdict vs = .ok () ↔ vs = [] := by
  cases vs <;> simp [verdict]

mutual

/-- If its numbers can be written, a value is refused for its first part without a form. -/
theorem check_eq : ∀ v : Value, v.isWritable = true → check v = verdict (formless v)
  | .none | .bool _ | .real _ | .text _ | .bytes _ | .moment _ | .cycle _ _ => fun _ => rfl
  | .int n => fun h => by
    rw [check, Fault.whenShown_ok (by rw [List.all_cons, h]; rfl)]
    rfl
  | .list items | .tuple items | .set items => fun h => by
    rw [check, formless]
    exact checkAll_eq items h
  | .dict entries => fun h => by
    rw [check, formless]
    exact checkEntries_eq entries h
  | .shared _ v => fun h => by
    rw [check, formless]
    exact check_eq v h
  | .fragment _ | .nil | .cons _ _ | .foreign _ | .call _ _ | .declaration _ _ | .plan _ _ _ _
  | .step _ _ | .position _ _ _ | .symbolKey _ _ _ | .callable _ _ _ _ => fun _ => rfl

/-- The same for several values. -/
theorem checkAll_eq : ∀ vs : List Value, Value.allWritable vs = true →
    checkAll vs = verdict (allFormless vs)
  | [] => fun _ => rfl
  | v :: vs => fun h => by
    rw [Value.allWritable, Bool.and_eq_true] at h
    rw [checkAll, check_eq v h.1, checkAll_eq vs h.2, allFormless, verdict_append]

/-- The same for entries. -/
theorem checkEntries_eq : ∀ es : List (Value × Value), Value.entriesWritable es = true →
    checkEntries es = verdict (entriesFormless es)
  | [] => fun _ => rfl
  | (k, v) :: es => fun h => by
    rw [Value.entriesWritable, Bool.and_eq_true, Bool.and_eq_true] at h
    rw [checkEntries, check_eq k h.1.1, check_eq v h.1.2, checkEntries_eq es h.2, entriesFormless,
      List.append_assoc, verdict_append, verdict_append]

end

mutual

/-- The numbers of a value that is not refused can be written. -/
theorem isWritable_of_check : ∀ v : Value, check v = .ok () → v.isWritable = true
  | .none | .bool _ | .real _ | .text _ | .bytes _ | .moment _ | .cycle _ _ => fun _ => rfl
  | .int n => fun h => by
    by_contra hlong
    simp [check, Fault.whenShown, hlong] at h
  | .list items | .tuple items | .set items => fun h => by
    rw [check] at h
    rw [Value.isWritable]
    exact allWritable_of_checkAll items h
  | .dict entries => fun h => by
    rw [check] at h
    rw [Value.isWritable]
    exact entriesWritable_of_checkEntries entries h
  | .shared _ v => fun h => by
    rw [check] at h
    rw [Value.isWritable]
    exact isWritable_of_check v h
  | .fragment _ | .nil | .cons _ _ | .foreign _ | .call _ _ | .declaration _ _ | .plan _ _ _ _
  | .step _ _ | .position _ _ _ | .symbolKey _ _ _ | .callable _ _ _ _ => fun h => nomatch h

/-- The same for several values. -/
theorem allWritable_of_checkAll : ∀ vs : List Value, checkAll vs = .ok () →
    Value.allWritable vs = true
  | [] => fun _ => rfl
  | v :: vs => fun h => by
    rw [checkAll, bind_eq_ok_iff] at h
    obtain ⟨_, hv, hvs⟩ := h
    rw [Value.allWritable, isWritable_of_check v hv, allWritable_of_checkAll vs hvs, Bool.and_self]

/-- The same for entries. -/
theorem entriesWritable_of_checkEntries : ∀ es : List (Value × Value),
    checkEntries es = .ok () → Value.entriesWritable es = true
  | [] => fun _ => rfl
  | (k, v) :: es => fun h => by
    rw [checkEntries, bind_eq_ok_iff] at h
    obtain ⟨_, hk, h⟩ := h
    rw [bind_eq_ok_iff] at h
    obtain ⟨_, hv, hes⟩ := h
    rw [Value.entriesWritable, isWritable_of_check k hk, isWritable_of_check v hv,
      entriesWritable_of_checkEntries es hes, Bool.and_self, Bool.and_self]

end

/-- A value has a form if all its parts have one and its numbers can be written. -/
theorem check_eq_ok_iff {v : Value} :
    check v = .ok () ↔ formless v = [] ∧ v.isWritable = true := by
  constructor
  · intro h
    have hwritable := isWritable_of_check v h
    rw [check_eq v hwritable, verdict_eq_ok_iff] at h
    exact ⟨h, hwritable⟩
  · rintro ⟨hforms, hwritable⟩
    rw [check_eq v hwritable, verdict_eq_ok_iff]
    exact hforms

/-- Exactly the values that have a form are written. -/
theorem write_eq_ok_iff {v : Value} : (∃ s, write v = .ok s) ↔ check v = .ok () := by
  constructor
  · rintro ⟨s, h⟩
    rw [write, bind_eq_ok_iff] at h
    obtain ⟨_, hcheck, -⟩ := h
    exact hcheck
  · intro h
    rw [write, h]
    exact ⟨_, rfl⟩

/-- What is refused is refused in writing. -/
theorem write_of_check {v : Value} {f : Fault} (h : check v = .error f) : write v = .error f := by
  rw [write, h]
  rfl

/-! ## Reading what was written -/

/-- What is written of the document is read as that document. -/
def Inverts (d : Value) : Prop :=
  ∀ s, write d = .ok s → parse (Text.ofString s) = .ok d

mutual

/-- Whether two documents are the same. Scalars of the kinds that plans hold, lists and mappings are
compared. -/
def same : Value → Value → Bool
  | .none, .none => true
  | .int m, .int n => m == n
  | .text s, .text t => s == t
  | .list xs, .list ys => sameAll xs ys
  | .dict es, .dict fs => sameEntries es fs
  | _, _ => false

/-- The same for lists. -/
def sameAll : List Value → List Value → Bool
  | [], [] => true
  | x :: xs, y :: ys => same x y && sameAll xs ys
  | _, _ => false

/-- The same for entries. -/
def sameEntries : List (Value × Value) → List (Value × Value) → Bool
  | [], [] => true
  | (k, v) :: es, (l, w) :: fs => same k l && same v w && sameEntries es fs
  | _, _ => false

end

mutual

/-- Documents that are the same are equal. -/
theorem eq_of_same : ∀ {v w : Value}, same v w = true → v = w
  | .none, w, h => by cases w <;> simp_all [same]
  | .int m, w, h => by cases w <;> simp_all [same]
  | .text s, w, h => by cases w <;> simp_all [same]
  | .list xs, w, h => by
    cases w with
    | list ys => exact congrArg _ (eq_of_sameAll h)
    | _ => simp [same] at h
  | .dict es, w, h => by
    cases w with
    | dict fs => exact congrArg _ (eq_of_sameEntries h)
    | _ => simp [same] at h

/-- The same for lists. -/
theorem eq_of_sameAll : ∀ {xs ys : List Value}, sameAll xs ys = true → xs = ys
  | [], [], _ => rfl
  | [], _ :: _, h | _ :: _, [], h => by simp [sameAll] at h
  | x :: xs, y :: ys, h => by
    rw [sameAll, Bool.and_eq_true] at h
    rw [eq_of_same h.1, eq_of_sameAll h.2]

/-- The same for entries. -/
theorem eq_of_sameEntries : ∀ {es fs : List (Value × Value)}, sameEntries es fs = true → es = fs
  | [], [], _ => rfl
  | [], _ :: _, h | _ :: _, [], h => by simp [sameEntries] at h
  | (k, v) :: es, (l, w) :: fs, h => by
    rw [sameEntries, Bool.and_eq_true, Bool.and_eq_true] at h
    rw [eq_of_same h.1.1, eq_of_same h.1.2, eq_of_sameEntries h.2]

end

/-- Whether the document is read as itself after it was written. -/
def readsBack (d : Value) : Bool :=
  match write d with
  | .ok s =>
    match parse (Text.ofString s) with
    | .ok d' => same d' d
    | .error _ => false
  | .error _ => true

/-- What was tried out holds. -/
theorem inverts_of_readsBack {d : Value} (h : readsBack d = true) : Inverts d := by
  intro s hs
  rw [readsBack, hs] at h
  split at h
  case h_1 s' hs' =>
    obtain rfl := Except.ok.inj hs'
    split at h
    case h_1 d' hd' => rw [hd', eq_of_same h]
    case h_2 => cases h
  case h_2 hs' => cases hs'

end CHeaders.Yaml
