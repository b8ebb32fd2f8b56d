import CHeaders.Proofs.Operation
import CHeaders.Proofs.Number.Decimal
import CHeaders.Proofs.Text.Replace
import Mathlib.Data.List.Nodup

/-!
# Names by place

Parameters and fields get their names from a number that is passed on from term to term, and
arguments and initializers from the numbers below a given one. In both ways the term or the item at
place `k` gets the name `_k`, so lists for the same terms name them alike. The pieces are joined by
a function that leaves empty ones out; as there is a name in each of them, none is left out.

## Main definitions

* `CHeaders.Indexed.placeName`: the name for a place.

## Main results

* `CHeaders.Indexed.declaratorsFrom_eq`: the declarators of terms, each with the name for its place.
* `CHeaders.Indexed.cut_names`: names are found again between commas.
* `CHeaders.Indexed.emitters_agree`: what is written for the same terms.
-/

namespace CHeaders.Indexed

/-- The name for the place `k`. -/
def placeName (k : Nat) : Text :=
  "_" ++ Decimal.ofNat k

/-- Different places have different names. -/
theorem placeName_injective : Function.Injective placeName := by
  intro j k h
  have hstring := congrArg Text.string? (Text.append_left_cancel h)
  rw [Text.string?_ofString, Text.string?_ofString] at hstring
  exact Decimal.digits_injective (String.ofList_injective (Option.some.inj hstring))

/-- There is no comma in a name. -/
theorem comma_not_mem_placeName (k : Nat) : Letter.char ',' ∉ (placeName k).letters := by
  have hletters : (placeName k).letters = .char '_' :: (Decimal.digits k).map Letter.char := by
    have hdigits : Text.ofString (Decimal.ofNat k) = Text.ofChars (Decimal.digits k) := by
      rw [Text.ofString, Decimal.ofNat, String.toList_ofList]
    rw [placeName, hdigits]
    rfl
  rw [hletters, List.mem_cons, not_or]
  refine ⟨by decide, fun hmem => ?_⟩
  obtain ⟨c, hc, hcomma⟩ := List.mem_map.mp hmem
  obtain rfl := Letter.char.inj hcomma
  exact absurd (Decimal.isDigit_of_mem_digits hc) (by decide)

/-- The names of the first places. -/
def placeNames (n : Nat) : List Text :=
  (List.range n).map placeName

/-- The names of the first places are different. -/
theorem nodup_placeNames (n : Nat) : (placeNames n).Nodup :=
  List.Nodup.map placeName_injective List.nodup_range

/-- Names are found again between commas. -/
theorem cut_names {n : Nat} (h : n ≠ 0) : Text.cut ", " (names n) = placeNames n := by
  refine Text.cut_join (l := .char ',') rfl (by simpa [placeNames] using h) ?_
  exact List.forall_mem_map.mpr fun k _ => comma_not_mem_placeName k

/-- No name is empty, so none is left out when names are joined. -/
theorem join_placeNames (n : Nat) :
    Fragment.join ", " ((placeNames n).map Value.fragment) = .ok (names n) := by
  have htexts : List.Forall₂ (fun v t => v.text? = some t) ((placeNames n).map Value.fragment)
      (placeNames n) :=
    List.forall₂_map_left_iff.mpr (List.forall₂_same.mpr fun _ _ => rfl)
  rw [Fragment.join_eq_ok ", " htexts, List.filter_eq_self.mpr]
  · rfl
  · exact List.forall_mem_map.mpr fun k _ => rfl

/-- The declarators of terms of which the first has the place `i`: each term has the name for its
place. -/
theorem declaratorsFrom_eq (ending : Text) (i : Nat) (ts : List Value) :
    declaratorsFrom ending i ts =
      ts.mapIdx fun k t => t.display ++ " " ++ placeName (i + k) ++ ending := by
  induction ts generalizing i with
  | nil => rfl
  | cons t ts ih =>
    rw [declaratorsFrom, List.mapIdx_cons]
    refine congrArg (declarator ending t i :: ·) ?_
    refine (ih (i + 1)).trans (congrArg (List.mapIdx · ts) ?_)
    funext k t
    rw [Nat.add_right_comm, Nat.add_assoc]

/-- Parameters have nothing behind their names. -/
theorem declarator_empty (t : Value) (k : Nat) :
    t.display ++ " " ++ placeName k ++ "" = t.display ++ " " ++ placeName k :=
  congrArg Text.mk (List.append_nil _)

/-- The number of terms is a count, if there is a list of so many names. -/
theorem count_ofNat (operation : String) (n : Nat) :
    count operation (.int n) = if Decimal.isWritable n then .ok n else .error .tooLong := rfl

/-- What is written for the same terms: the parameter and the field for the term at place `k` are
named `_k`, and so are the argument and the item of an initializer at place `k`. The empty cases
differ. Names are different, they are found again between commas, and none is left out when they
are joined.

Parameters and fields show the terms. If there is a number in a term with too many digits to be
written, then there are none of either. In the same way there are no lists of so many names that
their number could not be written.

**Proof sketch.** The traversal of the sequence writes the declarators from place to place, and
none of them is empty. The names are written for a range of places. Both name a place by its digits,
and digits are found again. -/
theorem emitters_agree (ts : List Value) :
    ∃ types, Sequence.ofValue (.list ts) = .ok types ∧
      (params types = if ts.all Value.isWritable then .ok (if ts.isEmpty then "(void)" else "(" ++
          Text.join ", " (ts.mapIdx fun k t => t.display ++ " " ++ placeName k) ++ ")")
        else .error (.tooManyDigits none)) ∧
      (fields types = if ts.all Value.isWritable then
          .ok (Text.join " " (ts.mapIdx fun k t => t.display ++ " " ++ placeName k ++ ";"))
        else .error (.tooManyDigits none)) ∧
      (args (.int ts.length) = if Decimal.isWritable ts.length then
          .ok (Text.join ", " (placeNames ts.length))
        else .error .tooLong) ∧
      (initializerList (.int ts.length) = if Decimal.isWritable ts.length then
          .ok (if ts.isEmpty then "\x7b0\x7d" else
            "\x7b" ++ Text.join ", " (placeNames ts.length) ++ "\x7d")
        else .error .tooLong) ∧
      Fragment.join ", " ((placeNames ts.length).map Value.fragment) =
        .ok (Text.join ", " (placeNames ts.length)) ∧
      (ts ≠ [] → Text.cut ", " (Text.join ", " (placeNames ts.length)) = placeNames ts.length) ∧
      (placeNames ts.length).Nodup := by
  have hfirst (ending : Text) : declaratorsFrom ending 0 ts =
      ts.mapIdx fun k t => t.display ++ " " ++ placeName k ++ ending := by
    have hplaces := declaratorsFrom_eq ending 0 ts
    simp only [Nat.zero_add] at hplaces
    exact hplaces
  refine ⟨Value.ofList ts, rfl, ?_, ?_, ?_, ?_, join_placeNames _, fun hne => ?_,
    nodup_placeNames _⟩
  · rw [params_ofList, hfirst]
    simp only [declarator_empty]
    rfl
  · rw [fields_ofList, hfirst]
    rfl
  · rw [args, count_ofNat]
    split <;> rfl
  · rw [initializerList, count_ofNat]
    split
    · cases ts <;> rfl
    · rfl
  · exact cut_names (by simpa using hne)

/-- Two terms, of which one is empty. -/
theorem emitters_agree_two :
    ∃ types, Sequence.ofValue (.list [.text "", .int 5]) = .ok types ∧
      params types = .ok "( _0, 5 _1)" ∧ fields types = .ok " _0; 5 _1;" ∧
      args (.int 2) = .ok "_0, _1" ∧ initializerList (.int 2) = .ok "\x7b_0, _1\x7d" ∧
      Text.cut ", " "_0, _1" = ["_0", "_1"] := by
  have hterms : [Value.text "", .int 5].all Value.isWritable = true := by decide +kernel
  have hcount : Decimal.isWritable [Value.text "", .int 5].length = true := by decide +kernel
  obtain ⟨types, htypes, hparams, hfields, hargs, hinit, -, hcut, -⟩ :=
    emitters_agree [.text "", .int 5]
  rw [if_pos hterms] at hparams hfields
  rw [if_pos hcount] at hargs hinit
  exact ⟨types, htypes, hparams, hfields, hargs, hinit, hcut (by simp)⟩

/-- A number that is too long to be written is no type: there are neither parameters nor fields for
it, though there is a name for its place. -/
theorem emitters_leastUnwritable :
    ∃ types, Sequence.ofValue (.list [.int Decimal.leastUnwritable]) = .ok types ∧
      params types = .error (.tooManyDigits none) ∧ fields types = .error (.tooManyDigits none) ∧
      args (.int 1) = .ok "_0" := by
  have hlong : [Value.int Decimal.leastUnwritable].all Value.isWritable = false := by
    rw [List.all_cons, Value.isWritable, Decimal.isWritable_leastUnwritable, Bool.false_and]
  have hone : Decimal.isWritable (1 : Nat) = true := by decide +kernel
  refine ⟨Value.ofList [.int Decimal.leastUnwritable], rfl, ?_, ?_, ?_⟩
  · rw [params_ofList, Fault.whenShown, hlong]
    rfl
  · rw [fields_ofList, Fault.whenShown, hlong]
    rfl
  · have hcount := count_ofNat "indexedArgs" 1
    rw [if_pos hone] at hcount
    change (count "indexedArgs" (.int (1 : Nat))).map names = _
    rw [hcount]
    rfl

end CHeaders.Indexed
