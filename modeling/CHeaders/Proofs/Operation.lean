import CHeaders.Operation
import CHeaders.Proofs.Fragment
import CHeaders.Proofs.Result
import CHeaders.Proofs.Text.Blank

/-!
# What operations accept

Each operation checks what it is given and then writes its text. This module says which values an
operation admits, that it refuses all others and shows one of them, and when what it writes holds
anything.

## Main definitions

* `CHeaders.Operation.admits`: the values that an operation accepts.
* `CHeaders.Operation.leavesBlank`: the values for which an operation writes nothing.

## Main results

* `CHeaders.Operation.run_spec`: an operation writes a text if it admits what it is given, and
  refuses it otherwise.
* `CHeaders.Operation.result_call`, `CHeaders.Operation.judged_call`: a call by name.
-/

namespace CHeaders

/-! ## Sequences -/

/-- Generated pieces that hold something are joined as they are, with an empty one behind them. -/
theorem Fragment.join_fragments (separator : Text) {ts : List Text}
    (h : ∀ t ∈ ts, t.isEmpty = false) :
    Fragment.join separator (ts.map Value.fragment ++ [Value.fragment ""]) =
      .ok (Text.join separator ts) := by
  have htexts : List.Forall₂ (fun v t => v.text? = some t)
      (ts.map Value.fragment ++ [Value.fragment ""]) (ts ++ [("" : Text)]) := by
    refine List.rel_append ?_ (.cons rfl .nil)
    exact List.forall₂_map_left_iff.mpr (List.forall₂_same.mpr fun _ _ => rfl)
  have hkept : (ts ++ [("" : Text)]).filter (fun t => !t.isEmpty) = ts := by
    rw [List.filter_append, List.filter_eq_self.mpr (by simpa using h)]
    exact List.append_nil ts
  rw [Fragment.join_eq_ok separator htexts, hkept]

namespace Indexed

/-- A declarator holds something. -/
theorem isInhabited_declarator (ending : Text) (v : Value) (i : Int) :
    Text.isInhabited (declarator ending v i) = true := by
  have hname : Text.isInhabited (name (.int i)) = true := by
    rw [name, Text.isInhabited_append]
    rfl
  simp [declarator, hname]

/-- Declarators hold something. -/
theorem isInhabited_of_mem_declaratorsFrom {ending : Text} {i : Int} {vs : List Value} :
    ∀ t ∈ declaratorsFrom ending i vs, Text.isInhabited t = true := by
  induction vs generalizing i with
  | nil => simp [declaratorsFrom]
  | cons v vs ih =>
    exact List.forall_mem_cons.mpr ⟨isInhabited_declarator ending v i, ih⟩

/-- The declarators of a sequence are joined, and show its terms. -/
theorem traverse_declarators (ending separator : Text) (operation : String) (vs : List Value) :
    (traverse (Value.ofList vs) (declarators ending) [.int 0] separator operation).result =
      Fault.whenShown vs (.ok (Text.join separator (declaratorsFrom ending 0 vs))) := by
  have hjoin : Fragment.join separator
      ((declaratorsFrom ending 0 vs).map Value.fragment ++ [Value.fragment ""]) =
      .ok (Text.join separator (declaratorsFrom ending 0 vs)) :=
    Fragment.join_fragments separator fun t ht =>
      Text.isEmpty_eq_false (isInhabited_of_mem_declaratorsFrom t ht)
  rw [traverse, if_pos (Sequence.isSequence_ofList vs)]
  change (pieces operation onNil (onCons ending) [.int 0] (Value.ofList vs)).result.bind
    (Fragment.join separator) = _
  rw [pieces_declarators]
  simp only [Fault.whenShown]
  split
  · exact hjoin
  · rfl

/-- The fields of a sequence show its terms. -/
theorem fields_ofList (vs : List Value) :
    fields (Value.ofList vs) =
      Fault.whenShown vs (.ok (Text.join " " (declaratorsFrom ";" 0 vs))) := by
  rw [fields, if_pos (Sequence.isSequence_ofList vs), traverse_declarators]

/-- The parameters of a sequence show its terms. -/
theorem params_ofList (vs : List Value) :
    params (Value.ofList vs) =
      Fault.whenShown vs (.ok (if vs.isEmpty then "(void)"
        else "(" ++ Text.join ", " (declaratorsFrom "" 0 vs) ++ ")" : Text)) := by
  cases vs with
  | nil => rfl
  | cons v vs =>
    change ((traverse (Value.ofList (v :: vs)) (declarators "") [.int 0] ", "
      "indexedParams").result >>= fun list => .ok ("(" ++ list ++ ")")) = _
    rw [traverse_declarators, Fault.whenShown_bind]
    rfl

end Indexed

/-- A list of names begins with the first one. -/
theorem Indexed.isInhabited_names (n : Nat) :
    Text.isInhabited (Indexed.names n) = (n != 0) := by
  cases n with
  | zero => rfl
  | succ n =>
    rw [Indexed.names, List.range_succ_eq_map, List.map_cons]
    exact Text.isInhabited_join rfl

/-! ## Operations -/

/-- The fault is a refusal of one of the kinds. -/
def Fault.IsRefusalOf (kinds : List Refusal) (f : Fault) : Prop :=
  ∃ kind ∈ kinds, ∃ operation expected given, f = .refused kind operation expected given

/-- A refusal of one of several kinds is one of more kinds. -/
theorem Fault.IsRefusalOf.mono {kinds kinds' : List Refusal} {f : Fault} (h : f.IsRefusalOf kinds)
    (hkinds : kinds ⊆ kinds') : f.IsRefusalOf kinds' := by
  obtain ⟨kind, hkind, h⟩ := h
  exact ⟨kind, hkinds hkind, h⟩

/-- A value that can be written is refused, as one of the kinds to which the refusal belongs. -/
theorem Fault.isRefusalOf_refusal {kinds : List Refusal} {kind : Refusal} (hkind : kind ∈ kinds)
    (operation expected : String) {given : Value} (h : given.isWritable = true) :
    (Fault.refusal kind operation expected given).IsRefusalOf kinds := by
  rw [Fault.refusal_of_isWritable h]
  exact ⟨kind, hkind, operation, expected, given, rfl⟩

namespace Operation

/-- Whether a value is a text that holds something. -/
def isInhabitedText (v : Value) : Bool :=
  v.text?.any Text.isInhabited

/-- Whether a value is a number that counts something. -/
def isCount : Value → Bool
  | .int n => 0 ≤ n
  | _ => false

/-- Whether an operation accepts the values that it is given. -/
def admits : Operation → List Value → Bool
  | braced, [body] | anonymous _, [body] => !body.isSequence
  | typedef, [name, body] | tagged _, [name, body] => isInhabitedText name && !body.isSequence
  | params, [types] | fields, [types] => types.isSequence
  | initializerList, [n] | args, [n] => isCount n
  | introduceVars, d :: ds => (d :: ds).all isInhabitedText
  | introduceNonNull, [type, name, init] => [type, name, init].all isInhabitedText
  | chainExpr, [expr] => isInhabitedText expr
  | _, _ => false

/-- Whether an operation writes nothing for the values that it is given. -/
def leavesBlank : Operation → List Value → Bool
  | fields, [.nil] => true
  | args, [.int n] => n == 0
  | _, _ => false

/-- The values that terms stand for: texts, numbers and well formed sequences. -/
inductive IsGiven : Value → Prop
  | text (s : Text) : IsGiven (.text s)
  | fragment (s : Text) : IsGiven (.fragment s)
  | int (n : Int) : IsGiven (.int n)
  | sequence (vs : List Value) : IsGiven (Value.ofList vs)

/-- The kinds of the refusals of operations. -/
def kinds : List Refusal := [.arity, .typeMismatch]

/-- An operation that admits what it is given writes a text, which is blank only in known cases, if
all that it is given can be written. If it fails for values that can be written, then it refuses one
of them. -/
def Answers (op : Operation) (vs : List Value) : Except Fault Text → Prop
  | .ok r => op.admits vs = true ∧ vs.all Value.isWritable = true ∧
      Text.isInhabited r = !op.leavesBlank vs
  | .error f => (op.admits vs && vs.all Value.isWritable) = false ∧
      (vs.all Value.isWritable = true →
        ∃ v ∈ vs, ∃ kind ∈ kinds, ∃ operation expected, f = .refused kind operation expected v)

/-- An operation may refuse one of the values if it does not admit them. -/
theorem answers_refusal {op : Operation} {vs : List Value} {v : Value} {kind : Refusal}
    (hadmits : op.admits vs = false) (hv : v ∈ vs) (hkind : kind ∈ kinds)
    (operation expected : String) :
    Answers op vs (.error (.refusal kind operation expected v)) := by
  refine ⟨by rw [hadmits, Bool.false_and], fun hshown => ?_⟩
  exact ⟨v, hv, kind, hkind, operation, expected,
    Fault.refusal_of_isWritable (List.all_eq_true.mp hshown v hv) ..⟩

/-- An operation that admits the values may show those of them that need not be writable. -/
theorem answers_whenShown {op : Operation} {vs shown : List Value} {r : Text}
    (hadmits : op.admits vs = true)
    (hshown : vs.all Value.isWritable = shown.all Value.isWritable)
    (hblank : Text.isInhabited r = !op.leavesBlank vs) :
    Answers op vs (Fault.whenShown shown (.ok r)) := by
  cases hall : shown.all Value.isWritable with
  | false =>
    rw [Fault.whenShown, hall]
    have hnot : vs.all Value.isWritable = false := hshown.trans hall
    exact ⟨by rw [hnot, Bool.and_false], fun h => absurd (hnot.symm.trans h) (by decide)⟩
  | true =>
    rw [Fault.whenShown_ok hall]
    exact ⟨hadmits, hshown.trans hall, hblank⟩

/-- A text with something in it can be written. -/
theorem isWritable_of_isInhabitedText {v : Value} (h : isInhabitedText v = true) :
    v.isWritable = true := by
  refine Value.isWritable_of_text ?_
  rw [isInhabitedText] at h
  cases htext : v.text? with
  | none =>
    rw [htext] at h
    cases h
  | some t => rfl

/-- The text of a value that has to be a text with something in it. -/
theorem requireText_eq (operation expected : String) (v : Value) :
    Statement.requireText operation expected v =
      if isInhabitedText v then .ok (Text.trim v.display)
      else .error (.refusal .arity operation expected v) := by
  rw [Statement.requireText, isInhabitedText]
  cases htext : v.text? with
  | none => rfl
  | some t =>
    rw [Value.display_of_text? htext]
    rfl

/-- Braces hold something. -/
theorem isInhabited_inBraces (t : Text) : Text.isInhabited (Wrapper.inBraces t) = true := by
  have hbrace : Text.isInhabited "\x7b" = true := rfl
  simp [Wrapper.inBraces, hbrace]

/-- A tag has to be a text with something in it. -/
theorem checkName_eq (operation : String) (name : Value) :
    Wrapper.checkName operation name =
      if isInhabitedText name then .ok name
      else .error (.refusal .typeMismatch operation "a non-empty name string" name) := by
  rw [Wrapper.checkName, isInhabitedText]
  cases name.text? <;> rfl

/-- The head of a type with a tag. -/
theorem head_tagged (keyword : Wrapper.Keyword) {name : Value} (h : isInhabitedText name = true) :
    Wrapper.head keyword.text (.text keyword.text) name =
      .ok (keyword.text ++ " " ++ name.display) := by
  cases name <;> simp_all [isInhabitedText, Value.text?] <;> rfl

/-- What is put between braces without a tag: the body is shown, unless it is a sequence, which is
refused. -/
theorem answers_wrap {op : Operation} {operation : String} {keyword body : Value} {front : Text}
    (hhead : Wrapper.head operation keyword .none = .ok front)
    (hadmits : op.admits [body] = !body.isSequence) (hblank : op.leavesBlank [body] = false) :
    Answers op [body] (Wrapper.wrap operation keyword .none body) := by
  cases hbody : body.isSequence with
  | false =>
    rw [Wrapper.wrap_eq hbody hhead]
    exact answers_whenShown (by rw [hadmits, hbody]; rfl) rfl
      (by simp [isInhabited_inBraces, hblank])
  | true =>
    rw [Wrapper.wrap_of_isSequence hbody]
    exact answers_refusal (by rw [hadmits, hbody]; rfl) List.mem_cons_self (by decide) ..

/-- A type with a tag. -/
theorem answers_tagged (keyword : Wrapper.Keyword) (name body : Value) :
    Answers (tagged keyword) [name, body] (Wrapper.tagged keyword name body) := by
  rw [Wrapper.tagged, checkName_eq]
  cases hname : isInhabitedText name with
  | false => exact answers_refusal (by simp [admits, hname]) List.mem_cons_self (by decide) ..
  | true =>
    change Answers _ _ (Wrapper.wrap _ _ name body)
    cases hbody : body.isSequence with
    | false =>
      rw [Wrapper.wrap_eq hbody (head_tagged keyword hname)]
      exact answers_whenShown (by simp [admits, hname, hbody])
        (by simp [isWritable_of_isInhabitedText hname])
        (by simp [isInhabited_inBraces, leavesBlank])
    | true =>
      rw [Wrapper.wrap_of_isSequence hbody]
      exact answers_refusal (by simp [admits, hbody]) (by simp) (by decide) ..

/-- A name for a type. -/
theorem answers_typedef (name body : Value) :
    Answers typedef [name, body] (Wrapper.typedef name body) := by
  rw [Wrapper.typedef, checkName_eq]
  cases hname : isInhabitedText name with
  | false => exact answers_refusal (by simp [admits, hname]) List.mem_cons_self (by decide) ..
  | true =>
    change Answers _ _ (Wrapper.checkBody "typedef" body >>= fun body =>
      body.written >>= fun text => .ok ("typedef " ++ text ++ " " ++ name.display ++ ";"))
    have hkeyword : Text.isInhabited "typedef " = true := rfl
    rw [Wrapper.checkBody]
    cases hbody : body.isSequence with
    | false =>
      change Answers _ _ (Fault.whenShown [body] (.ok body.display) >>= fun text =>
        .ok ("typedef " ++ text ++ " " ++ name.display ++ ";"))
      rw [Fault.whenShown_bind]
      exact answers_whenShown (by simp [admits, hname, hbody])
        (by simp [isWritable_of_isInhabitedText hname]) (by simp [hkeyword, leavesBlank])
    | true => exact answers_refusal (by simp [admits, hbody]) (by simp) (by decide) ..

/-- The parameters of a sequence. -/
theorem answers_params {types : Value} (h : IsGiven types) :
    Answers params [types] (Indexed.params types) := by
  cases h with
  | text s | fragment s | int n =>
    exact answers_refusal rfl List.mem_cons_self (by decide) ..
  | sequence vs =>
    rw [Indexed.params_ofList]
    refine answers_whenShown ?_ (by simp [Value.isWritable_ofList]) ?_
    · exact Sequence.isSequence_ofList vs
    · have hopen : Text.isInhabited "(" = true := rfl
      cases vs with
      | nil => rfl
      | cons v vs => simp [hopen, leavesBlank]

/-- The fields of a sequence. -/
theorem answers_fields {types : Value} (h : IsGiven types) :
    Answers fields [types] (Indexed.fields types) := by
  cases h with
  | text s | fragment s | int n =>
    exact answers_refusal rfl List.mem_cons_self (by decide) ..
  | sequence vs =>
    rw [Indexed.fields_ofList]
    refine answers_whenShown ?_ (by simp [Value.isWritable_ofList]) ?_
    · exact Sequence.isSequence_ofList vs
    · cases vs with
      | nil => rfl
      | cons v vs =>
        rw [Indexed.declaratorsFrom, Text.isInhabited_join (Indexed.isInhabited_declarator ..)]
        rfl

/-- A count is a number of names if it can be written, and what counts nothing is refused. -/
theorem count_cases (operation : String) (n : Value) :
    (isCount n = true ∧ n.isWritable = true ∧ ∃ k : Nat, n = .int k ∧
      Indexed.count operation n = .ok k) ∨
    (isCount n = true ∧ n.isWritable = false ∧ Indexed.count operation n = .error .tooLong) ∨
    (isCount n = false ∧ ∃ expected,
      Indexed.count operation n = .error (.refusal .typeMismatch operation expected n)) := by
  cases n with
  | int n =>
    cases n with
    | ofNat k =>
      have hcount : isCount (.int (.ofNat k)) = true := by simp [isCount]
      rw [Indexed.count]
      cases hwritable : (Value.int (.ofNat k)).isWritable with
      | false => exact .inr (.inl ⟨hcount, rfl, rfl⟩)
      | true => exact .inl ⟨hcount, rfl, k, rfl, rfl⟩
    | negSucc k => exact .inr (.inr ⟨by simp [isCount], _, rfl⟩)
  | _ => exact .inr (.inr ⟨rfl, _, rfl⟩)

/-- What is written for a count, if there are so many names. -/
theorem answers_count {op : Operation} {n : Value} (operation : String) {write : Nat → Text}
    (hadmits : op.admits [n] = isCount n)
    (hblank : ∀ k : Nat, n = .int k → Text.isInhabited (write k) = !op.leavesBlank [n]) :
    Answers op [n] ((Indexed.count operation n).map write) := by
  obtain ⟨hn, hwritable, k, hk, hcount⟩ | ⟨hn, hwritable, hcount⟩ | ⟨hn, expected, hcount⟩ :=
    count_cases operation n
  · rw [hcount]
    exact ⟨hadmits.trans hn, by simp [hwritable], hblank k hk⟩
  · rw [hcount]
    exact ⟨by simp [hwritable], fun h => absurd h (by simp [hwritable])⟩
  · rw [hcount]
    exact answers_refusal (hadmits.trans hn) List.mem_cons_self (by decide) ..

/-- An initializer with a number of names. -/
theorem answers_initializerList (n : Value) :
    Answers initializerList [n] (Indexed.initializerList n) := by
  have hmap : Indexed.initializerList n = (Indexed.count "indexedInitializerList" n).map fun k =>
      Wrapper.inBraces (if k = 0 then "0" else Indexed.names k) := rfl
  rw [hmap]
  exact answers_count _ rfl fun _ _ => isInhabited_inBraces _

/-- A number of names. -/
theorem answers_args (n : Value) : Answers args [n] (Indexed.args n) := by
  refine answers_count "indexedArgs" rfl fun k hk => ?_
  rw [hk, Indexed.isInhabited_names, leavesBlank]
  cases k <;> rfl

/-- An opening between pragmas holds something. -/
theorem isInhabited_finish (opening : Text) :
    Text.isInhabited (Statement.finish opening true) = true := by
  have hpragma : Text.isInhabited (Statement.pragma "push") = true := rfl
  simp [Statement.finish, Statement.shadows, hpragma]

/-- Texts with something in them can be written. -/
theorem all_isWritable_of_isInhabitedText {vs : List Value} (h : vs.all isInhabitedText = true) :
    vs.all Value.isWritable = true :=
  List.all_eq_true.mpr fun v hv => isWritable_of_isInhabitedText (List.all_eq_true.mp h v hv)

/-- Texts that all have to hold something. -/
theorem mapM_requireText (operation expected : String) (vs : List Value) :
    (vs.all isInhabitedText = true ∧ vs.mapM (Statement.requireText operation expected) =
      .ok (vs.map fun v => Text.trim v.display)) ∨
    (vs.all isInhabitedText = false ∧ ∃ v ∈ vs,
      vs.mapM (Statement.requireText operation expected) =
        .error (.refusal .arity operation expected v)) := by
  induction vs with
  | nil => exact .inl ⟨rfl, rfl⟩
  | cons v vs ih =>
    rw [List.mapM_cons, requireText_eq, List.all_cons]
    cases hv : isInhabitedText v with
    | false => exact .inr ⟨rfl, v, List.mem_cons_self, rfl⟩
    | true =>
      obtain ⟨hall, hwalk⟩ | ⟨hall, w, hw, hwalk⟩ := ih
      · rw [hwalk]
        exact .inl ⟨hall, rfl⟩
      · rw [hwalk]
        exact .inr ⟨hall, w, List.mem_cons_of_mem v hw, rfl⟩

/-- An opening is written for texts that hold something. -/
theorem answers_finish {op : Operation} {vs : List Value} (opening : Text)
    (hadmits : op.admits vs = true) (htexts : vs.all isInhabitedText = true)
    (hblank : op.leavesBlank vs = false) :
    Answers op vs (.ok (Statement.finish opening true)) :=
  ⟨hadmits, all_isWritable_of_isInhabitedText htexts, by rw [isInhabited_finish, hblank]; rfl⟩

/-- An opening that introduces variables. -/
theorem answers_introduceVars (v : Value) (vs : List Value) :
    Answers introduceVars (v :: vs) (Statement.introduceVars (v :: vs) true) := by
  change Answers _ _ ((v :: vs).mapM
    (Statement.requireText "introduceVarToStmt" "a non-empty declaration") >>= fun texts =>
      .ok (Statement.finish (Statement.varsLoop texts) true))
  obtain ⟨hall, hwalk⟩ | ⟨hall, w, hw, hwalk⟩ := mapM_requireText _ _ (v :: vs)
  · rw [hwalk]
    exact answers_finish _ hall hall rfl
  · rw [hwalk]
    refine answers_refusal ?_ hw (by decide) ..
    exact hall

/-- An opening that introduces a pointer. -/
theorem answers_introduceNonNull (type name init : Value) :
    Answers introduceNonNull [type, name, init]
      (Statement.introduceNonNull type name init true) := by
  rw [Statement.introduceNonNull, requireText_eq, requireText_eq, requireText_eq]
  cases htype : isInhabitedText type with
  | false => exact answers_refusal (by simp [admits, htype]) (by simp) (by decide) ..
  | true =>
    cases hname : isInhabitedText name with
    | false => exact answers_refusal (by simp [admits, hname]) (by simp) (by decide) ..
    | true =>
      cases hinit : isInhabitedText init with
      | false => exact answers_refusal (by simp [admits, hinit]) (by simp) (by decide) ..
      | true =>
        have htexts : [type, name, init].all isInhabitedText = true := by simp [htype, hname, hinit]
        exact answers_finish _ htexts htexts rfl

/-- An opening that evaluates an expression. -/
theorem answers_chainExpr (expr : Value) :
    Answers chainExpr [expr] (Statement.chainExpr expr true) := by
  rw [Statement.chainExpr, requireText_eq]
  cases hexpr : isInhabitedText expr with
  | false =>
    refine answers_refusal ?_ List.mem_cons_self (by decide) ..
    exact hexpr
  | true => exact answers_finish _ hexpr (by simp [hexpr]) rfl

/-- An operation with one argument takes one value. -/
theorem eq_singleton_of_takes {op : Operation} (hop : op.arity = some 1) {vs : List Value}
    (h : op.takes vs.length = true) : ∃ v, vs = [v] := by
  rw [takes, hop] at h
  exact List.length_eq_one_iff.mp (by simpa using h)

/-- An operation with two arguments takes two values. -/
theorem eq_pair_of_takes {op : Operation} (hop : op.arity = some 2) {vs : List Value}
    (h : op.takes vs.length = true) : ∃ v w, vs = [v, w] := by
  rw [takes, hop] at h
  exact List.length_eq_two.mp (by simpa using h)

/-- An operation with three arguments takes three values. -/
theorem eq_triple_of_takes {op : Operation} (hop : op.arity = some 3) {vs : List Value}
    (h : op.takes vs.length = true) : ∃ u v w, vs = [u, v, w] := by
  rw [takes, hop] at h
  exact List.length_eq_three.mp (by simpa using h)

/-- An operation with any number of arguments takes at least one value. -/
theorem eq_cons_of_takes {op : Operation} (hop : op.arity = none) {vs : List Value}
    (h : op.takes vs.length = true) : ∃ v ws, vs = v :: ws := by
  rw [takes, hop] at h
  exact List.exists_cons_of_ne_nil (by simpa using h)

/-- An operation that is given as many values as it takes writes a text if it admits them and they
can be written, and otherwise refuses one of them if they can. What it goes through has to be a
value that a term stands for.

**Proof sketch.** One case for each operation. The number of arguments fixes the shape of the list;
for each operation the checks are made in order, and the first that fails shows what it was
given. -/
theorem run_spec (op : Operation) {vs : List Value}
    (hvs : op = params ∨ op = fields → ∀ v ∈ vs, IsGiven v)
    (htakes : op.takes vs.length = true) : Answers op vs (op.run vs) := by
  cases op with
  | braced =>
    obtain ⟨body, rfl⟩ := eq_singleton_of_takes rfl htakes
    exact answers_wrap rfl rfl rfl
  | anonymous keyword =>
    obtain ⟨body, rfl⟩ := eq_singleton_of_takes rfl htakes
    exact answers_wrap rfl rfl rfl
  | typedef =>
    obtain ⟨name, body, rfl⟩ := eq_pair_of_takes rfl htakes
    exact answers_typedef name body
  | tagged keyword =>
    obtain ⟨name, body, rfl⟩ := eq_pair_of_takes rfl htakes
    exact answers_tagged keyword name body
  | params =>
    obtain ⟨types, rfl⟩ := eq_singleton_of_takes rfl htakes
    exact answers_params (hvs (.inl rfl) types (by simp))
  | fields =>
    obtain ⟨types, rfl⟩ := eq_singleton_of_takes rfl htakes
    exact answers_fields (hvs (.inr rfl) types (by simp))
  | initializerList =>
    obtain ⟨n, rfl⟩ := eq_singleton_of_takes rfl htakes
    exact answers_initializerList n
  | args =>
    obtain ⟨n, rfl⟩ := eq_singleton_of_takes rfl htakes
    exact answers_args n
  | introduceVars =>
    obtain ⟨v, vs, rfl⟩ := eq_cons_of_takes rfl htakes
    exact answers_introduceVars v vs
  | introduceNonNull =>
    obtain ⟨type, name, init, rfl⟩ := eq_triple_of_takes rfl htakes
    exact answers_introduceNonNull type name init
  | chainExpr =>
    obtain ⟨expr, rfl⟩ := eq_singleton_of_takes rfl htakes
    exact answers_chainExpr expr

/-- An operation that returns takes what it was given. -/
theorem takes_of_run {op : Operation} {vs : List Value} {r : Text} (h : op.run vs = .ok r) :
    op.takes vs.length = true := by
  unfold run at h
  split at h
  case h_12 => cases h
  all_goals rfl

/-! ## Calls -/

/-- The result of a call: the operation is looked up, its arguments are counted, and it is run. -/
theorem result_call (name : Value) (given : List Value) :
    (call name given).result = (do
      let op ← ofName name
      op.checkArity given
      op.run given) := by
  simp only [call, Outcome.result_bind, Outcome.result_ofExcept, Outcome.result_note]
  rfl

/-- A call returns what the operation with the name writes. -/
theorem exists_run_of_call {name : Value} {given : List Value} {r : Text}
    (h : (call name given).result = .ok r) :
    ∃ op, name.text?.bind find? = some op ∧ op.run given = .ok r := by
  rw [result_call, bind_eq_ok_iff] at h
  obtain ⟨op, hop, h⟩ := h
  rw [bind_eq_ok_iff] at h
  obtain ⟨_, -, h⟩ := h
  refine ⟨op, ?_, h⟩
  unfold ofName at hop
  split at hop
  · next hfind => rw [hfind, Except.ok.inj hop]
  · cases hop

/-- A call of an operation that takes as many values as it is given. -/
theorem result_call_of_takes {name : Value} {op : Operation} (hop : name.text?.bind find? = some op)
    {given : List Value} (htakes : op.takes given.length = true) :
    (call name given).result = op.run given := by
  rw [result_call, ofName, hop]
  change (op.checkArity given >>= fun _ => op.run given) = _
  rw [checkArity, if_pos htakes]
  rfl

/-- A call of an unknown operation, or with a wrong number of arguments, is refused, whatever the
arguments are. -/
theorem result_call_of_not_takes {name : Value} (hname : name.isWritable = true)
    {given : List Value}
    (h : ∀ op, name.text?.bind find? = some op → op.takes given.length = false) :
    ∃ operation expected shown,
      (call name given).result = .error (.refused .arity operation expected shown) := by
  rw [result_call, ofName]
  cases hop : name.text?.bind find? with
  | none =>
    rw [Fault.refusal_of_isWritable hname]
    exact ⟨_, _, _, rfl⟩
  | some op =>
    change ∃ operation expected shown,
      (op.checkArity given >>= fun _ => op.run given) = _
    rw [checkArity, if_neg (by simp [h op hop]), wrongArity]
    cases op.arity <;> exact ⟨_, _, _, rfl⟩

/-- A call on values that can be written ends in nothing but refusals. -/
theorem judged_call {name : Value} (hname : name.isWritable = true) {given : List Value}
    (hgiven : ∀ v ∈ given, IsGiven v) (hwritable : ∀ v ∈ given, v.isWritable = true) :
    Judged (fun _ => True) (·.IsRefusalOf kinds) (call name given).result := by
  by_cases htakes : ∃ op, name.text?.bind find? = some op ∧ op.takes given.length = true
  · obtain ⟨op, hop, htakes⟩ := htakes
    have hanswers := op.run_spec (fun _ => hgiven) htakes
    rw [result_call_of_takes hop htakes]
    cases hrun : op.run given with
    | ok r => trivial
    | error f =>
      rw [hrun] at hanswers
      obtain ⟨v, hv, kind, hkind, operation, expected, rfl⟩ :=
        hanswers.2 (List.all_eq_true.mpr hwritable)
      exact ⟨kind, hkind, operation, expected, v, rfl⟩
  · obtain ⟨operation, expected, shown, hcall⟩ := result_call_of_not_takes hname fun op hop =>
      Bool.eq_false_iff.mpr fun h => htakes ⟨op, hop, h⟩
    rw [hcall]
    exact ⟨.arity, by decide, _, _, _, rfl⟩

end Operation

end CHeaders
