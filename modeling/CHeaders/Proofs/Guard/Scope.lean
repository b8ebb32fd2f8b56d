import CHeaders.Guard.Block
import CHeaders.Proofs.Guard.Ends

/-!
# Scopes

The variables of a guard are to live exactly as long as its block: inside the block the scope
answers to each name with the value of the variable, and behind the block the scope is empty and the
guard has given it up, however the block ends. Names are the caller's choice, and a scope also
answers to some names by itself. So what the scope has of its own can get in the way of a variable,
and a variable can get in the way of the scope: under one name the clearing of the scope is found,
and a variable of this name is never taken back.

## Main definitions

* `CHeaders.Guard.Scope.Answers`: whether a scope answers to a name with the value of its variable.
* `CHeaders.Guard.KeepsOpen`: what the code in a block leaves to the end of the block.
* `CHeaders.Guard.LivesForBlock`: variables live exactly as long as the block.

## Main results

* `CHeaders.Guard.get_eq_ok_iff`: when the value of a variable is got from its scope.
* `CHeaders.Guard.release_of_clear`, `CHeaders.Guard.scope_left`: scopes on the way out.
* `CHeaders.Guard.livesForBlock_iff`: the names with which variables live exactly as long as the
  block.
-/

namespace CHeaders.Guard

variable {σ α : Type}

/-! ## The variables of a scope -/

/-- The scope of initializers that can be evaluated: a variable for each of them, with its value. -/
theorem exists_evaluateAll {inits : List (String × Value)}
    (h : ∀ e ∈ inits, ∃ v, (evaluate e.2).result = .ok v) :
    ∃ scope, (evaluateAll inits).result = .ok scope ∧
      scope.map Prod.fst = inits.map Prod.fst ∧
      ∀ e ∈ inits, ∀ v, (evaluate e.2).result = .ok v → (e.1, v) ∈ scope := by
  induction inits with
  | nil => exact ⟨[], rfl, rfl, by simp⟩
  | cons e rest ih =>
    obtain ⟨⟨v, hv⟩, hrest⟩ := List.forall_mem_cons.mp h
    obtain ⟨scope, hscope, hnames, hvalues⟩ := ih hrest
    refine ⟨(e.1, v) :: scope, ?_, by rw [List.map_cons, List.map_cons, hnames],
      List.forall_mem_cons.mpr ⟨fun w hw => ?_, fun e' he' w hw => ?_⟩⟩
    · rw [evaluateAll, Reaction.andThen_of_ok hv]
      exact map_eq_ok_iff.mpr ⟨scope, hscope, rfl⟩
    · obtain rfl := Except.ok.inj (hv.symm.trans hw)
      exact List.mem_cons_self
    · exact List.mem_cons_of_mem _ (hvalues e' he' w hw)

/-- A variable is found under its name, if no other one has the name. -/
theorem lookup_of_mem {scope : Scope} (hnames : (scope.map Prod.fst).Nodup) {name : String}
    {v : Value} (h : (name, v) ∈ scope) : scope.lookup name = some v := by
  induction scope with
  | nil => cases h
  | cons e rest ih =>
    rw [List.map_cons, List.nodup_cons] at hnames
    rw [List.lookup_cons]
    rcases List.mem_cons.mp h with rfl | h
    · rw [beq_self_eq_true]
    · have hne : name ≠ e.1 := fun heq => hnames.1 (heq ▸ List.mem_map_of_mem h)
      rw [beq_eq_false_iff_ne.mpr hne]
      exact ih hnames.2 h

/-- A scope holds no variable of a name if and only if no initializer has the name. -/
theorem lookup_eq_none_iff {scope : Scope} {inits : List (String × Value)}
    (hnames : scope.map Prod.fst = inits.map Prod.fst) (name : String) :
    scope.lookup name = none ↔ ∀ e ∈ inits, e.1 ≠ name := by
  have hscope : scope.lookup name = none ↔ ∀ other ∈ scope.map Prod.fst, other ≠ name := by
    rw [List.lookup_eq_none_iff, List.forall_mem_map]
    exact forall₂_congr fun e _ => bne_iff_ne.trans ne_comm
  rw [hscope, hnames, List.forall_mem_map]

/-- No variable is the mapping of all variables of its scope: it would hold itself. -/
theorem ne_dict_of_mem {scope : Scope} {name : String} {v : Value} (h : (name, v) ∈ scope) :
    v ≠ .dict (scope.map fun e => (.text e.1, e.2)) := by
  intro heq
  have hmem : (Value.text name, v) ∈ scope.map fun e => (Value.text e.1, e.2) :=
    List.mem_map.mpr ⟨(name, v), h, rfl⟩
  have hlt := List.sizeOf_lt_of_mem hmem
  have hsize := congrArg sizeOf heq
  simp only [Prod.mk.sizeOf_spec, Value.dict.sizeOf_spec] at hlt hsize
  omega

/-- A scope answers to the name of a variable with its value `v`. The scope has answers of its own
to three names: all of its variables, its maker, and nothing. -/
structure Scope.Answers (name : String) (v : Value) : Prop where
  mapping : name ≠ "__dict__"
  maker : name = "__class__" → v = .callable 0 "Bindings" .none none
  nothing : name = "__weakref__" → v = .none

/-- The value of a variable is got from its scope unless the scope has another answer of its own.

**Proof sketch.** By the name. The three names that a scope answers itself come first, and their
answers are compared with the value; the value of any other variable is looked up. -/
theorem get_eq_ok_iff {scope : Scope} (hnames : (scope.map Prod.fst).Nodup) {name : String}
    {v : Value} (h : (name, v) ∈ scope) : scope.get name = .ok v ↔ Scope.Answers name v := by
  have hlookup := lookup_of_mem hnames h
  have hdict := ne_dict_of_mem h
  by_cases hmapping : name = "__dict__"
  · refine iff_of_false (fun hget => ?_) fun hanswers => hanswers.mapping hmapping
    subst hmapping
    exact hdict (Except.ok.inj hget).symm
  · by_cases hmaker : name = "__class__"
    · subst hmaker
      refine ⟨fun hget => ⟨hmapping, fun _ => (Except.ok.inj hget).symm, by simp⟩,
        fun hanswers => ?_⟩
      rw [hanswers.maker rfl]
      rfl
    · by_cases hnothing : name = "__weakref__"
      · subst hnothing
        refine ⟨fun hget => ⟨hmapping, by simp, fun _ => (Except.ok.inj hget).symm⟩,
          fun hanswers => ?_⟩
        rw [hanswers.nothing rfl]
        rfl
      · refine iff_of_true ?_ ⟨hmapping, fun hname => absurd hname hmaker,
          fun hname => absurd hname hnothing⟩
        simp [Scope.get, Scope.own?, hmapping, hmaker, hnothing, hlookup]

/-! ## The ends of the block -/

/-- A guard that introduces variables, before its block. -/
theorem eq_of_introduceVars {inits : List (String × Value)} {g : Guard}
    (h : introduceVars inits = .ok g) : g = ofKind (.vars inits) := by
  rw [introduceVars] at h
  split at h
  · cases h
  · split at h
    · cases h
    · exact (Except.ok.inj h).symm

/-- A guard that introduces variables hands out its scope. -/
theorem enter_vars {inits : List (String × Value)} {scope : Scope}
    (hscope : (evaluateAll inits).result = .ok scope) {i : Nat} {s : Store σ}
    (hi : s.guards[i]? = some (ofKind (.vars inits))) :
    (enter .ofKinds i s).1 = .ok (.scope i) ∧
    (enter .ofKinds i s).2.guards[i]? =
      some { ofKind (.vars inits) with active := true, attached := true, scope } := by
  obtain ⟨hresult, hguard, -⟩ := enter_of_unused hi rfl
  have hway : (acquire i { ofKind (.vars inits) with active := true }).result =
      .ok ({ ofKind (.vars inits) with active := true, attached := true, scope }, .scope i) :=
    map_eq_ok_iff.mpr ⟨scope, hscope, rfl⟩
  rw [hresult, hguard, entered, hway]
  exact ⟨rfl, rfl⟩

/-- A scope is cleared and given up if its own clearing is found. -/
theorem release_of_clear {g : Guard} {inits : List (String × Value)} (hkind : g.kind = .vars inits)
    (hattached : g.attached = true) (hclear : g.scope.lookup Scope.clearing = none) :
    g.release = .ok { g with attached := false, scope := [] } := by
  simp only [release, hkind, hattached, hclear, if_true]

/-- A scope stays as it is if a variable takes the place of its own clearing. -/
theorem scope_left {g : Guard} {inits : List (String × Value)} (hkind : g.kind = .vars inits)
    {v : Value} (hclear : g.scope.lookup Scope.clearing = some v) : (left g).scope = g.scope := by
  rw [left]
  split
  · rename_i g' hway
    simp only [release, hkind, hclear] at hway
    split at hway
    · obtain ⟨w, -, rfl⟩ := map_eq_ok_iff.mp hway
      rfl
    · obtain ⟨⟩ := hway
      rfl
  · rfl

/-- A block under a guard that can be entered: the code in it runs, then the guard is left, and a
failure there takes the place of the result. -/
theorem block_of_enter (ways : Ways σ) {i : Nat} {s : Store σ} {target : Target}
    (h : (enter ways i s).1 = .ok target) (body : Target → Run σ α) :
    block ways i body s =
      let x := body target (enter ways i s).2
      let y := exit ways i x.2
      (y.1.bind fun _ => x.1, y.2) := by
  rw [block]
  rcases henter : enter ways i s with ⟨_, s₁⟩
  rw [henter] at h
  obtain rfl := h
  simp only [ensuring]
  rcases exit ways i (body target s₁).2 with ⟨_ | _, s₃⟩ <;> rfl

/-! ## The theorem -/

/-- Code in the block of a guard that introduces variables leaves it to the end of the block to take
them back. It may give the variables other values and introduce further ones, but under the name of
the scope's own clearing it finds what it found before. -/
def KeepsOpen (i : Nat) (code : Run σ α) : Prop :=
  ∀ s g, s.guards[i]? = some g → g.attached = true →
    ∃ g', (code s).2.guards[i]? = some g' ∧ g'.kind = g.kind ∧ g'.attached = true ∧
      g'.scope.lookup Scope.clearing = g.scope.lookup Scope.clearing

/-- The variables of the guard with the number `i` live exactly as long as its block. -/
structure LivesForBlock (inits : List (String × Value)) (i : Nat) (body : Target → Run σ α)
    (s : Store σ) : Prop where
  /-- The block is handed the scope of the guard. -/
  begins : (enter .ofKinds i s).1 = .ok (.scope i)
  /-- Inside the block, the scope answers to each name with what the initializer stands for. -/
  inside : ∃ g, (enter .ofKinds i s).2.guards[i]? = some g ∧
    ∀ e ∈ inits, g.scope.get e.1 = (evaluate e.2).result
  /-- Nothing goes wrong on the way out. -/
  ends : (exit .ofKinds i (body (.scope i) (enter .ofKinds i s).2).2).1 = .ok ()
  /-- The block ends as the code in it does. -/
  result : (block .ofKinds i body s).1 = (body (.scope i) (enter .ofKinds i s).2).1
  /-- Behind the block, the guard is done and has given up its scope, which holds none of the
  variables. -/
  behind : ∃ g, (block .ofKinds i body s).2.guards[i]? = some g ∧ g.done = true ∧
    g.attached = false ∧ ∀ e ∈ inits, g.scope.lookup e.1 = none

/-- Variables live exactly as long as the block of their guard, whatever the code in the block does
and however it ends, if and only if none of them has the name of the scope's own clearing and the
scope has no other answers to their names.

**Proof sketch.** The code in the block leaves the guard with an open scope, in which the clearing
is found as before. If it is the scope's own, the scope is cleared. If it is a variable, then the
scope stays as it is, whatever becomes of calling the variable, and so this variable is still there
behind the block. -/
theorem livesForBlock_iff {inits : List (String × Value)} {g : Guard}
    (hg : introduceVars inits = .ok g) (hnames : (inits.map Prod.fst).Nodup)
    (hinits : ∀ e ∈ inits, ∃ v, (evaluate e.2).result = .ok v) {i : Nat} {s : Store σ}
    (hi : s.guards[i]? = some g) {body : Target → Run σ α}
    (hbody : KeepsOpen i (body (.scope i))) :
    LivesForBlock inits i body s ↔ ∀ e ∈ inits, e.1 ≠ Scope.clearing ∧
      ∀ v, (evaluate e.2).result = .ok v → Scope.Answers e.1 v := by
  obtain rfl := eq_of_introduceVars hg
  obtain ⟨scope, hscope, hscopeNames, hvalues⟩ := exists_evaluateAll hinits
  obtain ⟨hbegins, hinside⟩ := enter_vars hscope hi
  obtain ⟨g₂, hg₂, hkind, hattached, hclear⟩ := hbody _ _ hinside rfl
  obtain ⟨hexit, hleft, -⟩ := exit_of_mem hg₂
  have hblock := block_of_enter .ofKinds hbegins body
  rw [← hscopeNames] at hnames
  constructor
  · rintro ⟨-, ⟨g₁, hg₁, hget⟩, -, -, g₃, hg₃, -, -, hgone⟩ e he
    obtain rfl := Option.some.inj (hinside.symm.trans hg₁)
    rw [hblock] at hg₃
    obtain rfl := Option.some.inj (hleft.symm.trans hg₃)
    refine ⟨fun hname => ?_, fun v hv => (get_eq_ok_iff hnames (hvalues e he v hv)).mp
      ((hget e he).trans hv)⟩
    obtain ⟨v, hv⟩ := hinits e he
    have hlookup : g₂.scope.lookup Scope.clearing = some v :=
      hclear.trans (lookup_of_mem hnames (hname ▸ hvalues e he v hv))
    have hnone := hgone e he
    rw [scope_left hkind hlookup, hname, hlookup] at hnone
    cases hnone
  · intro h
    have hnone : g₂.scope.lookup Scope.clearing = none :=
      hclear.trans ((lookup_eq_none_iff hscopeNames _).mpr fun e he => (h e he).1)
    have hrelease := release_of_clear hkind hattached hnone
    have hends : (exit .ofKinds i (body (.scope i) (enter .ofKinds i s).2).2).1 = .ok () := by
      rw [hexit, hrelease]
      rfl
    refine ⟨hbegins, ⟨_, hinside, fun e he => ?_⟩, hends, ?_, left g₂, ?_, ?_⟩
    · obtain ⟨v, hv⟩ := hinits e he
      have hanswers := (h e he).2 v hv
      exact ((get_eq_ok_iff hnames (hvalues e he v hv)).mpr hanswers).trans hv.symm
    · rw [hblock]
      simp only [hends]
      rfl
    · rw [hblock]
      exact hleft
    · rw [left, hrelease]
      exact ⟨rfl, rfl, fun _ _ => rfl⟩

/-- A store with a guard for one variable, which has the name of the scope's own clearing. -/
def clearingStore : Store Unit :=
  { Store.empty () with guards := [ofKind (.vars [("_clear", .int 1)])] }

/-- A variable with the name of the scope's own clearing does not live exactly as long as its block,
even if the code in the block does nothing. -/
theorem not_livesForBlock_clearing :
    introduceVars [("_clear", .int 1)] = .ok (ofKind (.vars [("_clear", .int 1)])) ∧
    ¬LivesForBlock [("_clear", .int 1)] 0 (fun _ s => (.ok (), s)) clearingStore := by
  have hg : introduceVars [("_clear", .int 1)] = .ok (ofKind (.vars [("_clear", .int 1)])) := rfl
  have hinits : ∀ e ∈ [("_clear", Value.int 1)], ∃ v, (evaluate e.2).result = .ok v :=
    List.forall_mem_singleton.mpr ⟨.int 1, rfl⟩
  have hbody : KeepsOpen 0 fun s : Store Unit => (Except.ok (ε := Fault) (), s) :=
    fun s g hg hattached => ⟨g, hg, rfl, hattached, rfl⟩
  have hstore : clearingStore.guards[0]? = some (ofKind (.vars [("_clear", .int 1)])) := rfl
  have hiff : LivesForBlock [("_clear", .int 1)] 0 (fun _ s => (.ok (), s)) clearingStore ↔ _ :=
    livesForBlock_iff hg (by simp) hinits hstore hbody
  exact ⟨hg, fun hlives => (hiff.mp hlives _ List.mem_cons_self).1 rfl⟩

end CHeaders.Guard
