import CHeaders.Guard.Block

/-!
# Stacks of guards

A block under a stack of guards is the same as the blocks of these guards inside each other,
whatever the guards do on the way in and on the way out, and whatever the block does. What happens
on a stack can be said in three parts: the guards are entered one after another, the block runs,
and the guards that have been entered are left in reverse order. A guard that cannot be entered
takes the place of the block, and no guard behind it has any part in what happens.

## Main definitions

* `CHeaders.Guard.enterAll`: several guards are entered, up to the first that fails.
* `CHeaders.Guard.exitAll`: several guards are left, every one of them.

## Main results

* `CHeaders.Guard.stackOn_eq`: a stack that is put on another one is nested inside it.
* `CHeaders.Guard.stacked_eq_nested`: stacks are nested blocks, and what happens on them.
-/

namespace CHeaders.Guard

variable {σ α : Type} (ways : Ways σ)

/-! ## Entering and leaving several guards -/

/-- Enters guards one after another up to the first that fails. Nothing is left again. -/
def enterAll : List Nat → Run σ (List Target)
  | [], s => (.ok [], s)
  | i :: rest, s =>
    match enter ways i s with
    | (.error f, s) => (.error f, s)
    | (.ok target, s) =>
      match enterAll rest s with
      | (.error f, s) => (.error f, s)
      | (.ok targets, s) => (.ok (target :: targets), s)

/-- Leaves guards one after another, every one of them: the last failure, and what has become of the
store. -/
def exitAll : List Nat → Store σ → Option Fault × Store σ
  | [], s => (none, s)
  | i :: rest, s =>
    let (r, s) := exit ways i s
    let (later, s) := exitAll rest s
    match r with
    | .ok () => (later, s)
    | .error f => (later.or (some f), s)

/-- The result `r` unless there was a failure in the meantime. -/
def unlessFailed (r : Except Fault α) : Option Fault → Except Fault α
  | none => r
  | some f => .error f

/-- A stack is taken down by leaving its guards, and the last failure is the result. -/
theorem unstack_eq (entered : List Nat) (r : Except Fault α) (s : Store σ) :
    unstack ways entered r s =
      (unlessFailed r (exitAll ways entered s).1, (exitAll ways entered s).2) := by
  induction entered generalizing r s with
  | nil => rfl
  | cons i below ih =>
    rw [unstack, exitAll]
    rcases exit ways i s with ⟨_ | _, s⟩
    · simp only [ih]
      rcases (exitAll ways below s).1 <;> rfl
    · exact ih r s

/-! ## Stacks and nested blocks -/

/-- A stack of guards that is put on another stack is nested inside it. -/
theorem stackOn_eq (body : List Target → Run σ α) (rest entered : List Nat)
    (targets : List Target) (s : Store σ) :
    stackOn ways body entered targets rest s =
      let (r, s) := nested ways rest (fun ts => body (targets.reverse ++ ts)) s
      unstack ways entered r s := by
  induction rest generalizing entered targets s with
  | nil => rw [stackOn, nested, List.append_nil]
  | cons i rest ih =>
    rw [stackOn, nested, block]
    rcases enter ways i s with ⟨f | target, s⟩
    · rfl
    · simp only [ih, ensuring, unstack, List.reverse_cons, List.append_assoc, List.singleton_append]
      rcases nested ways rest _ s with ⟨r, s⟩
      simp only
      rcases exit ways i s with ⟨_ | _, s⟩ <;> rfl

/-- Guards that can be entered are put on the stack with their targets. -/
theorem stackOn_append (body : List Target → Run σ α) {before : List Nat} {s s₁ : Store σ}
    {reached : List Target} (h : enterAll ways before s = (.ok reached, s₁))
    (rest entered : List Nat) (targets : List Target) :
    stackOn ways body entered targets (before ++ rest) s =
      stackOn ways body (before.reverse ++ entered) (reached.reverse ++ targets) rest s₁ := by
  induction before generalizing s reached entered targets with
  | nil =>
    obtain ⟨hreached, rfl⟩ := Prod.mk.inj h
    obtain rfl := Except.ok.inj hreached
    rfl
  | cons i before ih =>
    rw [enterAll] at h
    rw [List.cons_append, stackOn]
    rcases henter : enter ways i s with ⟨f | target, s'⟩
    · simp [henter] at h
    · rcases hall : enterAll ways before s' with ⟨f | ts, s''⟩
      · simp [henter, hall] at h
      · simp only [henter, hall, Prod.mk.injEq, Except.ok.injEq] at h
        obtain ⟨rfl, rfl⟩ := h
        simp only [ih hall, List.reverse_cons, List.append_assoc, List.singleton_append]

/-! ## What a guard has no part in -/

/-- What a guard does leaves the other guards as they are. -/
structure Ways.IsLocal (ways : Ways σ) : Prop where
  acquire : ∀ i j s, i ≠ j → (ways.acquire i s).2.guards[j]? = s.guards[j]?
  release : ∀ i j s, i ≠ j → (ways.release i s).2.guards[j]? = s.guards[j]?

/-- What the kinds of guards do leaves the other guards as they are. -/
theorem Ways.isLocal_ofKinds : (ofKinds : Ways σ).IsLocal := by
  refine ⟨fun i j s hij => ?_, fun i j s hij => ?_⟩
  · simp only [ofKinds]
    rcases s.guards[i]? with _ | g
    · rfl
    · simp only
      rcases (g.acquire i).result with f | ⟨g', target⟩
      · rfl
      · simp only [Store.guards_update, if_neg hij]
        rfl
  · simp only [ofKinds]
    rcases s.guards[i]? with _ | g
    · rfl
    · simp only
      rcases g.release.result with f | g'
      · rfl
      · simp only [Store.guards_update, if_neg hij]
        rfl

variable {ways}

/-- Entering a guard leaves the other guards as they are. -/
theorem Ways.IsLocal.guards_enter (h : ways.IsLocal) {i j : Nat} (hij : i ≠ j) (s : Store σ) :
    (enter ways i s).2.guards[j]? = s.guards[j]? := by
  have hupdate : ∀ (t : Store σ) (change : Guard → Guard),
      (t.update i change).guards[j]? = t.guards[j]? :=
    fun t change => (t.guards_update i j change).trans (if_neg hij)
  rw [enter]
  split
  · rfl
  · split
    · rfl
    · simp only
      split <;> rename_i heq
      · have hway := congrArg (fun way => way.2.guards[j]?) heq
        exact hway.symm.trans ((h.acquire i j _ hij).trans (hupdate _ _))
      · have hway := congrArg (fun way => way.2.guards[j]?) heq
        exact (hupdate _ _).trans (hway.symm.trans ((h.acquire i j _ hij).trans (hupdate _ _)))

/-- Leaving a guard leaves the other guards as they are. -/
theorem Ways.IsLocal.guards_exit (h : ways.IsLocal) {i j : Nat} (hij : i ≠ j) (s : Store σ) :
    (exit ways i s).2.guards[j]? = s.guards[j]? := by
  rw [exit]
  split
  · rfl
  · exact ((Store.guards_update _ i j _).trans (if_neg hij)).trans (h.release i j s hij)

/-- Entering several guards leaves the others as they are. -/
theorem Ways.IsLocal.guards_enterAll (h : ways.IsLocal) {guards : List Nat} {j : Nat}
    (hj : j ∉ guards) (s : Store σ) : (enterAll ways guards s).2.guards[j]? = s.guards[j]? := by
  induction guards generalizing s with
  | nil => rfl
  | cons i rest ih =>
    rw [List.mem_cons, not_or] at hj
    obtain ⟨hij, hrest⟩ := hj
    have henter := h.guards_enter (Ne.symm hij) s
    rw [enterAll]
    rcases hi : enter ways i s with ⟨f | target, s'⟩ <;> rw [hi] at henter
    · exact henter
    · have hall := (ih hrest s').trans henter
      simp only
      rcases hwalk : enterAll ways rest s' with ⟨f | targets, s''⟩ <;> rw [hwalk] at hall <;>
        exact hall

/-- Leaving several guards leaves the others as they are. -/
theorem Ways.IsLocal.guards_exitAll (h : ways.IsLocal) {guards : List Nat} {j : Nat}
    (hj : j ∉ guards) (s : Store σ) : (exitAll ways guards s).2.guards[j]? = s.guards[j]? := by
  induction guards generalizing s with
  | nil => rfl
  | cons i rest ih =>
    rw [List.mem_cons, not_or] at hj
    obtain ⟨hij, hrest⟩ := hj
    have hall := (ih hrest (exit ways i s).2).trans (h.guards_exit (Ne.symm hij) s)
    rw [exitAll]
    rcases hexit : exit ways i s with ⟨_ | _, s'⟩ <;> rw [hexit] at hall <;> exact hall

/-! ## The theorem -/

/-- A block under a stack of guards is the same as the blocks of these guards inside each other: the
same store behind it, with all guards, calls and notices, and the same result, from every store and
for every block, so that the block is handed the same targets, too.

If all guards can be entered, the block runs, and then all of them are left in reverse order. If one
cannot be entered, those in front of it are left in reverse order; neither the block nor the guards
behind have a part in that, and if guards leave each other alone, the guards behind are as they
were. Every guard that is left is left whatever the others do, and the last failure is the result.

**Proof sketch.** A stack that is put on another one is nested inside it, by induction on the guards
that are put on; the claim is the case of an empty stack below. For the other parts, guards that can
be entered are put on the stack one by one, and taking down a stack is leaving its guards. -/
theorem stacked_eq_nested (ways : Ways σ) (body : List Target → Run σ α) :
    (∀ guards, stacked ways guards body = nested ways guards body) ∧
    (∀ guards s s₁ targets, enterAll ways guards s = (.ok targets, s₁) →
      stacked ways guards body s =
        let (r, s₂) := body targets s₁
        let (failure, s₃) := exitAll ways guards.reverse s₂
        (unlessFailed r failure, s₃)) ∧
    ∀ before i rest s s₁ s₂ targets f, enterAll ways before s = (.ok targets, s₁) →
      enter ways i s₁ = (.error f, s₂) →
      (stacked ways (before ++ i :: rest) body s =
        let (failure, s₃) := exitAll ways before.reverse s₂
        (unlessFailed (.error f) failure, s₃)) ∧
      (ways.IsLocal → ∀ j, j ∉ before → j ≠ i →
        (stacked ways (before ++ i :: rest) body s).2.guards[j]? = s.guards[j]?) := by
  refine ⟨fun guards => ?_, fun guards s s₁ targets h => ?_,
    fun before i rest s s₁ s₂ targets f hbefore hi => ?_⟩
  · funext s
    rw [stacked, stackOn_eq]
    rfl
  · have hstack := stackOn_append ways body h [] [] []
    rw [List.append_nil, List.append_nil, List.append_nil] at hstack
    rw [stacked, hstack, stackOn, List.reverse_reverse]
    exact unstack_eq ways guards.reverse _ _
  · have hstack := stackOn_append ways body hbefore (i :: rest) [] []
    rw [List.append_nil, List.append_nil, stackOn, hi] at hstack
    have heq : stacked ways (before ++ i :: rest) body s =
        (unlessFailed (.error f) (exitAll ways before.reverse s₂).1,
          (exitAll ways before.reverse s₂).2) :=
      hstack.trans (unstack_eq ways before.reverse (.error f) s₂)
    refine ⟨heq, fun hlocal j hj hij => ?_⟩
    have henterAll := hlocal.guards_enterAll hj s
    have henter := hlocal.guards_enter (Ne.symm hij) s₁
    rw [hbefore] at henterAll
    rw [hi] at henter
    rw [heq]
    exact (hlocal.guards_exitAll (by simpa using hj) s₂).trans (henter.trans henterAll)

/-- Three guards: one that fails on the way out, one that fails on the way in, one for a value. -/
def threeGuards : Store Unit :=
  { Store.empty () with
    guards :=
      [ofKind (.custom "Lamp" (.ok .none) (.fail (.raised "stuck"))),
        ofKind (.custom "Door" (.fail (.raised "locked")) (.ok ())),
        introduceNonNull (.int 5)] }

/-- The second guard cannot be entered, so the first one is left again, and its failure on the way
out is the result. The third guard is not touched. -/
theorem stacked_threeGuards : ∃ targets s₁ s₂,
    enterAll .ofKinds [0] threeGuards = (.ok targets, s₁) ∧
    enter .ofKinds 1 s₁ = (.error (.raised "locked"), s₂) ∧
    (stacked .ofKinds [0, 1, 2] (fun _ s => (.ok (), s)) threeGuards =
      (.error (.raised "stuck"), (exitAll .ofKinds [0] s₂).2) ∧
    (stacked .ofKinds [0, 1, 2] (fun _ s => (.ok (), s)) threeGuards).2.guards[2]? =
      some (introduceNonNull (.int 5))) := by
  obtain ⟨hresult, huntouched⟩ := (stacked_eq_nested .ofKinds fun _ s => (.ok (), s)).2.2
    [0] 1 [2] threeGuards _ _ _ _ rfl rfl
  exact ⟨_, _, _, rfl, rfl, hresult,
    huntouched Ways.isLocal_ofKinds 2 (by decide) (by decide)⟩

end CHeaders.Guard
