import CHeaders.Guard.Store
import CHeaders.Proofs.Result

/-!
# The two ends of a block

What a guard does at the two ends of its block is settled by its kind. On the way in it makes the
calls of its kind: a guard that introduces variables evaluates its initializers in order, up to the
first that fails. Then its block is running, or the guard is done. On the way out it gives up what
it held for its block and is done, whatever happens.

## Main definitions

* `CHeaders.Guard.tried`: the initializers that are evaluated.
* `CHeaders.Guard.Kind.payload`: the calls on the way in.
* `CHeaders.Guard.entered`, `CHeaders.Guard.left`: a guard behind its way in and behind its way out.

## Main results

* `CHeaders.Guard.calls_acquire`: a guard makes the calls of its kind.
* `CHeaders.Guard.enter_of_unused`, `CHeaders.Guard.exit_of_mem`: the two ends of a block.
* `CHeaders.Guard.entered_cases`, `CHeaders.Guard.left_cases`: all that may become of a guard there.
-/

namespace CHeaders.Guard

variable {σ : Type}

/-! ## Reactions -/

namespace Reaction

variable {α β : Type}

/-- What comes after a reaction that returns. -/
theorem andThen_of_ok {x : Reaction α} {a : α} (h : x.result = .ok a) (f : α → Reaction β) :
    x.andThen f = ⟨x.calls ++ (f a).calls, (f a).result⟩ := by
  simp only [andThen, h]

/-- Nothing comes after a reaction that fails. -/
theorem andThen_of_error {x : Reaction α} {e : Fault} (h : x.result = .error e)
    (f : α → Reaction β) : x.andThen f = ⟨x.calls, .error e⟩ := by
  simp only [andThen, h]

/-- A reaction and what comes after it return if both do. -/
theorem result_andThen_eq_ok_iff {x : Reaction α} {f : α → Reaction β} {b : β} :
    (x.andThen f).result = .ok b ↔ ∃ a, x.result = .ok a ∧ (f a).result = .ok b := by
  rw [andThen]
  cases x.result <;> simp

end Reaction

/-! ## Calls on the way in -/

/-- The call of a value, if it can be called. -/
def callTo (v : Value) (args : List Value) (named : List (String × Value)) : Option Call :=
  match v.bare with
  | .callable _ name _ _ => some ⟨name, args, named⟩
  | _ => none

/-- Whether an initializer fails when it is evaluated. -/
def fails (init : Value) : Bool :=
  match init.bare with
  | .callable _ _ _ failure => failure.isSome
  | _ => false

/-- The initializers that are evaluated: in order, up to the first that fails. -/
def tried : List (String × Value) → List (String × Value)
  | [] => []
  | e :: rest => if fails e.2 then [e] else e :: tried rest

/-- What a guard of the kind calls on the way into its block. -/
def Kind.payload : Kind → List Call
  | vars inits => (tried inits).flatMap fun e => (callTo e.2 [] []).toList
  | nonNull init => (callTo init [] []).toList
  | expr fn args named => (callTo fn args named).toList
  | blank => []
  | custom _ onEntry _ => onEntry.calls

/-- A value is called once, if it can be called. -/
theorem calls_invoke (v : Value) (args : List Value) (named : List (String × Value)) :
    (invoke v args named).calls = (callTo v args named).toList := by
  cases hv : v.bare with
  | callable serial name answer failure =>
    cases failure <;> simp only [invoke, callTo, hv, Option.toList_some]
  | _ => simp only [invoke, callTo, hv, Reaction.fail, Option.toList_none]

/-- An initializer is called once, if it can be called. -/
theorem calls_evaluate (init : Value) : (evaluate init).calls = (callTo init [] []).toList := by
  rw [evaluate]
  split
  · exact calls_invoke init [] []
  · rename_i h
    cases hv : init.bare <;> simp_all [isCallable, callTo, Reaction.ok]

/-- An initializer stands for a value unless it fails. -/
theorem exists_result_evaluate_iff (init : Value) :
    (∃ v, (evaluate init).result = .ok v) ↔ fails init = false := by
  cases hv : init.bare with
  | callable serial name answer failure =>
    cases failure <;> simp [evaluate, isCallable, invoke, fails, hv]
  | _ => simp [evaluate, isCallable, fails, hv, Reaction.ok]

/-- Initializers are called in order, up to the first that fails. -/
theorem calls_evaluateAll (inits : List (String × Value)) :
    (evaluateAll inits).calls = (tried inits).flatMap fun e => (callTo e.2 [] []).toList := by
  induction inits with
  | nil => rfl
  | cons e rest ih =>
    obtain ⟨name, init⟩ := e
    have hcall := calls_evaluate init
    have hresult := exists_result_evaluate_iff init
    rw [evaluateAll, tried]
    cases hinit : (evaluate init).result with
    | error f =>
      have hfails : fails init = true := by simpa [hinit] using hresult
      rw [Reaction.andThen_of_error hinit, if_pos hfails, hcall, List.flatMap_singleton]
    | ok v =>
      have hfails : fails init = false := hresult.mp ⟨v, hinit⟩
      rw [Reaction.andThen_of_ok hinit, hfails, if_neg (by decide), hcall, List.flatMap_cons, ← ih]
      rfl

/-- What a guard calls on the way into its block is settled by its kind. -/
theorem calls_acquire (i : Nat) (g : Guard) : (acquire i g).calls = g.kind.payload := by
  rw [acquire]
  cases g.kind with
  | vars inits => exact calls_evaluateAll inits
  | nonNull init =>
    have hcall := calls_evaluate init
    simp only [Kind.payload]
    cases hinit : (evaluate init).result with
    | error f => rw [Reaction.andThen_of_error hinit, hcall]
    | ok v =>
      rw [Reaction.andThen_of_ok hinit, hcall]
      split <;> simp [Reaction.fail, Reaction.ok]
  | expr fn args named => exact calls_invoke fn args named
  | blank => rfl
  | custom family onEntry onExit => rfl

/-! ## What a guard holds -/

/-- A guard that hands out a target is itself, but for what it holds for its block. A guard for a
value that has to be there holds such a value, and hands it out. -/
theorem acquire_spec {i : Nat} {g g' : Guard} {target : Target}
    (h : (acquire i g).result = .ok (g', target)) :
    ∃ value attached scope, g' = { g with value, attached, scope } ∧
      ∀ init, g.kind = .nonNull init → value.isNone = false ∧ target = .value value := by
  obtain ⟨kind, done, active, value, attached, scope⟩ := g
  cases kind with
  | vars inits =>
    obtain ⟨scope, -, ⟨⟩⟩ := map_eq_ok_iff.mp h
    exact ⟨_, _, _, rfl, by simp⟩
  | nonNull init =>
    obtain ⟨v, -, hway⟩ := Reaction.result_andThen_eq_ok_iff.mp h
    split at hway
    · cases hway
    · rename_i hv
      obtain ⟨⟩ := hway
      exact ⟨_, _, _, rfl, fun _ _ => ⟨by simpa using hv, rfl⟩⟩
  | expr fn args named =>
    obtain ⟨v, -, ⟨⟩⟩ := map_eq_ok_iff.mp h
    exact ⟨_, _, _, rfl, by simp⟩
  | blank => cases h
  | custom family onEntry onExit =>
    obtain ⟨v, -, ⟨⟩⟩ := map_eq_ok_iff.mp h
    exact ⟨_, _, _, rfl, by simp⟩

/-- A guard on its way out stays itself, but for what it held for its block. A guard for a value
that has to be there holds it no longer.

**Proof sketch.** By the kind of the guard. Each kind sets the value, the attachment or the scope
and nothing else; a guard that introduces variables lets go of its scope by what is called for that,
if it is there. -/
theorem release_spec {g g' : Guard} (h : g.release.result = .ok g') :
    ∃ value attached scope, g' = { g with value, attached, scope } ∧
      ∀ init, g.kind = .nonNull init → value = .none := by
  obtain ⟨kind, done, active, value, attached, scope⟩ := g
  cases kind with
  | vars inits =>
    simp only [release] at h
    split at h
    · split at h
      · obtain ⟨⟩ := h
        exact ⟨_, _, _, rfl, by simp⟩
      · obtain ⟨v, -, ⟨⟩⟩ := map_eq_ok_iff.mp h
        exact ⟨_, _, _, rfl, by simp⟩
    · obtain ⟨⟩ := h
      exact ⟨_, _, _, rfl, by simp⟩
  | nonNull init =>
    obtain ⟨⟩ := h
    exact ⟨_, _, _, rfl, fun _ _ => rfl⟩
  | expr fn args named =>
    obtain ⟨⟩ := h
    exact ⟨_, _, _, rfl, by simp⟩
  | blank =>
    obtain ⟨⟩ := h
    exact ⟨_, _, _, rfl, by simp⟩
  | custom family onEntry onExit =>
    obtain ⟨v, -, ⟨⟩⟩ := map_eq_ok_iff.mp h
    exact ⟨_, _, _, rfl, by simp⟩

/-! ## The ends -/

/-- A guard behind its way in, if it has not been used before. -/
def entered (i : Nat) (g : Guard) : Guard :=
  match (acquire i { g with active := true }).result with
  | .ok (g', _) => g'
  | .error _ => { g with active := false, done := true }

/-- A guard behind its way out. -/
def left (g : Guard) : Guard :=
  match g.release.result with
  | .ok g' => { g' with active := false, done := true }
  | .error _ => { g with active := false, done := true }

/-- The way into a block, if the guard has not been used before: the result, the guard, and the
calls that are written down. -/
theorem enter_of_unused {i : Nat} {s : Store σ} {g : Guard} (hg : s.guards[i]? = some g)
    (h : g.isUsed = false) :
    (enter .ofKinds i s).1 = (acquire i { g with active := true }).result.map Prod.snd ∧
    (enter .ofKinds i s).2.guards[i]? = some (entered i g) ∧
    (enter .ofKinds i s).2.events = s.events ++ g.kind.payload.map fun c => ⟨i, .entry, c⟩ := by
  have hcalls := calls_acquire i { g with active := true }
  have hactive (notice : String) :
      ((s.note notice).update i fun g => { g with active := true }).guards[i]? =
        some { g with active := true } := by
    rw [Store.guards_update, if_pos rfl, Store.note, hg, Option.map_some]
  rw [enter, hg, entered]
  simp only [h, Bool.false_eq_true, if_false, Ways.ofKinds, hactive, hcalls]
  cases (acquire i { g with active := true }).result with
  | error f =>
    refine ⟨rfl, ?_, rfl⟩
    rw [Store.guards_update, if_pos rfl, Store.record, hactive, Option.map_some]
  | ok way =>
    refine ⟨rfl, ?_, rfl⟩
    rw [Store.guards_update, if_pos rfl, Store.record, hactive, Option.map_some]

/-- The way out of a block: the result, the guard, and the calls that are written down. -/
theorem exit_of_mem {i : Nat} {s : Store σ} {g : Guard} (hg : s.guards[i]? = some g) :
    (exit .ofKinds i s).1 = g.release.result.map (fun _ => ()) ∧
    (exit .ofKinds i s).2.guards[i]? = some (left g) ∧
    (exit .ofKinds i s).2.events = s.events ++ g.release.calls.map fun c => ⟨i, .exit, c⟩ := by
  rw [exit, hg, left]
  simp only [Ways.ofKinds, hg]
  cases g.release.result with
  | error f =>
    refine ⟨rfl, ?_, rfl⟩
    rw [Store.note, Store.guards_update, if_pos rfl, Store.record, hg, Option.map_some]
  | ok g' =>
    refine ⟨rfl, ?_, rfl⟩
    rw [Store.note, Store.guards_update, if_pos rfl, Store.guards_update, if_pos rfl, Store.record,
      hg, Option.map_some, Option.map_some]

/-- What becomes of a guard on its way in: its block is running, or the guard is done. -/
theorem entered_cases (i : Nat) (g : Guard) :
    (∃ value attached scope, entered i g = { g with active := true, value, attached, scope } ∧
      ∀ init, g.kind = .nonNull init → value.isNone = false) ∨
    entered i g = { g with active := false, done := true } := by
  rw [entered]
  split
  · rename_i g' target hway
    obtain ⟨value, attached, scope, rfl, hvalue⟩ := acquire_spec hway
    exact .inl ⟨value, attached, scope, rfl, fun init hkind => (hvalue init hkind).1⟩
  · exact .inr rfl

/-- What becomes of a guard on its way out: it is done. -/
theorem left_cases (g : Guard) :
    ∃ value attached scope,
      left g = { g with active := false, done := true, value, attached, scope } ∧
      ∀ init, g.kind = .nonNull init → value = .none := by
  rw [left]
  split
  · rename_i g' hway
    obtain ⟨value, attached, scope, rfl, hvalue⟩ := release_spec hway
    exact ⟨value, attached, scope, rfl, hvalue⟩
  · rename_i f hway
    refine ⟨_, _, _, rfl, fun init hkind => ?_⟩
    simp [release, hkind, Reaction.ok] at hway

end CHeaders.Guard
