import CHeaders.Proofs.Guard.Ends
import CHeaders.Proofs.Guard.Stack
import Mathlib.Data.List.Induction

/-!
# Single use

The caller may enter and leave guards in any order: leave a guard that has not been entered, enter
one whose block is running or which has failed on its way in, and go on after a failure. Whatever
the order, each guard runs its payload at most once, and all that comes of it is settled by the
first move that concerns it: a guard that is entered first makes its calls then, and a guard that
is left first never makes them. As no payload is run twice, it does not matter whether what it calls
would answer the same a second time.

## Main definitions

* `CHeaders.Guard.Move`: one end of a guard's block, by itself, and `CHeaders.Guard.after`: the
  store behind several moves.
* `CHeaders.Guard.Kind.callsOver`: the calls on the way in over all moves.
* `CHeaders.Guard.Reached`: how far a guard has come by moves.

## Main results

* `CHeaders.Guard.Reached.move`: what a move keeps.
* `CHeaders.Guard.exists_reached`: what holds of a guard behind any moves.
* `CHeaders.Guard.single_use`: guards are for one use.
-/

namespace CHeaders.Guard

variable {σ : Type}

/-! ## Moves -/

/-- A move of the caller: one end of a guard's block, by itself. -/
structure Move where
  guard : Nat
  phase : Phase

/-- The store behind a move, which may have failed. -/
def Move.after (m : Move) (s : Store σ) : Store σ :=
  match m.phase with
  | .entry => (enter .ofKinds m.guard s).2
  | .exit => (exit .ofKinds m.guard s).2

/-- The store behind moves. -/
def after (moves : List Move) (s : Store σ) : Store σ :=
  moves.foldl (fun s m => m.after s) s

/-- The store with a new guard of each kind. -/
def Store.ofKinds (kinds : List Kind) (outer : σ) : Store σ :=
  { empty outer with guards := kinds.map ofKind }

/-- The calls that a guard has made on the way in, in order. -/
def Store.entryCalls (s : Store σ) (i : Nat) : List Call :=
  (s.events.filter fun e => e.guard = i ∧ e.phase = .entry).map Event.call

/-- The calls of a guard on the way in over all moves: its payload, once, if the first move of the
guard is to enter it, and else none. -/
def Kind.callsOver (kind : Kind) (i : Nat) (moves : List Move) : List Call :=
  match moves.find? fun m => m.guard = i with
  | some ⟨_, .entry⟩ => kind.payload
  | _ => []

/-- The calls of a guard on the way in are settled by its first move. -/
theorem callsOver_append (kind : Kind) (i : Nat) (moves : List Move) (m : Move) :
    ((∃ m' ∈ moves, m'.guard = i) → kind.callsOver i (moves ++ [m]) = kind.callsOver i moves) ∧
    ((¬∃ m' ∈ moves, m'.guard = i) → kind.callsOver i moves = [] ∧
      kind.callsOver i (moves ++ [m]) =
        if m.guard = i ∧ m.phase = .entry then kind.payload else []) := by
  constructor
  · rintro ⟨m', hm', hi⟩
    obtain ⟨first, hfirst⟩ : ∃ first, (moves.find? fun m => m.guard = i) = some first :=
      Option.isSome_iff_exists.mp (List.find?_isSome.mpr ⟨m', hm', by simpa using hi⟩)
    simp only [Kind.callsOver, List.find?_append, hfirst, Option.some_or]
  · intro hnone
    have hfirst : (moves.find? fun m => m.guard = i) = none :=
      List.find?_eq_none.mpr fun m' hm' hi => hnone ⟨m', hm', by simpa using hi⟩
    refine ⟨by simp only [Kind.callsOver, hfirst], ?_⟩
    rcases m with ⟨j, _ | _⟩ <;> by_cases hj : j = i <;>
      simp [Kind.callsOver, List.find?_append, hfirst, hj]

/-- A move writes down calls of its own guard only. -/
theorem Move.exists_events_after (m : Move) (s : Store σ) :
    ∃ calls : List Call,
      (m.after s).events = s.events ++ calls.map fun c => ⟨m.guard, m.phase, c⟩ := by
  obtain ⟨i, phase⟩ := m
  cases hg : s.guards[i]? with
  | none => exact ⟨[], by cases phase <;> simp [Move.after, enter, exit, hg]⟩
  | some g =>
    cases phase with
    | entry =>
      cases hused : g.isUsed with
      | true => exact ⟨[], by simp [Move.after, enter_of_used .ofKinds hg hused]⟩
      | false => exact ⟨_, (enter_of_unused hg hused).2.2⟩
    | exit => exact ⟨_, (exit_of_mem hg).2.2⟩

/-- A move leaves the other guards as they are. -/
theorem Move.guards_after {m : Move} {i : Nat} (h : m.guard ≠ i) (s : Store σ) :
    (m.after s).guards[i]? = s.guards[i]? := by
  rw [Move.after]
  split
  · exact Ways.isLocal_ofKinds.guards_enter h s
  · exact Ways.isLocal_ofKinds.guards_exit h s

/-- The calls of a guard on the way in when further calls have been written down. -/
theorem Store.entryCalls_of_events {s s' : Store σ} {j : Nat} {phase : Phase} {calls : List Call}
    (h : s'.events = s.events ++ calls.map fun c => ⟨j, phase, c⟩) (i : Nat) :
    s'.entryCalls i = s.entryCalls i ++ if j = i ∧ phase = .entry then calls else [] := by
  rw [entryCalls, entryCalls, h, List.filter_append, List.map_append, List.filter_map]
  by_cases hmine : j = i ∧ phase = .entry <;> simp [Function.comp_def, hmine]

/-! ## One guard -/

/-- A guard is not done while its block is running, and a guard for a value that has to be there
holds one exactly while its block is running. -/
structure IsSteady (g : Guard) : Prop where
  not_both : ¬(g.done = true ∧ g.active = true)
  holds : ∀ init, g.kind = .nonNull init → (g.value.isNone = false ↔ g.active = true)

/-- A steady guard is steady behind its way in. -/
theorem IsSteady.entered {i : Nat} {g : Guard} (hg : g.IsSteady) (h : g.isUsed = false) :
    (entered i g).IsSteady := by
  obtain ⟨hdone, hactive⟩ : g.done = false ∧ g.active = false := by simpa [isUsed] using h
  rcases entered_cases i g with ⟨value, attached, scope, heq, hvalue⟩ | heq
  · rw [heq]
    exact ⟨by simp [hdone], fun init hkind => iff_of_true (hvalue init hkind) rfl⟩
  · rw [heq]
    exact ⟨by simp, fun init hkind => by simpa [hactive] using hg.holds init hkind⟩

/-- Every guard is steady behind its way out. -/
theorem isSteady_left (g : Guard) : (left g).IsSteady := by
  obtain ⟨value, attached, scope, heq, hvalue⟩ := left_cases g
  rw [heq]
  exact ⟨by simp, fun init hkind => by simp [hvalue init hkind, Value.isNone]⟩

/-- A guard behind its way in is of its kind, and has been used. -/
theorem kind_entered (i : Nat) (g : Guard) :
    (entered i g).kind = g.kind ∧ (entered i g).isUsed = true := by
  rcases entered_cases i g with ⟨value, attached, scope, heq, -⟩ | heq <;> simp [heq, isUsed]

/-- A guard behind its way out is of its kind, and is done. -/
theorem kind_left (g : Guard) : (left g).kind = g.kind ∧ (left g).done = true := by
  obtain ⟨value, attached, scope, heq, -⟩ := left_cases g
  simp [heq]

/-! ## Runs -/

/-- How far the guard with the number `i` has come by moves. -/
structure Reached (i : Nat) (kind : Kind) (moves : List Move) (s : Store σ) (g : Guard) : Prop where
  found : s.guards[i]? = some g
  kind_eq : g.kind = kind
  steady : g.IsSteady
  used : g.isUsed = true ↔ ∃ m ∈ moves, m.guard = i
  calls : s.entryCalls i = kind.callsOver i moves

namespace Reached

variable {i : Nat} {kind : Kind} {moves : List Move} {s : Store σ} {g : Guard}

/-- A move of another guard does not change what has been reached. -/
theorem other (h : Reached i kind moves s g) {m : Move} (hi : m.guard ≠ i) :
    Reached i kind (moves ++ [m]) (m.after s) g := by
  obtain ⟨calls, hevents⟩ := m.exists_events_after s
  obtain ⟨hlater, hfirst⟩ := callsOver_append kind i moves m
  have hmoves : (∃ m' ∈ moves ++ [m], m'.guard = i) ↔ ∃ m' ∈ moves, m'.guard = i := by simp [hi]
  refine ⟨(m.guards_after hi s).trans h.found, h.kind_eq, h.steady, h.used.trans hmoves.symm, ?_⟩
  rw [Store.entryCalls_of_events hevents, h.calls, if_neg fun hm => hi hm.1, List.append_nil]
  by_cases hused : ∃ m' ∈ moves, m'.guard = i
  · exact (hlater hused).symm
  · obtain ⟨hcalls, hmove⟩ := hfirst hused
    rw [hcalls, hmove, if_neg fun hm => hi hm.1]

/-- What is reached by entering the guard. Only the first time its payload is run. -/
theorem enter (h : Reached i kind moves s g) :
    ∃ g', Reached i kind (moves ++ [⟨i, .entry⟩]) (Guard.enter .ofKinds i s).2 g' := by
  obtain ⟨hlater, hfirst⟩ := callsOver_append kind i moves ⟨i, .entry⟩
  have hmoves : ∃ m' ∈ moves ++ [⟨i, .entry⟩], m'.guard = i := ⟨⟨i, .entry⟩, by simp⟩
  cases hused : g.isUsed with
  | true =>
    rw [enter_of_used .ofKinds h.found hused]
    exact ⟨g, h.found, h.kind_eq, h.steady, iff_of_true hused hmoves,
      h.calls.trans (hlater (h.used.mp hused)).symm⟩
  | false =>
    have hnone : ¬∃ m' ∈ moves, m'.guard = i := fun hm => by simp [h.used.mpr hm] at hused
    obtain ⟨hcalls, hmove⟩ := hfirst hnone
    obtain ⟨-, hfound, hevents⟩ := enter_of_unused h.found hused
    obtain ⟨hkind, hentered⟩ := kind_entered i g
    refine ⟨_, hfound, hkind.trans h.kind_eq, h.steady.entered hused,
      iff_of_true hentered hmoves, ?_⟩
    rw [Store.entryCalls_of_events hevents, h.calls, hcalls, hmove, h.kind_eq, if_pos ⟨rfl, rfl⟩]
    rfl

/-- What is reached by leaving the guard. -/
theorem exit (h : Reached i kind moves s g) :
    Reached i kind (moves ++ [⟨i, .exit⟩]) (Guard.exit .ofKinds i s).2 (left g) := by
  obtain ⟨hlater, hfirst⟩ := callsOver_append kind i moves ⟨i, .exit⟩
  obtain ⟨-, hfound, hevents⟩ := exit_of_mem h.found
  obtain ⟨hkind, hdone⟩ := kind_left g
  have hused : (left g).isUsed = true := by rw [isUsed, hdone, Bool.true_or]
  refine ⟨hfound, hkind.trans h.kind_eq, isSteady_left g,
    iff_of_true hused ⟨⟨i, .exit⟩, by simp⟩, ?_⟩
  rw [Store.entryCalls_of_events hevents, h.calls]
  by_cases hmoves : ∃ m' ∈ moves, m'.guard = i
  · simp [hlater hmoves]
  · obtain ⟨hcalls, hmove⟩ := hfirst hmoves
    simp [hcalls, hmove]

end Reached

end CHeaders.Guard
