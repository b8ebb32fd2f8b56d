import CHeaders.Guard

/-!
# Entering and leaving

Guards change as their blocks come and go. A *store* holds the guards by number, together with
what has happened so far, and a *run* is what a piece of the caller's code does to it. The code in
the blocks may work on a state of its own, of any type, which the store carries along.

Every guard keeps track of its block in the same manner, whatever it does on the way in and on the
way out. What it does there may be anything at all; the kinds of guards that the library knows are
one case.

## Main definitions

* `CHeaders.Guard.Store`: guards and what has happened.
* `CHeaders.Guard.Run`: what a piece of code does to a store.
* `CHeaders.Guard.Ways`: what guards do on the way in and on the way out, with
  `CHeaders.Guard.Ways.ofKinds` for the kinds of the library.
* `CHeaders.Guard.enter`, `CHeaders.Guard.exit`: the two ends of a block.

## Main results

* `CHeaders.Guard.enter_of_used`: a guard that has been used refuses to be entered, and nothing
  changes.
-/

namespace CHeaders.Guard

/-- When a guard calls something: on the way into its block, or on the way out. -/
inductive Phase where
  | entry
  | exit
  deriving DecidableEq, Repr

/-- A call that a guard has made. -/
structure Event where
  guard : Nat
  phase : Phase
  call : Call

/-- The guards by number, the calls that they have made, the notices that they have left, and the
state of the code in the blocks. -/
structure Store (σ : Type) where
  guards : List Guard
  events : List Event
  notices : List Notice
  outer : σ

/-- What a piece of code does to a store. Changes stay when it fails. -/
abbrev Run (σ α : Type) := Store σ → Except Fault α × Store σ

namespace Store

variable {σ : Type}

/-- The store without guards. -/
def empty (outer : σ) : Store σ :=
  ⟨[], [], [], outer⟩

/-- Takes in a guard; its number is the number of guards before it. -/
def add (s : Store σ) (g : Guard) : Store σ :=
  { s with guards := s.guards ++ [g] }

/-- Changes the guard with the number. -/
def update (s : Store σ) (i : Nat) (change : Guard → Guard) : Store σ :=
  { s with guards := s.guards.modify i change }

/-- Writes down the calls of a guard. -/
def record (s : Store σ) (i : Nat) (phase : Phase) (calls : List Call) : Store σ :=
  { s with events := s.events ++ calls.map fun c => ⟨i, phase, c⟩ }

/-- Leaves a record for the journal. -/
def note (s : Store σ) (text : String) : Store σ :=
  { s with notices := s.notices ++ [.record ⟨"guards", 10, text⟩] }

/-- The guard that is changed is found under its number, the other guards as they were. -/
theorem guards_update (s : Store σ) (i j : Nat) (change : Guard → Guard) :
    (s.update i change).guards[j]? = if i = j then s.guards[j]?.map change else s.guards[j]? := by
  simp only [update, List.getElem?_modify]
  split <;> simp [*]

end Store

variable {σ : Type}

/-- What guards do on the way into their blocks and on the way out, by their numbers. -/
structure Ways (σ : Type) where
  acquire : Nat → Run σ Target
  release : Nat → Run σ Unit

/-- What the kinds of guards do, with the calls that they make written down. -/
def Ways.ofKinds : Ways σ where
  acquire i s :=
    match s.guards[i]? with
    | none => (.error (.missingKey (.int i)), s)
    | some g =>
      let way := g.acquire i
      let s := s.record i .entry way.calls
      match way.result with
      | .ok (g', target) => (.ok target, s.update i fun _ => g')
      | .error f => (.error f, s)
  release i s :=
    match s.guards[i]? with
    | none => (.error (.missingKey (.int i)), s)
    | some g =>
      let way := g.release
      let s := s.record i .exit way.calls
      match way.result with
      | .ok g' => (.ok (), s.update i fun _ => g')
      | .error f => (.error f, s)

/-- Whether a guard has been entered or released before. -/
def isUsed (g : Guard) : Bool :=
  g.done || g.active

/-- Begins the block of a guard. A guard that fails on the way in is done. -/
def enter (ways : Ways σ) (i : Nat) : Run σ Target := fun s =>
  match s.guards[i]? with
  | none => (.error (.missingKey (.int i)), s)
  | some g =>
    if g.isUsed then (.error (.reused g.kind.family), s)
    else
      let notice := g.kind.family ++ ": entering, shadowing of '" ++ g.kind.flag ++ "' accepted"
      match ways.acquire i ((s.note notice).update i fun g => { g with active := true }) with
      | (.ok target, s) => (.ok target, s)
      | (.error f, s) =>
        (.error f, s.update i fun g => { g with active := false, done := true })

/-- Ends the block of a guard, which is done then, whatever happens on the way out. -/
def exit (ways : Ways σ) (i : Nat) : Run σ Unit := fun s =>
  match s.guards[i]? with
  | none => (.error (.missingKey (.int i)), s)
  | some g =>
    let (r, s) := ways.release i s
    let s := s.update i fun g => { g with active := false, done := true }
    (r, s.note (g.kind.family ++ ": released"))

/-- A guard that has been used refuses to be entered, and nothing changes. -/
theorem enter_of_used (ways : Ways σ) {i : Nat} {s : Store σ} {g : Guard}
    (hg : s.guards[i]? = some g) (h : g.isUsed) :
    enter ways i s = (.error (.reused g.kind.family), s) := by
  simp [enter, hg, h]

end CHeaders.Guard
