import CHeaders.Guard.Store

/-!
# Blocks under guards

A block runs between the two ends of its guard, and the guard is released on every way out. Blocks
under several guards can be had in two ways: each guard's block holds the next guard, or the
guards are put on a stack, which is taken down when the block ends or when one of the guards
cannot be entered.

## Main definitions

* `CHeaders.Guard.block`: a block under one guard.
* `CHeaders.Guard.nested`: a block under guards, each inside the block of the one before.
* `CHeaders.Guard.stacked`: a block under a stack of guards.
-/

namespace CHeaders.Guard

variable {σ α : Type}

/-- `x`, and then `last`, whatever `x` did. A failure of `last` takes the place of the result. -/
def ensuring (x : Run σ α) (last : Run σ Unit) : Run σ α := fun s =>
  let (r, s) := x s
  match last s with
  | (.ok (), s) => (r, s)
  | (.error f, s) => (.error f, s)

/-- A block under one guard. -/
def block (ways : Ways σ) (i : Nat) (body : Target → Run σ α) : Run σ α := fun s =>
  match enter ways i s with
  | (.ok target, s) => ensuring (body target) (exit ways i) s
  | (.error f, s) => (.error f, s)

/-- A block under guards, each inside the block of the one before. -/
def nested (ways : Ways σ) : List Nat → (List Target → Run σ α) → Run σ α
  | [], body => body []
  | i :: rest, body =>
    block ways i fun target => nested ways rest fun targets => body (target :: targets)

/-- Takes down a stack of guards, the last entered first. Every guard is released; the last failure
takes the place of the result. -/
def unstack (ways : Ways σ) : List Nat → Except Fault α → Run σ α
  | [], r, s => (r, s)
  | i :: below, r, s =>
    match exit ways i s with
    | (.ok (), s) => unstack ways below r s
    | (.error f, s) => unstack ways below (.error f) s

/-- Puts further guards on a stack that holds the guards `entered`, the last entered first, with
their `targets` in the same order. -/
def stackOn (ways : Ways σ) (body : List Target → Run σ α) (entered : List Nat)
    (targets : List Target) : List Nat → Run σ α
  | [], s =>
    let (r, s) := body targets.reverse s
    unstack ways entered r s
  | i :: rest, s =>
    match enter ways i s with
    | (.ok target, s) => stackOn ways body (i :: entered) (target :: targets) rest s
    | (.error f, s) => unstack ways entered (.error f) s

/-- A block under a stack of guards. -/
def stacked (ways : Ways σ) (guards : List Nat) (body : List Target → Run σ α) : Run σ α :=
  stackOn ways body [] [] guards

end CHeaders.Guard
