import CHeaders.Fault

/-!
# Outcomes

A computation leaves notices behind, also when it fails: records for the journal and warnings
about outdated operations. An outcome is the list of the notices, in order, and the result.

## Main definitions

* `CHeaders.Notice`: what a computation leaves behind.
* `CHeaders.Outcome`: notices and a result, with its monad structure.
* `CHeaders.Outcome.note`: the outcome that only leaves a notice.

## Main results

* The monad laws, as an instance of `LawfulMonad`.
* `CHeaders.Outcome.result_bind`, `CHeaders.Outcome.notices_bind`: what a composition returns and
  what it leaves behind.
-/

namespace CHeaders

/-- A record for the journal: the path of the part of the library that writes it below the
library's own name, how grave it is, and a text. -/
structure Record where
  source : String
  level : Nat
  text : String
  deriving DecidableEq, Repr

/-- What a computation leaves behind beside its result. -/
inductive Notice where
  /-- A record for the journal. -/
  | record (r : Record)
  /-- A warning that an operation is outdated. -/
  | outdated (text : String)
  deriving DecidableEq, Repr

/-- The notices of a computation, in order, and its result. -/
structure Outcome (α : Type) where
  notices : List Notice
  result : Except Fault α

namespace Outcome

variable {α β γ : Type}

/-- The outcome that returns a value and leaves nothing behind. -/
def ok (a : α) : Outcome α :=
  ⟨[], .ok a⟩

/-- The outcome that fails and leaves nothing behind. -/
def fail (f : Fault) : Outcome α :=
  ⟨[], .error f⟩

/-- The outcome of a computation that cannot leave anything behind. -/
def ofExcept (r : Except Fault α) : Outcome α :=
  ⟨[], r⟩

/-- The outcome that leaves a notice and returns nothing of interest. -/
def note (n : Notice) : Outcome Unit :=
  ⟨[n], .ok ()⟩

/-- First `x`, then `f` on what it returns; a failure of `x` is the failure of both. -/
def andThen (x : Outcome α) (f : α → Outcome β) : Outcome β :=
  match x.result with
  | .ok a => ⟨x.notices ++ (f a).notices, (f a).result⟩
  | .error e => ⟨x.notices, .error e⟩

instance : Monad Outcome where
  pure := ok
  bind := andThen

instance : MonadExceptOf Fault Outcome where
  throw := fail
  tryCatch x handle :=
    match x.result with
    | .ok _ => x
    | .error e => ⟨x.notices ++ (handle e).notices, (handle e).result⟩

/-- The result of a composition. -/
theorem result_bind (x : Outcome α) (f : α → Outcome β) :
    (x >>= f).result = x.result.bind fun a => (f a).result := by
  cases h : x.result <;> simp [bind, andThen, h, Except.bind]

/-- The notices of a composition whose first part returns. -/
theorem notices_bind {x : Outcome α} {a : α} (h : x.result = .ok a) (f : α → Outcome β) :
    (x >>= f).notices = x.notices ++ (f a).notices := by
  simp [bind, andThen, h]

/-- A composition whose first part fails leaves what that part left. -/
theorem notices_bind_error {x : Outcome α} {e : Fault} (h : x.result = .error e)
    (f : α → Outcome β) : (x >>= f).notices = x.notices := by
  simp [bind, andThen, h]

instance : LawfulMonad Outcome :=
  LawfulMonad.mk' Outcome
    (fun {α} x => by
      change andThen x ok = x
      rcases x with ⟨ns, r⟩
      cases r <;> simp [andThen, ok])
    (fun {α β} a f => by
      change andThen (ok a) f = f a
      simp [andThen, ok])
    (fun {α β γ} x f g => by
      change andThen (andThen x f) g = andThen x fun a => andThen (f a) g
      rcases x with ⟨ns, r⟩
      cases r with
      | error e => simp [andThen]
      | ok a =>
        simp only [andThen]
        cases h : (f a).result <;> simp [List.append_assoc])

end Outcome

end CHeaders
