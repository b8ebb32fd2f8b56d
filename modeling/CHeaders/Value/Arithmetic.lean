import CHeaders.Fault

/-!
# Sums and multiples of values

Texts, lists and byte strings have sums and multiples, as numbers do. A sum with generated text
on its right is generated text: what stands on the left is shown in front of it.

## Main definitions

* `CHeaders.Value.plus`: the sum of two values.
* `CHeaders.Value.times`: a value repeated or multiplied.
* `CHeaders.Value.isPlace`: the whole numbers that can be lengths or places.
-/

namespace CHeaders.Value

/-- Whether a whole number can be a place in a list or a length: it takes no more than 64 bits with
its sign. -/
def isPlace (n : Int) : Bool :=
  -(1 <<< 63) ≤ n && n < 1 <<< 63

/-- The real nearest to a whole number, which must not be too large. -/
def nearestReal (n : Int) : Except Fault Binary64 :=
  match Binary64.ofInt? n with
  | some x => .ok x
  | Option.none => .error .tooLargeForReal

/-- The real that a number of any kind stands for in a sum with another real. -/
def real? : Value → Option (Except Fault Binary64)
  | real x => some (.ok x)
  | v => v.whole?.map nearestReal

/-- The sum of two numbers. A whole number is made a real when the other one is. -/
def plusNumber? (v w : Value) : Option (Except Fault Value) :=
  match v.whole?, w.whole? with
  | some a, some b => some (.ok (int (a + b)))
  | _, _ =>
    match v.real?, w.real? with
    | some x, some y => some do return real ((← x).plus (← y))
    | _, _ => Option.none

/-- The sum of two values. Generated text takes text behind it, and shows any value that stands in
front of it. -/
def plus (v w : Value) : Except Fault Value :=
  match v, w with
  | fragment s, _ =>
    match w.text? with
    | some t => .ok (fragment (s ++ t))
    | Option.none => .error (.notAppendable "str" w.kind)
  | _, fragment t => do return fragment ((← v.written) ++ t)
  | text s, text t => .ok (text (s ++ t))
  | text _, _ => .error (.notAppendable "str" w.kind)
  | list xs, list ys => .ok (list (xs ++ ys))
  | list _, _ => .error (.notAppendable "list" w.kind)
  | tuple xs, tuple ys => .ok (tuple (xs ++ ys))
  | tuple _, _ => .error (.notAppendable "tuple" w.kind)
  | bytes as, bytes bs => .ok (bytes (as ++ bs))
  | bytes _, _ => .error (.notAppendableToBytes w.kind)
  | _, _ =>
    match plusNumber? v w with
    | some sum => sum
    | Option.none => .error (.noSum v.kind w.kind)

/-- The list `xs` written `n` times. -/
def repeated {α : Type} (n : Nat) (xs : List α) : List α :=
  (List.replicate n xs).flatten

/-- A list that is written several times holds nothing new. -/
theorem mem_of_mem_repeated {α : Type} {x : α} {n : Nat} {xs : List α} (h : x ∈ repeated n xs) :
    x ∈ xs := by
  obtain ⟨ys, hys, hx⟩ := List.mem_flatten.mp h
  exact List.eq_of_mem_replicate hys ▸ hx

/-- The value `n` times over: a multiple of a number, or a text or list repeated. -/
def times (v : Value) (n : Nat) : Except Fault Value :=
  match v with
  | int k => .ok (int (k * n))
  | bool b => .ok (int (if b then n else 0))
  | real x => do return real (x.times (← nearestReal n))
  | text t | fragment t => .ok (text ⟨repeated n t.letters⟩)
  | bytes bs => .ok (bytes (repeated n bs))
  | list xs => .ok (list (repeated n xs))
  | tuple xs => .ok (tuple (repeated n xs))
  | _ => .error (.noProduct v.kind "int")

end CHeaders.Value
