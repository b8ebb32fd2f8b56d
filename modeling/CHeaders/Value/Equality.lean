import CHeaders.Value

/-!
# Equality of values

Numbers are equal when they are the same number, whatever their kind, and truth values count as
zero and one. Text and generated text are equal when they hold the same characters. Containers
are equal item by item, mappings entry by entry in any order, and chains cell by cell.

A value that is not a number is not equal to itself. An item of a container is compared by
*likeness*: it is like itself in any case, and like whatever it is equal to. A cell that two
chains share is equal to itself, whatever its head is.

## Main definitions

* `CHeaders.Value.equals`, `CHeaders.Value.alike`: equality and likeness.
* `CHeaders.Value.unhashable?`: the part of a value that keeps it out of a set.
* `CHeaders.Value.distinctCount`: how many elements a set of two values has.
* `CHeaders.Value.ofEntries`: the mapping with given entries.
-/

namespace CHeaders.Value

/-- A number as such: a dyadic number or an infinity. -/
inductive Number where
  | exact (d : Dyadic)
  | infinite (negative : Bool)
  deriving DecidableEq

/-- The number that a value is; a value that is not a number has none. -/
def number? : Value → Option Number
  | bool b => some (.exact (Dyadic.ofInt (if b then 1 else 0)))
  | int n => some (.exact (Dyadic.ofInt n))
  | real (.infinite negative) => some (.infinite negative)
  | real x => x.dyadic?.map .exact
  | _ => Option.none

/-- Whether two values are known to be one and the same thing that is not a number. -/
def isSameNaN : Value → Value → Bool
  | real (.nan (some s)), real (.nan (some s')) => s == s'
  | _, _ => false

/-- Whether two values that are neither containers nor made of other values are equal. -/
def equalsAtom (v w : Value) : Bool :=
  match v.number?, w.number? with
  | some x, some y => x == y
  | _, _ =>
    match v.text?, w.text? with
    | some s, some t => s == t
    | _, _ =>
      match v, w with
      | none, none => true
      | nil, nil => true
      | bytes as, bytes bs => as == bs
      | moment a, moment b => a.sameAs b
      | foreign a, foreign b => a == b
      | callable a _ _ _, callable b _ _ _ => a == b
      | cycle a _, cycle b _ => a == b
      | _, _ => false

/-- Whether `v`, marked by `mark`, is a cell and `w` is that very cell. -/
def isSameCell (mark : Nat) (v w : Value) : Bool :=
  match v, w with
  | cons _ _, shared mark' _ => mark == mark'
  | _, _ => false

mutual

/-- Equality (`loose = false`) and likeness (`loose = true`). -/
def related (loose : Bool) : Value → Value → Bool
  | shared mark v, w => isSameCell mark v w || related loose v w
  | cons h t, w =>
    match w.bare with
    | cons h' t' => related loose h h' && related loose t t'
    | _ => false
  | list xs, w => match w.bare with | list ys => allAlike xs ys | _ => false
  | tuple xs, w => match w.bare with | tuple ys => allAlike xs ys | _ => false
  | dict es, w =>
    match w.bare with
    | dict fs => es.length == fs.length && entriesAmong es fs
    | _ => false
  | set xs, w =>
    match w.bare with
    | set ys => xs.length == ys.length && itemsAmong xs ys
    | _ => false
  | call op args, w =>
    match w.bare with
    | call op' args' => related true op op' && related true args args'
    | _ => false
  | declaration t c, w =>
    match w.bare with
    | declaration t' c' => related true t t' && related true c c'
    | _ => false
  | plan n d g i, w =>
    match w.bare with
    | plan n' d' g' i' =>
      related true n n' && related true d d' && related true g g' && related true i i'
    | _ => false
  | step f args, w =>
    match w.bare with
    | step f' args' => related true f f' && related true args args'
    | _ => false
  | position l c f, w =>
    match w.bare with
    | position l' c' f' => related true l l' && related true c c' && related true f f'
    | _ => false
  | symbolKey s i p, w =>
    match w.bare with
    | symbolKey s' i' p' => related true s s' && related true i i' && related true p p'
    | _ => false
  | v, w => equalsAtom v w.bare || (loose && isSameNaN v w.bare)

/-- Whether two lists are alike item by item. -/
def allAlike : List Value → List Value → Bool
  | [], [] => true
  | x :: xs, y :: ys => related true x y && allAlike xs ys
  | _, _ => false

/-- Whether every item of the first list is like one of the second. -/
def itemsAmong : List Value → List Value → Bool
  | [], _ => true
  | x :: xs, ys => ys.any (related true x) && itemsAmong xs ys

/-- Whether every entry of the first list is like one of the second, in key and in value. -/
def entriesAmong : List (Value × Value) → List (Value × Value) → Bool
  | [], _ => true
  | (k, v) :: es, fs =>
    fs.any (fun f => related true k f.1 && related true v f.2) && entriesAmong es fs

end

/-- Whether two values are equal. -/
def equals (v w : Value) : Bool :=
  related false v w

/-- Whether two values are equal or one and the same. -/
def alike (v w : Value) : Bool :=
  related true v w

mutual

/-- The kind of the first part of a value that cannot be looked up by its content, if there is
one. Lists, mappings, sets, declarations and plans can change and are such parts. -/
def unhashable? : Value → Option String
  | list _ => some "list"
  | dict _ => some "dict"
  | set _ => some "set"
  | declaration _ _ => some "Declaration"
  | plan _ _ _ _ => some "Plan"
  | tuple xs => anyUnhashable? xs
  | cons h t => h.unhashable?.or t.unhashable?
  | call op args => op.unhashable?.or args.unhashable?
  | step f args => f.unhashable?.or args.unhashable?
  | position l c f => l.unhashable?.or (c.unhashable?.or f.unhashable?)
  | symbolKey s i p => s.unhashable?.or (i.unhashable?.or p.unhashable?)
  | shared _ v => v.unhashable?
  | cycle _ shape => some shape.kind
  | _ => Option.none

/-- The first such part among several values. -/
def anyUnhashable? : List Value → Option String
  | [] => Option.none
  | x :: xs => x.unhashable?.or (anyUnhashable? xs)

end

/-- How many elements the set of two values has, or the kind of the first part that keeps one of
them out of a set. -/
def distinctCount (v w : Value) : Except String Nat :=
  match v.unhashable?.or w.unhashable? with
  | some kind => .error kind
  | Option.none => .ok (if v.alike w then 1 else 2)

/-- The entries with one more. A key that is there already stays where it is and gets the new
value. -/
def insertEntry (key value : Value) : List (Value × Value) → List (Value × Value)
  | [] => [(key, value)]
  | (k, v) :: es =>
    if k.alike key then (k, value) :: es else (k, v) :: insertEntry key value es

/-- The mapping with the given entries, of which a later one replaces an earlier one. -/
def ofEntries (entries : List (Value × Value)) : Value :=
  dict (entries.foldl (fun es e => insertEntry e.1 e.2 es) [])

end CHeaders.Value
