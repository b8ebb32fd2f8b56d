import CHeaders.Proofs.Text.Blank
import Mathlib.Data.List.Infix

/-!
# Parentheses

The depth of letters tells how many of their parentheses are open: each one that opens counts up and
each one that closes counts down, whatever stands between them. A text is matched if its parentheses
close each other. A *group* is what stands from the first parenthesis to the one that closes it,
together with what stands in front of the first one. Groups are read off from the left: in front of
anything, a matched text never closes a parenthesis that was opened before it.

Other than the brackets of a balanced text, which have three kinds, only parentheses count here.

## Main definitions

* `CHeaders.Text.depth`: how many parentheses of letters are open.
* `CHeaders.Text.IsMatched`: the texts whose parentheses close each other.
* `CHeaders.Text.readGroup`, `CHeaders.Text.readGroups`: reading groups.

## Main results

* `CHeaders.Text.IsMatched.append`, `CHeaders.Text.IsMatched.join`,
  `CHeaders.Text.IsMatched.between`, `CHeaders.Text.IsMatched.trim`: how matched texts are made.
* `CHeaders.Text.readGroup_append`: letters that close no parenthesis that is open are passed.
-/

namespace CHeaders.Text

/-- How many more parentheses the letters open than they close. -/
def depth (ls : List Letter) : Int :=
  ls.count (.char '(') - ls.count (.char ')')

/-- The parentheses of a text close each other: none is left open, and none is closed before it is
opened. -/
def IsMatched (t : Text) : Prop :=
  depth t.letters = 0 ∧ ∀ front, front <+: t.letters → 0 ≤ depth front

instance (t : Text) : Decidable (IsMatched t) :=
  decidable_of_iff (depth t.letters = 0 ∧ ∀ front ∈ t.letters.inits, 0 ≤ depth front)
    (by simp only [List.mem_inits, IsMatched])

/-! ## Depth -/

/-- The depth behind letters counts on from the depth behind the first of them. -/
@[simp] theorem depth_append (ls ms : List Letter) : depth (ls ++ ms) = depth ls + depth ms := by
  simp only [depth, List.count_append]
  omega

/-- The first letter counts by itself. -/
theorem depth_cons (l : Letter) (ls : List Letter) : depth (l :: ls) = depth [l] + depth ls :=
  depth_append [l] ls

/-- Letters of which none is a parenthesis have no depth. -/
theorem depth_eq_zero {ls : List Letter} (hopen : .char '(' ∉ ls) (hclose : .char ')' ∉ ls) :
    depth ls = 0 := by
  rw [depth, List.count_eq_zero.mpr hopen, List.count_eq_zero.mpr hclose]
  rfl

/-- A beginning of two lists is a beginning of the first one, or the first one with a beginning of
the second one behind it. -/
theorem beginning_cases {α : Type} {front ls ms : List α} (h : front <+: ls ++ ms) :
    front <+: ls ∨ ∃ front', front = ls ++ front' ∧ front' <+: ms := by
  rcases List.prefix_or_prefix_of_prefix h (List.prefix_append ls ms) with hfront | ⟨front', rfl⟩
  · exact .inl hfront
  · exact .inr ⟨front', rfl, (List.prefix_append_right_inj ls).mp h⟩

/-! ## Matched texts -/

/-- Matched texts may be put together. -/
theorem IsMatched.append {s t : Text} (hs : IsMatched s) (ht : IsMatched t) :
    IsMatched (s ++ t) := by
  refine ⟨?_, fun front hfront => ?_⟩
  · rw [letters_append, depth_append, hs.1, ht.1]
    rfl
  · rcases beginning_cases hfront with hfront | ⟨front', rfl, hfront'⟩
    · exact hs.2 front hfront
    · rw [depth_append, hs.1]
      have hback := ht.2 front' hfront'
      omega

/-- A matched text may be put between texts that match each other. -/
theorem IsMatched.between {t front back : Text} (ht : IsMatched t)
    (h : IsMatched (front ++ back)) : IsMatched (front ++ t ++ back) := by
  have hdepth : depth front.letters + depth back.letters = 0 := by
    rw [← depth_append]
    exact h.1
  refine ⟨?_, fun first hfirst => ?_⟩
  · simp only [letters_append, depth_append, ht.1]
    omega
  · rw [append_assoc] at hfirst
    rcases beginning_cases hfirst with hfirst | ⟨rest, rfl, hrest⟩
    · exact h.2 first (hfirst.trans (List.prefix_append ..))
    · have hfront : 0 ≤ depth front.letters := h.2 _ (List.prefix_append ..)
      rw [depth_append]
      rcases beginning_cases hrest with hrest | ⟨last, rfl, hlast⟩
      · have hinside := ht.2 rest hrest
        omega
      · have hboth := h.2 (front.letters ++ last) ((List.prefix_append_right_inj _).mpr hlast)
        rw [depth_append] at hboth
        rw [depth_append, ht.1]
        omega

/-- Matched texts may be joined. -/
theorem IsMatched.join {separator : Text} (hseparator : IsMatched separator) {ts : List Text}
    (h : ∀ t ∈ ts, IsMatched t) : IsMatched (Text.join separator ts) := by
  induction ts with
  | nil => exact (by decide : IsMatched "")
  | cons t ts ih =>
    obtain ⟨ht, hts⟩ := List.forall_mem_cons.mp h
    rcases ts with _ | ⟨u, ts⟩
    · exact ht
    · exact (ht.append hseparator).append (ih hts)

/-- White space has no depth. -/
theorem depth_of_forall_isBlank {ls : List Letter} (h : ∀ l ∈ ls, l.isIn isBlank = true) :
    depth ls = 0 := by
  refine depth_eq_zero (fun hopen => ?_) fun hclose => ?_
  · exact absurd (h _ hopen) (by decide)
  · exact absurd (h _ hclose) (by decide)

/-- Trimming keeps a text matched. -/
theorem IsMatched.trim {t : Text} (h : IsMatched t) : IsMatched (Text.trim t) := by
  obtain ⟨front, back, hfront, hback, hletters⟩ := exists_trim t
  have hdepth := depth_of_forall_isBlank hfront
  have hwhole := h.1
  rw [hletters, depth_append, depth_append, hdepth, depth_of_forall_isBlank hback] at hwhole
  refine ⟨by omega, fun first hfirst => ?_⟩
  have hprefix : front ++ first <+: t.letters := by
    rw [hletters, List.append_assoc]
    exact (List.prefix_append_right_inj _).mpr (hfirst.trans (List.prefix_append ..))
  have hboth := h.2 _ hprefix
  rw [depth_append] at hboth
  omega

/-! ## Reading groups -/

/-- The letters up to the parenthesis that closes the first one, and the letters behind it, if `n`
parentheses are open in front of them. -/
def readGroup (n : Int) : List Letter → Option (List Letter × List Letter)
  | [] => none
  | l :: ls =>
    let now := n + depth [l]
    if now < 0 then none
    else if l = .char ')' ∧ now = 0 then some ([l], ls)
    else (readGroup now ls).map fun read => (l :: read.1, read.2)

/-- So many groups, each without the white space in front of it, and the letters behind the groups
and behind the white space. -/
def readGroups : Nat → List Letter → Option (List Text × Text)
  | 0, ls => some ([], ⟨dropBlank ls⟩)
  | n + 1, ls => do
    let first ← readGroup 0 (dropBlank ls)
    let others ← readGroups n first.2
    return (⟨first.1⟩ :: others.1, others.2)

/-- As long as there is a parenthesis open, letters are passed. -/
theorem readGroup_append {n : Int} {ls : List Letter}
    (h : ∀ front, front <+: ls → 0 < n + depth front) (rest : List Letter) :
    readGroup n (ls ++ rest) =
      (readGroup (n + depth ls) rest).map fun read => (ls ++ read.1, read.2) := by
  induction ls generalizing n with
  | nil =>
    have hnil : n + depth [] = n := Int.add_zero n
    rw [hnil, List.nil_append]
    cases readGroup n rest <;> rfl
  | cons l ls ih =>
    have hl : 0 < n + depth [l] := h [l] (List.cons_prefix_cons.mpr ⟨rfl, List.nil_prefix⟩)
    have hls : ∀ front, front <+: ls → 0 < n + depth [l] + depth front := by
      intro front hfront
      have hcons := h (l :: front) (List.cons_prefix_cons.mpr ⟨rfl, hfront⟩)
      rw [depth_cons] at hcons
      omega
    have hopen : ¬(l = .char ')' ∧ n + depth [l] = 0) := fun hclosed => by omega
    rw [List.cons_append, readGroup, if_neg (by omega), if_neg hopen, ih hls, Option.map_map,
      depth_cons l ls, Int.add_assoc]
    rfl

/-- White space in front of groups is passed. -/
theorem readGroups_blank (n : Nat) {blank : List Letter} (h : ∀ l ∈ blank, l.isIn isBlank = true)
    (ls : List Letter) : readGroups n (blank ++ ls) = readGroups n ls := by
  have hdrop : dropBlank (blank ++ ls) = dropBlank ls := List.dropWhile_append_of_pos h
  cases n <;> rw [readGroups, readGroups, hdrop]

end CHeaders.Text
