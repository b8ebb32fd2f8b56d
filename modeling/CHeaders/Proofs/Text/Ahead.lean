import CHeaders.Proofs.Text.Quoted

/-!
# The place of the first name

The fields and the parameters of a declaration are named by their places, and the first name begins
with `_0`. This module counts the letters in front of the first name. Between quotes there are no
fewer of them than in the text itself: a letter that is escaped takes more room, and no escape
begins a name.

## Main definitions

* `CHeaders.Text.ahead`: how many letters stand in front of the first name.

## Main results

* `CHeaders.Text.ahead_append`: letters without an underscore stand in front.
* `CHeaders.Text.ahead_quoted`: a text between quotes.
-/

namespace CHeaders.Text

/-- The number of letters in front of the first `_0`. -/
def ahead : List Letter → Nat
  | .char '_' :: .char '0' :: _ => 0
  | _ :: ls => ahead ls + 1
  | [] => 0

/-- A letter that begins no name stands in front of the first one. -/
theorem ahead_cons {l : Letter} {ls : List Letter}
    (h : ¬(l = .char '_' ∧ ls.head? = some (.char '0'))) : ahead (l :: ls) = ahead ls + 1 := by
  refine ahead.eq_2 l ls fun tail hl hls => h ⟨hl, ?_⟩
  rw [hls]
  rfl

/-- A letter takes the first name back by one place at most. -/
theorem ahead_cons_le (l : Letter) (ls : List Letter) : ahead (l :: ls) ≤ ahead ls + 1 := by
  by_cases h : l = .char '_' ∧ ls.head? = some (.char '0')
  · obtain ⟨rfl, hls⟩ := h
    rcases ls with _ | ⟨m, ls⟩
    · cases hls
    · obtain rfl := Option.some.inj hls
      exact Nat.zero_le _
  · exact (ahead_cons h).le

/-- Letters without an underscore stand in front of the first name. -/
theorem ahead_append {front : List Letter} (h : ∀ l ∈ front, l ≠ .char '_') (ls : List Letter) :
    ahead (front ++ ls) = front.length + ahead ls := by
  induction front with
  | nil => simp
  | cons l front ih =>
    obtain ⟨hl, hfront⟩ := List.forall_mem_cons.mp h
    rw [List.cons_append, ahead_cons fun hname => hl hname.1, ih hfront, List.length_cons]
    omega

/-! ## Texts between quotes -/

/-- The ink of a letter between quotes holds an underscore only if the letter is one. -/
theorem underscore_not_mem_inkForm {quote : Char} (hquote : IsQuote quote) {l : Letter}
    (hl : l ≠ .char '_') : ∀ m ∈ inkForm quote l, m ≠ .char '_' := by
  unfold inkForm
  split
  · simp
  · refine List.forall_mem_map.mpr fun c hc heq => ?_
    obtain rfl := Letter.char.inj heq
    rcases mem_quotedLetter hquote hc with ⟨hself, -⟩ | ⟨-, hne⟩
    · exact hl hself
    · exact hne rfl

/-- The ink of a letter between quotes is empty only if the letter is a space. -/
theorem inkForm_ne_nil {quote : Char} (hquote : IsQuote quote) {l : Letter} (hl : l ≠ .char ' ') :
    inkForm quote l ≠ [] := by
  unfold inkForm
  rw [if_neg hl]
  rcases quotedLetter_cases hquote l with ⟨c, -, -, -, hform⟩ | ⟨c, -, -, hform⟩ |
    ⟨mark, places, -, -, hform⟩ <;> rw [hform] <;> simp

/-- The ink of a letter between quotes begins with a zero only if the letter is one. -/
theorem head?_inkForm {quote : Char} (hquote : IsQuote quote) {l : Letter}
    (h : (inkForm quote l).head? = some (.char '0')) : l = .char '0' := by
  unfold inkForm at h
  split at h
  · cases h
  · rcases quotedLetter_cases hquote l with ⟨c, rfl, -, -, hform⟩ | ⟨c, -, -, hform⟩ |
      ⟨mark, places, -, -, hform⟩ <;> rw [hform] at h
    · exact Option.some.inj h
    · exact absurd (Option.some.inj h) (by decide)
    · exact absurd (Option.some.inj h) (by decide)

/-- If the ink between quotes begins with a zero, then so does the ink of the text. -/
theorem head?_flatMap_inkForm {quote : Char} (hquote : IsQuote quote) {ls back : List Letter}
    (hback : back.head? ≠ some (.char '0'))
    (h : (ls.flatMap (inkForm quote) ++ back).head? = some (.char '0')) :
    (ls.filter fun l => !l.isIn isBlank).head? = some (.char '0') := by
  induction ls with
  | nil => exact absurd h hback
  | cons l ls ih =>
    by_cases hspace : l = .char ' '
    · subst hspace
      exact ih h
    · have hform := inkForm_ne_nil hquote hspace
      have hzero : l = .char '0' := by
        refine head?_inkForm hquote ?_
        rw [List.flatMap_cons, List.append_assoc, List.head?_append_of_ne_nil _ hform] at h
        exact h
      subst hzero
      rfl

/-- If one text has its first name no sooner than another one, then this is so behind a letter that
is no underscore, also if the letter is between quotes in the first text. -/
theorem ahead_inkForm_append {quote : Char} (hquote : IsQuote quote) {l : Letter}
    (hl : l ≠ .char '_') {ls back : List Letter} (h : ahead ls ≤ ahead back) :
    ahead ([l].filter (fun m => !m.isIn isBlank) ++ ls) ≤ ahead (inkForm quote l ++ back) := by
  rw [ahead_append (underscore_not_mem_inkForm hquote hl)]
  by_cases hblank : l.isIn isBlank = true
  · rw [List.filter_cons_of_neg (by simp [hblank]), List.filter_nil, List.nil_append]
    omega
  · have hspace : l ≠ .char ' ' := by
      rintro rfl
      exact hblank rfl
    have hlength := List.length_pos_iff.mpr (inkForm_ne_nil hquote hspace)
    rw [List.filter_cons_of_pos (by simpa using hblank), List.filter_nil, List.cons_append,
      List.nil_append, ahead_cons fun hname => hl hname.1]
    omega

/-- The same is so behind an underscore, if it begins a name in the one text only if it does so in
the other. -/
theorem ahead_underscore {ls back : List Letter} (h : ahead ls ≤ ahead back)
    (hzero : back.head? = some (.char '0') → ls.head? = some (.char '0')) :
    ahead (.char '_' :: ls) ≤ ahead (.char '_' :: back) := by
  by_cases hback : back.head? = some (.char '0')
  · rcases ls with _ | ⟨m, ms⟩
    · cases hzero hback
    · obtain rfl := Option.some.inj (hzero hback)
      exact Nat.zero_le _
  · rw [ahead_cons (l := .char '_') fun hname => hback hname.2]
    exact (ahead_cons_le _ _).trans (Nat.succ_le_succ h)

/-- Between quotes the first name stands no sooner than in a text with a name behind it.

**Proof sketch.** By induction on the text. An underscore stands for itself between quotes, and
what follows it begins with a zero only if the text does. Another letter has an empty ink, or it
takes at least the place that it has in the text. -/
theorem ahead_flatMap_inkForm {quote : Char} (hquote : IsQuote quote) (ls : List Letter)
    {back : List Letter} (hback : back.head? ≠ some (.char '0')) (rest : List Letter) :
    ahead ((ls.filter fun l => !l.isIn isBlank) ++ .char '_' :: .char '0' :: rest) ≤
      ahead (ls.flatMap (inkForm quote) ++ back) := by
  induction ls with
  | nil => exact Nat.zero_le _
  | cons l ls ih =>
    rw [List.flatMap_cons, List.append_assoc]
    by_cases hunderscore : l = .char '_'
    · subst hunderscore
      have hform : inkForm quote (.char '_') = [.char '_'] := by
        rw [inkForm, if_neg (by decide), quotedLetter_underscore hquote]
        rfl
      have hhead : (ls.flatMap (inkForm quote) ++ back).head? = some (.char '0') →
          ((ls.filter fun l => !l.isIn isBlank) ++ .char '_' :: .char '0' :: rest).head? =
            some (.char '0') := fun hzero => by
        rw [List.head?_append, head?_flatMap_inkForm hquote hback hzero, Option.some_or]
      rw [hform]
      exact ahead_underscore ih hhead
    · have hsplit : (l :: ls).filter (fun m => !m.isIn isBlank) =
          [l].filter (fun m => !m.isIn isBlank) ++ ls.filter fun m => !m.isIn isBlank :=
        List.filter_append [l] ls
      rw [hsplit, List.append_assoc]
      exact ahead_inkForm_append hquote hunderscore ih

/-- Between quotes the first name stands no sooner than behind the text. -/
theorem ahead_quoted (s : Text) (rest back : List Letter) :
    ahead (ink s ++ .char '_' :: .char '0' :: rest) ≤
      ahead (ink (ofString (quoted s)) ++ back) := by
  have hquote := isQuote_quoteFor s.letters
  have hne : ∀ c : Char, IsQuote c → c ≠ '_' ∧ c ≠ '0' := by
    rintro c (rfl | rfl) <;> decide
  rw [ink_quoted, List.cons_append, ahead_cons fun hname =>
    (hne _ hquote).1 (Letter.char.inj hname.1), List.append_assoc]
  refine (ahead_flatMap_inkForm hquote s.letters ?_ rest).trans (Nat.le_succ _)
  intro hzero
  exact (hne _ hquote).2 (Letter.char.inj (Option.some.inj hzero))

end CHeaders.Text
