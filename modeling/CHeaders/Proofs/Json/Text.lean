import CHeaders.Json.Text
import CHeaders.Proofs.Text.Encoding

/-!
# Reading written texts

A written text is read as the text that was written, unless the two halves of a pair stand next to
each other in it: their escapes are read as the one character that the pair stands for.

## Main definitions

* `CHeaders.Json.isJoined`: no two halves of a pair stand next to each other.

## Main results

* `CHeaders.Json.escapeLetter_cases`: the four ways in which a letter is written.
* `CHeaders.Json.readText_escaped`: a written text is read as it was.
-/

namespace CHeaders.Json

open Text (isHighHalf isLowHalf)

/-- Whether no first half of a pair stands in front of a second one. -/
def isJoined : List Letter → Bool
  | a :: b :: ls => !(isHighHalf a.code && isLowHalf b.code) && isJoined (b :: ls)
  | _ => true

/-- What is joined stays so without its first letter, and what follows a first half is no second
half. -/
theorem isJoined_cons {l : Letter} {ls : List Letter} (h : isJoined (l :: ls) = true) :
    isJoined ls = true ∧
      (isHighHalf l.code = true → ∀ b, ls.head? = some b → isLowHalf b.code = false) := by
  cases ls with
  | nil => simp [isJoined]
  | cons b ls =>
    rw [isJoined, Bool.and_eq_true] at h
    refine ⟨h.2, fun hhigh b' hb' => ?_⟩
    obtain rfl := Option.some.inj hb'
    simpa [hhigh] using h.1

/-- A character is written as one unit, or as the two units of a pair. -/
theorem unitsEscape_cases (c : Char) :
    (unitsEscape c.toNat = unitEscape c.toNat ∧ c.toNat < 0x10000) ∨
    ∃ high low, unitsEscape c.toNat = unitEscape high ++ unitEscape low ∧
      isHighHalf high = true ∧ isLowHalf low = true ∧ Text.pair high low = .char c := by
  rw [unitsEscape]
  by_cases hplane : c.toNat < 0x10000
  · exact .inl ⟨if_pos hplane, hplane⟩
  · have hvalid : c.toNat < 0xD800 ∨ (0xDFFF < c.toNat ∧ c.toNat < 0x110000) := c.valid
    refine .inr ⟨_, _, if_neg hplane, ?_, ?_, ?_⟩
    · simp only [isHighHalf, Bool.and_eq_true, decide_eq_true_eq]
      omega
    · simp only [isLowHalf, Bool.and_eq_true, decide_eq_true_eq]
      omega
    · have hcode : 0x10000 + (0xD800 + (c.toNat - 0x10000) / 0x400 - 0xD800) * 0x400 +
          (0xDC00 + (c.toNat - 0x10000) % 0x400 - 0xDC00) = c.toNat := by omega
      rw [Text.pair, hcode, Char.ofNat_toNat]

/-- A character is written behind a backslash, as it is, or by its units.

**Proof sketch.** The characters with an escape of their own come first, then those that stand for
themselves: these lie between the space and the tilde. -/
theorem escapeChar_cases (c : Char) :
    (∃ d, escapeChar c = ['\\', d] ∧ escaped? d = some c ∧ d ≠ 'u') ∨
    (escapeChar c = [c] ∧ c ≠ '"' ∧ c ≠ '\\' ∧ 0x1F < c.toNat) ∨
    escapeChar c = unitsEscape c.toNat := by
  rw [escapeChar]
  by_cases hquote : c = '"' ∨ c = '\\'
  · refine .inl ⟨c, if_pos (by simpa using hquote), ?_, ?_⟩
    · obtain rfl | rfl := hquote <;> rfl
    · obtain rfl | rfl := hquote <;> decide
  rw [if_neg (by simpa using hquote)]
  by_cases hn : c = '\n'
  · exact .inl ⟨'n', if_pos hn, by rw [hn]; rfl, by decide⟩
  rw [if_neg hn]
  by_cases hr : c = '\r'
  · exact .inl ⟨'r', if_pos hr, by rw [hr]; rfl, by decide⟩
  rw [if_neg hr]
  by_cases ht : c = '\t'
  · exact .inl ⟨'t', if_pos ht, by rw [ht]; rfl, by decide⟩
  rw [if_neg ht]
  by_cases hb : c = '\x08'
  · exact .inl ⟨'b', if_pos hb, by rw [hb]; rfl, by decide⟩
  rw [if_neg hb]
  by_cases hf : c = '\x0c'
  · exact .inl ⟨'f', if_pos hf, by rw [hf]; rfl, by decide⟩
  rw [if_neg hf]
  by_cases hvisible : ' ' ≤ c && c ≤ '~'
  · have hspace : ' ' ≤ c := by
      simp only [Bool.and_eq_true, decide_eq_true_eq] at hvisible
      exact hvisible.1
    have hcode : (' ').toNat ≤ c.toNat := hspace
    exact .inr (.inl ⟨if_pos hvisible, fun h => hquote (.inl h), fun h => hquote (.inr h),
      Nat.lt_of_lt_of_le (by decide) hcode⟩)
  exact .inr (.inr (if_neg hvisible))

/-- A letter is written behind a backslash, as it is, as one unit, or as the two units of a
pair. -/
theorem escapeLetter_cases (l : Letter) :
    (∃ c d, l = .char c ∧ escapeLetter l = ['\\', d] ∧ escaped? d = some c ∧ d ≠ 'u') ∨
    (∃ c, l = .char c ∧ escapeLetter l = [c] ∧ c ≠ '"' ∧ c ≠ '\\' ∧ 0x1F < c.toNat) ∨
    (escapeLetter l = unitEscape l.code ∧ l.code < 0x10000) ∨
    ∃ high low, escapeLetter l = unitEscape high ++ unitEscape low ∧ isHighHalf high = true ∧
      isLowHalf low = true ∧ Text.pair high low = l := by
  cases l with
  | half n =>
    have hn : 0xD800 + n.val < 0x10000 := by omega
    refine .inr (.inr (.inl ⟨?_, hn⟩))
    rw [escapeLetter, unitsEscape, Letter.code, if_pos hn]
  | char c =>
    rw [escapeLetter]
    obtain ⟨d, hd⟩ | hself | hunits := escapeChar_cases c
    · exact .inl ⟨c, d, rfl, hd⟩
    · exact .inr (.inl ⟨c, rfl, hself⟩)
    · rw [hunits]
      exact .inr (.inr (unitsEscape_cases c))

/-- The letters of the escape of a unit. -/
theorem letters_unitEscape (n : Nat) : ∃ a b c d : Letter,
    (unitEscape n).map Letter.char = [.char '\\', .char 'u', a, b, c, d] ∧
      (n < 0x10000 → unit? [a, b, c, d] = some n) := by
  refine ⟨_, _, _, _, rfl, fun hn => ?_⟩
  have hdigits := Text.Hex.number?_padded .small 4 n
  rw [Text.Hex.padded_four, Nat.mod_eq_of_lt (by omega)] at hdigits
  exact hdigits

/-- An escaped unit is read as its letter, unless it makes a pair with an escaped unit behind it. -/
theorem readText_unit {start tail : List Letter} {n : Nat} (hn : n < 0x10000) (htail : tail ≠ [])
    (hpair : isHighHalf n = true → ∀ ds, unitDigits? tail = some ds →
      ∃ m, unit? ds = some m ∧ isLowHalf m = false) :
    readText start ((unitEscape n).map .char ++ tail) =
      (readText start tail).map fun r => (Letter.ofCode n :: r.1, r.2) := by
  obtain ⟨a, b, c, d, hletters, hunit⟩ := letters_unitEscape n
  obtain ⟨next, rest, rfl⟩ := List.exists_cons_of_ne_nil htail
  rw [hletters]
  simp only [List.cons_append, List.nil_append]
  rw [readText, hunit hn]
  simp only
  by_cases hhigh : isHighHalf n = true
  · rw [if_pos hhigh]
    cases hds : unitDigits? (next :: rest) with
    | none => rfl
    | some ds =>
      obtain ⟨m, hm, hlow⟩ := hpair hhigh ds hds
      simp only [hm, hlow]
      rfl
  · rw [if_neg hhigh]

/-- Two escaped units that make a pair are read as the character of the pair. -/
theorem readText_pair {start tail : List Letter} {high low : Nat} (htail : tail ≠ [])
    (hhigh : isHighHalf high = true) (hlow : isLowHalf low = true) :
    readText start ((unitEscape high ++ unitEscape low).map .char ++ tail) =
      (readText start tail).map fun r => (Text.pair high low :: r.1, r.2) := by
  obtain ⟨a, b, c, d, hletters, hunit⟩ := letters_unitEscape high
  obtain ⟨a', b', c', d', hletters', hunit'⟩ := letters_unitEscape low
  obtain ⟨next, rest, rfl⟩ := List.exists_cons_of_ne_nil htail
  have hhigh' : high < 0x10000 := by
    simp only [isHighHalf, Bool.and_eq_true, decide_eq_true_eq] at hhigh
    omega
  have hlow' : low < 0x10000 := by
    simp only [isLowHalf, Bool.and_eq_true, decide_eq_true_eq] at hlow
    omega
  rw [List.map_append, hletters, hletters']
  simp only [List.cons_append, List.nil_append]
  rw [readText, hunit hhigh']
  simp only [hhigh, if_true, unitDigits?, hunit' hlow', hlow, List.drop_succ_cons, List.drop_zero]

/-! ## Texts -/

/-- The written letters of a text, up to the closing quote and beyond. -/
def written (ls rest : List Letter) : List Letter :=
  (ls.flatMap escapeLetter).map .char ++ .char '"' :: rest

/-- The written letters of a text begin with those of its first letter. -/
theorem written_cons (l : Letter) (ls rest : List Letter) :
    written (l :: ls) rest = (escapeLetter l).map .char ++ written ls rest := by
  rw [written, written, List.flatMap_cons, List.map_append, List.append_assoc]

/-- Something is written in any case. -/
theorem written_ne_nil (ls rest : List Letter) : written ls rest ≠ [] := by
  simp [written]

/-- A unit that is escaped at the beginning of a written text is the second half of a pair only if
the first letter is one.

**Proof sketch.** By the first letter of the text and the way in which it is written. If it is not
escaped as a unit, there are no digits of a unit. Otherwise the digits are those of the letter, or
of the first half of a pair, and neither is a second half. -/
theorem unitDigits?_written {ls rest ds : List Letter} (h : unitDigits? (written ls rest) = some ds)
    (hhead : ∀ l, ls.head? = some l → isLowHalf l.code = false) :
    ∃ m, unit? ds = some m ∧ isLowHalf m = false := by
  cases ls with
  | nil => simp [written, unitDigits?] at h
  | cons l ls =>
    obtain ⟨next, tail, htail⟩ := List.exists_cons_of_ne_nil (written_ne_nil ls rest)
    rw [written_cons, htail] at h
    obtain ⟨c, d, -, hl, -, hd⟩ | ⟨c, -, hl, -, hc, -⟩ | ⟨hl, hcode⟩ |
        ⟨high, low, hl, hhigh, -, -⟩ :=
      escapeLetter_cases l
    · rw [hl] at h
      simp [unitDigits?, hd] at h
    · rw [hl] at h
      simp [unitDigits?, hc] at h
    · obtain ⟨a, b, c, d, hletters, hunit⟩ := letters_unitEscape l.code
      rw [hl, hletters] at h
      obtain rfl : [a, b, c, d] = ds := by simpa [unitDigits?] using h
      exact ⟨l.code, hunit hcode, hhead l rfl⟩
    · obtain ⟨a, b, c, d, hletters, hunit⟩ := letters_unitEscape high
      obtain ⟨a', b', c', d', hletters', -⟩ := letters_unitEscape low
      rw [hl, List.map_append, hletters, hletters'] at h
      obtain rfl : [a, b, c, d] = ds := by simpa [unitDigits?] using h
      simp only [isHighHalf, Bool.and_eq_true, decide_eq_true_eq] at hhigh
      refine ⟨high, hunit (by omega), ?_⟩
      simp only [isLowHalf, Bool.and_eq_false_iff, decide_eq_false_iff_not]
      omega

/-- A written text is read as it was, up to the closing quote.

**Proof sketch.** By induction on the letters, with the four ways in which a letter is written. The
reader looks beyond a letter only if that is the first half of a pair, and what follows is then no
second half. -/
theorem readText_escaped (start rest : List Letter) {ls : List Letter} (h : isJoined ls = true) :
    readText start (written ls rest) = .ok (ls, rest) := by
  induction ls with
  | nil => rw [written, List.flatMap_nil, List.map_nil, List.nil_append, readText]
  | cons l ls ih =>
    obtain ⟨hjoined, hhead⟩ := isJoined_cons h
    have hread := ih hjoined
    have hne := written_ne_nil ls rest
    rw [written_cons]
    obtain ⟨c, d, rfl, hl, hd, hu⟩ | ⟨c, rfl, hl, hquote, hback, hcontrol⟩ | ⟨hl, hcode⟩ |
      ⟨high, low, hl, hhigh, hlow, hpair⟩ := escapeLetter_cases l
    · rw [hl]
      simp only [List.map_cons, List.map_nil, List.cons_append, List.nil_append]
      rw [readText]
      · simp [Letter.char?, hd, hread, Except.map]
      all_goals simp [hu]
    · rw [hl]
      simp only [List.map_cons, List.map_nil, List.cons_append, List.nil_append]
      have hcode : ¬(Letter.char c).code ≤ 0x1F := Nat.not_le.mpr hcontrol
      rw [readText, if_neg hcode, hread]
      · rfl
      all_goals simp_all
    · have hfollow : isHighHalf l.code = true → ∀ ds, unitDigits? (written ls rest) = some ds →
          ∃ m, unit? ds = some m ∧ isLowHalf m = false := by
        intro hhigh ds hds
        exact unitDigits?_written hds (hhead hhigh)
      rw [hl, readText_unit hcode hne hfollow, hread, Letter.ofCode_code]
      rfl
    · rw [hl, readText_pair hne hhigh hlow, hread, hpair]
      rfl

end CHeaders.Json
