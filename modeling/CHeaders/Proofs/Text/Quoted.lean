import CHeaders.Proofs.Text.Encoding
import CHeaders.Proofs.Text.Ink
import CHeaders.Text.Notation

/-!
# Texts between quotes

Between quotes every letter has a form of its own, and none of these forms begins with another. So
texts that are apart stay apart when they are quoted. All white space but the plain space is written
by an escape, so the ink of a quoted text is made of the forms of its letters without the spaces.

## Main definitions

* `CHeaders.Text.inkForm`: the ink of a letter between quotes.

## Main results

* `CHeaders.Text.quotedLetter_cases`: the forms of letters.
* `CHeaders.Text.ink_quoted`: the ink of a quoted text.
* `CHeaders.Text.apart_quoted`: quoting keeps texts apart.
-/

namespace CHeaders.Text

/-! ## Digits -/

/-- A hexadecimal digit is no white space and no underscore. -/
theorem Hex.digit_not_blank (n : Nat) :
    isBlank (Hex.digit .small n) = false ∧ Hex.digit .small n ≠ '_' := by
  refine ⟨?_, Hex.digit_ne_underscore n⟩
  have hmod : n % 16 < 16 := Nat.mod_lt n (by decide)
  simp only [Hex.digit]
  generalize n % 16 = d at hmod
  interval_cases d <;> decide

/-! ## The forms of letters -/

/-- The characters between which texts are quoted. -/
def IsQuote (c : Char) : Prop :=
  c = '\'' ∨ c = '"'

/-- The quote for a text is a quote. -/
theorem isQuote_quoteFor (ls : List Letter) : IsQuote (quoteFor ls) := by
  unfold quoteFor
  split
  · exact .inr rfl
  · exact .inl rfl

/-- The character that stands behind a backslash for itself or for a character of its own. -/
def unescaped (c : Char) : Char :=
  if c = 'n' then '\n' else if c = 'r' then '\r' else if c = 't' then '\t' else c

/-- The marks of the escapes by number, with the number of digits behind them. -/
def marks : List (Char × Nat) :=
  [('x', 2), ('u', 4), ('U', 8)]

/-- The code of a letter has at most eight digits. -/
theorem code_lt (l : Letter) : l.code < 16 ^ 8 := by
  rcases l with c | n
  · have hc : c.toNat < 0xD800 ∨ (0xDFFF < c.toNat ∧ c.toNat < 0x110000) := c.valid
    change c.toNat < _
    omega
  · change 0xD800 + n.val < _
    omega

/-- Letters with the same code are the same. -/
theorem code_inj {l m : Letter} (h : l.code = m.code) : l = m := by
  rw [← Letter.ofCode_code l, h, Letter.ofCode_code]

/-- An escape by number has one of three marks. -/
theorem codePointEscape_cases {n : Nat} (hn : n < 16 ^ 8) :
    ∃ mark places, (mark, places) ∈ marks ∧ n < 16 ^ places ∧
      codePointEscape n = '\\' :: mark :: Hex.padded .small places n := by
  unfold codePointEscape
  split
  · exact ⟨'x', 2, by decide, by omega, rfl⟩
  · split
    · exact ⟨'u', 4, by decide, by omega, rfl⟩
    · exact ⟨'U', 8, by decide, hn, rfl⟩

/-- Between quotes a letter stands for itself, or it has a character behind a backslash, or it is
written by its number.

**Proof sketch.** The cases of the definition in their order: the characters behind a backslash, the
printable ones, and all others, which are written by their numbers as halves of pairs are. -/
theorem quotedLetter_cases {quote : Char} (hquote : IsQuote quote) (l : Letter) :
    (∃ c, l = .char c ∧ c ≠ '\\' ∧ isPrintable c = true ∧ quotedLetter quote l = [c]) ∨
    (∃ c, c ∈ [quote, '\\', 'n', 'r', 't'] ∧ l = .char (unescaped c) ∧
      quotedLetter quote l = ['\\', c]) ∨
    ∃ mark places, (mark, places) ∈ marks ∧ l.code < 16 ^ places ∧
      quotedLetter quote l = '\\' :: mark :: Hex.padded .small places l.code := by
  rcases l with c | n
  · have hcases := codePointEscape_cases (code_lt (.char c))
    rw [quotedLetter, quotedChar]
    split
    · next hc =>
      refine .inr (.inl ⟨c, ?_, ?_, rfl⟩)
      · rw [Bool.or_eq_true, decide_eq_true_eq, decide_eq_true_eq] at hc
        rcases hc with rfl | rfl <;> simp
      · rw [Bool.or_eq_true, decide_eq_true_eq, decide_eq_true_eq] at hc
        rcases hc with rfl | rfl
        · rcases hquote with rfl | rfl <;> rfl
        · rfl
    · next hc =>
      rw [Bool.or_eq_true, decide_eq_true_eq, decide_eq_true_eq, not_or] at hc
      split
      · next hn => exact .inr (.inl ⟨'n', by simp, by rw [hn]; rfl, rfl⟩)
      · split
        · next hr => exact .inr (.inl ⟨'r', by simp, by rw [hr]; rfl, rfl⟩)
        · split
          · next ht => exact .inr (.inl ⟨'t', by simp, by rw [ht]; rfl, rfl⟩)
          · split
            · next hprintable => exact .inl ⟨c, rfl, hc.2, hprintable, rfl⟩
            · exact .inr (.inr hcases)
  · exact .inr (.inr (codePointEscape_cases (code_lt (.half n))))

/-- The forms of different letters are apart.

**Proof sketch.** By the ways in which the two letters are written. Different ways differ at the
first or the second character. Letters behind a backslash have different characters there, and
letters that are written by their numbers have different marks or, with the same mark, different
digits. -/
theorem apart_quotedLetter {quote : Char} (hquote : IsQuote quote) {l m : Letter} (h : l ≠ m) :
    Apart (quotedLetter quote l) (quotedLetter quote m) := by
  have hescape : ∀ c, c ∈ [quote, '\\', 'n', 'r', 't'] → ∀ mark places, (mark, places) ∈ marks →
      c ≠ mark := by
    intro c hc mark places hmark
    rcases hquote with rfl | rfl <;> simp [marks] at hc hmark <;>
      rcases hmark with ⟨rfl, -⟩ | ⟨rfl, -⟩ | ⟨rfl, -⟩ <;> rintro rfl <;> simp at hc
  rcases quotedLetter_cases hquote l with ⟨c, rfl, hc, -, hl⟩ | ⟨c, hc, hl', hl⟩ |
    ⟨mark, places, hmark, hcode, hl⟩ <;>
  rcases quotedLetter_cases hquote m with ⟨d, rfl, hd, -, hm⟩ | ⟨d, hd, hm', hm⟩ |
    ⟨mark', places', hmark', hcode', hm⟩ <;>
  rw [hl, hm]
  · exact .here fun heq => h (congrArg _ heq)
  · exact .here hc
  · exact .here hc
  · exact .here (Ne.symm hd)
  · exact .there (.here fun heq => h (by rw [hl', hm', heq]))
  · exact .there (.here (hescape c hc mark' places' hmark'))
  · exact .here (Ne.symm hd)
  · exact .there (.here (Ne.symm (hescape d hd mark places hmark)))
  · by_cases heq : mark = mark'
    · have hplaces : places = places' := by
        subst heq
        simp [marks] at hmark hmark'
        rcases hmark with ⟨rfl, rfl⟩ | ⟨rfl, rfl⟩ | ⟨rfl, rfl⟩ <;> simp_all
      subst heq hplaces
      refine .there (.there (apart_of_length_eq ?_ ?_))
      · rw [Hex.length_padded, Hex.length_padded]
      · exact fun hdigits => h (code_inj (Hex.padded_inj hcode hcode' hdigits))
    · exact .there (.here heq)

/-! ## The ink of quoted texts -/

/-- The codes of white space beyond ASCII. -/
def wideBlanks : List Nat :=
  [0x85, 0xA0, 0x1680, 0x2000, 0x2001, 0x2002, 0x2003, 0x2004, 0x2005, 0x2006, 0x2007, 0x2008,
    0x2009, 0x200A, 0x2028, 0x2029, 0x202F, 0x205F, 0x3000]

/-- White space beyond ASCII is not printable. -/
theorem any_unprintableRanges_of_mem : ∀ n ∈ wideBlanks,
    unprintableRanges.any (fun r => r.1 ≤ n && n ≤ r.2) = true := by
  decide +kernel

/-- The only white space that stands for itself between quotes is the plain space. -/
theorem eq_space_of_isPrintable {c : Char} (hprintable : isPrintable c = true)
    (hblank : isBlank c = true) : c = ' ' := by
  simp only [isBlank, Bool.or_eq_true, Bool.and_eq_true, decide_eq_true_eq, beq_iff_eq] at hblank
  by_cases hascii : c.toNat < 0x7F
  · rw [isPrintable, if_pos hascii, decide_eq_true_eq] at hprintable
    have hcode : c.toNat = 0x20 := by omega
    exact Char.toNat_inj.mp hcode
  · have hmem : c.toNat ∈ wideBlanks := by
      simp only [wideBlanks, List.mem_cons, List.not_mem_nil, or_false]
      omega
    rw [isPrintable, if_neg hascii, any_unprintableRanges_of_mem _ hmem] at hprintable
    cases hprintable

/-- The characters behind a backslash are neither white space nor underscores. -/
theorem escaped_not_blank {quote : Char} (hquote : IsQuote quote) :
    ∀ c ∈ [quote, '\\', 'n', 'r', 't'], isBlank c = false ∧ c ≠ '_' := by
  simp only [List.forall_mem_cons, List.not_mem_nil, false_implies, implies_true, and_true]
  rcases hquote with rfl | rfl <;> decide

/-- In the form of a letter stands the letter itself, and only if it is printable, or what stands
there is neither white space nor an underscore. -/
theorem mem_quotedLetter {quote : Char} (hquote : IsQuote quote) {l : Letter} {c : Char}
    (h : c ∈ quotedLetter quote l) :
    (l = .char c ∧ isPrintable c = true) ∨ (isBlank c = false ∧ c ≠ '_') := by
  have hmarks : ∀ e ∈ marks, isBlank e.1 = false ∧ e.1 ≠ '_' := by decide
  rcases quotedLetter_cases hquote l with ⟨d, rfl, -, hprintable, hform⟩ | ⟨d, hd, -, hform⟩ |
    ⟨mark, places, hmark, -, hform⟩ <;> rw [hform] at h
  · rw [List.mem_singleton] at h
    exact .inl ⟨congrArg _ h.symm, h ▸ hprintable⟩
  · rcases List.mem_cons.mp h with rfl | h
    · exact .inr (by decide)
    · exact .inr (List.mem_singleton.mp h ▸ escaped_not_blank hquote d hd)
  · rcases List.mem_cons.mp h with rfl | h
    · exact .inr (by decide)
    · rcases List.mem_cons.mp h with rfl | h
      · exact .inr (hmarks (c, places) hmark)
      · obtain ⟨n, rfl⟩ := Hex.mem_padded h
        exact .inr (Hex.digit_not_blank n)

/-- The space stands for itself. -/
theorem quotedLetter_space {quote : Char} (hquote : IsQuote quote) :
    quotedLetter quote (.char ' ') = [' '] := by
  rcases hquote with rfl | rfl <;> rfl

/-- The underscore stands for itself. -/
theorem quotedLetter_underscore {quote : Char} (hquote : IsQuote quote) :
    quotedLetter quote (.char '_') = ['_'] := by
  rcases hquote with rfl | rfl <;> rfl

/-- The ink of a letter between quotes. -/
def inkForm (quote : Char) (l : Letter) : List Letter :=
  if l = .char ' ' then [] else (quotedLetter quote l).map .char

/-- Of the form of a letter nothing is white space, unless the letter is a space. -/
theorem filter_quotedLetter {quote : Char} (hquote : IsQuote quote) (l : Letter) :
    ((quotedLetter quote l).map Letter.char).filter (fun m => !m.isIn isBlank) =
      inkForm quote l := by
  unfold inkForm
  split
  · next hl =>
    rw [hl, quotedLetter_space hquote]
    rfl
  · next hl =>
    refine List.filter_eq_self.mpr (List.forall_mem_map.mpr fun c hc => ?_)
    rcases mem_quotedLetter hquote hc with ⟨hself, hprintable⟩ | ⟨hblank, -⟩
    · by_contra hblank
      have hspace : c = ' ' :=
        eq_space_of_isPrintable hprintable (by simpa [Letter.isIn] using hblank)
      exact hl (hself.trans (congrArg _ hspace))
    · simp [Letter.isIn, hblank]

/-- A quote is ink. -/
theorem ink_quote {quote : Char} (hquote : IsQuote quote) :
    [Letter.char quote].filter (fun l => !l.isIn isBlank) = [.char quote] := by
  rcases hquote with rfl | rfl <;> decide

/-- The ink of a quoted text: that of its letters between quotes. -/
theorem ink_quoted (t : Text) :
    ink (Text.ofString (quoted t)) = .char (quoteFor t.letters) ::
      (t.letters.flatMap (inkForm (quoteFor t.letters)) ++ [.char (quoteFor t.letters)]) := by
  have hquote := isQuote_quoteFor t.letters
  have hletters : ∀ ls : List Letter,
      ((ls.flatMap (quotedLetter (quoteFor t.letters))).map Letter.char).filter
        (fun l => !l.isIn isBlank) = ls.flatMap (inkForm (quoteFor t.letters)) := by
    intro ls
    rw [List.map_flatMap, List.filter_flatMap]
    exact List.flatMap_congr fun l _ => filter_quotedLetter hquote l
  have hchars : (Text.ofString (quoted t)).letters = [.char (quoteFor t.letters)] ++
      ((t.letters.flatMap (quotedLetter (quoteFor t.letters))).map Letter.char ++
        [.char (quoteFor t.letters)]) := by
    simp [Text.ofString, Text.ofChars, quoted, quotedChars]
  rw [ink, hchars, List.filter_append, List.filter_append, ink_quote hquote, hletters]
  rfl

/-- The ink between quotes is made of the forms of the letters that are no spaces. -/
theorem flatMap_inkForm (quote : Char) (ls : List Letter) :
    ls.flatMap (inkForm quote) =
      (ls.filter (· ≠ .char ' ')).flatMap fun l => (quotedLetter quote l).map .char := by
  induction ls with
  | nil => rfl
  | cons l ls ih =>
    by_cases hl : l = .char ' '
    · simp [inkForm, hl, ih]
    · simp [inkForm, hl, ih]

/-- Quoting keeps texts apart.

**Proof sketch.** The inks of two texts are apart only if the texts are so without their spaces. If
both have the same quote, letters that are apart stay so between quotes, one by one. Otherwise the
quotes are different. -/
theorem apart_quoted {s t : Text} (h : Apart (ink s) (ink t)) :
    Apart (ink (Text.ofString (quoted s))) (ink (Text.ofString (quoted t))) := by
  have hspaces : Apart (s.letters.filter (· ≠ .char ' ')) (t.letters.filter (· ≠ .char ' ')) := by
    refine Apart.of_filter (p := fun l => !l.isIn isBlank) ?_
    have hink : ∀ u : Text, (u.letters.filter (· ≠ .char ' ')).filter (fun l => !l.isIn isBlank) =
        ink u := by
      intro u
      rw [List.filter_filter]
      refine List.filter_congr fun l _ => ?_
      by_cases hl : l = .char ' '
      · rw [hl]
        rfl
      · simp [hl]
    rw [hink, hink]
    exact h
  rw [ink_quoted, ink_quoted]
  by_cases hquote : quoteFor s.letters = quoteFor t.letters
  · rw [hquote, flatMap_inkForm, flatMap_inkForm]
    refine .there (Forks.append (hspaces.flatMap fun l m hlm => ?_) _ _)
    exact (apart_quotedLetter (isQuote_quoteFor t.letters) hlm).map fun _ _ hne heq =>
      hne (Letter.char.inj heq)
  · exact .here fun heq => hquote (Letter.char.inj heq)

end CHeaders.Text
