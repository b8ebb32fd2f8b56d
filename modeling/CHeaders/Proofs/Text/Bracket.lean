import CHeaders.Proofs.Number.Decimal
import CHeaders.Proofs.Text.Quoted

/-!
# Balanced texts

A text is balanced if its parentheses, brackets and braces nest: every one that is opened is closed
by its own kind, the innermost first. All of them count, also those in comments and strings of C.
This module reads a text letter by letter with the closing brackets that are awaited on a stack.

White space does not matter for balance, so texts may be trimmed. Nor does quoting: no escape holds
a bracket, and a bracket between quotes stands for itself.

## Main definitions

* `CHeaders.Text.nest`: the closing brackets that are awaited after a text.
* `CHeaders.Text.IsBalanced`: the texts whose brackets nest.

## Main results

* `CHeaders.Text.IsBalanced.nest_eq`: a balanced text leaves any stack as it is.
* `CHeaders.Text.IsBalanced.append`, `CHeaders.Text.IsBalanced.join`,
  `CHeaders.Text.IsBalanced.between`: how balanced texts are made.
* `CHeaders.Text.isBalanced_trim`, `CHeaders.Text.isBalanced_quoted`: trimming and quoting.
-/

namespace CHeaders.Text

/-- The parentheses, brackets and braces. -/
def brackets : List Char :=
  ['(', ')', '[', ']', '\x7b', '\x7d']

/-- The letter is one of the brackets. -/
def IsBracket (l : Letter) : Prop :=
  ∃ c ∈ brackets, l = .char c

/-- What holds of all brackets holds of each of the six. -/
theorem forall_mem_brackets {P : Char → Prop} :
    (∀ c ∈ brackets, P c) ↔ P '(' ∧ P ')' ∧ P '[' ∧ P ']' ∧ P '\x7b' ∧ P '\x7d' := by
  simp [brackets]

/-- The bracket that closes an opening bracket. -/
def closing? : Letter → Option Letter
  | .char '(' => some (.char ')')
  | .char '[' => some (.char ']')
  | .char '\x7b' => some (.char '\x7d')
  | _ => none

/-- Whether a letter closes a bracket. -/
def isClosing (l : Letter) : Bool :=
  l.isIn [')', ']', '\x7d'].contains

/-- The closing brackets that are awaited after a letter, the innermost first, if some are awaited
before it. A closing bracket has to be the one that is awaited first. -/
def nestLetter (awaited : List Letter) (l : Letter) : Option (List Letter) :=
  match closing? l with
  | some c => some (c :: awaited)
  | none =>
    if isClosing l then
      match awaited with
      | [] => none
      | c :: rest => if l = c then some rest else none
    else some awaited

/-- The closing brackets that are awaited after a text. -/
def nest (awaited : List Letter) (t : Text) : Option (List Letter) :=
  t.letters.foldlM nestLetter awaited

/-- The brackets of a text nest. -/
def IsBalanced (t : Text) : Prop :=
  nest [] t = some []

instance (t : Text) : Decidable (IsBalanced t) :=
  inferInstanceAs (Decidable (nest [] t = some []))

/-! ## Reading with a stack -/

/-- Texts that are put together are read one after the other. -/
theorem nest_append (awaited : List Letter) (s t : Text) :
    nest awaited (s ++ t) = (nest awaited s).bind fun awaited => nest awaited t :=
  List.foldlM_append

/-- A letter that can be read can be read with more brackets awaited behind the others. -/
theorem nestLetter_append {awaited left : List Letter} {l : Letter}
    (h : nestLetter awaited l = some left) (outer : List Letter) :
    nestLetter (awaited ++ outer) l = some (left ++ outer) := by
  unfold nestLetter at h ⊢
  cases hl : closing? l with
  | some c =>
    rw [hl] at h
    obtain rfl := Option.some.inj h
    rfl
  | none =>
    simp only [hl] at h ⊢
    by_cases hclosing : isClosing l = true
    · rw [if_pos hclosing] at h ⊢
      rcases awaited with _ | ⟨c, rest⟩
      · cases h
      · by_cases hc : l = c
        · simp only [if_pos hc] at h
          obtain rfl := Option.some.inj h
          exact if_pos hc
        · simp [if_neg hc] at h
    · rw [if_neg hclosing] at h ⊢
      rw [Option.some.inj h]

/-- Letters that can be read can be read with more brackets awaited behind the others. -/
theorem foldlM_nestLetter_append {ls awaited left : List Letter}
    (h : ls.foldlM nestLetter awaited = some left) (outer : List Letter) :
    ls.foldlM nestLetter (awaited ++ outer) = some (left ++ outer) := by
  induction ls generalizing awaited with
  | nil =>
    obtain rfl := Option.some.inj h
    rfl
  | cons l ls ih =>
    rw [List.foldlM_cons] at h ⊢
    obtain ⟨next, hl, hls⟩ := Option.bind_eq_some_iff.mp h
    rw [nestLetter_append hl outer]
    exact ih hls

/-- A balanced text leaves what is awaited as it is. -/
theorem IsBalanced.nest_eq {t : Text} (h : IsBalanced t) (awaited : List Letter) :
    nest awaited t = some awaited :=
  foldlM_nestLetter_append h awaited

/-- A letter that is no bracket leaves what is awaited as it is. -/
theorem nestLetter_of_not_isBracket {l : Letter} (h : ¬IsBracket l) (awaited : List Letter) :
    nestLetter awaited l = some awaited := by
  have hopen : closing? l = none := by
    unfold closing?
    split
    · exact absurd ⟨'(', by decide, rfl⟩ h
    · exact absurd ⟨'[', by decide, rfl⟩ h
    · exact absurd ⟨'\x7b', by decide, rfl⟩ h
    · rfl
  have hclose : isClosing l ≠ true := by
    rcases l with c | n
    · intro hc
      have hc : c ∈ [')', ']', '\x7d'] := by simpa [isClosing, Letter.isIn] using hc
      have hsub : [')', ']', '\x7d'] ⊆ brackets := by decide
      exact h ⟨c, hsub hc, rfl⟩
    · exact Bool.false_ne_true
  unfold nestLetter
  simp only [hopen, if_neg hclose]

/-- Letters of which none is a bracket leave what is awaited as it is. -/
theorem foldlM_nestLetter_of_forall {ls : List Letter} (h : ∀ l ∈ ls, ¬IsBracket l)
    (awaited : List Letter) : ls.foldlM nestLetter awaited = some awaited := by
  induction ls with
  | nil => rfl
  | cons l ls ih =>
    obtain ⟨hl, hls⟩ := List.forall_mem_cons.mp h
    rw [List.foldlM_cons, nestLetter_of_not_isBracket hl]
    exact ih hls

/-- Without brackets a text is balanced. -/
theorem isBalanced_of_forall {t : Text} (h : ∀ l ∈ t.letters, ¬IsBracket l) : IsBalanced t :=
  foldlM_nestLetter_of_forall h []

/-- Brackets nest whatever stands between them, and each closes its own kind only. -/
example : IsBalanced "f(a[0], \x7b 1 \x7d)" ∧ ¬IsBalanced "f(a[0)]" := by decide

/-- A space holds no brackets. -/
theorem isBalanced_space : IsBalanced " " := rfl

/-- A comma holds no brackets. -/
theorem isBalanced_comma : IsBalanced ", " := rfl

/-! ## Texts that are put together -/

/-- Balanced texts may be put together. -/
theorem IsBalanced.append {s t : Text} (hs : IsBalanced s) (ht : IsBalanced t) :
    IsBalanced (s ++ t) := by
  rw [IsBalanced, nest_append, hs, Option.bind_some, ht]

/-- A balanced text may be put between two texts of which the second closes the brackets of the
first. -/
theorem IsBalanced.between {t front back : Text} (ht : IsBalanced t) (awaited : List Letter)
    (hfront : nest [] front = some awaited) (hback : nest awaited back = some []) :
    IsBalanced (front ++ t ++ back) := by
  rw [IsBalanced, nest_append, nest_append, hfront, Option.bind_some, ht.nest_eq, Option.bind_some,
    hback]

/-- Balanced texts may be joined. -/
theorem IsBalanced.join {separator : Text} (hseparator : IsBalanced separator) {ts : List Text}
    (h : ∀ t ∈ ts, IsBalanced t) : IsBalanced (Text.join separator ts) := by
  induction ts with
  | nil => rfl
  | cons t ts ih =>
    obtain ⟨ht, hts⟩ := List.forall_mem_cons.mp h
    rcases ts with _ | ⟨u, ts⟩
    · exact ht
    · exact (ht.append hseparator).append (ih hts)

/-- Strings that are balanced may be listed with commas between them. -/
theorem isBalanced_commas {ss : List String} (h : ∀ s ∈ ss, IsBalanced (Text.ofString s)) :
    IsBalanced (Text.ofString (commas ss)) := by
  rw [ofString_commas]
  exact isBalanced_comma.join (List.forall_mem_map.mpr h)

/-! ## White space -/

/-- White space is no bracket. -/
theorem not_isBracket_of_isBlank {l : Letter} (h : l.isIn isBlank = true) : ¬IsBracket l := by
  rintro ⟨c, hc, rfl⟩
  have hbrackets : ∀ c ∈ brackets, isBlank c = false := forall_mem_brackets.mpr (by decide)
  exact absurd h (by simp [Letter.isIn, hbrackets c hc])

/-- Only the ink of a text matters for what is awaited after it. -/
theorem nest_eq_of_ink (awaited : List Letter) (t : Text) :
    nest awaited t = (ink t).foldlM nestLetter awaited := by
  rcases t with ⟨ls⟩
  change ls.foldlM nestLetter awaited = (ls.filter _).foldlM nestLetter awaited
  induction ls generalizing awaited with
  | nil => rfl
  | cons l ls ih =>
    by_cases hl : l.isIn isBlank = true
    · -- a blank letter is read before anything else, and leaves the stack as it is
      rw [List.filter_cons_of_neg (by simp [hl]), List.foldlM_cons,
        nestLetter_of_not_isBracket (not_isBracket_of_isBlank hl)]
      exact ih awaited
    · rw [List.filter_cons_of_pos (by simp [hl]), List.foldlM_cons, List.foldlM_cons]
      exact bind_congr ih

/-- Trimming keeps a text balanced. -/
theorem isBalanced_trim {t : Text} : IsBalanced (trim t) ↔ IsBalanced t := by
  rw [IsBalanced, IsBalanced, nest_eq_of_ink, nest_eq_of_ink, ink_trim]

/-! ## Quoted texts and numbers -/

/-- No hexadecimal digit is a bracket. -/
theorem Hex.digit_not_mem_brackets (n : Nat) : Hex.digit .small n ∉ brackets := by
  have hmod : n % 16 < 16 := Nat.mod_lt n (by decide)
  simp only [Hex.digit]
  generalize n % 16 = d at hmod
  interval_cases d <;> decide

/-- The form of a letter between quotes holds no bracket unless the letter is one. -/
theorem not_mem_quotedLetter {quote : Char} (hquote : IsQuote quote) {l : Letter}
    (hl : ¬IsBracket l) : ∀ c ∈ quotedLetter quote l, c ∉ brackets := by
  intro c hc hbracket
  rcases quotedLetter_cases hquote l with ⟨d, rfl, -, -, h⟩ | ⟨d, hd, -, h⟩ |
    ⟨mark, places, hmark, -, h⟩ <;> rw [h] at hc
  · exact hl ⟨c, hbracket, by rw [List.mem_singleton.mp hc]⟩
  · have hforms : ∀ quote, IsQuote quote → ∀ c ∈ brackets,
        c ∉ '\\' :: [quote, '\\', 'n', 'r', 't'] := by
      rintro _ (rfl | rfl) <;> exact forall_mem_brackets.mpr (by decide)
    refine hforms quote hquote c hbracket ?_
    rcases List.mem_cons.mp hc with rfl | hc
    · exact List.mem_cons_self
    · exact List.mem_cons_of_mem _ (List.mem_singleton.mp hc ▸ hd)
  · have hmarks : ∀ mark ∈ marks, mark.1 ∉ brackets := by decide
    rcases List.mem_cons.mp hc with rfl | hc
    · exact absurd hbracket (by decide)
    · rcases List.mem_cons.mp hc with rfl | hc
      · exact hmarks _ hmark hbracket
      · obtain ⟨n, rfl⟩ := Hex.mem_padded hc
        exact Hex.digit_not_mem_brackets n hbracket

/-- A bracket stands for itself between quotes. -/
theorem quotedLetter_of_mem_brackets {quote : Char} (hquote : IsQuote quote) {c : Char}
    (hc : c ∈ brackets) : quotedLetter quote (.char c) = [c] := by
  have hforms : ∀ c ∈ brackets, quotedLetter '\'' (.char c) = [c] ∧
      quotedLetter '"' (.char c) = [c] := forall_mem_brackets.mpr (by decide)
  rcases hquote with rfl | rfl
  · exact (hforms c hc).1
  · exact (hforms c hc).2

/-- Between quotes a letter opens and closes the same brackets. -/
theorem foldlM_quotedLetter {quote : Char} (hquote : IsQuote quote) (l : Letter)
    (awaited : List Letter) :
    ((quotedLetter quote l).map Letter.char).foldlM nestLetter awaited = nestLetter awaited l := by
  by_cases hl : IsBracket l
  · obtain ⟨c, hc, rfl⟩ := hl
    rw [quotedLetter_of_mem_brackets hquote hc, List.map_singleton, List.foldlM_cons]
    exact bind_pure _
  · rw [nestLetter_of_not_isBracket hl]
    refine foldlM_nestLetter_of_forall (List.forall_mem_map.mpr ?_) awaited
    rintro c hc ⟨d, hd, heq⟩
    exact not_mem_quotedLetter hquote hl c hc (Letter.char.inj heq ▸ hd)

/-- Between quotes letters open and close the same brackets. -/
theorem foldlM_flatMap_quotedLetter {quote : Char} (hquote : IsQuote quote)
    (ls awaited : List Letter) :
    ((ls.flatMap (quotedLetter quote)).map Letter.char).foldlM nestLetter awaited =
      ls.foldlM nestLetter awaited := by
  induction ls generalizing awaited with
  | nil => rfl
  | cons l ls ih =>
    rw [List.flatMap_cons, List.map_append, List.foldlM_append, foldlM_quotedLetter hquote,
      List.foldlM_cons]
    exact bind_congr ih

/-- A balanced text is balanced between quotes. -/
theorem isBalanced_quoted {t : Text} (h : IsBalanced t) :
    IsBalanced (Text.ofString (quoted t)) := by
  have hquote := isQuote_quoteFor t.letters
  have hparts : Text.ofString (quoted t) = ⟨[.char (quoteFor t.letters)]⟩ ++
      ⟨(t.letters.flatMap (quotedLetter (quoteFor t.letters))).map .char⟩ ++
      ⟨[.char (quoteFor t.letters)]⟩ := by
    rw [Text.ofString, quoted, String.toList_ofList, quotedChars, Text.ofChars, List.map_append]
    rfl
  have hend : IsBalanced ⟨[.char (quoteFor t.letters)]⟩ := by
    rcases hquote with hquote | hquote <;> rw [hquote] <;> rfl
  have hbody : IsBalanced ⟨(t.letters.flatMap (quotedLetter (quoteFor t.letters))).map .char⟩ :=
    (foldlM_flatMap_quotedLetter hquote t.letters []).trans h
  rw [hparts]
  exact (hend.append hbody).append hend

/-- The text of a whole number is balanced. -/
theorem isBalanced_ofInt (n : Int) : IsBalanced (Text.ofString (Decimal.ofInt n)) := by
  refine isBalanced_of_forall fun l hl => ?_
  obtain ⟨c, hc, rfl⟩ := List.mem_map.mp hl
  rintro ⟨d, hd, heq⟩
  obtain rfl := Letter.char.inj heq
  have hbrackets : ∀ c ∈ brackets, c.isDigit = false ∧ c ≠ '-' :=
    forall_mem_brackets.mpr (by decide)
  rcases Decimal.mem_ofInt hc with hdigit | hminus
  · rw [(hbrackets c hd).1] at hdigit
    cases hdigit
  · exact (hbrackets c hd).2 hminus

end CHeaders.Text
