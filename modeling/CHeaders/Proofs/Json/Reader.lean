import CHeaders.Json.Reader
import CHeaders.Proofs.Json.Form
import CHeaders.Proofs.Json.Text
import CHeaders.Proofs.Number.Decimal

/-!
# Reading written documents

A document that is laid out with its entries as they stand is read as the same document, with its
texts as ordinary ones. The numbers in it must not be too long, and no two halves of a pair may
stand next to each other in its texts.

## Main definitions

* `CHeaders.Json.IsFaithful`: the documents that are read as they were.

## Main results

* `CHeaders.Json.parse_form`: the written form of such a document is read as the document.
-/

namespace CHeaders.Json

/-- The letters of a string. -/
def lettersOf (s : String) : List Letter :=
  s.toList.map .char

/-- The letters of joined strings. -/
theorem lettersOf_append (s t : String) : lettersOf (s ++ t) = lettersOf s ++ lettersOf t := by
  rw [lettersOf, String.toList_append, List.map_append]
  rfl

/-- What follows a value: nothing, or a character that ends it. -/
def Ends (rest : List Letter) : Prop :=
  ∀ l, rest.head? = some l → l = .char ',' ∨ l = .char ']' ∨ l = .char '\x7d'

/-! ## Numbers -/

/-- Digits are read up to what ends a value. -/
theorem digitsOf_append {ds : List Char} (hds : ∀ c ∈ ds, c.isDigit = true) {rest : List Letter}
    (hrest : Ends rest) : digitsOf (ds.map .char ++ rest) = (ds, rest) := by
  induction ds with
  | nil =>
    cases rest with
    | nil => rfl
    | cons l rest => obtain rfl | rfl | rfl := hrest l rfl <;> rfl
  | cons d ds ih =>
    obtain ⟨hd, htail⟩ := List.forall_mem_cons.mp hds
    simp only [List.map_cons, List.cons_append, digitsOf, hd, if_true, ih htail]

/-- Neither a fraction nor an exponent begins with what ends a value. -/
theorem fraction_exponent_of_ends {rest : List Letter} (h : Ends rest) :
    fractionOf rest = ([], rest) ∧ exponentOf rest = (none, rest) := by
  cases rest with
  | nil => exact ⟨rfl, rfl⟩
  | cons l rest =>
    obtain rfl | rfl | rfl := h l rfl <;> exact ⟨rfl, by simp [exponentOf]⟩

/-- The digits of a number are read as its whole part. -/
theorem wholeOf_digits (n : Nat) {rest : List Letter} (hrest : Ends rest) :
    wholeOf ((Decimal.digits n).map .char ++ rest) = (Decimal.digits n, rest) := by
  by_cases hn : n = 0
  · subst hn
    rfl
  · have hhead := Decimal.head?_digits_ne (Nat.pos_of_ne_zero hn)
    have hread := digitsOf_append (fun _ hc => Decimal.isDigit_of_mem_digits (n := n) hc) hrest
    obtain ⟨d, ds, hds⟩ := List.exists_cons_of_ne_nil (Decimal.digits_ne_nil n)
    rw [hds] at hhead hread ⊢
    have hd : d ≠ '0' := fun h => hhead (by rw [h]; rfl)
    rw [← hread, List.map_cons, List.cons_append, wholeOf]
    simpa using hd

/-- The text of a whole number is its digits, with a sign if it is negative. -/
theorem lettersOf_ofInt (n : Int) : ∃ m : Nat, ∃ sign : List Letter, m = n.natAbs ∧
    lettersOf (Decimal.ofInt n) = sign ++ (Decimal.digits m).map .char ∧
    (sign = [] ∧ n = m ∨ sign = [.char '-'] ∧ n = -m) := by
  cases n with
  | ofNat n =>
    refine ⟨n, [], rfl, ?_, .inl ⟨rfl, rfl⟩⟩
    rw [Decimal.ofInt, Decimal.ofNat, lettersOf, String.toList_ofList, List.nil_append]
  | negSucc n =>
    refine ⟨n + 1, [.char '-'], rfl, ?_, .inr ⟨rfl, rfl⟩⟩
    rw [Decimal.ofInt, lettersOf, String.toList_ofList, List.map_cons]
    rfl

/-- A written number is read as it was.

**Proof sketch.** The sign is read, then all digits, as what follows ends a value. There is neither
a fraction nor an exponent, and the digits are few enough to be read. -/
theorem number?_ofInt {n : Int} (h : Decimal.isWritable n = true) {rest : List Letter}
    (hrest : Ends rest) :
    number? (lettersOf (Decimal.ofInt n) ++ rest) = some (.ok (.int n, rest)) := by
  obtain ⟨m, sign, rfl, hletters, hsign⟩ := lettersOf_ofInt n
  have hwhole := wholeOf_digits n.natAbs hrest
  obtain ⟨hfraction, hexponent⟩ := fraction_exponent_of_ends hrest
  have hlength : ¬Decimal.mostDigits < (Decimal.digits n.natAbs).length :=
    Nat.not_lt.mpr (Decimal.length_digits_le h)
  have hempty : (Decimal.digits n.natAbs).isEmpty = false := by
    simp [Decimal.digits_ne_nil]
  -- The sign is read first; the digits do not begin with one.
  have hsigned : ∃ negative, signOf (lettersOf (Decimal.ofInt n) ++ rest) =
      (negative, (Decimal.digits n.natAbs).map .char ++ rest) ∧
      (if negative then -(n.natAbs : Int) else n.natAbs) = n := by
    rw [hletters]
    obtain ⟨rfl, hn⟩ | ⟨rfl, hn⟩ := hsign
    · refine ⟨false, ?_, hn.symm⟩
      obtain ⟨d, ds, hds⟩ := List.exists_cons_of_ne_nil (Decimal.digits_ne_nil n.natAbs)
      have hd : d ≠ '-' := by
        rintro rfl
        have hdigit : ('-' : Char).isDigit = true :=
          Decimal.isDigit_of_mem_digits (hds ▸ List.mem_cons_self)
        exact absurd hdigit (by decide)
      rw [hds, List.nil_append, List.map_cons, List.cons_append, signOf]
      simpa using hd
    · exact ⟨true, rfl, hn.symm⟩
  obtain ⟨negative, hsign, hvalue⟩ := hsigned
  simp only [number?, hsign, hwhole, hempty, hfraction, hexponent, hlength,
    Decimal.digitsValue_digits, hvalue]
  rfl

/-! ## Documents -/

/-- The documents that are read as they were: their numbers can be written, their texts hold no
halves of a pair side by side, and the keys of their mappings are different texts. -/
inductive IsFaithful : Value → Prop
  | none : IsFaithful .none
  | int {n : Int} (h : Decimal.isWritable n = true) : IsFaithful (.int n)
  | text {v : Value} {t : Text} (hv : v.text? = some t) (h : isJoined t.letters = true) :
      IsFaithful v
  | list {vs : List Value} (h : ∀ v ∈ vs, IsFaithful v) : IsFaithful (.list vs)
  | dict {es : List (Value × Value)}
      (hkeys : ∀ e ∈ es, ∃ t : Text, e.1.text? = some t ∧ isJoined t.letters = true)
      (hnodup : (Value.keyTexts es).Nodup) (h : ∀ e ∈ es, IsFaithful e.2) : IsFaithful (.dict es)

/-- Whether a value may begin with a letter: it is no white space, closes nothing, and is no byte
order mark. -/
def begins (l : Letter) : Bool :=
  !isGap l && l != .char ']' && l != .char '\x7d' && l != .char '\uFEFF'

/-- The string begins as a value may begin. -/
def Starts (s : String) : Prop :=
  ∃ l ls, lettersOf s = l :: ls ∧ begins l = true

/-- The written form of a document is read as the document, with anything behind it that ends a
value and with any bound that is not less than its length. -/
structure Reads (v : Value) : Prop where
  starts : Starts (form v)
  value_eq : ∀ bound rest, (lettersOf (form v)).length ≤ bound → Ends rest →
    value bound (lettersOf (form v) ++ rest) = .ok (v.asRead, rest)

/-- What begins a value is not skipped. -/
theorem skipBlank_of_begins {l : Letter} (h : begins l = true) (ls : List Letter) :
    skipBlank (l :: ls) = l :: ls := by
  have hgap : isGap l = false := by
    simp only [begins, Bool.and_eq_true, Bool.not_eq_true'] at h
    exact h.1.1.1
  simp [skipBlank, hgap]

/-- Nothing is skipped in front of a string that begins as a value. -/
theorem Starts.skipBlank_eq {s : String} (h : Starts s) (rest : List Letter) :
    skipBlank (lettersOf s ++ rest) = lettersOf s ++ rest := by
  obtain ⟨l, ls, hletters, hbegins⟩ := h
  rw [hletters, List.cons_append, skipBlank_of_begins hbegins]

/-- The letters of joined strings: a comma and a space follow the first one. -/
theorem lettersOf_commas (x y : String) (ys : List String) :
    lettersOf (Text.commas (x :: y :: ys)) =
      lettersOf x ++ .char ',' :: .char ' ' :: lettersOf (Text.commas (y :: ys)) := by
  rw [Text.commas_cons_cons, lettersOf_append, lettersOf_append, List.append_assoc]
  rfl

/-- Joined strings begin as the first of them. -/
theorem Starts.commas {x : String} (h : Starts x) (xs : List String) :
    Starts (Text.commas (x :: xs)) := by
  cases xs with
  | nil => exact h
  | cons y ys =>
    obtain ⟨l, ls, hletters, hbegins⟩ := h
    exact ⟨l, _, by rw [lettersOf_commas, hletters, List.cons_append], hbegins⟩

/-- The letters of a written text and what follows it. -/
theorem lettersOf_quoted (t : Text) (rest : List Letter) :
    lettersOf (quoted t) ++ rest = .char '"' :: written t.letters rest := by
  simp [lettersOf, quoted, written]

/-- Whatever follows a comma ends a value. -/
theorem ends_cons (c : Char) (rest : List Letter) (h : c = ',' ∨ c = ']' ∨ c = '\x7d') :
    Ends (.char c :: rest) := by
  intro l hl
  obtain rfl := Option.some.inj hl
  simpa using h

/-- A written text is read as it was. -/
theorem reads_text {v : Value} {t : Text} (hv : v.text? = some t)
    (h : isJoined t.letters = true) : Reads v := by
  have hform : form v = quoted t ∧ v.asRead = .text t := by
    cases v <;> simp_all [Value.text?, form, Value.asRead]
  have hhead : lettersOf (form v) = .char '"' :: written t.letters [] := by
    rw [hform.1, ← lettersOf_quoted, List.append_nil]
  refine ⟨⟨.char '"', _, hhead, rfl⟩, fun bound rest hbound _ => ?_⟩
  obtain _ | bound := bound
  · rw [hhead] at hbound
    simp at hbound
  · rw [hform.1, hform.2, lettersOf_quoted, value, readText_escaped _ _ h]
    rfl

/-- `none` is read as it was. -/
theorem reads_none : Reads .none := by
  refine ⟨⟨.char 'n', _, rfl, rfl⟩, fun bound rest hbound _ => ?_⟩
  obtain _ | bound := bound
  · exact absurd hbound (by decide)
  · rfl

/-- The first letter of a written number is a digit or a minus sign in front of one. -/
theorem head_ofInt (n : Int) : ∃ d : Char, ∃ ls, d.isDigit = true ∧
    (lettersOf (Decimal.ofInt n) = .char d :: ls ∨
      lettersOf (Decimal.ofInt n) = .char '-' :: .char d :: ls) := by
  obtain ⟨m, sign, -, hletters, hsign⟩ := lettersOf_ofInt n
  obtain ⟨d, ds, hds⟩ := List.exists_cons_of_ne_nil (Decimal.digits_ne_nil m)
  have hd : d.isDigit = true := Decimal.isDigit_of_mem_digits (hds ▸ List.mem_cons_self)
  rw [hds, List.map_cons] at hletters
  obtain ⟨rfl, -⟩ | ⟨rfl, -⟩ := hsign
  · exact ⟨d, _, hd, .inl hletters⟩
  · exact ⟨d, _, hd, .inr hletters⟩

/-- A digit is none of the characters that mean something else. -/
theorem ne_of_isDigit {c d : Char} (hd : d.isDigit = true) (hc : c.isDigit = false) : d ≠ c := by
  rintro rfl
  simp [hd] at hc

/-- No word begins with a number. -/
theorem word?_number (ls : List Letter) {d : Char} (hd : d.isDigit = true) :
    word? (.char d :: ls) = none ∧ word? (.char '-' :: .char d :: ls) = none := by
  have hn : 'n' ≠ d := (ne_of_isDigit hd rfl).symm
  have ht : 't' ≠ d := (ne_of_isDigit hd rfl).symm
  have hf : 'f' ≠ d := (ne_of_isDigit hd rfl).symm
  have hN : 'N' ≠ d := (ne_of_isDigit hd rfl).symm
  have hI : 'I' ≠ d := (ne_of_isDigit hd rfl).symm
  have hm : '-' ≠ d := (ne_of_isDigit hd rfl).symm
  constructor <;>
    simp [word?, words, dropWord?, Text.ofString, Text.ofChars, hn, ht, hf, hN, hI, hm]

/-- A number that can be written is read as it was.

**Proof sketch.** A written number begins with a digit or a minus sign, so it is neither a text nor
a list nor a mapping nor a word, and the reader takes it for a number. -/
theorem reads_int {n : Int} (h : Decimal.isWritable n = true) : Reads (.int n) := by
  obtain ⟨d, ls, hd, hletters⟩ := head_ofInt n
  have hform : form (.int n) = Decimal.ofInt n := rfl
  have hne : ∀ c : Char, c.isDigit = false → d ≠ c := fun c hc => ne_of_isDigit hd hc
  have hbegins : begins (.char d) = true := by
    simp [begins, isGap, Letter.isIn, hne ' ' rfl, hne '\t' rfl, hne '\n' rfl, hne '\r' rfl,
      hne ']' rfl, hne '\x7d' rfl, hne '\uFEFF' rfl]
  have hpos : 0 < (lettersOf (Decimal.ofInt n)).length := by
    obtain hletters | hletters := hletters <;> simp [hletters]
  constructor
  · rw [hform]
    obtain hletters | hletters := hletters
    · exact ⟨_, _, hletters, hbegins⟩
    · exact ⟨_, _, hletters, rfl⟩
  · intro bound rest hbound hrest
    have hnumber := number?_ofInt h hrest
    rw [hform] at hbound ⊢
    obtain _ | bound := bound
    · omega
    · obtain ⟨hdigit, hminus⟩ := word?_number (ls ++ rest) hd
      obtain hletters | hletters := hletters
      · rw [hletters] at hnumber ⊢
        rw [List.cons_append] at hnumber ⊢
        rw [value, hdigit, hnumber]
        · rfl
        all_goals simp [hne '"' rfl, hne '[' rfl, hne '\x7b' rfl]
      · rw [hletters] at hnumber ⊢
        rw [List.cons_append, List.cons_append] at hnumber ⊢
        rw [value, hminus, hnumber]
        · rfl
        all_goals simp

/-- The items of a list are read up to the closing bracket.

**Proof sketch.** By induction on the items. Each is read with one step less than the whole; behind
it stands either the bracket, or a comma and a space, which are skipped up to the next item. -/
theorem itemsOf_forms {v : Value} {vs : List Value} (h : ∀ w ∈ v :: vs, Reads w)
    (rest : List Letter) : ∀ bound, (lettersOf (Text.commas ((v :: vs).map form))).length < bound →
      itemsOf bound (lettersOf (Text.commas ((v :: vs).map form)) ++ .char ']' :: rest) =
        .ok ((v :: vs).map Value.asRead, rest) := by
  induction vs generalizing v with
  | nil =>
    intro bound hbound
    obtain _ | bound := bound
    · omega
    have hv := (h v List.mem_cons_self).value_eq bound (.char ']' :: rest)
      (Nat.le_of_lt_succ hbound)
      (ends_cons _ _ (.inr (.inl rfl)))
    change itemsOf (bound + 1) (lettersOf (form v) ++ .char ']' :: rest) = _
    rw [itemsOf, hv]
    rfl
  | cons w vs ih =>
    intro bound hbound
    obtain ⟨hv, hvs⟩ := List.forall_mem_cons.mp h
    have hw := hvs w List.mem_cons_self
    rw [List.map_cons, List.map_cons, lettersOf_commas, List.append_assoc, List.cons_append,
      List.cons_append]
    rw [List.map_cons, List.map_cons, lettersOf_commas, List.length_append, List.length_cons,
      List.length_cons] at hbound
    obtain _ | bound := bound
    · omega
    have hfirst := hv.value_eq bound (.char ',' :: .char ' ' ::
      (lettersOf (Text.commas ((w :: vs).map form)) ++ .char ']' :: rest)) (by omega)
      (ends_cons _ _ (.inl rfl))
    have hblank : skipBlank (.char ' ' ::
        (lettersOf (Text.commas ((w :: vs).map form)) ++ .char ']' :: rest)) =
        lettersOf (Text.commas ((w :: vs).map form)) ++ .char ']' :: rest :=
      (hw.starts.commas (vs.map form)).skipBlank_eq _
    have hrest := ih hvs bound (by rw [List.map_cons]; omega)
    rw [itemsOf]
    rw [List.map_cons] at hfirst hblank hrest
    rw [hfirst]
    change (itemsOf bound (skipBlank (.char ' ' :: _)) >>= _) = _
    rw [hblank, hrest]
    rfl

/-- A list of documents that are read as they were is read as it was.

**Proof sketch.** Behind the bracket there is the closing one, or the first item begins, which no
closing bracket does. Then the items are read one by one. -/
theorem reads_list {vs : List Value} (h : ∀ v ∈ vs, Reads v) : Reads (.list vs) := by
  have hletters : lettersOf (form (.list vs)) =
      .char '[' :: (lettersOf (Text.commas (vs.map form)) ++ [.char ']']) := by
    rw [form, forms_eq_map, lettersOf_append, lettersOf_append]
    rfl
  refine ⟨⟨_, _, hletters, rfl⟩, fun bound rest hbound _ => ?_⟩
  rw [hletters] at hbound ⊢
  simp only [List.cons_append, List.append_assoc, List.nil_append, List.length_cons,
    List.length_append, List.length_nil] at hbound ⊢
  obtain _ | bound := bound
  · omega
  cases vs with
  | nil => rfl
  | cons v vs =>
    have hv := h v List.mem_cons_self
    have hstarts : Starts (Text.commas ((v :: vs).map form)) := hv.starts.commas (vs.map form)
    obtain ⟨l, ls, hl, hbegins⟩ := hstarts
    have hread := itemsOf_forms h rest bound (by omega)
    rw [hl, List.cons_append] at hread ⊢
    have hne : l ≠ .char ']' := by
      rintro rfl
      exact absurd hbegins (by decide)
    rw [value, skipBlank_of_begins hbegins]
    split
    · rename_i heq
      exact absurd (List.cons.inj heq).1 hne
    · rw [hread, Value.asRead, Value.allAsRead_eq_map]
      rfl

/-- A text of either kind is read as an ordinary one. -/
theorem asRead_of_text {v : Value} {t : Text} (h : v.text? = some t) : v.asRead = .text t := by
  cases v <;> simp_all [Value.text?, Value.asRead]

/-- The written form of an entry. -/
def entryForm (e : Value × Value) : String :=
  quoted (e.1.text?.getD "") ++ ": " ++ form e.2

/-- Entries are written one by one. -/
theorem entryForms_eq_map (es : List (Value × Value)) : entryForms es = es.map entryForm := by
  induction es with
  | nil => rfl
  | cons e es ih => rw [entryForms, ih, List.map_cons, entryForm]

/-- The letters of the written form of an entry and what follows it. -/
theorem lettersOf_entryForm {e : Value × Value} {t : Text} (ht : e.1.text? = some t)
    (rest : List Letter) : lettersOf (entryForm e) ++ rest =
      .char '"' :: written t.letters
        (.char ':' :: .char ' ' :: (lettersOf (form e.2) ++ rest)) := by
  rw [entryForm, ht, Option.getD_some, lettersOf_append, lettersOf_append, List.append_assoc,
    List.append_assoc, lettersOf_quoted]
  rfl

/-- The keys of entries are texts without halves of a pair side by side, and their values are read
as they were. -/
def EntriesRead (es : List (Value × Value)) : Prop :=
  ∀ e ∈ es, (∃ t : Text, e.1.text? = some t ∧ isJoined t.letters = true) ∧ Reads e.2

/-- The key of a written entry is read as it was. -/
theorem entryKey_entryForm {e : Value × Value} {t : Text} (ht : e.1.text? = some t)
    (hjoined : isJoined t.letters = true) (he : Reads e.2) (rest : List Letter) :
    entryKey (lettersOf (entryForm e) ++ rest) = .ok (t, lettersOf (form e.2) ++ rest) := by
  rw [lettersOf_entryForm ht, entryKey, readText_escaped _ _ hjoined]
  change Except.ok (t, skipBlank (lettersOf (form e.2) ++ rest)) = _
  rw [he.starts.skipBlank_eq]

/-- A written entry begins as a value. -/
theorem starts_entryForm {e : Value × Value} (he : ∃ t : Text, e.1.text? = some t) :
    Starts (entryForm e) := by
  obtain ⟨t, ht⟩ := he
  have hletters := lettersOf_entryForm ht []
  rw [List.append_nil] at hletters
  exact ⟨_, _, hletters, rfl⟩

/-- The length of the written form of an entry. -/
theorem length_entryForm (e : Value × Value) :
    (lettersOf (form e.2)).length < (lettersOf (entryForm e)).length := by
  have hcolon : (lettersOf ": ").length = 2 := rfl
  rw [entryForm, lettersOf_append, lettersOf_append, List.length_append, List.length_append,
    hcolon]
  omega

/-- The last entry of a mapping is read up to the closing brace. -/
theorem entriesOf_last {e : Value × Value} {t : Text} (ht : e.1.text? = some t)
    (hjoined : isJoined t.letters = true) (he : Reads e.2) {bound : Nat}
    (hbound : (lettersOf (form e.2)).length ≤ bound) (rest : List Letter) :
    entriesOf (bound + 1) (lettersOf (entryForm e) ++ .char '\x7d' :: rest) =
      .ok (Value.entriesAsRead [e], rest) := by
  have hvalue := he.value_eq bound (.char '\x7d' :: rest) hbound (ends_cons _ _ (.inr (.inr rfl)))
  rw [entriesOf, entryKey_entryForm ht hjoined he]
  change (value bound (lettersOf (form e.2) ++ .char '\x7d' :: rest) >>= _) = _
  rw [hvalue, Value.entriesAsRead, asRead_of_text ht]
  rfl

/-- An entry of a mapping is read up to the comma behind it, and then the others are read. -/
theorem entriesOf_next {e : Value × Value} {t : Text} (ht : e.1.text? = some t)
    (hjoined : isJoined t.letters = true) (he : Reads e.2) {bound : Nat}
    (hbound : (lettersOf (form e.2)).length ≤ bound) {others rest : List Letter}
    {es : List (Value × Value)}
    (hothers : entriesOf bound (skipBlank others) = .ok (Value.entriesAsRead es, rest)) :
    entriesOf (bound + 1) (lettersOf (entryForm e) ++ .char ',' :: others) =
      .ok (Value.entriesAsRead (e :: es), rest) := by
  have hvalue := he.value_eq bound (.char ',' :: others) hbound (ends_cons _ _ (.inl rfl))
  rw [entriesOf, entryKey_entryForm ht hjoined he]
  change (value bound (lettersOf (form e.2) ++ .char ',' :: others) >>= _) = _
  rw [hvalue]
  change (entriesOf bound (skipBlank others) >>= _) = _
  rw [hothers]
  change Except.ok ((Value.text t, e.2.asRead) :: Value.entriesAsRead es, rest) = _
  rw [← asRead_of_text ht]
  rfl

/-- The entries of a mapping are read up to the closing brace.

**Proof sketch.** By induction on the entries. Each is read with one step less than the whole;
behind it stands either the brace, or a comma and a space, which are skipped up to the next
entry. -/
theorem entriesOf_forms {e : Value × Value} {es : List (Value × Value)}
    (h : EntriesRead (e :: es)) (rest : List Letter) : ∀ bound,
      (lettersOf (Text.commas ((e :: es).map entryForm))).length < bound →
      entriesOf bound (lettersOf (Text.commas ((e :: es).map entryForm)) ++ .char '\x7d' :: rest) =
        .ok (Value.entriesAsRead (e :: es), rest) := by
  induction es generalizing e with
  | nil =>
    intro bound hbound
    obtain _ | bound := bound
    · omega
    obtain ⟨⟨t, ht, hjoined⟩, he⟩ := h e List.mem_cons_self
    have hlength := length_entryForm e
    simp only [List.map_cons, List.map_nil, Text.commas, List.foldl_nil] at hbound
    exact entriesOf_last ht hjoined he (by omega) rest
  | cons f es ih =>
    intro bound hbound
    obtain ⟨⟨⟨t, ht, hjoined⟩, he⟩, hes⟩ := List.forall_mem_cons.mp h
    obtain ⟨⟨⟨u, hu, -⟩, -⟩, -⟩ := List.forall_mem_cons.mp hes
    have hlength := length_entryForm e
    rw [List.map_cons, List.map_cons, lettersOf_commas, List.append_assoc, List.cons_append,
      List.cons_append]
    rw [List.map_cons, List.map_cons, lettersOf_commas, List.length_append, List.length_cons,
      List.length_cons] at hbound
    obtain _ | bound := bound
    · omega
    refine entriesOf_next ht hjoined he (by omega) ?_
    have hstarts : Starts (Text.commas ((f :: es).map entryForm)) :=
      (starts_entryForm ⟨u, hu⟩).commas (es.map entryForm)
    have hrest := ih hes bound (by rw [List.map_cons]; omega)
    rw [List.map_cons] at hstarts hrest
    rwa [← hstarts.skipBlank_eq] at hrest

/-- An entry whose key is a new text comes last. -/
theorem insertEntry_eq {fs : List (Value × Value)} {t : Text} (v : Value)
    (hfs : ∀ f ∈ fs, ∃ s, f.1 = .text s ∧ s ≠ t) :
    Value.insertEntry (.text t) v fs = fs ++ [(.text t, v)] := by
  induction fs with
  | nil => rfl
  | cons f fs ih =>
    obtain ⟨⟨s, hs, hst⟩, hfs⟩ := List.forall_mem_cons.mp hfs
    have halike : f.1.alike (.text t) = false := by
      rw [hs]
      simpa [Value.alike, Value.related, Value.bare, Value.equalsAtom, Value.number?, Value.text?,
        Value.isSameNaN] using hst
    simp only [Value.insertEntry, halike, ih hfs]
    rfl

/-- Entries whose keys are new and different texts come behind those that are there already. -/
theorem foldl_insertEntry {es : List (Value × Value)} : ∀ {before : List (Value × Value)},
    (∀ e ∈ before ++ es, ∃ t, e.1 = .text t) → (Value.keyTexts (before ++ es)).Nodup →
    es.foldl (fun es e => Value.insertEntry e.1 e.2 es) before = before ++ es := by
  induction es with
  | nil => exact fun _ _ => (List.append_nil _).symm
  | cons e es ih =>
    intro before hkeys hnodup
    obtain ⟨t, ht⟩ := hkeys e (by simp)
    have hnew : ∀ f ∈ before, ∃ s, f.1 = .text s ∧ s ≠ t := by
      intro f hf
      obtain ⟨s, hs⟩ := hkeys f (List.mem_append_left _ hf)
      refine ⟨s, hs, ?_⟩
      rintro rfl
      rw [Value.keyTexts, List.map_append, List.nodup_append] at hnodup
      refine hnodup.2.2 f.1.text? (List.mem_map.mpr ⟨f, hf, rfl⟩) e.1.text? ?_ ?_
      · exact List.mem_map.mpr ⟨e, List.mem_cons_self, rfl⟩
      · rw [hs, ht]
    have hinsert : Value.insertEntry e.1 e.2 before = before ++ [e] := by
      rw [ht, insertEntry_eq e.2 hnew, ← ht]
    have happend : before ++ [e] ++ es = before ++ e :: es := by simp
    rw [List.foldl_cons, hinsert, ih (happend ▸ hkeys) (happend ▸ hnodup), happend]

/-- Entries with different texts for keys make a mapping as they are. -/
theorem ofEntries_eq {es : List (Value × Value)} (hkeys : ∀ e ∈ es, ∃ t, e.1 = .text t)
    (hnodup : (Value.keyTexts es).Nodup) : Value.ofEntries es = .dict es := by
  rw [Value.ofEntries, @foldl_insertEntry es [] hkeys hnodup]
  rfl

/-- Reading keeps the texts of keys. -/
theorem keyTexts_entriesAsRead {es : List (Value × Value)}
    (h : ∀ e ∈ es, ∃ t : Text, e.1.text? = some t) :
    Value.keyTexts (Value.entriesAsRead es) = Value.keyTexts es ∧
      ∀ e ∈ Value.entriesAsRead es, ∃ t, e.1 = .text t := by
  induction es with
  | nil => exact ⟨rfl, by simp [Value.entriesAsRead]⟩
  | cons e es ih =>
    obtain ⟨⟨t, ht⟩, hes⟩ := List.forall_mem_cons.mp h
    obtain ⟨hkeys, htexts⟩ := ih hes
    constructor
    · have htext : e.1.asRead.text? = e.1.text? := by
        rw [asRead_of_text ht, ht]
        rfl
      change e.1.asRead.text? :: Value.keyTexts (Value.entriesAsRead es) = _
      rw [hkeys, htext]
      rfl
    · exact List.forall_mem_cons.mpr ⟨⟨t, asRead_of_text ht⟩, htexts⟩

/-- A mapping with different texts for keys is read as it was, if its values are.

**Proof sketch.** Behind the brace there is the closing one, or the first entry begins, which no
closing brace does. Then the entries are read one by one, and as their keys are different, none
replaces another. -/
theorem reads_dict {es : List (Value × Value)} (h : EntriesRead es)
    (hnodup : (Value.keyTexts es).Nodup) : Reads (.dict es) := by
  have hletters : lettersOf (form (.dict es)) =
      .char '\x7b' :: (lettersOf (Text.commas (es.map entryForm)) ++ [.char '\x7d']) := by
    rw [form, entryForms_eq_map, lettersOf_append, lettersOf_append]
    rfl
  refine ⟨⟨_, _, hletters, rfl⟩, fun bound rest hbound _ => ?_⟩
  rw [hletters] at hbound ⊢
  simp only [List.cons_append, List.append_assoc, List.nil_append, List.length_cons,
    List.length_append, List.length_nil] at hbound ⊢
  obtain _ | bound := bound
  · omega
  obtain ⟨hkeys, htexts⟩ := keyTexts_entriesAsRead fun e he => ⟨_, ((h e he).1.choose_spec).1⟩
  cases es with
  | nil => rfl
  | cons e es =>
    obtain ⟨⟨t, ht, -⟩, -⟩ := h e List.mem_cons_self
    have hstarts : Starts (Text.commas ((e :: es).map entryForm)) :=
      (starts_entryForm ⟨t, ht⟩).commas (es.map entryForm)
    obtain ⟨l, ls, hl, hbegins⟩ := hstarts
    have hread := entriesOf_forms h rest bound (by omega)
    rw [hl, List.cons_append] at hread ⊢
    have hne : l ≠ .char '\x7d' := by
      rintro rfl
      exact absurd hbegins (by decide)
    rw [value, skipBlank_of_begins hbegins]
    split
    · rename_i heq
      exact absurd (List.cons.inj heq).1 hne
    · rw [hread]
      change Except.ok (Value.ofEntries _, rest) = _
      rw [ofEntries_eq htexts (hkeys ▸ hnodup), Value.asRead]

/-- A document is read as it was, wherever it stands. -/
theorem IsFaithful.reads {v : Value} (h : IsFaithful v) : Reads v := by
  induction h with
  | none => exact reads_none
  | int h => exact reads_int h
  | text hv h => exact reads_text hv h
  | list _ ih => exact reads_list ih
  | dict hkeys hnodup _ ih => exact reads_dict (fun e he => ⟨hkeys e he, ih e he⟩) hnodup

/-- The written form of a document is read as the document. -/
theorem parse_form {v : Value} (h : IsFaithful v) :
    parse (Text.ofString (form v)) = .ok v.asRead := by
  obtain ⟨l, ls, hletters, hbegins⟩ := h.reads.starts
  have hmark : l ≠ .char '\uFEFF' := by
    rintro rfl
    exact absurd hbegins (by decide)
  have hbound : (lettersOf (form v)).length ≤ 2 * (Text.ofString (form v)).length + 2 := by
    change (lettersOf (form v)).length ≤ 2 * (lettersOf (form v)).length + 2
    omega
  have hread := h.reads.value_eq _ [] hbound (by simp [Ends])
  have hskip := h.reads.starts.skipBlank_eq []
  rw [List.append_nil] at hread hskip
  have hhead : (Text.ofString (form v)).letters.head? ≠ some (.char '\uFEFF') := by
    change (lettersOf (form v)).head? ≠ _
    rw [hletters]
    simpa using hmark
  rw [parse, if_neg hhead, parseDecoded]
  change (value _ (skipBlank (lettersOf (form v))) >>= _) = _
  rw [hskip, hread]
  rfl

end CHeaders.Json
