import CHeaders.Proofs.Number.Decimal
import CHeaders.Proofs.Result
import CHeaders.Proofs.Text.Encoding
import CHeaders.Symbol
import Mathlib.Data.List.Induction

/-!
# Apart by place

A symbol name is written without quotes: the base, which is the stem and the id, and behind it the
pieces of the place, each with an underscore in front of it. No piece holds an underscore, so names
are read from the end: of two places that make the same name, the pieces of one are the last pieces
of the other one. The base may end as a place does. This leaves a single way in which different
parts make the same name: a line at the end of one base, and a column in the other place that is the
line of the first.

## Main definitions

* `CHeaders.Symbol.Parts`: what a name is made of.
* `CHeaders.Symbol.Piece`: a piece of what a place adds to a name.
* `CHeaders.Symbol.Parts.Mimics`: parts whose base ends as another place begins.

## Main results

* `CHeaders.Symbol.joined_cases`: reading joined items from the end.
* `CHeaders.Symbol.Parts.letters_eq_iff`: when two names are the same.
* `CHeaders.Symbol.name_eq_name_iff`: with the same base or places of the same shape, names are
  apart if their parts are.
* `CHeaders.Symbol.name_collides_iff`: when two names with the same stem and different places are
  the same.
-/

namespace CHeaders.Symbol

/-! ## Joined items -/

section Joined

variable {α β : Type} {x : α} {f : β → List α} {xs ys : List α} {items items' : List β}

/-- A list with an item behind it for each of `items`, and `x` in front of each item. -/
def joined (x : α) (f : β → List α) (xs : List α) (items : List β) : List α :=
  xs ++ items.flatMap fun item => x :: f item

/-- The last item may be joined by itself. -/
theorem joined_append_singleton (items : List β) (item : β) :
    joined x f xs (items ++ [item]) = joined x f xs items ++ x :: f item := by
  simp [joined]

/-- A list is split at the last place of an item in one way. -/
theorem eq_of_append_cons_eq {as bs : List α} (has : x ∉ as) (hbs : x ∉ bs)
    (h : xs ++ x :: as = ys ++ x :: bs) : xs = ys ∧ as = bs := by
  rcases List.append_eq_append_iff.mp h with ⟨zs, rfl, hzs⟩ | ⟨zs, rfl, hzs⟩
  all_goals
    cases zs with
    | nil => simp_all
    | cons z zs => simp_all

/-- Joined items are read from the end: if two joined lists are the same, the items of one are the
last items of the other one, whose further items are in front of them.

**Proof sketch.** By induction on the items from the end. As `x` is in no item, the last `x` of the
list stands in front of the last item. -/
theorem joined_cases (hf : f.Injective) (hx : ∀ item, x ∉ f item)
    (h : joined x f xs items = joined x f ys items') :
    (∃ front, items = front ++ items' ∧ ys = joined x f xs front) ∨
      ∃ front, items' = front ++ items ∧ xs = joined x f ys front := by
  induction items using List.reverseRecOn generalizing items' with
  | nil => exact .inr ⟨items', by simp, by simpa [joined] using h⟩
  | append_singleton items item ih =>
    rcases List.eq_nil_or_concat items' with rfl | ⟨items', item', rfl⟩
    · exact .inl ⟨items ++ [item], by simp, by simpa [joined] using h.symm⟩
    · rw [List.concat_eq_append] at h ⊢
      rw [joined_append_singleton, joined_append_singleton] at h
      obtain ⟨hinit, hlast⟩ := eq_of_append_cons_eq (hx item) (hx item') h
      rw [hf hlast]
      rcases ih hinit with ⟨front, rfl, hys⟩ | ⟨front, rfl, hxs⟩
      · exact .inl ⟨front, List.append_assoc .., hys⟩
      · exact .inr ⟨front, List.append_assoc .., hxs⟩

end Joined

/-! ## Pieces -/

/-- A piece of what a place adds to a name: the line or the column, or the bytes of the name of the
file. -/
inductive Piece where
  | number (n : Nat)
  | file (bytes : List UInt8)

/-- The characters of a piece. -/
def Piece.chars : Piece → List Char
  | number n => Decimal.digits n
  | file bytes => 'f' :: Text.Hex.ofBytes bytes

/-- The letters of a piece. -/
def Piece.letters (piece : Piece) : List Letter :=
  piece.chars.map .char

/-- The letter between pieces. -/
def separator : Letter := .char '_'

/-- The digits of a number are no piece for a file. -/
theorem Piece.digits_ne (n : Nat) (cs : List Char) : Decimal.digits n ≠ 'f' :: cs := by
  intro h
  have hdigit : Char.isDigit 'f' = true :=
    Decimal.isDigit_of_mem_digits (n := n) (by rw [h]; exact List.mem_cons_self)
  cases hdigit

/-- Different pieces have different letters. -/
theorem Piece.letters_injective : Piece.letters.Injective := by
  intro a b h
  have hchars : a.chars = b.chars :=
    List.map_injective_iff.mpr (fun _ _ => Letter.char.inj) h
  cases a with
  | number n =>
    cases b with
    | number m => rw [Decimal.digits_injective hchars]
    | file bytes => exact absurd hchars (digits_ne n _)
  | file bytes =>
    cases b with
    | number m => exact absurd hchars.symm (digits_ne m _)
    | file bytes' => rw [Text.Hex.ofBytes_inj (List.cons.inj hchars).2]

/-- There is no separator in a piece. -/
theorem Piece.separator_not_mem (piece : Piece) : separator ∉ piece.letters := by
  intro h
  obtain ⟨c, hc, hsep⟩ := List.mem_map.mp h
  obtain rfl : c = '_' := Letter.char.inj hsep
  cases piece with
  | number n => cases Decimal.isDigit_of_mem_digits hc
  | file bytes =>
    rcases List.mem_cons.mp hc with hf | hbytes
    · cases hf
    · exact Text.Hex.underscore_not_mem_ofBytes bytes hbytes

/-- The piece for the file of a place, if the file is known. -/
def Place.filePiece (p : Place) : List Piece :=
  (p.file.map fun file => .file (file.letters.flatMap Text.Utf8.letterBytes)).toList

/-- The pieces of a place. -/
def Place.pieces (p : Place) : List Piece :=
  .number p.line :: ((p.column.map .number).toList ++ p.filePiece)

/-- Whether the name of the file has bytes, if the file is known. -/
def Place.HasBytes (p : Place) : Prop :=
  ∀ file ∈ p.file, ∃ bytes, Text.Utf8.encode file = .ok bytes

/-- The letters of what the line and the column of a place add to a name. -/
theorem Place.letters_coordinates (p : Place) :
    (Text.ofString p.coordinates).letters =
      (Piece.number p.line :: (p.column.map .number).toList).flatMap fun piece =>
        separator :: piece.letters := by
  cases hcolumn : p.column <;>
    simp [Place.coordinates, hcolumn, Text.ofString, Text.ofChars, Decimal.ofNat, Piece.letters,
      Piece.chars, separator]

/-- What the name of a file adds to a name are the digits of its bytes. -/
theorem fileTag_spec {file : Text} {tag : String} (h : fileTag file = .ok tag) :
    Text.Utf8.encode file = .ok (file.letters.flatMap Text.Utf8.letterBytes) ∧
      tag = String.ofList (Text.Hex.ofBytes (file.letters.flatMap Text.Utf8.letterBytes)) := by
  rw [fileTag] at h
  split at h
  · rename_i bytes hbytes
    obtain rfl := Text.Utf8.eq_of_encode hbytes
    exact ⟨hbytes, (Except.ok.inj h).symm⟩
  · cases h

/-- What a place adds to a name is made of its pieces.

**Proof sketch.** The coordinates are written first, and the file behind them if there is one, in
its bytes. Each coordinate and the file are a piece with a separator in front of it. -/
theorem Place.tag_spec {p : Place} {tag : String} (h : p.tag = .ok tag) :
    p.HasBytes ∧ (Text.ofString tag).letters =
      p.pieces.flatMap fun piece => separator :: piece.letters := by
  obtain ⟨coordinates, hcoordinates, h⟩ := bind_eq_ok_iff.mp h
  have hletters := p.letters_coordinates
  obtain rfl := Except.ok.inj (Fault.eq_ok_of_whenShown hcoordinates)
  cases hfile : p.file with
  | none =>
    rw [hfile] at h
    obtain rfl := Except.ok.inj h
    refine ⟨by simp [HasBytes, hfile], ?_⟩
    rw [hletters, pieces, filePiece, hfile]
    simp
  | some file =>
    rw [hfile] at h
    obtain ⟨hex, hhex, h⟩ := bind_eq_ok_iff.mp h
    obtain rfl := Except.ok.inj h
    obtain ⟨hbytes, rfl⟩ := fileTag_spec hhex
    refine ⟨by simp [HasBytes, hfile, hbytes], ?_⟩
    rw [Text.ofString_append, Text.ofString_append, Text.letters_append, Text.letters_append,
      hletters, pieces, filePiece, hfile, ← List.cons_append, List.flatMap_append,
      List.append_assoc]
    simp [Text.ofString, Text.ofChars, Piece.letters, Piece.chars, separator]

/-- The piece for a file is no number. -/
theorem Place.filePiece_ne (p : Place) (front : List Piece) (n : Nat) (back : List Piece) :
    p.filePiece ≠ front ++ .number n :: back := by
  intro h
  have hmem : Piece.number n ∈ p.filePiece := by
    rw [h]
    exact List.mem_append_right _ List.mem_cons_self
  simp [filePiece] at hmem

/-- The name of a file that has bytes is found again from its piece. -/
theorem Place.file_eq {p q : Place} (hp : p.HasBytes) (hq : q.HasBytes)
    (h : p.filePiece = q.filePiece) : p.file = q.file := by
  cases hpfile : p.file with
  | none =>
    cases hqfile : q.file with
    | none => rfl
    | some file' => simp [filePiece, hpfile, hqfile] at h
  | some file =>
    cases hqfile : q.file with
    | none => simp [filePiece, hpfile, hqfile] at h
    | some file' =>
      obtain ⟨bytes, hbytes⟩ := hp file hpfile
      obtain ⟨bytes', hbytes'⟩ := hq file' hqfile
      have hsame : bytes = bytes' := by
        rw [Text.Utf8.eq_of_encode hbytes, Text.Utf8.eq_of_encode hbytes']
        simpa [filePiece, hpfile, hqfile] using h
      rw [Text.Utf8.encode_inj hbytes (hsame ▸ hbytes')]

/-- The column and the name of the file are found again from their pieces.

**Proof sketch.** Both places have a column or neither has one, because no piece of a file is a
number. Then the first piece is the column, and what is left are the files. -/
theorem Place.column_eq {p q : Place} (hp : p.HasBytes) (hq : q.HasBytes)
    (h : (p.column.map .number).toList ++ p.filePiece =
      (q.column.map .number).toList ++ q.filePiece) :
    p.column = q.column ∧ p.file = q.file := by
  cases hpcolumn : p.column with
  | none =>
    rw [hpcolumn] at h
    cases hqcolumn : q.column with
    | none =>
      rw [hqcolumn] at h
      exact ⟨rfl, file_eq hp hq h⟩
    | some c' =>
      rw [hqcolumn] at h
      exact absurd h (p.filePiece_ne [] c' _)
  | some c =>
    rw [hpcolumn] at h
    cases hqcolumn : q.column with
    | none =>
      rw [hqcolumn] at h
      exact absurd h.symm (q.filePiece_ne [] c _)
    | some c' =>
      rw [hqcolumn] at h
      obtain ⟨hnumber, hfile⟩ := List.cons.inj h
      exact ⟨congrArg some (Piece.number.inj hnumber), file_eq hp hq hfile⟩

/-- The pieces of one place are the last pieces of another one only if the places are the same, or
if the line of the first place is the column of the other one, in the same file.

**Proof sketch.** By the pieces in front. If there are none, then the pieces are the same one by
one. If there is one, it is the line of the first place, and its column is the line of the other
one. There is no room for more, because no piece of a file is a number. -/
theorem Place.pieces_cases {p q : Place} (hp : p.HasBytes) (hq : q.HasBytes) {front : List Piece}
    (h : p.pieces = front ++ q.pieces) :
    (front = [] ∧ p = q) ∨
      (front = [.number p.line] ∧ p.column = some q.line ∧ q.column = none ∧ p.file = q.file) := by
  cases front with
  | nil =>
    obtain ⟨hnumber, hrest⟩ := List.cons.inj h
    have hline := Piece.number.inj hnumber
    obtain ⟨hcolumn, hfile⟩ := column_eq hp hq hrest
    exact .inl ⟨rfl, by cases p; cases q; simp_all⟩
  | cons piece front =>
    obtain ⟨rfl, hrest⟩ := List.cons.inj h
    cases hcolumn : p.column with
    | none =>
      rw [hcolumn] at hrest
      exact absurd hrest (p.filePiece_ne front q.line _)
    | some c =>
      rw [hcolumn] at hrest
      cases front with
      | nil =>
        -- the column of `p` is the line of `q`, so what is left of `p` is its file
        obtain ⟨hnumber, hfile⟩ := List.cons.inj hrest
        obtain rfl := Piece.number.inj hnumber
        have hnone : Place.HasBytes { p with column := none } := hp
        obtain ⟨hqcolumn, hqfile⟩ := column_eq hnone hq hfile
        exact .inr ⟨rfl, rfl, hqcolumn.symm, hqfile⟩
      | cons piece front =>
        exact absurd (List.cons.inj hrest).2 (p.filePiece_ne front q.line _)

/-! ## Names -/

/-- What a name is made of: a stem, an id and a place. -/
structure Parts where
  stem : Text
  id : Text
  place : Place

namespace Parts

/-- The parts that a stem, an id and a position stand for. -/
def ofValues? (stem id position : Value) : Option Parts :=
  match stem.text?, id.text?, Place.ofValue position with
  | some s, some i, .ok p => some ⟨s, i, p⟩
  | _, _, _ => none

/-- What stands in front of the place in a name. -/
def base (k : Parts) : Text :=
  k.stem ++ k.id

/-- The letters of the name that is made of the parts. -/
def letters (k : Parts) : List Letter :=
  joined separator Piece.letters k.base.letters k.place.pieces

/-- A base that ends as the place of other parts begins: the line of `k` stands at its end, and what
is the column of `k` is the line of `m`. -/
structure Mimics (m k : Parts) : Prop where
  base_eq : m.base = k.base ++ Text.ofString ("_" ++ Decimal.ofNat k.place.line)
  column_eq : k.place.column = some m.place.line
  column_none : m.place.column = none
  file_eq : k.place.file = m.place.file

end Parts

/-- A name is made of its parts. -/
theorem exists_parts_of_name {stem id position : Value} {n : Text}
    (h : name stem id position = .ok n) :
    ∃ k, Parts.ofValues? stem id position = some k ∧ k.place.HasBytes ∧ n = ⟨k.letters⟩ := by
  rw [name] at h
  split at h
  · rename_i s i hs hi
    split at h
    · obtain ⟨p, hp, h⟩ := bind_eq_ok_iff.mp h
      obtain ⟨tag, htag, h⟩ := bind_eq_ok_iff.mp h
      obtain rfl := Except.ok.inj h
      obtain ⟨hbytes, hletters⟩ := Place.tag_spec htag
      refine ⟨⟨s, i, p⟩, by simp only [Parts.ofValues?, hs, hi, hp], hbytes, ?_⟩
      exact congrArg Text.mk (congrArg ((s ++ i).letters ++ ·) hletters)
    · obtain ⟨both, -, h⟩ := bind_eq_ok_iff.mp h
      cases h
  · cases h

namespace Parts

variable {k m : Parts}

/-- The letters of a base with a line behind it. -/
theorem letters_base_line (k : Parts) :
    (k.base ++ Text.ofString ("_" ++ Decimal.ofNat k.place.line)).letters =
      joined separator Piece.letters k.base.letters [.number k.place.line] := by
  rw [Text.letters_append, joined]
  simp [Text.ofString, Text.ofChars, Decimal.ofNat, Piece.letters, Piece.chars, separator]

/-- Parts that mimic others make the same name. -/
theorem Mimics.letters_eq (h : m.Mimics k) : m.letters = k.letters := by
  have hpieces : k.place.pieces = .number k.place.line :: m.place.pieces := by
    simp [Place.pieces, Place.filePiece, h.column_eq, h.column_none, h.file_eq]
  rw [letters, letters, h.base_eq, letters_base_line, hpieces]
  simp [joined]

/-- If the pieces of `m` are the last ones of `k` and the further ones stand at the end of the base
of `m`, then there are none of these, or `m` mimics `k`. -/
theorem eq_or_mimics (hk : k.place.HasBytes) (hm : m.place.HasBytes) {front : List Piece}
    (hpieces : k.place.pieces = front ++ m.place.pieces)
    (hbase : m.base.letters = joined separator Piece.letters k.base.letters front) :
    (k.base = m.base ∧ k.place = m.place) ∨ m.Mimics k := by
  rcases Place.pieces_cases hk hm hpieces with ⟨rfl, hplace⟩ | ⟨rfl, hcolumn, hnone, hfile⟩
  · rw [joined, List.flatMap_nil, List.append_nil] at hbase
    exact .inl ⟨congrArg Text.mk hbase.symm, hplace⟩
  · rw [← letters_base_line] at hbase
    exact .inr ⟨congrArg Text.mk hbase, hcolumn, hnone, hfile⟩

/-- Two names are the same if and only if their bases and places are, or if one mimics the other.

**Proof sketch.** Read from the end, the pieces of one place are the last pieces of the other one.
The line is a number and the file is none, so there are no further pieces, or there is one: the
line, in front of a column that is the line of the other place. -/
theorem letters_eq_iff (hk : k.place.HasBytes) (hm : m.place.HasBytes) :
    k.letters = m.letters ↔
      (k.base = m.base ∧ k.place = m.place) ∨ m.Mimics k ∨ k.Mimics m := by
  constructor
  · intro h
    rcases joined_cases Piece.letters_injective Piece.separator_not_mem h with
      ⟨front, hpieces, hbase⟩ | ⟨front, hpieces, hbase⟩
    · exact (eq_or_mimics hk hm hpieces hbase).imp_right .inl
    · exact (eq_or_mimics hm hk hpieces hbase).imp
        (fun hsame => ⟨hsame.1.symm, hsame.2.symm⟩) .inr
  · rintro (⟨hbase, hplace⟩ | h | h)
    · rw [letters, letters, hbase, hplace]
    · exact h.letters_eq.symm
    · exact h.letters_eq

/-- No base mimics itself. -/
theorem Mimics.base_ne (h : m.Mimics k) : k.base ≠ m.base := by
  intro heq
  have hletters := congrArg Text.letters h.base_eq
  rw [← heq, letters_base_line, joined, List.self_eq_append_right] at hletters
  cases hletters

end Parts

/-! ## The theorems -/

/-- Two places have the same shape if the column is known in both or in neither, and the file as
well. -/
def Place.SameShape (p q : Place) : Prop :=
  p.column.isSome = q.column.isSome ∧ p.file.isSome = q.file.isSome

/-- Parts that mimic others have a place of another shape. -/
theorem Parts.Mimics.not_sameShape {k m : Parts} (h : m.Mimics k) :
    ¬k.place.SameShape m.place ∧ ¬m.place.SameShape k.place := by
  simp [Place.SameShape, h.column_eq, h.column_none]

variable {stem stem' id id' position position' : Value} {n n' : Text}

/-- With the same base, or at places of the same shape, names tell everything apart: they are the
same if and only if their bases and places are.

**Proof sketch.** Parts that mimic others have another base, and a place of another shape. -/
theorem name_eq_name_iff (h : name stem id position = .ok n)
    (h' : name stem' id' position' = .ok n') :
    ∃ k k', Parts.ofValues? stem id position = some k ∧
      Parts.ofValues? stem' id' position' = some k' ∧
      (k.base = k'.base ∨ k.place.SameShape k'.place →
        (n = n' ↔ k.base = k'.base ∧ k.place = k'.place)) := by
  obtain ⟨k, hk, hbytes, rfl⟩ := exists_parts_of_name h
  obtain ⟨k', hk', hbytes', rfl⟩ := exists_parts_of_name h'
  refine ⟨k, k', hk, hk', fun halike => ?_⟩
  rw [Text.mk.injEq, Parts.letters_eq_iff hbytes hbytes', or_iff_left]
  rintro (hmimics | hmimics)
  · exact halike.elim hmimics.base_ne hmimics.not_sameShape.1
  · exact halike.elim (fun hbase => hmimics.base_ne hbase.symm) hmimics.not_sameShape.2

/-- A column is kept apart from further digits of the line. -/
theorem name_ne_furtherDigit :
    ∃ n n', name (.text "P_") (.text "x") (.position (.int 1) (.int 2) .none) = .ok n ∧
      name (.text "P_") (.text "x") (.int 12) = .ok n' ∧ n ≠ n' := by
  have h : name (.text "P_") (.text "x") (.position (.int 1) (.int 2) .none) = .ok "P_x_1_2" :=
    eq_ok_of_toOption (by decide +kernel)
  have h' : name (.text "P_") (.text "x") (.int 12) = .ok "P_x_12" :=
    eq_ok_of_toOption (by decide +kernel)
  obtain ⟨k, k', hk, hk', hiff⟩ := name_eq_name_iff h h'
  obtain rfl := Option.some.inj hk
  obtain rfl := Option.some.inj hk'
  refine ⟨_, _, h, h', fun heq => ?_⟩
  obtain ⟨-, hplace⟩ := (hiff (.inl rfl)).mp heq
  cases hplace

/-- Two names with the same stem and different places are the same if and only if one id ends as the
place of the other name begins: the line of that place stands at the end of the id, its column is
the line of the place behind the id, which has no column, and the file is the same or unknown in
both. -/
theorem name_collides_iff (h : name stem id position = .ok n)
    (h' : name stem id' position' = .ok n') :
    ∃ k k', Parts.ofValues? stem id position = some k ∧
      Parts.ofValues? stem id' position' = some k' ∧
      (k.place ≠ k'.place → (n = n' ↔ k'.Mimics k ∨ k.Mimics k')) := by
  obtain ⟨k, hk, hbytes, rfl⟩ := exists_parts_of_name h
  obtain ⟨k', hk', hbytes', rfl⟩ := exists_parts_of_name h'
  refine ⟨k, k', hk, hk', fun hplaces => ?_⟩
  rw [Text.mk.injEq, Parts.letters_eq_iff hbytes hbytes', or_iff_right fun hsame => hplaces hsame.2]

/-- The id that is named at the second line ends as the first place begins, and both names are the
same. -/
theorem name_collides_imitatedLine :
    name (.text "P_") (.text "x") (.position (.int 1) (.int 2) .none) = .ok "P_x_1_2" ∧
    name (.text "P_") (.text "x_1") (.int 2) = .ok "P_x_1_2" ∧
    Parts.Mimics ⟨"P_", "x_1", ⟨2, none, none⟩⟩ ⟨"P_", "x", ⟨1, some 2, none⟩⟩ := by
  have h : name (.text "P_") (.text "x") (.position (.int 1) (.int 2) .none) = .ok "P_x_1_2" :=
    eq_ok_of_toOption (by decide +kernel)
  have h' : name (.text "P_") (.text "x_1") (.int 2) = .ok "P_x_1_2" :=
    eq_ok_of_toOption (by decide +kernel)
  obtain ⟨k, k', hk, hk', hiff⟩ := name_collides_iff h h'
  obtain rfl := Option.some.inj hk
  obtain rfl := Option.some.inj hk'
  rcases (hiff (by simp)).mp rfl with hmimics | hmimics
  · exact ⟨h, h', hmimics⟩
  · cases hmimics.column_none

end CHeaders.Symbol
