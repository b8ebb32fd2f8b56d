import CHeaders.Proofs.Symbol
import CHeaders.Proofs.Text.Identifier

/-!
# Symbols that are names

The base of a symbol was accepted as an identifier, and the place adds underscores, digits and
letters to it. So a symbol is a name, unless the base was accepted with a line feed at its end: then
the line feed stands in the middle of the symbol.

## Main definitions

* `CHeaders.Symbol.Parts.ending`: what the place of parts adds to a name.

## Main results

* `CHeaders.Symbol.Parts.isIn_of_mem_ending`: a place adds letters, digits and underscores.
* `CHeaders.Symbol.isIdentifier_base`: the base of a symbol is accepted as an identifier.
* `CHeaders.Symbol.name_isName_iff`: when a symbol is a name.
-/

namespace CHeaders.Symbol

open Text (continuesIdentifier)

/-- The pieces of a place are made of letters and digits. -/
theorem Piece.isIn_of_mem {piece : Piece} :
    ∀ l ∈ piece.letters, l.isIn continuesIdentifier = true := by
  refine List.forall_mem_map.mpr fun c hc => ?_
  suffices halphanum : c.isAlphanum = true by
    rw [Letter.isIn, continuesIdentifier, halphanum, Bool.true_or]
  cases piece with
  | number n =>
    rw [Char.isAlphanum, Decimal.isDigit_of_mem_digits hc, Bool.or_true]
  | file bytes =>
    rcases List.mem_cons.mp hc with rfl | hbytes
    · rfl
    · exact Text.Hex.isAlphanum_of_mem_ofBytes hbytes

/-- What the place of parts adds to a name. -/
def Parts.ending (k : Parts) : Text :=
  ⟨k.place.pieces.flatMap fun piece => separator :: piece.letters⟩

/-- A place adds letters, digits and underscores to a name. -/
theorem Parts.isIn_of_mem_ending (k : Parts) :
    ∀ l ∈ k.ending.letters, l.isIn continuesIdentifier = true := by
  intro l hl
  obtain ⟨piece, -, hmem⟩ := List.mem_flatMap.mp hl
  rcases List.mem_cons.mp hmem with rfl | hpiece
  · rfl
  · exact Piece.isIn_of_mem l hpiece

variable {stem id position : Value} {n : Text}

/-- The base of a symbol is accepted as an identifier. -/
theorem isIdentifier_base {k : Parts} (h : name stem id position = .ok n)
    (hk : Parts.ofValues? stem id position = some k) : Text.isIdentifier k.base = true := by
  rw [name] at h
  split at h
  · next s i hs hi =>
    split at h
    · next haccepted =>
      obtain ⟨p, hp, -⟩ := bind_eq_ok_iff.mp h
      simp only [Parts.ofValues?, hs, hi, hp] at hk
      obtain rfl := Option.some.inj hk
      exact ((Bool.and_eq_true _ _).mp haccepted).2
    · obtain ⟨both, -, h⟩ := bind_eq_ok_iff.mp h
      cases h
  · cases h

/-- When a symbol is a name: if and only if there is no line feed in its base, which is a name or a
name with a line feed behind it. Without this line feed a symbol is always a name.

**Proof sketch.** The base was accepted as an identifier, and the place goes on with letters, digits
and underscores. -/
theorem name_isName_iff (h : name stem id position = .ok n) :
    ∃ k word, Parts.ofValues? stem id position = some k ∧ n = k.base ++ k.ending ∧
      (k.base = word ∨ k.base = word ++ "\n") ∧ (word ++ k.ending).IsName ∧
      (n.IsName ↔ k.base.IsLine) := by
  obtain ⟨k, hk, -, rfl⟩ := exists_parts_of_name h
  have haccepted := isIdentifier_base h hk
  obtain ⟨word, hword, hbase⟩ := Text.isIdentifier_iff.mp haccepted
  refine ⟨k, word, hk, rfl, hbase, hword.append k.isIn_of_mem_ending, fun hname hmem => ?_,
    fun hline => ?_⟩
  · exact hname.isLine (List.mem_append_left _ hmem)
  · exact ((Text.isLine_iff_isName haccepted).mp hline).append k.isIn_of_mem_ending

/-- With a line feed at the end of the id the symbol is no name. -/
theorem name_isName_iff_feed :
    name (.text "P_") (.text "x\n") (.int 1) = .ok "P_x\n_1" ∧ ¬Text.IsName "P_x\n_1" := by
  have h : name (.text "P_") (.text "x\n") (.int 1) = .ok "P_x\n_1" :=
    eq_ok_of_toOption (by decide +kernel)
  obtain ⟨k, word, hk, -, -, -, hiff⟩ := name_isName_iff h
  obtain rfl := Option.some.inj hk
  refine ⟨h, fun hname => ?_⟩
  exact absurd (hiff.mp hname) (by decide)

end CHeaders.Symbol
