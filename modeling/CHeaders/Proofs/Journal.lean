import CHeaders.Journal
import CHeaders.Proofs.Result

/-!
# Asking for a level

Whoever sets up the journal asks for a level by a text, or leaves this to the surroundings. The text
is read in capital letters. If it is the name of a level, then that level counts for the journal and
for its console, and a text that is no such name stands for a fixed level. So nearly every text is
tolerated. The exceptions are two names that are looked for in the same place, where something is
kept under them that is no level; they are refused, and then everything stays as it is.

## Main definitions

* `CHeaders.Journal.AsksFor`: the text by which a level is asked for.
* `CHeaders.Level.IsAskedBy`: the level that a text asks for.
* `CHeaders.Level.Refuses`: how a text is refused.

## Main results

* `CHeaders.Level.ofName?_eq_some_iff`: the names of levels.
* `CHeaders.Level.capitals_eq_of_toLower_eq`: texts that differ in the case of their letters.
* `CHeaders.Level.decides_ofText`: which texts are tolerated as levels, and what is returned.
* `CHeaders.Journal.configure_returns_iff`: which texts are tolerated, and what comes of them.
-/

namespace CHeaders

/-- A string is shown as it is. -/
theorem Text.shown_ofString (s : String) : (ofString s).shown = s := by
  simp [shown, ofString, ofChars, Letter.shown, Function.comp_def]

namespace Level

/-! ## Names -/

/-- A level is found under the names that it has. -/
theorem ofName?_eq_some_iff {name : String} {level : Int} :
    ofName? name = some level ↔ (name, level) ∈ named ++ aliases := by
  have hdistinct : (named ++ aliases).Pairwise fun e e' => e.1 ≠ e'.1 := by decide
  rw [ofName?, List.lookup_eq_some_iff]
  constructor
  · rintro ⟨front, back, heq, -⟩
    rw [heq]
    exact List.mem_append_right front List.mem_cons_self
  · intro hmem
    obtain ⟨front, back, heq⟩ := List.append_of_mem hmem
    refine ⟨front, back, heq, fun e he => ?_⟩
    rw [heq, List.pairwise_append] at hdistinct
    have hne : e.1 ≠ name := hdistinct.2.2 e he (name, level) List.mem_cons_self
    simpa using hne.symm

/-- A name under which no level is found is the name of none. -/
theorem ofName?_eq_none_iff {name : String} :
    ofName? name = none ↔ ∀ level, (name, level) ∉ named ++ aliases := by
  rw [Option.eq_none_iff_forall_ne_some]
  exact forall_congr' fun level => not_congr ofName?_eq_some_iff

/-! ## Capital letters -/

/-- A letter and its small form have the same capital form. -/
theorem capital_toLower (c : Char) : capital c.toLower = capital c := by
  by_cases hc : c.toNat < 91
  · -- The letters with a small form of their own are among the first ones, which are checked.
    have hfirst : ∀ n < 91, capital (Char.ofNat n).toLower = capital (Char.ofNat n) := by decide
    have hletter := hfirst c.toNat hc
    rwa [Char.ofNat_toNat] at hletter
  · have hsmall : ¬(c.val ≥ 'A'.val ∧ c.val ≤ 'Z'.val) := by
      intro h
      exact hc (Nat.lt_succ_of_le h.2)
    have hsame : c.toLower = c := dif_neg hsmall
    rw [hsame]

/-- The small form of a text is made letter by letter. -/
theorem toList_toLower (s : String) : s.toLower.toList = s.toList.map Char.toLower :=
  String.toList_map

/-- A text and its small form have the same capital form. -/
theorem capitals_toLower (s : String) : capitals s.toLower = capitals s := by
  simp only [capitals, toList_toLower, List.flatMap_map, capital_toLower]

/-- Texts that differ in the case of their letters only have the same capital form. -/
theorem capitals_eq_of_toLower_eq {s s' : String} (h : s'.toLower = s.toLower) :
    capitals s' = capitals s := by
  rw [← capitals_toLower s', h, capitals_toLower]

/-! ## Levels for texts -/

/-- The level that a text asks for: the one whose name the text is in capital letters, or a fixed
one if this is no name of a level. -/
def IsAskedBy (s : String) (level : Int) : Prop :=
  (capitals s, level) ∈ named ++ aliases ∨
    (level = warning ∧ ∀ n, (capitals s, n) ∉ named ++ aliases)

/-- How a text is refused, under which in capital letters something is kept that is no level. -/
inductive Refuses (s : String) : Fault → Prop
  | lineForm (h : capitals s = "BASIC_FORMAT") : Refuses s (.unknownLevel lineForm)
  | lineForms (h : capitals s = "_STYLES") : Refuses s (.notLevel lineForms)

/-- Under the names of levels nothing else is kept. -/
theorem ne_of_mem_names {name : String} {level : Int} (h : (name, level) ∈ named ++ aliases) :
    name ≠ "BASIC_FORMAT" ∧ name ≠ "_STYLES" := by
  have hnames : ∀ e ∈ named ++ aliases, e.1 ≠ "BASIC_FORMAT" ∧ e.1 ≠ "_STYLES" := by decide
  exact hnames (name, level) h

/-- A text is tolerated if nothing else than a level is kept under it in capital letters. Then the
level that it asks for is returned, and otherwise it is refused. -/
theorem decides_ofText (s : String) :
    Decides (capitals s ≠ "BASIC_FORMAT" ∧ capitals s ≠ "_STYLES") (IsAskedBy s) (Refuses s)
      (ofText s) := by
  unfold ofText
  split
  · next level hname =>
    have hmem := ofName?_eq_some_iff.mp hname
    exact ⟨ne_of_mem_names hmem, .inl hmem⟩
  · next hname =>
    split
    · next hform => exact ⟨fun h => h.1 hform, .lineForm hform⟩
    · next hform =>
      split
      · next hforms => exact ⟨fun h => h.2 hforms, .lineForms hforms⟩
      · next hforms =>
        exact ⟨⟨hform, hforms⟩, .inr ⟨rfl, ofName?_eq_none_iff.mp hname⟩⟩

/-- What a text asks for depends on its capital form only. -/
theorem ofText_congr {s s' : String} (h : capitals s' = capitals s) : ofText s' = ofText s := by
  rw [ofText, ofText, h]

end Level

namespace Journal

variable {level : Value} {surroundings : Option String} {s : String}

/-- The text by which a level is asked for: one that is given, whoever made it, else the one of the
surroundings, else a fixed one. -/
inductive AsksFor : Value → Option String → String → Prop
  | text (t : Text) (surroundings : Option String) : AsksFor (.text t) surroundings t.shown
  | fragment (t : Text) (surroundings : Option String) : AsksFor (.fragment t) surroundings t.shown
  | surroundings (s : String) : AsksFor .none (some s) s
  | nobody : AsksFor .none none "WARNING"

/-- The text decides about the level that counts. -/
theorem AsksFor.chosenLevel_eq (h : AsksFor level surroundings s) :
    chosenLevel level surroundings = Level.ofText s := by
  cases h <;> simp [chosenLevel, Value.isNone, Level.ofValue]

/-- A journal is set up with the level that its text asks for, or the text is refused. -/
theorem AsksFor.configure_eq (h : AsksFor level surroundings s) (j : Journal)
    (file : Option String) :
    j.configure level surroundings file = (Level.ofText s).map fun n =>
      ⟨n, handlersFor n file, opened j.files (handlersFor n file)⟩ := by
  rw [configure, h.chosenLevel_eq]

/-- There is one handler for the console, and it gets the level. -/
theorem filter_console_handlersFor (n : Int) (file : Option String) :
    (handlersFor n file).filter (·.sink = .console) = [⟨.console, n⟩] := by
  cases hfile : (file.getD "").isEmpty <;> simp [handlersFor, hfile]

/-- Whether a journal is set up is decided by the text for its level. -/
theorem AsksFor.decides_configure (h : AsksFor level surroundings s) (j : Journal)
    (file : Option String) :
    Decides (Level.capitals s ≠ "BASIC_FORMAT" ∧ Level.capitals s ≠ "_STYLES")
      (fun j' => Level.IsAskedBy s j'.level ∧
        j'.handlers.filter (·.sink = .console) = [⟨.console, j'.level⟩])
      (Level.Refuses s) (j.configure level surroundings file) := by
  rw [h.configure_eq]
  refine Judged.map (Level.decides_ofText s) ?_
  rintro n ⟨htolerated, hlevel⟩
  exact ⟨htolerated, hlevel, filter_console_handlersFor n file⟩

/-- Which texts are tolerated by which a level is asked for: all but those that are `BASIC_FORMAT`
or `_STYLES` in capital letters. Under these two names something is kept that is no level, and it is
refused for what it is.

If a text is tolerated, then the journal and its only handler for the console get the level that
the text names in capital letters, and a fixed one if this is no name of a level. It does not matter
where the text comes from, nor in which case its letters are. -/
theorem configure_returns_iff (h : AsksFor level surroundings s) (j : Journal)
    (file : Option String) :
    ((∃ j', j.configure level surroundings file = .ok j') ↔
      Level.capitals s ≠ "BASIC_FORMAT" ∧ Level.capitals s ≠ "_STYLES") ∧
    (∀ j', j.configure level surroundings file = .ok j' → Level.IsAskedBy s j'.level ∧
      j'.handlers.filter (·.sink = .console) = [⟨.console, j'.level⟩]) ∧
    (∀ f, j.configure level surroundings file = .error f → Level.Refuses s f) ∧
    (∀ level' surroundings' s', AsksFor level' surroundings' s' → s'.toLower = s.toLower →
      j.configure level' surroundings' file = j.configure level surroundings file) := by
  have hdecides := h.decides_configure j file
  refine ⟨hdecides.exists_ok_iff, ?_, ?_, ?_⟩
  · intro j' hj'
    exact (Judged.of_eq_ok hdecides hj').2
  · intro f hf
    rw [hf] at hdecides
    exact hdecides.2
  · intro level' surroundings' s' h' hlower
    rw [h'.configure_eq, h.configure_eq,
      Level.ofText_congr (Level.capitals_eq_of_toLower_eq hlower)]

/-- A text that is refused, one that is the name of a level in capital letters, and the same one in
other letters and in the surroundings.

**Proof sketch.** The capital letters of the three texts are computed, and the statement about all
texts does the rest. Of the two faults that there are, the first text leads to that of the line
form; the second text is another name of a level. -/
theorem configure_returns_iff_lineForm :
    unset.configure (.text "Basic_Format") none none = .error (.unknownLevel Level.lineForm) ∧
    (∃ j, unset.configure (.text "Fatal") none none = .ok j ∧ j.level = 50 ∧
      j.handlers.filter (·.sink = .console) = [⟨.console, 50⟩]) ∧
    unset.configure .none (some "fATAL") none = unset.configure (.text "Fatal") none none := by
  have hform : Level.capitals (Text.shown "Basic_Format") = "BASIC_FORMAT" := by
    rw [Text.shown_ofString]
    decide
  have hfatal : Level.capitals (Text.shown "Fatal") = "FATAL" := by
    rw [Text.shown_ofString]
    decide
  have hlower : "fATAL".toLower = (Text.shown "Fatal").toLower := by
    rw [Text.shown_ofString, ← String.toList_inj, Level.toList_toLower, Level.toList_toLower]
    decide
  obtain ⟨hreturns, -, hrefused, -⟩ := configure_returns_iff (.text "Basic_Format" none) unset none
  obtain ⟨hreturns', hlevel, -, hcase⟩ := configure_returns_iff (.text "Fatal" none) unset none
  refine ⟨?_, ?_, hcase .none (some "fATAL") "fATAL" (.surroundings "fATAL") hlower⟩
  · cases hresult : unset.configure (.text "Basic_Format") none none with
    | ok j => exact absurd hform (hreturns.mp ⟨j, hresult⟩).1
    | error f =>
      cases hrefused f hresult with
      | lineForm => rfl
      | lineForms h => exact absurd (hform.symm.trans h) (by decide)
  · obtain ⟨j, hj⟩ := hreturns'.mpr (by rw [hfatal]; decide)
    obtain ⟨hasked, hconsole⟩ := hlevel j hj
    have hfifty : j.level = 50 := by
      rcases hasked with hnamed | ⟨-, hnone⟩
      · rw [hfatal] at hnamed
        simpa [Level.named, Level.aliases] using hnamed
      · rw [hfatal] at hnone
        exact absurd (by decide) (hnone 50)
    exact ⟨j, hj, hfifty, hfifty ▸ hconsole⟩

end Journal

end CHeaders
