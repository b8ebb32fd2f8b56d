import CHeaders.Proofs.Plan.Header
import CHeaders.Proofs.Term.Context

/-!
# Plans that are rendered in part

A declaration can be *prepared*: its text takes the place of its term. The text of a declaration is
trimmed and has its semicolon already, so a prepared declaration renders to the text that it holds.
A plan some of whose declarations are prepared has the same header as before.

Together with what holds of parts of terms this says that plans may be mixed from terms and from
what they stand for.

## Main definitions

* `CHeaders.Plan.IsPrepared`: a declaration, or the same declaration prepared.

## Main results

* `CHeaders.Plan.renderDeclaration_text`: the text of a declaration renders to itself.
* `CHeaders.Plan.header_prepared`: a plan with prepared declarations has the same header.
* `CHeaders.Plan.evaluation_in_parts`: terms and plans may be evaluated in part.
-/

namespace CHeaders.Plan

/-! ## Declarations -/

/-- A semicolon at the end leaves a text trimmed. -/
theorem isTrimmed_terminated {t : Text} (h : t.IsTrimmed) : (terminated t).IsTrimmed := by
  unfold terminated
  split
  · exact h
  · constructor
    · intro l hl
      rw [Text.letters_append, List.head?_append, Option.or_eq_some_iff] at hl
      rcases hl with hl | ⟨-, hl⟩
      · exact h.head l hl
      · obtain rfl := Option.some.inj hl
        rfl
    · intro l hl
      rw [Text.letters_append, List.getLast?_append] at hl
      obtain rfl := Option.some.inj hl
      rfl

/-- The second declaration is the first one, or the first one with its text in the place of its
term. The text may be of either kind. -/
inductive IsPrepared : Value → Value → Prop
  | same (d : Value) : IsPrepared d d
  | rendered {term comment made : Value} {text : Text}
      (htext : (renderDeclaration (.declaration term comment)).result = .ok text)
      (hmade : made.text? = some text) :
      IsPrepared (.declaration term comment) (.declaration made comment)

/-- A text that a declaration renders to renders to itself.

**Proof sketch.** A text stands for itself. It is trimmed and ends in a semicolon, so there is
nothing to cut off and nothing to add. -/
theorem renderDeclaration_text {term comment comment' made : Value} {text : Text}
    (h : (renderDeclaration (.declaration term comment)).result = .ok text)
    (hmade : made.text? = some text) :
    (renderDeclaration (.declaration made comment')).result = .ok text := by
  obtain ⟨v, -, -, -, -, rfl⟩ := renderDeclaration_eq_ok_iff.mp h
  have htrim : Text.trim (terminated (Text.trim v.display)) = terminated (Text.trim v.display) :=
    (isTrimmed_terminated (Text.isTrimmed_trim _)).trim_eq
  have hlast := getLast?_terminated (Text.trim v.display)
  generalize terminated (Text.trim v.display) = text at *
  have hstands : (Term.evaluate made).result = .ok made ∧ made.isSequence = false ∧
      made.display = text := by
    cases made <;> cases hmade <;> exact ⟨rfl, rfl, rfl⟩
  obtain ⟨hvalue, hsequence, hdisplay⟩ := hstands
  refine renderDeclaration_eq_ok_iff.mpr ⟨made, hvalue, ?_, hsequence, ?_, ?_⟩
  · exact Value.isWritable_of_text (by rw [hmade]; rfl)
  · rw [hdisplay, htrim, Text.isEmpty_of_getLast? hlast]
  · rw [hdisplay, htrim, terminated, if_pos hlast]

/-- A prepared declaration renders as before. -/
theorem IsPrepared.renderDeclaration_eq {d d' : Value} (h : IsPrepared d d') :
    (renderDeclaration d').result = (renderDeclaration d).result := by
  cases h with
  | same d => rfl
  | rendered htext hmade => rw [renderDeclaration_text htext hmade, htext]

/-- A prepared declaration has the same comment. -/
theorem IsPrepared.commentOf_eq {d d' : Value} (h : IsPrepared d d') :
    commentOf d' = commentOf d := by
  cases h <;> rfl

/-! ## Plans -/

/-- A plan some of whose declarations are prepared has the same header. -/
theorem header_prepared {p q : Plan} {ds ds' : List Value} {text : Text}
    (htext : p.header.result = .ok text) (hds : itemsOf p.declarations = .ok ds)
    (hds' : itemsOf q.declarations = .ok ds') (hprepared : List.Forall₂ IsPrepared ds ds')
    (hname : q.name = p.name) (hguard : q.guard = p.guard) (hincludes : q.includes = p.includes) :
    q.header.result = .ok text := by
  obtain ⟨guard, files, includes, ds₀, texts, name, comments, hguard₀, hfiles, hincludes₀, hds₀,
    htexts, hname₀, hcomments, hheader⟩ := header_eq_ok_iff.mp htext
  obtain rfl := Except.ok.inj (hds.symm.trans hds₀)
  have htexts' : ds'.mapM (fun d => (renderDeclaration d).result) = .ok texts := by
    rw [mapM_eq_of_forall₂ (hprepared.imp fun _ _ h => h.renderDeclaration_eq), mapM_eq_ok_iff]
    exact htexts
  have hcomments' : ds'.mapM commentOf = .ok comments := by
    rw [mapM_eq_of_forall₂ (hprepared.imp fun _ _ h => h.commentOf_eq), hcomments]
  refine header_eq_ok_iff.mpr ⟨guard, files, includes, ds', texts, name, comments, ?_⟩
  rw [hname, hguard, hincludes]
  exact ⟨hguard₀, hfiles, hincludes₀, hds', (mapM_eq_ok_iff _ _ _).mp htexts', hname₀, hcomments',
    hheader⟩

/-- Evaluation may be done in part. What a part of a term stands for may take its place, wherever it
is evaluated: the term has the same result, be it a value or a fault. In particular what a term
stands for stands for itself. In a plan that has a header the texts of declarations may take the
place of their terms, and the header is the same. -/
theorem evaluation_in_parts :
    (∀ (c : Term.Context) (t v : Value), (Term.evaluate t).result = .ok v →
      (Term.evaluate (c.fill v)).result = (Term.evaluate (c.fill t)).result) ∧
    (∀ t v : Value, (Term.evaluate t).result = .ok v → (Term.evaluate v).result = .ok v) ∧
    ∀ (p q : Plan) (ds ds' : List Value) (text : Text), p.header.result = .ok text →
      itemsOf p.declarations = .ok ds → itemsOf q.declarations = .ok ds' →
      List.Forall₂ IsPrepared ds ds' → q.name = p.name → q.guard = p.guard →
      q.includes = p.includes → q.header.result = .ok text :=
  ⟨fun c _ _ h => c.evaluate_fill h, fun _ _ h => Term.evaluate_value h,
    fun _ _ _ _ _ htext hds hds' hprepared hname hguard hincludes =>
      header_prepared htext hds hds' hprepared hname hguard hincludes⟩

/-- The fields for two types. -/
def twoFields : Value :=
  .call (.text "indexedFields") (.list [.list [.text "int", .text "long"]])

/-- The place of the body in a structure. -/
def structureBody : Term.Context :=
  .item (.call (.text "struct")) [.text "Two"] .hole []

/-- A plan with a single declaration. -/
def single (term : Value) : Plan :=
  ⟨.text "x", .list [.declaration term (.text "two fields")], .none, .list []⟩

/-- The text of the fields may take their place in the structure, and the text of the structure may
take its place in the plan. -/
theorem evaluation_in_parts_twoFields :
    (Term.evaluate twoFields).result = .ok (.fragment "int _0; long _1;") ∧
    (Term.evaluate (structureBody.fill (.fragment "int _0; long _1;"))).result =
      (Term.evaluate (structureBody.fill twoFields)).result ∧
    ∃ text, (single (structureBody.fill twoFields)).header.result = .ok text ∧
      (single (.fragment "struct Two\x7bint _0; long _1;\x7d;")).header.result = .ok text := by
  obtain ⟨hcontext, -, hplan⟩ := evaluation_in_parts
  have hfields : (Term.evaluate twoFields).result = .ok (.fragment "int _0; long _1;") := by rfl
  have htext : (renderDeclaration (.declaration (structureBody.fill twoFields)
      (.text "two fields"))).result = .ok "struct Two\x7bint _0; long _1;\x7d;" :=
    eq_ok_of_toOption (by decide +kernel)
  have hheader : (single (structureBody.fill twoFields)).header.result = .ok
      "/* generated by cdeclgen: x */\n\n/* two fields */\nstruct Two\x7bint _0; long _1;\x7d;\n" :=
    eq_ok_of_toOption (by decide +kernel)
  have hprepared : IsPrepared (.declaration (structureBody.fill twoFields) (.text "two fields"))
      (.declaration (.fragment "struct Two\x7bint _0; long _1;\x7d;") (.text "two fields")) :=
    .rendered htext rfl
  exact ⟨hfields, hcontext structureBody _ _ hfields, _, hheader,
    hplan _ _ _ _ _ hheader rfl rfl (.cons hprepared .nil) rfl rfl rfl⟩

end CHeaders.Plan
