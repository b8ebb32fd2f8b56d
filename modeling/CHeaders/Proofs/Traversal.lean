import CHeaders.Proofs.Fragment
import CHeaders.Proofs.Result
import CHeaders.Traversal

/-!
# Traversals call by call

A traversal is a fold: the handler for cells is called for one head after the other, and what it
passes on with its step is what it gets with the next call. The cells at the beginning of a chain
are *passed* if each of these calls is answered by a step. What the traversal does behind them is
what it would have done if it had begun there with the last arguments. So a traversal is known from
the calls that are answered by steps, and from what stands behind the cells that they pass: the
empty sequence, another sequence, a cell whose tail is no sequence, or a cell for which something
else is returned.

A handler is a function of what it is given. This does not leave out handlers that keep a state: the
chain behind the head is another one at each call, so what is answered may depend on how many calls
came before.

A cell is looked at together with its tail. So the fault of a chain that ends in something else than
a sequence comes one call earlier than that of a chain which ends in a sequence of another family.

## Main definitions

* `CHeaders.Passage`, `CHeaders.Passes`: the calls for the cells at the beginning of a chain, and
  what they leave.
* `CHeaders.AnswersInFull`: handlers that answer every call by a text, with a tuple where one is
  asked for.
* `CHeaders.AnswersFor`: handlers that do so for the given heads.

## Main results

* `CHeaders.AnswersFor.exists_passes`: such handlers pass the cells with these heads.
* `CHeaders.Passes.pieces_eq`: a traversal goes on behind the cells that it has passed.
* `CHeaders.Passes.traverse_chain_nil`, `CHeaders.Passes.traverse_chain_foreign`,
  `CHeaders.Passes.traverse_malformed`, `CHeaders.Passes.traverse_other`: what a traversal does
  behind these cells.
* `CHeaders.traverse_eq_fold`: the calls and the result of a traversal, for each way in which a
  chain may end.
-/

namespace CHeaders

open Value (chain)

/-- What the cells at the beginning of a chain leave: the calls made for them, the pieces of output,
and the arguments for what stands behind them. -/
structure Passage where
  calls : List HandlerCall
  pieces : List Value
  args : List Value

/-- The calls for the cells with the given heads in front of `rest` are answered by steps: each call
gets a head, the chain behind it and the arguments of the step before. -/
inductive Passes (onCons : Value → Value → Handler) (rest : Value) :
    (heads args : List Value) → Passage → Prop
  | done (args : List Value) : Passes onCons rest [] args ⟨[], [], args⟩
  | step {head piece given : Value} {heads args next : List Value} {p : Passage}
      (hcall : onCons head (chain heads rest) args = .ok (.step piece given))
      (hnext : given.items? = some next) (hrest : Passes onCons rest heads next p) :
      Passes onCons rest (head :: heads) args
        ⟨.onCons head (chain heads rest) args :: p.calls, piece :: p.pieces, p.args⟩

/-- The handler for cells answers every call by a step with a text and a tuple of arguments, and the
handler for the empty sequence answers every call by a text. -/
structure AnswersInFull (onNil : Handler) (onCons : Value → Value → Handler) : Prop where
  step : ∀ head tail args, ∃ piece text next,
    onCons head tail args = .ok (.step piece (.tuple next)) ∧ piece.text? = some text
  last : ∀ args, ∃ piece text, onNil args = .ok piece ∧ piece.text? = some text

variable {h : Handlers} {onNil : Handler} {onCons : Value → Value → Handler} {rest : Value}
  {heads args : List Value} {p : Passage} {operation : String}

/-- The handlers answer in full where it is about one of the given heads. -/
structure AnswersFor (onNil : Handler) (onCons : Value → Value → Handler) (heads : List Value) :
    Prop where
  step : ∀ head ∈ heads, ∀ tail args, ∃ piece text next,
    onCons head tail args = .ok (.step piece (.tuple next)) ∧ piece.text? = some text
  last : ∀ args, ∃ piece text, onNil args = .ok piece ∧ piece.text? = some text

/-- Handlers that answer every call answer those for any heads. -/
theorem AnswersInFull.answersFor (hfull : AnswersInFull onNil onCons) (heads : List Value) :
    AnswersFor onNil onCons heads :=
  ⟨fun head _ => hfull.step head, hfull.last⟩

/-- Handlers that answer for some heads answer for fewer. -/
theorem AnswersFor.mono {front : List Value} (hfor : AnswersFor onNil onCons heads)
    (hfront : front ⊆ heads) : AnswersFor onNil onCons front :=
  ⟨fun head hhead => hfor.step head (hfront hhead), hfor.last⟩

/-- Handlers that answer for the heads of cells pass these cells and leave texts. -/
theorem AnswersFor.exists_passes (hfor : AnswersFor onNil onCons heads) (rest : Value)
    (args : List Value) : ∃ p texts, Passes onCons rest heads args p ∧
      List.Forall₂ (fun v t => v.text? = some t) p.pieces texts := by
  induction heads generalizing args with
  | nil => exact ⟨_, [], .done args, .nil⟩
  | cons head heads ih =>
    obtain ⟨piece, text, next, hcall, htext⟩ :=
      hfor.step head List.mem_cons_self (chain heads rest) args
    obtain ⟨p, texts, hp, htexts⟩ := ih (hfor.mono (List.subset_cons_self head heads)) next
    exact ⟨_, text :: texts, .step hcall rfl hp, .cons htext htexts⟩

/-- Handlers that answer every call pass the cells of every chain and leave texts. -/
theorem AnswersInFull.exists_passes (hfull : AnswersInFull onNil onCons) (rest : Value)
    (heads args : List Value) : ∃ p texts, Passes onCons rest heads args p ∧
      List.Forall₂ (fun v t => v.text? = some t) p.pieces texts :=
  (hfull.answersFor heads).exists_passes rest args

/-- Cells in front of a sequence are a sequence. -/
theorem Value.isSequence_chain (heads : List Value) (h : rest.isSequence = true) :
    (chain heads rest).isSequence = true := by
  cases heads with
  | nil => exact h
  | cons head heads => rfl

/-- The traversal of a chain goes on behind the cells that it has passed.

**Proof sketch.** By induction on the calls. Behind the first one the traversal goes on with the
arguments of the step, as it would have begun there. -/
theorem Passes.pieces_eq (hp : Passes onCons rest heads args p) (hrest : rest.isSequence = true) :
    pieces operation onNil onCons args (chain heads rest) =
      ⟨p.calls ++ (pieces operation onNil onCons p.args rest).calls,
        (pieces operation onNil onCons p.args rest).result.map (p.pieces ++ ·)⟩ := by
  induction hp with
  | done args =>
    change pieces operation onNil onCons args rest = _
    generalize pieces operation onNil onCons args rest = out
    rcases out with ⟨calls, f | ps⟩ <;> rfl
  | @step head piece given heads args next p hcall hnext _ ih =>
    have htail := Value.isSequence_chain heads hrest
    change pieces operation onNil onCons args (.cons head (chain heads rest)) = _
    rw [pieces, if_pos htail]
    simp only [hcall, hnext, ih]
    rcases (pieces operation onNil onCons p.args rest).result with f | ps <;> rfl

/-- What a traversal does, if both handlers are there: it passes the cells in front of `rest`, and
what it does then depends on `rest`. -/
theorem Passes.traverse_eq (hp : Passes onCons rest heads args p) (hrest : rest.isSequence = true)
    (hnil : h.onNil = some onNil) (hcons : h.onCons = some onCons) (separator : Text) :
    traverse (chain heads rest) h args separator operation =
      ⟨p.calls ++ (pieces operation onNil onCons p.args rest).calls,
        ((pieces operation onNil onCons p.args rest).result.map (p.pieces ++ ·)).bind
          (Fragment.join separator)⟩ := by
  have hresolve : h.resolve operation = .ok (onNil, onCons) := by
    rw [Handlers.resolve, hnil, hcons]
  rw [traverse, if_pos (Value.isSequence_chain heads hrest), hresolve]
  simp only [hp.pieces_eq hrest]

/-- The traversal of a chain that ends in the empty sequence joins the pieces for the cells and the
one for the end. -/
theorem Passes.traverse_chain_nil {last : Value} (hp : Passes onCons .nil heads args p)
    (hlast : onNil p.args = .ok last) (hnil : h.onNil = some onNil) (hcons : h.onCons = some onCons)
    (separator : Text) :
    traverse (chain heads .nil) h args separator operation =
      ⟨p.calls ++ [.onNil p.args], Fragment.join separator (p.pieces ++ [last])⟩ := by
  have hpieces : pieces operation onNil onCons p.args .nil = ⟨[.onNil p.args], .ok [last]⟩ := by
    rw [pieces, hlast]
    rfl
  rw [hp.traverse_eq rfl hnil hcons, hpieces]
  rfl

/-- If the traversal fails behind the cells that it has passed, then it makes the calls for these
cells and those up to the fault. -/
theorem Passes.traverse_eq_error {calls : List HandlerCall} {f : Fault}
    (hp : Passes onCons rest heads args p) (hrest : rest.isSequence = true)
    (hnil : h.onNil = some onNil) (hcons : h.onCons = some onCons) (separator : Text)
    (hf : pieces operation onNil onCons p.args rest = ⟨calls, .error f⟩) :
    traverse (chain heads rest) h args separator operation = ⟨p.calls ++ calls, .error f⟩ := by
  rw [hp.traverse_eq hrest hnil hcons, hf]
  rfl

/-- A sequence of another family is refused behind the cells in front of it. -/
theorem Passes.traverse_chain_foreign {serial : Nat}
    (hp : Passes onCons (.foreign serial) heads args p) (hnil : h.onNil = some onNil)
    (hcons : h.onCons = some onCons) (separator : Text) :
    traverse (chain heads (.foreign serial)) h args separator operation =
      ⟨p.calls, .error (Sequence.mismatch operation (.foreign serial))⟩ := by
  have hpieces : pieces operation onNil onCons p.args (.foreign serial) =
      ⟨[], .error (Sequence.mismatch operation (.foreign serial))⟩ := rfl
  rw [hp.traverse_eq_error rfl hnil hcons separator hpieces, List.append_nil]

/-- A cell whose tail is no sequence is refused by the routing step, once the cells in front of it
are passed. -/
theorem Passes.traverse_malformed {front : List Value} {head last : Value}
    (hp : Passes onCons (.cons head last) front args p) (hlast : last.isSequence = false)
    (hnil : h.onNil = some onNil) (hcons : h.onCons = some onCons) (separator : Text) :
    traverse (chain front (.cons head last)) h args separator operation =
      ⟨p.calls, .error (Sequence.malformed "dispatch" last)⟩ := by
  have hpieces : pieces operation onNil onCons p.args (.cons head last) =
      ⟨[], .error (Sequence.malformed "dispatch" last)⟩ := by
    rw [pieces, if_neg (by simp [hlast])]
    rfl
  rw [hp.traverse_eq_error rfl hnil hcons separator hpieces, List.append_nil]

/-- What a call for a cell answers is refused if it is no step. -/
theorem Passes.traverse_other {head tail other : Value}
    (hp : Passes onCons (.cons head tail) heads args p) (htail : tail.isSequence = true)
    (hcall : onCons head tail p.args = .ok other)
    (hother : ∀ piece given, other ≠ .step piece given) (hnil : h.onNil = some onNil)
    (hcons : h.onCons = some onCons) (separator : Text) :
    traverse (chain heads (.cons head tail)) h args separator operation =
      ⟨p.calls ++ [.onCons head tail p.args],
        .error (.refusal .typeMismatch operation "cons handler returning a Step" other)⟩ := by
  have hpieces : pieces operation onNil onCons p.args (.cons head tail) =
      ⟨[.onCons head tail p.args],
        .error (.refusal .typeMismatch operation "cons handler returning a Step" other)⟩ := by
    rw [pieces, if_pos htail]
    simp only [hcall]
  exact hp.traverse_eq_error rfl hnil hcons separator hpieces

/-- A traversal is a fold, call by call.

Handlers that answer every call pass every cell and leave texts. If the cells in front of the end
are passed, then a chain that ends in `nil` has one call more, for its end, and the result is the
texts that are not empty with the separator between them. If the chain ends in another sequence,
there is no call for it, and it is refused. If it ends in something that is no sequence, there is
no call for the last cell either, and the end is refused. If a call for a cell that has a sequence
behind it is answered by something else than a step, it is the last call, and what it answered is
refused. A refusal shows what it refuses; if there is a number in it with too many digits to be
written, then it is this number that the traversal fails for.

**Proof sketch.** The traversal goes on behind the cells that are passed, as it would have begun
there, so each case is a single step: the call for the empty sequence, or the fault of what stands
in its place. -/
theorem traverse_eq_fold (hnil : h.onNil = some onNil) (hcons : h.onCons = some onCons)
    (heads args : List Value) (separator : Text) (operation : String) :
    (AnswersInFull onNil onCons → ∀ rest, ∃ p texts, Passes onCons rest heads args p ∧
      List.Forall₂ (fun v t => v.text? = some t) p.pieces texts) ∧
    (∀ p texts last text, Passes onCons .nil heads args p →
      List.Forall₂ (fun v t => v.text? = some t) p.pieces texts →
      onNil p.args = .ok last → last.text? = some text →
      traverse (chain heads .nil) h args separator operation =
        ⟨p.calls ++ [.onNil p.args],
          .ok (Text.join separator ((texts ++ [text]).filter fun t => !t.isEmpty))⟩) ∧
    (∀ p serial, Passes onCons (.foreign serial) heads args p →
      traverse (chain heads (.foreign serial)) h args separator operation =
        ⟨p.calls, .error (.refused .typeMismatch operation "a Sequence" (.foreign serial))⟩) ∧
    (∀ p head tail, tail.isSequence = false → Passes onCons (.cons head tail) heads args p →
      traverse (chain heads (.cons head tail)) h args separator operation =
        ⟨p.calls, .error (if tail.isWritable then
            .refused .malformedSequence "dispatch" "a Sequence as the rest of a Cons" tail
          else .tooManyDigits none)⟩) ∧
    (∀ p head tail other, tail.isSequence = true → Passes onCons (.cons head tail) heads args p →
      onCons head tail p.args = .ok other → (∀ piece given, other ≠ .step piece given) →
      traverse (chain heads (.cons head tail)) h args separator operation =
        ⟨p.calls ++ [.onCons head tail p.args],
          .error (if other.isWritable then
              .refused .typeMismatch operation "cons handler returning a Step" other
            else .tooManyDigits none)⟩) := by
  refine ⟨fun hfull rest => hfull.exists_passes rest heads args, ?_, ?_, ?_, ?_⟩
  · intro p texts last text hp htexts hlast htext
    have hall : List.Forall₂ (fun v t => v.text? = some t) (p.pieces ++ [last]) (texts ++ [text]) :=
      List.rel_append htexts (.cons htext .nil)
    rw [hp.traverse_chain_nil hlast hnil hcons, Fragment.join_eq_ok separator hall]
  · intro p serial hp
    exact hp.traverse_chain_foreign hnil hcons separator
  · intro p head tail htail hp
    exact hp.traverse_malformed htail hnil hcons separator
  · intro p head tail other htail hp hcall hother
    exact hp.traverse_other htail hcall hother hnil hcons separator

/-- Handlers that put its number behind each term. -/
def numbered : Handlers where
  family := "Numbered"
  onNil := some fun _ => .ok (.fragment "")
  onCons := some fun head _ args =>
    match args with
    | [.int i] => .ok (.step (.fragment (head.display ++ Decimal.ofInt i)) (.tuple [.int (i + 1)]))
    | _ => .ok .none

/-- Two terms with their numbers behind them. If the second cell ends in a text, it is not looked
at, and if there is no number to begin with, the call for the first cell is the only one. -/
theorem traverse_numbered :
    traverse (chain [.text "a", .text "b"] .nil) numbered [.int 0] " " "traverse" =
      ⟨[.onCons (.text "a") (.cons (.text "b") .nil) [.int 0], .onCons (.text "b") .nil [.int 1],
        .onNil [.int 2]], .ok "a0 b1"⟩ ∧
    traverse (chain [.text "a"] (.cons (.text "b") (.text "c"))) numbered [.int 0] " " "traverse" =
      ⟨[.onCons (.text "a") (.cons (.text "b") (.text "c")) [.int 0]],
        .error (Sequence.malformed "dispatch" (.text "c"))⟩ ∧
    traverse (chain [] (.cons (.text "a") .nil)) numbered [] " " "traverse" =
      ⟨[.onCons (.text "a") .nil []],
        .error (.refused .typeMismatch "traverse" "cons handler returning a Step" .none)⟩ := by
  obtain ⟨-, hnil, -⟩ := traverse_eq_fold (h := numbered) rfl rfl [.text "a", .text "b"] [.int 0]
    " " "traverse"
  obtain ⟨-, -, -, hmalformed, -⟩ := traverse_eq_fold (h := numbered) rfl rfl [.text "a"] [.int 0]
    " " "traverse"
  obtain ⟨-, -, -, -, hother⟩ := traverse_eq_fold (h := numbered) rfl rfl [] [] " " "traverse"
  refine ⟨?_, ?_, ?_⟩
  · exact hnil _ ["a0", "b1"] _ "" (.step rfl rfl (.step rfl rfl (.done _)))
      (.cons rfl (.cons rfl .nil)) rfl rfl
  · exact hmalformed _ _ _ rfl (.step rfl rfl (.done _))
  · exact hother _ _ _ .none rfl (.done _) rfl (by simp)

/-- Handlers that answer each call for a cell by the least number that is too long to be written. -/
def counting : Handlers where
  family := "Counting"
  onNil := some fun _ => .ok (.fragment "")
  onCons := some fun _ _ _ => .ok (.int Decimal.leastUnwritable)

/-- A number that is too long to be written is no step, and it is no sequence either. In the place
of the one and of the other it is not refused, because a refusal would have to show it. -/
theorem traverse_leastUnwritable :
    traverse (.cons (.text "a") .nil) counting [] "" "traverse" =
      ⟨[.onCons (.text "a") .nil []], .error (.tooManyDigits none)⟩ ∧
    traverse (.cons (.text "a") (.int Decimal.leastUnwritable)) numbered [.int 0] "" "traverse" =
      ⟨[], .error (.tooManyDigits none)⟩ ∧
    (Fault.tooManyDigits none).isRefusal = false := by
  have hlong : (Value.int Decimal.leastUnwritable).isWritable = false :=
    Decimal.isWritable_leastUnwritable
  have hfirst (onCons : Value → Value → Handler) (rest : Value) (args : List Value) :
      Passes onCons rest [] args ⟨[], [], args⟩ := .done args
  refine ⟨?_, ?_, rfl⟩
  · have hother : traverse (chain [] (.cons (.text "a") .nil)) counting [] "" "traverse" = _ :=
      (hfirst _ _ _).traverse_other rfl rfl (by rintro piece given ⟨⟩) rfl rfl ""
    rwa [Fault.refusal_of_not_isWritable hlong] at hother
  · have hmalformed : traverse (chain [] (.cons (.text "a") (.int Decimal.leastUnwritable)))
        numbered [.int 0] "" "traverse" = _ :=
      (hfirst _ _ _).traverse_malformed rfl rfl rfl ""
    rwa [Sequence.malformed, Fault.refusal_of_not_isWritable hlong] at hmalformed

end CHeaders
