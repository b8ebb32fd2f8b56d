import CHeaders.Proofs.Plan.Header
import CHeaders.Proofs.Value.Part

/-!
# Plans of the wrong shape

The parts of a plan may hold any values. What a plan is meant to hold is its *shape*: a guard that
is a text if there is one, a list of files that are texts, and a list of declarations. Whether there
is a list is never looked at. The header goes through what is there, file by file and declaration by
declaration. So a text passes for the list of its characters, and what cannot be gone through goes
wrong as it is used, without a refusal. Where the lists are lists, every wrong shape is refused.

## Main definitions

* `CHeaders.Plan.HasShape`: the plans of the right shape.
* `CHeaders.Plan.IsRefusal`: the results that are the refusal of a malformed plan.
* `CHeaders.Plan.IsRefused`: what leads to such a refusal.

## Main results

* `CHeaders.Plan.isRefusal_mapM_iff`: a walk is refused for the first item that does not pass.
* `CHeaders.Plan.isRefusal_header_iff`: when a plan is refused as malformed.
* `CHeaders.Plan.isRefused_of_isList`, `CHeaders.Plan.exists_hasShape_of_header`: what comes of
  wrong shapes with and without lists.
* `CHeaders.Plan.header_misshapen`: when a plan of the wrong shape is refused.
-/

namespace CHeaders

open Value (IsPart IsText Optional)

/-- The value is a list. -/
def Value.IsList (v : Value) : Prop :=
  ∃ items, v.bare = .list items

namespace Plan

variable {α β : Type}

/-- The plan holds in each part what the part is meant for: a text or nothing as the guard, a list
of texts as the files, and a list of declarations. -/
structure HasShape (p : Plan) : Prop where
  guard : Optional IsText p.guard
  includes : ∃ files, p.includes.bare = .list files ∧ ∀ file ∈ files, IsText file
  declarations : p.declarations.IsList

/-! ## Refusals -/

/-- The result is the refusal of a malformed plan. -/
def IsRefusal (x : Except Fault α) : Prop :=
  ∃ f, x = .error f ∧ f.IsRefusalOf [.plan]

/-- What is returned is no refusal. -/
@[simp] theorem not_isRefusal_ok (a : α) : ¬IsRefusal (Except.ok a) := by
  rintro ⟨f, hf, -⟩
  cases hf

/-- A composition is refused in the first part, or in the second one if the first part returns. -/
theorem isRefusal_bind_iff {x : Except Fault α} {f : α → Except Fault β} :
    IsRefusal (x >>= f) ↔ IsRefusal x ∨ ∃ a, x = .ok a ∧ IsRefusal (f a) := by
  cases x with
  | error e => simp [IsRefusal, bind, Except.bind]
  | ok a => simp [bind, Except.bind]

/-- A composition with notices is refused in one of its parts as well. -/
theorem isRefusal_result_bind_iff {x : Outcome α} {f : α → Outcome β} :
    IsRefusal (x >>= f).result ↔
      IsRefusal x.result ∨ ∃ a, x.result = .ok a ∧ IsRefusal (f a).result := by
  rw [Outcome.result_bind]
  exact isRefusal_bind_iff

/-- A walk is refused if and only if the first item that does not pass is. -/
theorem isRefusal_mapM_iff {f : α → Except Fault β} {xs : List α} :
    IsRefusal (xs.mapM f) ↔ ∃ front x back, xs = front ++ x :: back ∧
      (∀ y ∈ front, ∃ b, f y = .ok b) ∧ IsRefusal (f x) := by
  constructor
  · rintro ⟨e, he, hrefusal⟩
    obtain ⟨front, x, back, ys, rfl, hfront, hx⟩ := mapM_eq_error_iff.mp he
    rw [← mapM_eq_ok_iff] at hfront
    exact ⟨front, x, back, rfl, exists_ok_of_mapM hfront, e, hx, hrefusal⟩
  · rintro ⟨front, x, back, rfl, hfront, e, hx, hrefusal⟩
    obtain ⟨ys, hys⟩ := exists_mapM_eq_ok_iff.mpr hfront
    rw [mapM_eq_ok_iff] at hys
    exact ⟨e, mapM_eq_error_iff.mpr ⟨front, x, back, ys, rfl, hys, hx⟩, hrefusal⟩

/-- What a check does not accept is refused if it can be shown. -/
theorem isRefusal_check_iff {A : Prop} {P : α → Prop} {operation expected : String} {v : Value}
    {x : Except Fault α} (h : Decides A P (· = .refusal .plan operation expected v) x) :
    IsRefusal x ↔ ¬A ∧ v.isWritable = true := by
  cases x with
  | ok a => simp [h.1]
  | error f =>
    obtain ⟨hnot, rfl⟩ := h
    by_cases hwritable : v.isWritable = true
    · have hrefusal := Fault.isRefusalOf_refusal (List.mem_singleton_self .plan) operation expected
        hwritable
      exact iff_of_true ⟨_, rfl, hrefusal⟩ ⟨hnot, hwritable⟩
    · refine iff_of_false ?_ fun h => hwritable h.2
      rw [Fault.refusal_of_not_isWritable (by simpa using hwritable)]
      rintro ⟨f, hf, kind, -, operation', expected', given, rfl⟩
      cases hf

/-- Faults of other kinds are no refusals. -/
theorem not_isRefusal_of_judged {P : α → Prop} {x : Except Fault α}
    (h : Judged P (·.isRefusal = false) x) : ¬IsRefusal x := by
  rintro ⟨f, rfl, kind, -, operation, expected, given, rfl⟩
  cases h

/-- What cannot be gone through is not refused. -/
theorem judged_itemsOf (v : Value) :
    Judged (v.items? = some ·) (·.isRefusal = false) (itemsOf v) := by
  unfold itemsOf
  split
  · next h => exact h
  · rfl

/-- What is no comment is not refused. -/
theorem judged_commentOf (d : Value) :
    Judged (fun _ => True) (·.isRefusal = false) (commentOf d) := by
  cases d with
  | declaration term comment =>
    change Judged _ _ (if comment.isTrue then
      commentText comment >>= fun t => Except.ok (some t) else .ok none)
    split
    · exact Judged.bind (decides_commentText comment) (fun _ h => h.2) fun _ _ => trivial
    · trivial
  | _ => rfl

/-- What leads to the refusal of a plan as malformed: the guard, the first file or the first
declaration that is not accepted, if what stands in front of it is accepted and it can be shown. -/
inductive IsRefused (p : Plan) : Prop
  | guard (h : ¬IsGuard p.guard) (hwritable : p.guard.isWritable = true)
  | file {front back : List Value} {file : Value} (hguard : IsGuard p.guard)
      (hfiles : p.includes.items? = some (front ++ file :: back))
      (hfront : ∀ file ∈ front, IsFile file) (h : ¬IsFile file) (hwritable : file.isWritable = true)
  | declaration {files front back : List Value} {d : Value} (hguard : IsGuard p.guard)
      (hfiles : p.includes.items? = some files) (haccepted : ∀ file ∈ files, IsFile file)
      (hds : p.declarations.items? = some (front ++ d :: back))
      (hfront : ∀ d ∈ front, ∃ text, (renderDeclaration d).result = .ok text)
      (h : IsRefusal (renderDeclaration d).result)

/-- Files are refused if and only if the first one that is not accepted can be shown. -/
theorem isRefusal_files_iff {files : List Value} :
    IsRefusal (files.mapM checkInclude) ↔
      ∃ front file back, files = front ++ file :: back ∧ (∀ file ∈ front, IsFile file) ∧
        ¬IsFile file ∧ file.isWritable = true := by
  simp only [isRefusal_mapM_iff, isRefusal_check_iff (decides_checkInclude _),
    (decides_checkInclude _).exists_ok_iff]

/-- Declarations are refused if and only if the first one that does not render is. -/
theorem isRefusal_renderDeclarations_iff {p : Plan} :
    IsRefusal (renderDeclarations p).result ↔
      ∃ front d back, p.declarations.items? = some (front ++ d :: back) ∧
        (∀ d ∈ front, ∃ text, (renderDeclaration d).result = .ok text) ∧
        IsRefusal (renderDeclaration d).result := by
  simp only [renderDeclarations, isRefusal_result_bind_iff, Outcome.result_ofExcept,
    Outcome.result_note, Outcome.result_pure, result_renderFrom, isRefusal_mapM_iff,
    not_isRefusal_of_judged (judged_itemsOf _), not_isRefusal_ok, itemsOf_eq_ok_iff, false_or,
    or_false, and_false, exists_false]
  constructor
  · rintro ⟨ds, hds, front, d, back, rfl, hfront, hd⟩
    exact ⟨front, d, back, hds, hfront, hd⟩
  · rintro ⟨front, d, back, hds, hfront, hd⟩
    exact ⟨_, hds, front, d, back, rfl, hfront, hd⟩

/-- A plan is refused as malformed if and only if its guard, a file or a declaration leads to that.

**Proof sketch.** The parts are judged one behind the other. Going through them, the name and the
comments may go wrong as well, but none of this is a refusal. -/
theorem isRefusal_header_iff (p : Plan) : IsRefusal p.header.result ↔ p.IsRefused := by
  have hname : ¬IsRefusal (commentText p.name) :=
    not_isRefusal_of_judged (Judged.imp (decides_commentText p.name) (fun _ h => h) fun _ h => h.2)
  have hcomments (ds : List Value) : ¬IsRefusal (ds.mapM commentOf) :=
    not_isRefusal_of_judged (Judged.mapM fun d _ => judged_commentOf d)
  simp only [header, toHeader, isRefusal_result_bind_iff, Outcome.result_ofExcept,
    Outcome.result_pure, not_isRefusal_ok, isRefusal_check_iff (decides_checkGuard _),
    isRefusal_files_iff,
    isRefusal_renderDeclarations_iff, not_isRefusal_of_judged (judged_itemsOf _), hname,
    hcomments, itemsOf_eq_ok_iff, false_or, or_false, and_false, exists_false]
  constructor
  · rintro (⟨hguard, hwritable⟩ | ⟨guard, hguard, files, hfiles, hrest⟩)
    · exact .guard hguard hwritable
    have hguard := ((decides_checkGuard p.guard).exists_ok_iff.mp ⟨guard, hguard⟩)
    rcases hrest with ⟨front, file, back, rfl, hfront, hfile, hwritable⟩ |
      ⟨includes, hincludes, front, d, back, hds, hfront, hd⟩
    · exact .file hguard hfiles hfront hfile hwritable
    · refine .declaration hguard hfiles (fun file hfile => ?_) hds hfront hd
      exact (decides_checkInclude file).exists_ok_iff.mp (exists_ok_of_mapM hincludes file hfile)
  · rintro (⟨hguard, hwritable⟩ | ⟨hguard, hfiles, hfront, hfile, hwritable⟩ |
      ⟨hguard, hfiles, haccepted, hds, hfront, hd⟩)
    · exact .inl ⟨hguard, hwritable⟩
    · obtain ⟨guard, hguard⟩ := (decides_checkGuard p.guard).exists_ok_iff.mpr hguard
      exact .inr ⟨guard, hguard, _, hfiles, .inl ⟨_, _, _, rfl, hfront, hfile, hwritable⟩⟩
    · obtain ⟨guard, hguard⟩ := (decides_checkGuard p.guard).exists_ok_iff.mpr hguard
      obtain ⟨includes, hincludes⟩ := exists_mapM_eq_ok_iff.mpr fun file hfile =>
        (decides_checkInclude file).exists_ok_iff.mpr (haccepted file hfile)
      exact .inr ⟨guard, hguard, _, hfiles, .inr ⟨includes, hincludes, _, _, _, hds, hfront, hd⟩⟩

/-! ## Wrong shapes -/

/-- One gets the items by going through a list. -/
theorem items?_of_bare {v : Value} {items : List Value} (h : v.bare = .list items) :
    v.items? = some items := by
  fun_induction Value.bare v with
  | case1 mark v ih => exact ih h
  | case2 v hv =>
    obtain rfl := h
    rfl

/-- If not all items of a list are as `P` says, then there is a first one that is not. -/
theorem exists_first_not {P : α → Prop} {xs : List α} (h : ¬∀ x ∈ xs, P x) :
    ∃ front x back, xs = front ++ x :: back ∧ (∀ y ∈ front, P y) ∧ ¬P x := by
  classical
  push Not at h
  obtain ⟨z, hz, hnot⟩ := h
  have hsome : (xs.find? fun x => decide ¬P x).isSome :=
    List.find?_isSome.mpr ⟨z, hz, decide_eq_true hnot⟩
  obtain ⟨x, hx⟩ := Option.isSome_iff_exists.mp hsome
  obtain ⟨hfirst, front, back, hxs, hfront⟩ := List.find?_eq_some_iff_append.mp hx
  exact ⟨front, x, back, hxs, fun y hy => by simpa using hfront y hy, of_decide_eq_true hfirst⟩

/-- With lists in both places, a plan of the wrong shape is refused if it can be shown.

**Proof sketch.** Let the guard be accepted. The shape is wrong, so there is a file that is no text,
and the first file that is not accepted is refused. -/
theorem isRefused_of_isList {p : Plan} (hshape : ¬p.HasShape) (hincludes : p.includes.IsList)
    (hdeclarations : p.declarations.IsList) (hwritable : p.toValue.isWritable = true) :
    p.IsRefused := by
  obtain ⟨files, hfiles⟩ := hincludes
  rw [toValue, Value.isWritable, Bool.and_eq_true, Bool.and_eq_true] at hwritable
  obtain ⟨⟨-, hguardWritable⟩, hfilesWritable⟩ := hwritable
  by_cases hguard : IsGuard p.guard
  · have hstray : ¬∀ file ∈ files, IsFile file := fun hall =>
      hshape ⟨hguard.optional, ⟨files, hfiles, fun file h => (hall file h).isText⟩, hdeclarations⟩
    obtain ⟨front, file, back, rfl, hfront, hfile⟩ := exists_first_not hstray
    have hlist := IsPart.isWritable_eq IsPart.refl.bare hfilesWritable
    rw [hfiles, Value.isWritable, Value.allWritable_eq_all, List.all_eq_true] at hlist
    exact .file hguard (items?_of_bare hfiles) hfront hfile (hlist file (by simp))
  · exact .guard hguard hguardWritable

/-- A plan that has a header may as well hold lists of what one gets by going through its files and
its declarations. Then it has the right shape. -/
theorem exists_hasShape_of_header {p : Plan} {text : Text} (h : p.header.result = .ok text) :
    ∃ files ds, p.includes.items? = some files ∧ p.declarations.items? = some ds ∧
      HasShape ⟨p.name, .list ds, p.guard, .list files⟩ ∧
      (header ⟨p.name, .list ds, p.guard, .list files⟩).result = .ok text := by
  obtain ⟨guard, files, includes, ds, texts, name, comments, hguard, hfiles, hincludes, hds, htexts,
    hname, hcomments, htext⟩ := header_eq_ok_iff.mp h
  refine ⟨files, ds, itemsOf_eq_ok_iff.mp hfiles, itemsOf_eq_ok_iff.mp hds, ⟨?_, ?_, ds, rfl⟩,
    header_eq_ok_iff.mpr ⟨guard, files, includes, ds, texts, name, comments, hguard, rfl, hincludes,
      rfl, htexts, hname, hcomments, htext⟩⟩
  · exact ((decides_checkGuard _).exists_ok_iff.mp ⟨guard, hguard⟩).optional
  · refine ⟨files, rfl, fun file hfile => ?_⟩
    have hchecked := exists_ok_of_mapM hincludes file hfile
    exact ((decides_checkInclude _).exists_ok_iff.mp hchecked).isText

/-- When a plan of the wrong shape is refused: if and only if its guard is not accepted, or else the
first file that is not accepted or the first declaration that does not render is refused. That there
is something else than a list in the place of the files or of the declarations does not make it so.
If there are lists in both places, then the plan is refused, provided that it can be shown. If there
are none, then it may have a header: the header of a plan of the right shape, with lists of what one
gets by going through the parts. -/
theorem header_misshapen {p : Plan} (hshape : ¬p.HasShape) :
    (IsRefusal p.header.result ↔ p.IsRefused) ∧
      (p.includes.IsList → p.declarations.IsList → p.toValue.isWritable = true → p.IsRefused) ∧
      ∀ text, p.header.result = .ok text →
        ∃ files ds, p.includes.items? = some files ∧ p.declarations.items? = some ds ∧
          HasShape ⟨p.name, .list ds, p.guard, .list files⟩ ∧
          (header ⟨p.name, .list ds, p.guard, .list files⟩).result = .ok text :=
  ⟨isRefusal_header_iff p, isRefused_of_isList hshape, fun _ => exists_hasShape_of_header⟩

/-- A plan with a text in the place of the list of files. -/
def lettered : Plan :=
  ⟨.text "x", .list [], .none, .text "ab"⟩

/-- The plan with a text in the place of the list of files is not refused: its header includes a
file for each character. -/
theorem header_misshapen_lettered : ¬lettered.HasShape ∧ ¬lettered.IsRefused ∧
    lettered.header.result =
      .ok "/* generated by cdeclgen: x */\n\n#include <a>\n#include <b>\n" := by
  have hshape : ¬lettered.HasShape := by
    rintro ⟨-, ⟨files, hfiles, -⟩, -⟩
    cases hfiles
  have htext : lettered.header.result =
      .ok "/* generated by cdeclgen: x */\n\n#include <a>\n#include <b>\n" :=
    eq_ok_of_toOption (by decide +kernel)
  refine ⟨hshape, fun hrefused => ?_, htext⟩
  have hrefusal := (header_misshapen hshape).1.mpr hrefused
  rw [htext] at hrefusal
  exact not_isRefusal_ok _ hrefusal

end Plan

end CHeaders
