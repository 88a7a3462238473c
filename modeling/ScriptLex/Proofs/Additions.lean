import ScriptLex.Diagnostic.Draft

/-! What additions make of a diagnostic.

A draft keeps its additions until it is built, a diagnostic takes each one in at once. In the end both
hold the last code and, kind by kind, everything else in the order in which it was added. How the
kinds were mixed, and when the place was said, is lost. -/

set_option autoImplicit false

namespace ScriptLex.Diagnostic

open ScriptLex.Source
open Draft (code? note? help? snippet?)

/-- Additions taken in one after the other. -/
def extendAll (diagnostic : Diagnostic) (additions : List Addition) : Diagnostic :=
  additions.foldl extend diagnostic

theorem extendAll_cons (diagnostic : Diagnostic) (addition : Addition)
    (additions : List Addition) : diagnostic.extendAll (addition :: additions) =
      (diagnostic.extend addition).extendAll additions := rfl

theorem getLast?_cons_or {α : Type} (a : α) (as : List α) (before : Option α) :
    (a :: as).getLast?.or before = as.getLast?.or (some a) := by
  rw [List.getLast?_cons]
  cases as.getLast? <;> rfl

/-- The code is that of the last addition that brings one, all else is added behind what there
was. -/
theorem extendAll_eq (diagnostic : Diagnostic) (additions : List Addition) :
    diagnostic.extendAll additions =
      { diagnostic with
        code := (additions.filterMap code?).getLast?.or diagnostic.code
        notes := diagnostic.notes ++ additions.filterMap note?
        helps := diagnostic.helps ++ additions.filterMap help?
        snippets := diagnostic.snippets ++ additions.filterMap snippet? } := by
  induction additions generalizing diagnostic with
  | nil => simp [extendAll]
  | cons addition additions ih =>
    rw [extendAll_cons, ih]
    cases addition with
    | code code =>
      rw [List.filterMap_cons_some (show code? (.code code) = some code from rfl),
        getLast?_cons_or]
      rfl
    | note text =>
      rw [List.filterMap_cons_some (show note? (.note text) = some text from rfl),
        List.append_cons]
      rfl
    | help text =>
      rw [List.filterMap_cons_some (show help? (.help text) = some text from rfl),
        List.append_cons]
      rfl
    | snippet snippet =>
      rw [List.filterMap_cons_some (show snippet? (.snippet snippet) = some snippet from rfl),
        List.append_cons]
      rfl

namespace Draft

/-- A call on a draft. -/
inductive Call where
  | add (addition : Addition)
  | place (span : Span)
  deriving DecidableEq, Repr

def Call.addition? : Call → Option Addition
  | .add addition => some addition
  | .place _ => none

def Call.span? : Call → Option Span
  | .add _ => none
  | .place span => some span

def additionsOf (calls : List Call) : List Addition := calls.filterMap Call.addition?

/-- The place that calls leave a draft with, if they say any. -/
def placeOf? (calls : List Call) : Option Span := (calls.filterMap Call.span?).getLast?

def take (draft : Draft) : Call → Draft
  | .add addition => draft.add addition
  | .place span => draft.place span

def takeAll (draft : Draft) (calls : List Call) : Draft := calls.foldl take draft

/-- The additions of a draft pile up, and of its places the last one stands. -/
theorem takeAll_eq (draft : Draft) (calls : List Call) :
    draft.takeAll calls =
      { draft with
        span := (placeOf? calls).getD draft.span
        additions := (additionsOf calls).reverse ++ draft.additions } := by
  unfold placeOf? additionsOf
  induction calls generalizing draft with
  | nil => simp [takeAll]
  | cons call calls ih =>
    rw [show draft.takeAll (call :: calls) = (draft.take call).takeAll calls from rfl, ih]
    cases call with
    | add addition => simp [take, add, Call.addition?, Call.span?, List.filterMap_cons]
    | place span =>
      simp [take, place, Call.addition?, Call.span?, List.filterMap_cons, List.getLast?_cons]

/-- Building a draft is taking its additions in, the earliest first. -/
theorem build_eq_extendAll (draft : Draft) :
    draft.build =
      (plain draft.level draft.message draft.span).extendAll draft.additions.reverse := by
  have code : draft.additions.findSome? code? =
      (draft.additions.reverse.filterMap code?).getLast? := by
    rw [List.filterMap_reverse, List.getLast?_reverse, List.head?_filterMap]
  rw [extendAll_eq, build, code]
  simp [plain]

/-- Calls on a new draft that say where come to the same as their additions to a diagnostic with
that place. -/
theorem build_takeAll {level : Level} {message : String} {span : Span} {calls : List Call}
    (placed : placeOf? calls = some span) : ((start level message).takeAll calls).build =
      (plain level message span).extendAll (additionsOf calls) := by
  rw [build_eq_extendAll, takeAll_eq, placed]
  simp [start]

end Draft

/-- Additions of which those of one kind come in the same order. Of the codes only the last one
counts. -/
structure SameByKind (first second : List Addition) : Prop where
  code : (first.filterMap code?).getLast? = (second.filterMap code?).getLast?
  notes : first.filterMap note? = second.filterMap note?
  helps : first.filterMap help? = second.filterMap help?
  snippets : first.filterMap snippet? = second.filterMap snippet?

theorem sameByKind_iff (level : Level) (message : String) (span : Span)
    (first second : List Addition) : SameByKind first second ↔
      (plain level message span).extendAll first = (plain level message span).extendAll second := by
  rw [extendAll_eq, extendAll_eq]
  simp only [plain, Option.or_none, List.nil_append, Diagnostic.mk.injEq, true_and]
  exact ⟨fun same => ⟨same.code, same.notes, same.helps, same.snippets⟩,
    fun ⟨code, notes, helps, snippets⟩ => ⟨code, notes, helps, snippets⟩⟩

/-- What the two ways of making a diagnostic have in common, and what does not matter in either. -/
structure MadeAlike (level : Level) (message : String) (span : Span) : Prop where
  drafted : ∀ calls : List Draft.Call, Draft.placeOf? calls = some span →
    ((Draft.start level message).takeAll calls).build =
      (plain level message span).extendAll (Draft.additionsOf calls)
  byKind : ∀ first second : List Addition, SameByKind first second ↔
    (plain level message span).extendAll first = (plain level message span).extendAll second
  rendered : ∀ first second : List Addition, SameByKind first second → ∀ origin,
    ((plain level message span).extendAll first).render origin =
      ((plain level message span).extendAll second).render origin
  drafts : ∀ calls calls' : List Draft.Call, Draft.placeOf? calls = some span →
    Draft.placeOf? calls' = some span →
    SameByKind (Draft.additionsOf calls) (Draft.additionsOf calls') →
      ((Draft.start level message).takeAll calls).build =
        ((Draft.start level message).takeAll calls').build

/-- A diagnostic comes out the same whether it was drafted or extended, and it tells of the order of
its additions nothing but that within each kind. -/
theorem made_alike (level : Level) (message : String) (span : Span) :
    MadeAlike level message span where
  drafted _ placed := Draft.build_takeAll placed
  byKind := sameByKind_iff level message span
  rendered first second same origin := by
    rw [(sameByKind_iff level message span first second).1 same]
  drafts calls calls' placed placed' same := by
    rw [Draft.build_takeAll placed, Draft.build_takeAll placed']
    exact (sameByKind_iff level message span _ _).1 same

-- The first code is replaced, and the note may stand before the help or behind it.
example : ((Draft.start .error "m").takeAll [.add (.code .malformedNumber), .add (.note "n"),
    .place ⟨1, 2, 1, 2⟩, .add (.help "h"), .add (.code .unterminatedString)]).build =
      (plain .error "m" ⟨1, 2, 1, 2⟩).extendAll
        [.help "h", .code .unterminatedString, .note "n"] := rfl

end ScriptLex.Diagnostic
