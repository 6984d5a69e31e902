import Mathlib.Data.List.Forall2
import Scaffold.Proofs.Source.Lists

/-!
# Scanning a text for lists of middleware

Which lists are read from a text, whatever it looks like. From where the scan has got to, the first
place counts at which a list stands, and the scan goes on behind its closing bracket. A list may
have any characters but line feeds between its brackets, and the first closing bracket ends it.
-/

namespace Scaffold

namespace MiddlewareList

variable {text rest list piece name gap : List Char} {names : List String}

/-- A list stands at the start of a text. The blanks in front of it may be line breaks. -/
def ListAt (text list rest : List Char) : Prop :=
  ∃ gap, (∀ c ∈ gap, Text.isBlank c = true) ∧ ']' ∉ list ∧ '\n' ∉ list ∧
    text = label ++ gap ++ '[' :: (list ++ ']' :: rest)

/-- What is left of a piece without the blanks around it. -/
def IsCore (piece core : List Char) : Prop :=
  ∃ front back, piece = front ++ core ++ back ∧ (∀ c ∈ front ++ back, Text.isBlank c = true) ∧
    (∀ c ∈ core.head?, Text.isBlank c = false) ∧ ∀ c ∈ core.getLast?, Text.isBlank c = false

/-- The names of a list stand between its commas. Where there is none, nothing is named. -/
def Names (list : List Char) (names : List String) : Prop :=
  ∃ pieces cores, pieces ≠ [] ∧ (∀ piece ∈ pieces, ',' ∉ piece) ∧
    list = Text.joinWith [','] pieces ∧ List.Forall₂ IsCore pieces cores ∧
      names = (cores.filter (· ≠ [])).map String.ofList

/-- The names in a text, as a scan from left to right comes to them. -/
inductive Scans : List Char → List String → Prop
  | nothing {text : List Char} (nowhere : ∀ start, start <:+ text → ∀ list rest,
      ¬ ListAt start list rest) : Scans text []
  | list {skipped start list rest : List Char} {names later : List String}
    (listed : ListAt start list rest)
    (first : ∀ suffix, suffix <:+ skipped → suffix ≠ [] → ∀ list rest,
      ¬ ListAt (suffix ++ start) list rest)
    (named : Names list names) (others : Scans rest later) :
    Scans (skipped ++ start) (names ++ later)

/-! ## Where a list stands -/

theorem step_eq_some : scanner.step text = some (list, rest) ↔ ListAt text list rest := by
  constructor
  · intro step
    change listAt? text = _ at step
    simp only [listAt?, Option.bind_eq_some_iff, Option.map_eq_some_iff] at step
    obtain ⟨behind, marker, opened, opening, closed, closing, same⟩ := step
    cases same
    rw [List.isPrefixOf?_eq_some_iff_append_eq] at marker opening closing
    have bracket : '[' :: opened = behind.dropWhile Text.isBlank := opening
    have closes : ']' :: rest = opened.dropWhile isInside := closing
    -- The list is read as far as it goes, and what stops it has to be a closing bracket.
    have inside : ∀ c ∈ opened.takeWhile isInside, c ≠ ']' ∧ c ≠ '\n' := fun c mem => by
      simpa [isInside] using List.mem_takeWhile_imp mem
    refine ⟨behind.takeWhile Text.isBlank, fun c mem => List.mem_takeWhile_imp mem,
      fun mem => (inside _ mem).1 rfl, fun mem => (inside _ mem).2 rfl, ?_⟩
    rw [closes, List.takeWhile_append_dropWhile, bracket, List.append_assoc,
      List.takeWhile_append_dropWhile]
    exact marker.symm
  · rintro ⟨gap, blank, closed, oneLine, rfl⟩
    have inside : ∀ c ∈ list, isInside c = true := fun c mem => by
      rw [isInside, Bool.and_eq_true, bne_iff_ne, bne_iff_ne]
      exact ⟨fun bracket => closed (bracket ▸ mem), fun feed => oneLine (feed ▸ mem)⟩
    have stop : ∀ c ∈ (']' :: rest).head?, isInside c = false := by
      rintro _ ⟨⟩
      decide
    rw [step_opening blank, Text.takeWhile_run inside stop, Text.dropWhile_run inside stop]
    rfl

theorem step_eq_none_iff : scanner.step text = none ↔ ∀ list rest, ¬ ListAt text list rest := by
  simp only [← step_eq_some, Option.eq_none_iff_forall_ne_some, Prod.forall, ne_eq]

/-! ## What a list names -/

theorem isCore_iff {core : List Char} : IsCore piece core ↔ Text.trim piece = core := by
  constructor
  · rintro ⟨front, back, rfl, blank, first, last⟩
    exact Text.trim_of_ends blank first last
  · rintro rfl
    obtain ⟨front, back, parts, blank⟩ := Text.trim_parts piece
    exact ⟨front, back, parts, blank, Text.head?_trim piece, Text.getLast?_trim piece⟩

theorem names_iff : Names list names ↔ Route.listedNames list = names := by
  have cores : ∀ pieces cores, List.Forall₂ IsCore pieces cores ↔ pieces.map Text.trim = cores := by
    intro pieces cores
    have same : IsCore = fun piece core => Text.trim piece = core :=
      funext₂ fun _ _ => propext isCore_iff
    rw [same, ← List.forall₂_map_left_iff (R := Eq), List.forall₂_eq_eq_eq]
  have listed : ∀ pieces, Text.splitAt (· == ',') list = pieces → Route.listedNames list =
      ((pieces.map Text.trim).filter (· ≠ [])).map String.ofList := by
    rintro _ rfl
    rw [Route.listedNames]
    congr 2
    funext core
    cases core <;> rfl
  constructor
  · rintro ⟨pieces, _, some, free, rfl, trimmed, rfl⟩
    obtain rfl := (cores _ _).mp trimmed
    refine listed pieces (Text.splitAt_joinWith (by decide) some fun piece isPiece c mem => ?_)
    exact beq_eq_false_iff_ne.mpr fun comma => free piece isPiece (comma ▸ mem)
  · rintro rfl
    refine ⟨Text.splitAt (· == ',') list, _, Text.splitAt_ne_nil _ _, fun piece isPiece mem => ?_,
      (Text.joinWith_splitAt ',' list).symm, (cores _ _).mpr rfl, listed _ rfl⟩
    exact absurd (Text.not_separator_of_mem_splitAt isPiece mem) (by decide)

/-! ## The whole scan -/

theorem flatMap_run_of_scans (scans : Scans text names) :
    (scanner.run text).flatMap Route.listedNames = names := by
  induction scans with
  | nothing nowhere =>
    rw [Scanner.run_eq_nil_of_forall fun start isSuffix =>
      step_eq_none_iff.mpr (nowhere start isSuffix), List.flatMap_nil]
  | list listed first named _ ih =>
    have before := fun suffix isSuffix some => step_eq_none_iff.mpr (first suffix isSuffix some)
    rw [Scanner.run_append before, Scanner.run_of_some (step_eq_some.mpr listed),
      List.flatMap_cons, names_iff.mp named, ih]

theorem scans_run (text : List Char) :
    Scans text ((scanner.run text).flatMap Route.listedNames) := by
  induction text using (measure List.length).wf.induction with
  | h text ih =>
    rcases scanner.none_or_first text with nowhere |
      ⟨skipped, start, list, rest, rfl, step, before⟩
    · rw [Scanner.run_eq_nil_of_forall nowhere]
      exact .nothing fun start isSuffix => step_eq_none_iff.mp (nowhere start isSuffix)
    · have shorter : rest.length < (skipped ++ start).length :=
        (scanner.shrinks step).trans_le (List.suffix_append skipped start).length_le
      rw [Scanner.run_append before, Scanner.run_of_some step, List.flatMap_cons]
      exact .list (step_eq_some.mp step) (fun suffix isSuffix some =>
        step_eq_none_iff.mp (before suffix isSuffix some)) (names_iff.mpr rfl) (ih rest shorter)

/-- The middleware of a text is what a scan names. It is not needed that the marker occurs in the
text: without it nothing is found. -/
theorem middlewareOf_scans (text : List Char) :
    (∀ names, Route.middlewareOf text = names ↔ Scans text names) ∧
      Route.middlewareOf text = (Route.middlewareList.findAll text).flatMap fun found =>
        Route.listedNames ((found.group? 1).getD []) := by
  refine ⟨fun names => ⟨?_, fun scans => ?_⟩, ?_⟩
  · rintro rfl
    rw [middlewareOf_eq_flatMap]
    exact scans_run text
  · rw [middlewareOf_eq_flatMap, flatMap_run_of_scans scans]
  · rw [middlewareOf_eq_flatMap, flatMap_findAll]

/-- An opening bracket may stand in a list, and a list that is not closed on its line does not hide
the next one. -/
example : Route.middlewareOf "preHandler: [a, [b ,]] preHandler: [c,\n preHandler:\n[d e]".toList =
    ["a", "[b", "d e"] := by
  decide +kernel

end MiddlewareList

end Scaffold
