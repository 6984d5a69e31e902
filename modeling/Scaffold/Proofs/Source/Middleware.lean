import Scaffold.Proofs.Pattern.Scanner
import Scaffold.Source.Route

/-!
# Reading lists of middleware

The lists of middleware in a text, read directly: the marker, blanks, and what is between two
brackets on one line. The pattern for them finds just what is read here, and a text without an
opening bracket has none.
-/

namespace Scaffold

namespace MiddlewareList

open Pattern Attempt

def isInside (c : Char) : Bool := c != ']' && c != '\n'

/-- What is between the brackets behind the marker. The list ends at the first closing bracket. -/
def listAt? (text : List Char) : Option (List Char × List Char) :=
  ("preHandler:".toList.isPrefixOf? text).bind fun behind =>
    ("[".toList.isPrefixOf? (behind.dropWhile Text.isBlank)).bind fun list =>
      ("]".toList.isPrefixOf? (list.dropWhile isInside)).map fun rest =>
        (list.takeWhile isInside, rest)

variable {α : Type} {text rest : List Char} {place : Place} {groups : Groups}
  {accept : Place → Groups → Option α}

theorem length_of_isPrefixOf? {start : List Char} (h : start.isPrefixOf? text = some rest) :
    start.length + rest.length = text.length := by
  rw [← List.isPrefixOf?_eq_some_iff_append_eq.mp h, List.length_append]

theorem listAt?_length {taken : List Char} (h : listAt? text = some (taken, rest)) :
    rest.length < text.length := by
  simp only [listAt?, Option.bind_eq_some_iff, Option.map_eq_some_iff] at h
  obtain ⟨behind, marker, list, opening, rest, closing, h⟩ := h
  cases h
  have first := length_of_isPrefixOf? marker
  have second := length_of_isPrefixOf? opening
  have third := length_of_isPrefixOf? closing
  have blanks : (behind.dropWhile Text.isBlank).length ≤ behind.length :=
    (List.dropWhile_suffix _).length_le
  have inside : (list.dropWhile isInside).length ≤ list.length :=
    (List.dropWhile_suffix _).length_le
  have shown : 0 < "preHandler:".toList.length := by decide
  omega

def scanner : Scanner (List Char) where
  step := listAt?
  shrinks := listAt?_length

theorem listAt?_eq_none (free : '[' ∉ text) : listAt? text = none := by
  apply Option.bind_eq_none_iff.mpr
  intro behind marker
  apply Option.bind_eq_none_iff.mpr
  intro list opening
  have bracket : '[' ∈ behind.dropWhile Text.isBlank := by
    rw [← List.isPrefixOf?_eq_some_iff_append_eq.mp opening]
    exact List.mem_cons_self
  have later : '[' ∈ behind := (List.dropWhile_suffix _).mem bracket
  rw [← List.isPrefixOf?_eq_some_iff_append_eq.mp marker] at free
  exact absurd (List.mem_append_right _ later) free

theorem run_eq_nil (free : '[' ∉ text) : scanner.run text = [] :=
  Scanner.run_eq_nil_of_forall fun _ isSuffix => listAt?_eq_none fun mem => free (isSuffix.mem mem)

/-! ## The pattern -/

theorem goesOn_closing (h : place.IsAt text) :
    GoesOn accept (("]".toList.isPrefixOf? text).map fun rest => (groups, rest))
      ((sequence [literal "]"]).attempt place groups accept) :=
  goesOn_literal "]" h

theorem contains_inside : (fun c => !(c == ']') && (CharSet.compl (.single '\n')).contains c)
    = isInside := by
  funext c
  rw [contains_dot]
  rfl

theorem goesOn_inside (h : place.IsAt text)
    (accepts : ∀ stop groups, (accept stop groups).isSome = true) :
    GoesOn (fun stop groups => (sequence [literal "]"]).attempt stop groups accept)
      (some ((1, text.takeWhile isInside) :: groups, text.dropWhile isInside))
      ((group 1 (lazyStar dot)).attempt place groups fun stop groups =>
        (sequence [literal "]"]).attempt stop groups accept) := by
  refine GoesOn.group (x := some (text.takeWhile isInside, text.dropWhile isInside)) h ?_ ?_
  · rw [Option.map_some, ← contains_inside]
    apply goesOn_lazyRun h
    · intro stop text isAt other
      apply attempt_literal_eq_none "]" isAt
      apply isPrefixOf?_of_other
      intro closes
      exact absurd (other ']' closes) (by decide)
    · intro stop c rest isAt closes
      obtain rfl := beq_iff_eq.mp closes
      exact (goesOn_closing isAt).isSome_eq accepts
  · rintro taken rest ⟨⟩
    exact List.takeWhile_append_dropWhile

theorem describes_list : scanner.Describes Route.middlewareList fun list => [(1, list)] := by
  constructor
  intro place text isAt
  change GoesOn _ ((listAt? text).map _) _
  rw [listAt?, Option.map_bind, matchAt?, Route.middlewareList, attempt_sequence_cons]
  refine (goesOn_literal "preHandler:" isAt).andThen fun behind stop _ isAt => ?_
  rw [attempt_sequence_cons, Function.comp_apply, Option.map_bind]
  obtain ⟨stop, isAt, blanks⟩ := (goesOn_blanks "[" isAt (by decide)).exists_stop
  rw [blanks, attempt_sequence_cons]
  refine (goesOn_literal "[" isAt).andThen fun list stop _ isAt => ?_
  rw [attempt_sequence_cons, Function.comp_apply, Option.map_map]
  obtain ⟨stop, isAt, inside⟩ := (@goesOn_inside Found _ _ _
    (fun stop groups => some ⟨place, stop, groups⟩) isAt fun _ _ => rfl).exists_stop
  rw [inside]
  change GoesOn _ (Option.map (fun rest => ([(1, list.takeWhile isInside)], rest)) _) _
  exact goesOn_closing isAt

theorem flatMap_findAll (text : List Char) :
    ((Route.middlewareList.findAll text).flatMap fun found =>
      Route.listedNames ((found.group? 1).getD [])) =
        (scanner.run text).flatMap Route.listedNames := by
  have found : ((Route.middlewareList.findAll text).filterMap fun found =>
      some (Route.listedNames ((found.group? 1).getD []))) =
        (scanner.run text).map Route.listedNames :=
    describes_list.findAll (fun _ _ _ => rfl) text
  rw [List.flatMap_def, List.flatMap_def, ← found, List.filterMap_eq_map']

theorem middlewareOf_eq (text : List Char) : Route.middlewareOf text =
    if Route.occursIn Route.middlewareMarker.toList text then
      (scanner.run text).flatMap Route.listedNames
    else [] := by
  rw [Route.middlewareOf, flatMap_findAll]

/-- A text without an opening bracket names no middleware. -/
theorem middlewareOf_eq_nil (free : '[' ∉ text) : Route.middlewareOf text = [] := by
  rw [middlewareOf_eq, run_eq_nil free, List.flatMap_nil, ite_self]

end MiddlewareList

end Scaffold
