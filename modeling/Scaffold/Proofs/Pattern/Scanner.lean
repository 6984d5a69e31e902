import Scaffold.Proofs.Pattern.Runs

/-!
# Scanners

A scanner reads something at the start of a text, or nothing, and leaves the rest. Applied over and
over it reads all there is in a text from left to right. A pattern that matches what a scanner reads
finds the same in the same order.
-/

namespace Scaffold

/-- What is read is never empty. -/
structure Scanner (ρ : Type) where
  step : List Char → Option (ρ × List Char)
  shrinks : ∀ {text r rest}, step text = some (r, rest) → rest.length < text.length

namespace Scanner

variable {ρ β : Type}

/-- What is read in a text. Where nothing can be read, a character is passed over. -/
def run (scanner : Scanner ρ) (text : List Char) : List ρ :=
  match _ : scanner.step text with
  | some (r, rest) => r :: scanner.run rest
  | none =>
    match text with
    | [] => []
    | _ :: rest => scanner.run rest
termination_by text.length
decreasing_by
  · exact scanner.shrinks ‹_›
  · exact Nat.lt_succ_self rest.length

variable {scanner : Scanner ρ} {text rest : List Char} {c : Char} {r : ρ}

theorem run_of_some (h : scanner.step text = some (r, rest)) :
    scanner.run text = r :: scanner.run rest := by
  rw [run]
  split
  · rename_i read
    cases read.symm.trans h
    rfl
  · rename_i read
    cases read.symm.trans h

theorem run_nil (h : scanner.step [] = none) : scanner.run [] = [] := by
  rw [run]
  split
  · rename_i read
    cases read.symm.trans h
  · rfl

theorem run_cons (h : scanner.step (c :: rest) = none) :
    scanner.run (c :: rest) = scanner.run rest := by
  rw [run]
  split
  · rename_i read
    cases read.symm.trans h
  · rfl

/-- Characters are passed over where nothing can be read. -/
theorem run_append {chunk : List Char}
    (misses : ∀ suffix, suffix <:+ chunk → suffix ≠ [] → scanner.step (suffix ++ rest) = none) :
    scanner.run (chunk ++ rest) = scanner.run rest := by
  induction chunk with
  | nil => rfl
  | cons c chunk ih =>
    rw [List.cons_append, run_cons]
    · apply ih
      intro suffix isSuffix
      exact misses suffix (isSuffix.trans (List.suffix_cons c chunk))
    · exact misses (c :: chunk) (List.suffix_refl _) (List.cons_ne_nil c chunk)

theorem run_eq_nil_of_forall (nowhere : ∀ start, start <:+ text → scanner.step start = none) :
    scanner.run text = [] := by
  have past : scanner.run (text ++ []) = scanner.run [] := run_append fun suffix isSuffix _ => by
    rw [List.append_nil]
    exact nowhere suffix isSuffix
  rw [← List.append_nil text, past, run_nil (nowhere [] List.nil_suffix)]

theorem none_or_first (scanner : Scanner ρ) (text : List Char) :
    (∀ start, start <:+ text → scanner.step start = none) ∨
      ∃ skipped start r rest, text = skipped ++ start ∧ scanner.step start = some (r, rest) ∧
        ∀ suffix, suffix <:+ skipped → suffix ≠ [] → scanner.step (suffix ++ start) = none := by
  induction text with
  | nil =>
    cases read : scanner.step [] with
    | some result => exact absurd (scanner.shrinks read) (Nat.not_lt_zero _)
    | none => exact .inl fun start isSuffix => List.suffix_nil.mp isSuffix ▸ read
  | cons c text ih =>
    cases read : scanner.step (c :: text) with
    | some result =>
      exact .inr ⟨[], c :: text, result.1, result.2, rfl, read, fun suffix isSuffix some =>
        absurd (List.suffix_nil.mp isSuffix) some⟩
    | none =>
      rcases ih with nowhere | ⟨skipped, start, r, rest, rfl, first, before⟩
      · refine .inl fun start isSuffix => ?_
        rcases List.suffix_cons_iff.mp isSuffix with rfl | inside
        · exact read
        · exact nowhere start inside
      · refine .inr ⟨c :: skipped, start, r, rest, rfl, first, fun suffix isSuffix some => ?_⟩
        rcases List.suffix_cons_iff.mp isSuffix with rfl | inside
        · exact read
        · exact before suffix inside some

theorem exists_step_of_mem_run (cuts : ∀ {text r rest}, scanner.step text = some (r, rest) →
    rest <:+ text) (mem : r ∈ scanner.run text) :
    ∃ start rest, start <:+ text ∧ scanner.step start = some (r, rest) := by
  -- On the length, as a step may take any part of the text.
  induction text using (measure List.length).wf.induction with
  | h text ih =>
    have later : ∀ behind, behind <:+ text → behind.length < text.length → r ∈ scanner.run behind →
        ∃ start rest, start <:+ text ∧ scanner.step start = some (r, rest) := by
      intro behind isSuffix shorter mem
      obtain ⟨start, rest, inside, step⟩ := ih behind shorter mem
      exact ⟨start, rest, inside.trans isSuffix, step⟩
    cases read : scanner.step text with
    | some result =>
      obtain ⟨first, rest⟩ := result
      rw [run_of_some read, List.mem_cons] at mem
      obtain rfl | mem := mem
      · exact ⟨text, rest, List.suffix_refl text, read⟩
      · exact later rest (cuts read) (scanner.shrinks read) mem
    | none =>
      cases text with
      | nil =>
        rw [run_nil read] at mem
        cases mem
      | cons c rest =>
        rw [run_cons read] at mem
        exact later rest (List.suffix_cons c rest) (Nat.lt_succ_self rest.length) mem

/-- The pattern matches what the scanner reads, and records it in its groups. -/
structure Describes (scanner : Scanner ρ) (p : Pattern) (record : ρ → Groups) : Prop where
  matchAt {place : Place} {text : List Char} (isAt : place.IsAt text) :
    Attempt.GoesOn (fun stop groups => some (⟨place, stop, groups⟩ : Pattern.Found))
      ((scanner.step text).map fun read => (record read.1, read.2)) (p.matchAt? place)

end Scanner

namespace Pattern

variable {p : Pattern} {place : Place} {rest : List Char} {c : Char}

theorem searchFrom_of_some {found : Found} (h : p.matchAt? place = some found) :
    p.searchFrom place = some found := by
  obtain ⟨before, rest, left⟩ := place
  cases rest with
  | nil => exact h
  | cons c rest =>
    rw [searchFrom, search, h]

theorem searchFrom_cons (h : place.IsAt (c :: rest)) (none : p.matchAt? place = none) :
    p.searchFrom place = p.searchFrom (place.past c) := by
  obtain ⟨before, _, left⟩ := place
  obtain rfl := h.rest
  rw [searchFrom, search, none]
  rfl

theorem searchFrom_append {chunk : List Char} (h : place.IsAt (chunk ++ rest))
    (misses : ∀ (suffix : List Char) (place : Place), suffix <:+ chunk → suffix ≠ [] →
      place.IsAt (suffix ++ rest) → p.matchAt? place = none) :
    ∃ start, start.IsAt rest ∧ p.searchFrom place = p.searchFrom start := by
  induction chunk generalizing place with
  | nil => exact ⟨place, h, rfl⟩
  | cons c chunk ih =>
    obtain ⟨start, isAt, later⟩ := ih (Place.IsAt.past h) fun suffix place isSuffix =>
      misses suffix place (isSuffix.trans (List.suffix_cons c chunk))
    have miss := misses (c :: chunk) place (List.suffix_refl _) (List.cons_ne_nil c chunk) h
    exact ⟨start, isAt, (searchFrom_cons h miss).trans later⟩

theorem searchFrom_nil (h : place.IsAt []) : p.searchFrom place = p.matchAt? place := by
  obtain ⟨before, _, left⟩ := place
  obtain rfl := h.rest
  rfl

end Pattern

namespace Scanner

variable {ρ β : Type} {scanner : Scanner ρ} {p : Pattern} {record : ρ → Groups}
  {meaning : Pattern.Found → Option β} {f : ρ → β}

theorem Describes.misses (h : scanner.Describes p record) {place : Place} {text : List Char}
    (isAt : place.IsAt text) (nothing : scanner.step text = none) : p.matchAt? place = none := by
  have goesOn := h.matchAt isAt
  rw [nothing] at goesOn
  exact goesOn.eq_none

theorem Describes.finds (h : scanner.Describes p record) {place : Place} {text rest : List Char}
    {r : ρ} (isAt : place.IsAt text) (read : scanner.step text = some (r, rest)) :
    ∃ stop, stop.IsAt rest ∧ p.matchAt? place = some ⟨place, stop, record r⟩ := by
  have goesOn := h.matchAt isAt
  rw [read] at goesOn
  exact goesOn.exists_stop

theorem Describes.searchFrom (h : scanner.Describes p record) {place : Place} {text : List Char}
    (isAt : place.IsAt text) :
    (p.searchFrom place = none ∧ scanner.run text = []) ∨
      ∃ start stop rest r, p.searchFrom place = some ⟨start, stop, record r⟩ ∧
        stop.IsAt rest ∧ stop.left < start.left ∧ rest.length < text.length ∧
        scanner.run text = r :: scanner.run rest := by
  induction text generalizing place with
  | nil =>
    cases read : scanner.step [] with
    | none => exact .inl ⟨(Pattern.searchFrom_nil isAt).trans (h.misses isAt read), run_nil read⟩
    | some result => exact absurd (scanner.shrinks read) (Nat.not_lt_zero _)
  | cons c text ih =>
    cases read : scanner.step (c :: text) with
    | none =>
      rw [Pattern.searchFrom_cons isAt (h.misses isAt read), run_cons read]
      rcases ih isAt.past with nothing | ⟨start, stop, rest, r, search, last, some, shorter, run⟩
      · exact .inl nothing
      · exact .inr ⟨start, stop, rest, r, search, last, some, Nat.lt_succ_of_lt shorter, run⟩
    | some result =>
      obtain ⟨r, rest⟩ := result
      have shorter := scanner.shrinks read
      obtain ⟨stop, last, found⟩ := h.finds isAt read
      refine .inr ⟨place, stop, rest, r, Pattern.searchFrom_of_some found, last, ?_, shorter,
        run_of_some read⟩
      rw [isAt.left, last.left]
      exact shorter

theorem Describes.findFrom (h : scanner.Describes p record)
    (means : ∀ start stop r, meaning ⟨start, stop, record r⟩ = some (f r)) {fuel : Nat}
    {place : Place} {text : List Char} (isAt : place.IsAt text) (enough : text.length < fuel)
    (lastStop : Option Nat) :
    (p.findFrom fuel place lastStop).filterMap meaning = (scanner.run text).map f := by
  induction fuel generalizing place text lastStop with
  | zero => exact absurd enough (Nat.not_lt_zero _)
  | succ fuel ih =>
    rw [Pattern.findFrom, Pattern.findNext?]
    rcases h.searchFrom isAt with
      ⟨nothing, run⟩ | ⟨start, stop, rest, r, search, last, some, shorter, run⟩
    · rw [nothing, run]
      rfl
    · have filled : Pattern.Found.isEmpty ⟨start, stop, record r⟩ = false :=
        beq_eq_false_iff_ne.mpr (Nat.ne_of_gt some)
      rw [search, run]
      simp only [filled, Bool.false_and, Bool.false_eq_true, if_false]
      rw [List.filterMap_cons_some (means start stop r), List.map_cons, ih last (by omega)]

/-- A pattern finds what its scanner reads. -/
theorem Describes.findAll (h : scanner.Describes p record)
    (means : ∀ start stop r, meaning ⟨start, stop, record r⟩ = some (f r)) (text : List Char) :
    (p.findAll text).filterMap meaning = (scanner.run text).map f :=
  h.findFrom means (Place.isAt_start text) (Nat.lt_succ_self _) none

end Scanner

end Scaffold
