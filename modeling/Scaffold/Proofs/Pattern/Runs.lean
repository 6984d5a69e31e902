import Mathlib.Data.List.Basic
import Scaffold.Pattern.Match
import Scaffold.Proofs.Text.Runs

/-!
# Literals and runs of characters

Where patterns go on from a place, and with which groups. A literal goes on in one way. A
repetition of the characters of a set goes on one character at a time: if it is greedy it tries
what follows it last, and if it is lazy it tries that first.
-/

namespace Scaffold

variable {α : Type} {c : Char} {text rest taken cs : List Char} {place stop : Place}
  {groups : Groups} {accept : Place → Groups → Option α} {s : CharSet} {greedy : Bool}

namespace Place

/-- The place has the text before it, and knows its length. -/
structure IsAt (place : Place) (text : List Char) : Prop where
  rest : place.rest = text
  left : place.left = text.length

theorem isAt_start (text : List Char) : (start text).IsAt text := ⟨rfl, rfl⟩

def past (place : Place) (c : Char) : Place := ⟨some c, place.rest.tail, place.left - 1⟩

theorem IsAt.past (h : place.IsAt (c :: rest)) : (place.past c).IsAt rest := by
  refine ⟨?_, ?_⟩
  · rw [Place.past, h.rest, List.tail_cons]
  · rw [Place.past, h.left, List.length_cons, Nat.add_sub_cancel]

theorem IsAt.next?_cons (h : place.IsAt (c :: rest)) : place.next? = some (c, place.past c) := by
  rw [next?, Place.past, h.rest, List.tail_cons]

theorem IsAt.next?_nil (h : place.IsAt []) : place.next? = none := by
  rw [next?, h.rest]

theorem IsAt.left_past (h : place.IsAt (c :: rest)) : (place.past c).left < place.left := by
  rw [h.left, h.past.left]
  exact Nat.lt_succ_self rest.length

theorem IsAt.textUpTo (first : place.IsAt (taken ++ rest)) (last : stop.IsAt rest) :
    place.textUpTo stop = taken := by
  rw [Place.textUpTo, first.rest, first.left, last.left, List.length_append, Nat.add_sub_cancel,
    List.take_left]

end Place

namespace Attempt

theorem orElse_apply (a b : Attempt α) :
    orElse a b place groups accept = (a place groups accept).or (b place groups accept) := by
  unfold orElse
  cases a place groups accept <;> rfl

theorem prefer_apply (greedy : Bool) (a : Attempt α) : prefer greedy a place groups accept =
    if greedy then (a place groups accept).or (accept place groups)
    else (accept place groups).or (a place groups accept) := by
  cases greedy
  · exact orElse_apply skip a
  · exact orElse_apply a skip

/-- Without the rounds, what follows is all there is to try. -/
theorem prefer_of_none {a : Attempt α} (h : a place groups accept = none) :
    prefer greedy a place groups accept = accept place groups := by
  rw [prefer_apply, h, Option.none_or, Option.or_none, ite_self]

/-- What is left to do once a text was read: to accept the place behind it, or to give up. -/
inductive GoesOn (accept : Place → Groups → Option α) :
    Option (Groups × List Char) → Option α → Prop
  | fails : GoesOn accept none none
  | stops {stop : Place} {rest : List Char} (groups : Groups) (isAt : stop.IsAt rest) :
    GoesOn accept (some (groups, rest)) (accept stop groups)

namespace GoesOn

variable {β : Type} {result : Option α} {accept' : Place → Groups → Option α}

theorem of_eq {result' : Option α} {read : Option (Groups × List Char)} (same : result' = result)
    (h : GoesOn accept read result) : GoesOn accept read result' :=
  same ▸ h

theorem eq_none (h : GoesOn accept none result) : result = none := by
  cases h
  rfl

theorem exists_stop (h : GoesOn accept (some (groups, rest)) result) :
    ∃ stop, stop.IsAt rest ∧ result = accept stop groups := by
  cases h with
  | stops _ isAt => exact ⟨_, isAt, rfl⟩

theorem andThen {x : Option β} {f : β → Groups × List Char} (h : GoesOn accept (x.map f) result)
    {g : β → Option (Groups × List Char)}
    (next : ∀ b stop, x = some b → stop.IsAt (f b).2 →
      GoesOn accept' (g b) (accept stop (f b).1)) :
    GoesOn accept' (x.bind g) result := by
  cases x with
  | none =>
    cases h
    exact .fails
  | some b =>
    obtain ⟨stop, isAt, rfl⟩ := exists_stop h
    exact next b stop rfl isAt

theorem isSome_eq {read : Option (Groups × List Char)} (h : GoesOn accept read result)
    (accepts : ∀ stop groups, (accept stop groups).isSome = true) :
    result.isSome = read.isSome := by
  cases h with
  | fails => rfl
  | stops groups isAt => exact accepts _ groups

/-- Of two ways on, the first one is taken if everything is accepted. -/
theorem or_of_accepts {read other : Option (Groups × List Char)} {result' : Option α}
    (h : GoesOn accept read result) (h' : GoesOn accept other result')
    (accepts : ∀ stop groups, (accept stop groups).isSome = true) :
    GoesOn accept (read.or other) (result.or result') := by
  cases h with
  | fails => rwa [Option.none_or, Option.none_or]
  | stops groups isAt =>
    rw [Option.or_of_isSome (accepts _ groups)]
    exact .stops groups isAt

theorem group {i : Nat} {x : Option (List Char × List Char)} (h : place.IsAt text)
    (inner : GoesOn (fun stop groups => accept stop ((i, place.textUpTo stop) :: groups))
      (x.map fun read => (groups, read.2)) result)
    (parts : ∀ taken rest, x = some (taken, rest) → taken ++ rest = text) :
    GoesOn accept (x.map fun read => ((i, read.1) :: groups, read.2)) result := by
  cases x with
  | none =>
    cases inner
    exact .fails
  | some read =>
    obtain ⟨taken, rest⟩ := read
    obtain rfl := parts taken rest rfl
    cases inner with
    | stops _ isAt =>
      rw [h.textUpTo isAt]
      exact .stops _ isAt

end GoesOn

end Attempt

namespace Pattern

open Attempt

/-! ## Sequences and choices -/

theorem attempt_sequence_cons (p : Pattern) (ps : List Pattern) :
    (sequence (p :: ps)).attempt place groups accept =
      p.attempt place groups fun stop groups => (sequence ps).attempt stop groups accept := by
  cases ps <;> rfl

theorem attempt_one : (one s).attempt place groups accept =
    match place.next? with
    | some (c, next) => if s.contains c then accept next groups else none
    | none => none := rfl

theorem attempt_choice_nil : (choice []).attempt place groups accept = none := by
  rw [show choice [] = one CharSet.empty from rfl, attempt_one]
  split
  · rfl
  · rfl

theorem attempt_choice_cons (p : Pattern) (ps : List Pattern) :
    (choice (p :: ps)).attempt place groups accept =
      (p.attempt place groups accept).or ((choice ps).attempt place groups accept) := by
  cases ps with
  | nil =>
    rw [attempt_choice_nil, Option.or_none]
    rfl
  | cons q qs => exact Attempt.orElse_apply ..

/-! ## Single characters and literals -/

theorem attempt_one_of_mem (h : place.IsAt (c :: rest)) (mem : s.contains c = true) :
    (one s).attempt place groups accept = accept (place.past c) groups := by
  rw [attempt_one, h.next?_cons]
  exact if_pos mem

theorem attempt_one_of_not_mem (h : place.IsAt text)
    (free : ∀ c ∈ text.head?, s.contains c = false) :
    (one s).attempt place groups accept = none := by
  cases text with
  | nil => rw [attempt_one, h.next?_nil]
  | cons c rest =>
    rw [attempt_one, h.next?_cons]
    simp [free c rfl]

theorem contains_dot (c : Char) : (CharSet.compl (.single '\n')).contains c = (c != '\n') := by
  rw [CharSet.contains, Bool.eq_iff_iff, Bool.not_eq_true', bne_iff_ne, ← Bool.not_eq_true,
    CharSet.contains_single_iff]

def spelled (cs : List Char) : Pattern := sequence (cs.map fun c => one (.single c))

theorem attempt_spelled_cons (c : Char) (cs : List Char) :
    (spelled (c :: cs)).attempt place groups accept =
      (one (.single c)).attempt place groups fun next groups =>
        (spelled cs).attempt next groups accept := by
  rw [spelled, List.map_cons, attempt_sequence_cons]
  rfl

theorem goesOn_spelled (h : place.IsAt text) :
    GoesOn accept ((cs.isPrefixOf? text).map fun rest => (groups, rest))
      ((spelled cs).attempt place groups accept) := by
  induction cs generalizing place text with
  | nil => exact .stops groups h
  | cons c cs ih =>
    rw [attempt_spelled_cons]
    cases text with
    | nil =>
      rw [attempt_one_of_not_mem h (by simp)]
      exact .fails
    | cons d text =>
      rw [List.isPrefixOf?]
      split
      · rename_i same
        rw [attempt_one_of_mem h ((CharSet.contains_single_iff c d).mpr (beq_iff_eq.mp same).symm)]
        exact ih h.past
      · rename_i differs
        rw [attempt_one_of_not_mem h fun e he => ?_]
        · exact .fails
        · cases he
          rw [← Bool.not_eq_true, CharSet.contains_single_iff]
          rintro rfl
          exact differs (beq_self_eq_true d)

theorem isPrefixOf?_append (start more text : List Char) :
    (start ++ more).isPrefixOf? text = (start.isPrefixOf? text).bind more.isPrefixOf? := by
  induction start generalizing text with
  | nil => rfl
  | cons c start ih =>
    cases text with
    | nil => rfl
    | cons d text =>
      rw [List.cons_append, List.isPrefixOf?, List.isPrefixOf?]
      split
      · exact ih text
      · rfl

theorem isPrefixOf?_of_other {start : List Char} (other : c ∉ text.head?) :
    (c :: start).isPrefixOf? text = none := by
  cases text with
  | nil => rfl
  | cons d text =>
    have differs : (c == d) = false := by
      apply beq_eq_false_iff_ne.mpr
      rintro rfl
      exact other rfl
    simp [List.isPrefixOf?, differs]

theorem goesOn_literal (t : String) (h : place.IsAt text) :
    GoesOn accept ((t.toList.isPrefixOf? text).map fun rest => (groups, rest))
      ((literal t).attempt place groups accept) :=
  goesOn_spelled h

theorem goesOn_of_literal {accept' : Place → Groups → Option α}
    {read : Option (Groups × List Char)} (t : String) (rest : List Char)
    (h : place.IsAt (t.toList ++ rest))
    (next : ∀ stop, stop.IsAt rest → GoesOn accept read (accept' stop groups)) :
    GoesOn accept read ((literal t).attempt place groups accept') := by
  have goesOn := @goesOn_literal α _ _ groups accept' t h
  rw [List.isPrefixOf?_eq_some_iff_append_eq.mpr rfl] at goesOn
  obtain ⟨stop, isAt, first⟩ := goesOn.exists_stop
  exact .of_eq first (next stop isAt)

theorem attempt_literal_eq_none (t : String) (h : place.IsAt text)
    (missing : t.toList.isPrefixOf? text = none) :
    (literal t).attempt place groups accept = none := by
  have goesOn := @goesOn_literal α _ _ groups accept t h
  rw [missing] at goesOn
  exact goesOn.eq_none

/-! ## Rounds of a set -/

theorem moreRounds_of_not_mem (h : place.IsAt text)
    (free : ∀ c ∈ text.head?, s.contains c = false) (fuel : Nat) :
    Attempt.moreRounds (one s).attempt greedy fuel place groups accept = accept place groups := by
  cases fuel with
  | zero => rfl
  | succ fuel =>
    rw [Attempt.moreRounds]
    exact Attempt.prefer_of_none (attempt_one_of_not_mem h free)

theorem moreRounds_of_mem (h : place.IsAt (c :: rest)) (mem : s.contains c = true) (fuel : Nat) :
    Attempt.moreRounds (one s).attempt greedy (fuel + 1) place groups accept =
      if greedy then
        (Attempt.moreRounds (one s).attempt greedy fuel (place.past c) groups accept).or
          (accept place groups)
      else
        (accept place groups).or
          (Attempt.moreRounds (one s).attempt greedy fuel (place.past c) groups accept) := by
  rw [Attempt.moreRounds, Attempt.prefer_apply, attempt_one_of_mem h mem, if_pos h.left_past]

theorem rounds_of_mem (h : place.IsAt (c :: rest)) (mem : s.contains c = true) :
    Attempt.rounds (one s).attempt greedy place groups accept =
      Attempt.moreRounds (one s).attempt greedy rest.length (place.past c) groups accept := by
  rw [Attempt.rounds, attempt_one_of_mem h mem, if_pos h.left_past, h.past.left]

theorem rounds_of_not_mem (h : place.IsAt text) (free : ∀ c ∈ text.head?, s.contains c = false) :
    Attempt.rounds (one s).attempt greedy place groups accept = none := by
  rw [Attempt.rounds, attempt_one_of_not_mem h free]

/-! ## Runs of a set -/

variable (s greedy) in
abbrev run : Pattern := repeated (one s) 0 none greedy

variable (s greedy) in
abbrev someRun : Pattern := repeated (one s) 1 none greedy

theorem attempt_run_of_not_mem (h : place.IsAt text)
    (free : ∀ c ∈ text.head?, s.contains c = false) :
    (run s greedy).attempt place groups accept = accept place groups :=
  Attempt.prefer_of_none (rounds_of_not_mem h free)

theorem attempt_run (h : place.IsAt text) :
    (run s greedy).attempt place groups accept =
      Attempt.moreRounds (one s).attempt greedy text.length place groups accept := by
  cases text with
  | nil => rw [attempt_run_of_not_mem h (by simp), moreRounds_of_not_mem h (by simp)]
  | cons c rest =>
    cases mem : s.contains c with
    | false =>
      rw [attempt_run_of_not_mem h (by simp [mem]), moreRounds_of_not_mem h (by simp [mem])]
    | true =>
      rw [List.length_cons, moreRounds_of_mem h mem, ← rounds_of_mem h mem]
      exact Attempt.prefer_apply ..

theorem attempt_run_of_mem (h : place.IsAt (c :: rest)) (mem : s.contains c = true) :
    (run s greedy).attempt place groups accept =
      if greedy then ((run s greedy).attempt (place.past c) groups accept).or (accept place groups)
      else (accept place groups).or ((run s greedy).attempt (place.past c) groups accept) := by
  rw [attempt_run h, List.length_cons, moreRounds_of_mem h mem, attempt_run h.past]

theorem attempt_someRun_of_mem (h : place.IsAt (c :: rest)) (mem : s.contains c = true) :
    (someRun s greedy).attempt place groups accept =
      (run s greedy).attempt (place.past c) groups accept := by
  rw [attempt_run h.past]
  exact rounds_of_mem h mem

theorem attempt_someRun_of_not_mem (h : place.IsAt text)
    (free : ∀ c ∈ text.head?, s.contains c = false) :
    (someRun s greedy).attempt place groups accept = none :=
  rounds_of_not_mem h free

/-- What follows a run is tried at its end first, if the run is greedy. -/
theorem goesOn_run_of_accepts (h : place.IsAt text)
    (accepts : ∀ stop : Place, stop.IsAt (text.dropWhile s.contains) →
      (accept stop groups).isSome = true) :
    GoesOn accept (some (groups, text.dropWhile s.contains))
      ((run s true).attempt place groups accept) := by
  induction text generalizing place with
  | nil =>
    rw [attempt_run_of_not_mem h (by simp)]
    exact .stops groups h
  | cons c rest ih =>
    cases mem : s.contains c with
    | false =>
      rw [attempt_run_of_not_mem h (by simp [mem]), List.dropWhile_cons_of_neg (by simp [mem])]
      exact .stops groups h
    | true =>
      rw [List.dropWhile_cons_of_pos mem] at accepts ⊢
      obtain ⟨stop, isAt, first⟩ := (ih h.past accepts).exists_stop
      rw [attempt_run_of_mem h mem, if_pos rfl, first, Option.or_of_isSome (accepts stop isAt)]
      exact .stops groups isAt

/-- A run goes on from none of its places if what follows starts at none of them. -/
theorem attempt_run_eq_none {back : List Char} (h : place.IsAt (back ++ rest))
    (all : ∀ c ∈ back, s.contains c = true) (ends : ∀ c ∈ rest.head?, s.contains c = false)
    (fails : ∀ (suffix : List Char) (stop : Place), suffix <:+ back → stop.IsAt (suffix ++ rest) →
      accept stop groups = none) :
    (run s greedy).attempt place groups accept = none := by
  induction back generalizing place with
  | nil =>
    rw [attempt_run_of_not_mem h ends]
    exact fails [] place (List.suffix_refl []) h
  | cons c back ih =>
    have later := ih (Place.IsAt.past h) (fun d mem => all d (List.mem_cons_of_mem c mem))
      fun suffix stop isSuffix => fails suffix stop (isSuffix.trans (List.suffix_cons c back))
    rw [attempt_run_of_mem h (all c List.mem_cons_self), later,
      fails (c :: back) place (List.suffix_refl _) h]
    exact ite_self none

/-- A run goes on to its end if what follows cannot start with a character of the run. -/
theorem goesOn_run_of_blocks (h : place.IsAt text)
    (blocks : ∀ (stop : Place) (c : Char) (rest : List Char), stop.IsAt (c :: rest) →
      s.contains c = true → accept stop groups = none) :
    GoesOn accept (some (groups, text.dropWhile s.contains))
      ((run s greedy).attempt place groups accept) := by
  induction text generalizing place with
  | nil =>
    rw [attempt_run_of_not_mem h (by simp)]
    exact .stops groups h
  | cons c rest ih =>
    cases mem : s.contains c with
    | false =>
      rw [attempt_run_of_not_mem h (by simp [mem]), List.dropWhile_cons_of_neg (by simp [mem])]
      exact .stops groups h
    | true =>
      rw [attempt_run_of_mem h mem, blocks place c rest h mem, Option.or_none, Option.none_or,
        ite_self, List.dropWhile_cons_of_pos mem]
      exact ih h.past

theorem goesOn_blanks (mark : String) {ps : List Pattern} (h : place.IsAt text)
    (solid : mark.toList.head?.any (!Text.isBlank ·) = true) :
    GoesOn (fun stop groups => (sequence (literal mark :: ps)).attempt stop groups accept)
      (some (groups, text.dropWhile Text.isBlank))
      (blankStar.attempt place groups fun stop groups =>
        (sequence (literal mark :: ps)).attempt stop groups accept) := by
  refine goesOn_run_of_blocks (s := .blank) h ?_
  intro stop c rest isAt blank
  rw [attempt_sequence_cons]
  apply attempt_literal_eq_none mark isAt
  obtain ⟨d, head, solid⟩ := (Option.any_eq_true ..).mp solid
  obtain ⟨start, spelled⟩ := List.head?_eq_some_iff.mp head
  rw [spelled]
  apply isPrefixOf?_of_other
  rintro ⟨⟩
  exact absurd solid (by rw [show Text.isBlank c = true from blank]; decide)

/-- A lazy run ends at the first character from which what follows goes on. -/
theorem goesOn_lazyRun {starts : Char → Bool} (h : place.IsAt text)
    (fails : ∀ (stop : Place) (text : List Char), stop.IsAt text →
      (∀ c ∈ text.head?, starts c = false) → accept stop groups = none)
    (accepts : ∀ (stop : Place) (c : Char) (rest : List Char), stop.IsAt (c :: rest) →
      starts c = true → (accept stop groups).isSome = true) :
    GoesOn accept (some (groups, text.dropWhile fun c => !starts c && s.contains c))
      ((run s false).attempt place groups accept) := by
  induction text generalizing place with
  | nil =>
    rw [attempt_run_of_not_mem h (by simp)]
    exact .stops groups h
  | cons c rest ih =>
    cases mem : s.contains c with
    | false =>
      rw [attempt_run_of_not_mem h (by simp [mem]), List.dropWhile_cons_of_neg (by simp [mem])]
      exact .stops groups h
    | true =>
      rw [attempt_run_of_mem h mem, if_neg Bool.false_ne_true]
      -- `starts` tells where the rest can be accepted at all: the shortest run ends there.
      cases begins : starts c with
      | false =>
        rw [fails place _ h (by simp [begins]), Option.none_or,
          List.dropWhile_cons_of_pos (by simp [begins, mem])]
        exact ih h.past
      | true =>
        rw [Option.or_of_isSome (accepts place c rest h begins),
          List.dropWhile_cons_of_neg (by simp [begins])]
        exact .stops groups h

/-- At least one character of a kind, as many as there are, and what is behind them. -/
def takeRun? (kind : Char → Bool) (text : List Char) : Option (List Char × List Char) :=
  if (text.takeWhile kind).isEmpty then none else some (text.takeWhile kind, text.dropWhile kind)

theorem takeRun?_parts {kind : Char → Bool} (h : takeRun? kind text = some (taken, rest)) :
    taken ++ rest = text := by
  unfold takeRun? at h
  split at h
  · cases h
  · cases h
    exact List.takeWhile_append_dropWhile

theorem takeRun?_cons_of_pos {kind : Char → Bool} (mem : kind c = true) :
    takeRun? kind (c :: rest) = some (c :: rest.takeWhile kind, rest.dropWhile kind) := by
  rw [takeRun?, List.takeWhile_cons_of_pos mem, List.dropWhile_cons_of_pos mem]
  rfl

theorem takeRun?_of_neg {kind : Char → Bool} (free : ∀ c ∈ text.head?, kind c = false) :
    takeRun? kind text = none := by
  cases text with
  | nil => rfl
  | cons c rest => rw [takeRun?, List.takeWhile_cons_of_neg (by simp [free c rfl])]; rfl

theorem takeRun?_append {kind : Char → Bool} (nonempty : taken ≠ [])
    (all : ∀ c ∈ taken, kind c = true) (ends : ∀ c ∈ rest.head?, kind c = false) :
    takeRun? kind (taken ++ rest) = some (taken, rest) := by
  rw [takeRun?, Text.takeWhile_run all ends, Text.dropWhile_run all ends,
    if_neg (by simpa using nonempty)]

/-- A run that is taken ends where the next character is of another kind. -/
theorem not_of_takeRun? {kind : Char → Bool} (h : takeRun? kind text = some (taken, c :: rest)) :
    kind c = false := by
  unfold takeRun? at h
  split at h
  · cases h
  · injection h with h
    have next := List.head?_dropWhile_not kind text
    rw [(Prod.mk.inj h).2] at next
    simpa using next

theorem goesOn_someRun (h : place.IsAt text)
    (inner : ∀ c rest, text = c :: rest → s.contains c = true →
      GoesOn accept (some (groups, rest.dropWhile s.contains))
        ((run s greedy).attempt (place.past c) groups accept)) :
    GoesOn accept ((takeRun? s.contains text).map fun read => (groups, read.2))
      ((someRun s greedy).attempt place groups accept) := by
  cases text with
  | nil =>
    rw [attempt_someRun_of_not_mem h (by simp), takeRun?_of_neg (by simp)]
    exact .fails
  | cons c rest =>
    cases mem : s.contains c with
    | false =>
      rw [attempt_someRun_of_not_mem h (by simp [mem]), takeRun?_of_neg (by simp [mem])]
      exact .fails
    | true =>
      rw [attempt_someRun_of_mem h mem, takeRun?_cons_of_pos mem]
      exact inner c rest rfl mem

theorem goesOn_someRun_of_accepts (h : place.IsAt text)
    (accepts : ∀ stop groups, (accept stop groups).isSome = true) :
    GoesOn accept ((takeRun? s.contains text).map fun read => (groups, read.2))
      ((someRun s true).attempt place groups accept) := by
  refine goesOn_someRun h fun c rest same _ => ?_
  subst same
  exact goesOn_run_of_accepts h.past fun stop _ => accepts stop groups

theorem goesOn_someRun_of_blocks (h : place.IsAt text)
    (blocks : ∀ (stop : Place) (c : Char) (rest : List Char), stop.IsAt (c :: rest) →
      s.contains c = true → accept stop groups = none) :
    GoesOn accept ((takeRun? s.contains text).map fun read => (groups, read.2))
      ((someRun s greedy).attempt place groups accept) := by
  refine goesOn_someRun h fun c rest same _ => ?_
  subst same
  exact goesOn_run_of_blocks h.past blocks

theorem goesOn_word (h : place.IsAt text)
    (accepts : ∀ stop groups, (accept stop groups).isSome = true) :
    GoesOn accept ((takeRun? Text.isWord text).map fun read => (groups, read.2))
      (wordPlus.attempt place groups accept) := by
  change GoesOn accept ((takeRun? CharSet.word.contains text).map _)
    ((someRun .word true).attempt _ _ _)
  exact goesOn_someRun_of_accepts h accepts

end Pattern

end Scaffold
