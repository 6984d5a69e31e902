import Mathlib.Data.List.DropRight
import Mathlib.Data.List.TakeWhile
import Scaffold.Text.Blank
import Scaffold.Text.Word

/-!
# Runs of characters

The characters of a kind at the front of a text, where the text behind it begins with none of them.
Blanks at both ends of a text are what trimming takes off, and pieces without separators are what
a text between separators falls apart into.
-/

namespace Scaffold.Text

variable {kind : Char → Bool} {run rest : List Char}

theorem takeWhile_append (stop : ∀ c ∈ rest.head?, kind c = false) (cs : List Char) :
    (cs ++ rest).takeWhile kind = cs.takeWhile kind := by
  induction cs with
  | nil =>
    cases rest with
    | nil => rfl
    | cons c rest =>
      rw [List.nil_append, List.takeWhile_cons_of_neg (by simp [stop c rfl]), List.takeWhile_nil]
  | cons c cs ih => rw [List.cons_append, List.takeWhile_cons, List.takeWhile_cons, ih]

theorem dropWhile_append (stop : ∀ c ∈ rest.head?, kind c = false) (cs : List Char) :
    (cs ++ rest).dropWhile kind = cs.dropWhile kind ++ rest := by
  induction cs with
  | nil =>
    cases rest with
    | nil => rfl
    | cons c rest =>
      rw [List.nil_append, List.dropWhile_cons_of_neg (by simp [stop c rfl]), List.dropWhile_nil,
        List.nil_append]
  | cons c cs ih =>
    rw [List.cons_append, List.dropWhile_cons, List.dropWhile_cons, ih]
    split <;> rfl

theorem takeWhile_run (all : ∀ c ∈ run, kind c = true) (stop : ∀ c ∈ rest.head?, kind c = false) :
    (run ++ rest).takeWhile kind = run := by
  rw [takeWhile_append stop, List.takeWhile_eq_self_iff.mpr all]

theorem dropWhile_run (all : ∀ c ∈ run, kind c = true) (stop : ∀ c ∈ rest.head?, kind c = false) :
    (run ++ rest).dropWhile kind = rest := by
  rw [dropWhile_append stop, List.dropWhile_eq_nil_iff.mpr all, List.nil_append]

/-! ## Blanks -/

theorem isBlank_of_isWord {c : Char} (h : isWord c = true) : isBlank c = false := by
  have blanks : ∀ n ∈ [9, 10, 11, 12, 13, 0x20, 0x85, 0xA0, 0x1680, 0x2000, 0x2001, 0x2002, 0x2003,
      0x2004, 0x2005, 0x2006, 0x2007, 0x2008, 0x2009, 0x200A, 0x2028, 0x2029, 0x202F, 0x205F,
      0x3000], isWord (Char.ofNat n) = false := by decide +kernel
  rw [← Bool.not_eq_true]
  intro blank
  have known := blanks c.toNat (by
    simp only [isBlank, Bool.or_eq_true, Bool.and_eq_true, decide_eq_true_eq,
      beq_iff_eq] at blank
    simp only [List.mem_cons, List.not_mem_nil, or_false]
    omega)
  rw [Char.ofNat_toNat, h] at known
  cases known

theorem isWord_of_isBlank {c : Char} (h : isBlank c = true) : isWord c = false := by
  rw [← Bool.not_eq_true]
  intro isWord
  rw [isBlank_of_isWord isWord] at h
  cases h

theorem trim_parts (cs : List Char) :
    ∃ front back, cs = front ++ trim cs ++ back ∧ ∀ c ∈ front ++ back, isBlank c = true := by
  have start := List.takeWhile_append_dropWhile (p := isBlank) (l := cs)
  have ending := List.takeWhile_append_dropWhile (p := isBlank) (l := (trimStart cs).reverse)
  refine ⟨cs.takeWhile isBlank, ((trimStart cs).reverse.takeWhile isBlank).reverse, ?_, ?_⟩
  · have whole : trim cs ++ ((trimStart cs).reverse.takeWhile isBlank).reverse = trimStart cs := by
      rw [trim, trimEnd, ← List.reverse_append, ending, List.reverse_reverse]
    rw [List.append_assoc, whole, trimStart, start]
  · intro c mem
    rcases List.mem_append.mp mem with mem | mem
    · exact List.mem_takeWhile_imp mem
    · exact List.mem_takeWhile_imp (List.mem_reverse.mp mem)

theorem isBlank_of_trim_eq_nil {cs : List Char} (blank : trim cs = []) :
    ∀ c ∈ cs, isBlank c = true := by
  obtain ⟨front, back, same, blanks⟩ := trim_parts cs
  rw [blank, List.append_nil] at same
  rwa [same]

theorem trim_trimStart (cs : List Char) : trim (trimStart cs) = trim cs := by
  rw [trim, trim, trimStart, trimStart, List.dropWhile_idempotent]

theorem head?_trim (cs : List Char) : ∀ c ∈ (trim cs).head?, isBlank c = false := by
  intro c first
  obtain ⟨rest, core⟩ := List.head?_eq_some_iff.mp first
  have ending : (trim cs).reverse = (trimStart cs).reverse.dropWhile isBlank :=
    List.reverse_reverse _
  have inFront : trim cs <+: trimStart cs := by
    rw [← List.reverse_suffix, ending]
    exact List.dropWhile_suffix _
  have start : (cs.dropWhile isBlank).head? = some c := by
    obtain ⟨back, whole⟩ := inFront
    rw [trimStart, core] at whole
    rw [← whole]
    rfl
  have stops := List.head?_dropWhile_not isBlank cs
  rwa [start] at stops

theorem getLast?_trim (cs : List Char) : ∀ c ∈ (trim cs).getLast?, isBlank c = false := by
  intro c last
  rw [trim, trimEnd, List.getLast?_reverse] at last
  have stops := List.head?_dropWhile_not isBlank (trimStart cs).reverse
  rwa [last] at stops

theorem trim_of_ends {front core back : List Char}
    (blank : ∀ c ∈ front ++ back, isBlank c = true) (first : ∀ c ∈ core.head?, isBlank c = false)
    (last : ∀ c ∈ core.getLast?, isBlank c = false) : trim (front ++ core ++ back) = core := by
  cases core with
  | nil =>
    rw [List.append_nil, trim, trimStart, List.dropWhile_eq_nil_iff.mpr blank]
    rfl
  | cons c core =>
    have start : trimStart (front ++ (c :: core) ++ back) = (c :: core) ++ back := by
      rw [List.append_assoc]
      exact dropWhile_run (fun d mem => blank d (List.mem_append_left back mem)) first
    rw [trim, start, trimEnd, List.reverse_append, dropWhile_run, List.reverse_reverse]
    · exact fun d mem => blank d (List.mem_append_right front (List.mem_reverse.mp mem))
    · rwa [List.head?_reverse]

theorem trim_of_blanks {front word back : List Char}
    (blank : ∀ c ∈ front ++ back, isBlank c = true) (solid : ∀ c ∈ word, isBlank c = false) :
    trim (front ++ word ++ back) = word :=
  trim_of_ends blank (fun c head => solid c (List.mem_of_mem_head? head))
    fun c last => solid c (List.mem_of_mem_getLast? last)

/-! ## Pieces -/

theorem splitAt_eq_singleton {p : Char → Bool} {cs : List Char} (h : ∀ c ∈ cs, p c = false) :
    Text.splitAt p cs = [cs] := by
  induction cs with
  | nil => rfl
  | cons c rest ih =>
    rw [Text.splitAt, ih fun d hd => h d (List.mem_cons_of_mem c hd), h c List.mem_cons_self]
    rfl

theorem splitAt_append {p : Char → Bool} {separator : Char} {piece : List Char}
    (separates : p separator = true) (free : ∀ c ∈ piece, p c = false) (rest : List Char) :
    splitAt p (piece ++ separator :: rest) = piece :: splitAt p rest := by
  induction piece with
  | nil => rw [List.nil_append, splitAt, if_pos separates]
  | cons c piece ih =>
    rw [List.cons_append, splitAt, ih fun d mem => free d (List.mem_cons_of_mem c mem),
      free c List.mem_cons_self]
    rfl

theorem splitAt_joinWith {p : Char → Bool} {separator : Char} {pieces : List (List Char)}
    (separates : p separator = true) (some : pieces ≠ [])
    (free : ∀ piece ∈ pieces, ∀ c ∈ piece, p c = false) :
    splitAt p (joinWith [separator] pieces) = pieces := by
  induction pieces with
  | nil => exact absurd rfl some
  | cons piece pieces ih =>
    have first := free piece List.mem_cons_self
    cases pieces with
    | nil => exact splitAt_eq_singleton first
    | cons second pieces =>
      rw [joinWith, List.append_assoc, List.singleton_append, splitAt_append separates first,
        ih (List.cons_ne_nil second pieces) fun piece mem => free piece (List.mem_cons_of_mem _ mem)]
      exact List.cons_ne_nil second pieces

theorem joinWith_splitAt (separator : Char) (cs : List Char) :
    joinWith [separator] (splitAt (· == separator) cs) = cs := by
  induction cs with
  | nil => rfl
  | cons c cs ih =>
    rw [splitAt]
    split
    · rename_i separates
      rw [joinWith, ih, eq_of_beq separates]
      · rfl
      · exact fun none => absurd none (splitAt_ne_nil _ cs)
    · have some := splitAt_ne_nil (· == separator) cs
      obtain ⟨piece, pieces, same⟩ := List.exists_cons_of_ne_nil some
      rw [same] at ih ⊢
      cases pieces with
      | nil => exact congrArg (c :: ·) ih
      | cons second pieces => exact congrArg (c :: ·) ih

end Scaffold.Text
