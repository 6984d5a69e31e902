import Scaffold.Proofs.Source.Calls
import Scaffold.Proofs.Source.Exports

/-!
# Writing exports

Declarations that export something, written one on a line. Reading such a text gives back the names
that are declared, to each kind of module those that it exports. A name may look like a keyword: no
rule goes on from inside it, because behind it there stands neither a keyword nor, after blanks, the
beginning of one.
-/

namespace Scaffold

inductive DeclarationKind
  | asyncFunction
  | plainFunction
  | asyncArrow
  | number (value : Nat)
  | emptyClass
  deriving Repr, DecidableEq

namespace DeclarationKind

/-- What stands between the first keyword and the name. -/
def keywords : DeclarationKind → List String
  | asyncFunction => ["async", "function"]
  | plainFunction => ["function"]
  | asyncArrow | number _ => ["const"]
  | emptyClass => ["class"]

/-- What stands behind the name, with or without blanks before it. -/
def marks : DeclarationKind → List String
  | asyncArrow => ["=", "async"]
  | number _ => ["="]
  | asyncFunction | plainFunction | emptyClass => []

def closing : DeclarationKind → List Char
  | asyncFunction | plainFunction => "() \x7b\x7d".toList
  | asyncArrow => " () => \x7b\x7d".toList
  | number value => ' ' :: ((toString value).toList ++ [';'])
  | emptyClass => " \x7b\x7d".toList

theorem closing_number (value : Nat) :
    (number value).closing = ' ' :: ((toString value).toList ++ [';']) := rfl

/-- What controllers export. -/
def isFunction : DeclarationKind → Bool
  | asyncFunction | plainFunction | asyncArrow => true
  | number _ | emptyClass => false

end DeclarationKind

namespace ExportForm

def Reads (form : ExportForm) (kind : DeclarationKind) : Prop :=
  kind.keywords ∈ form.heads ∧ form.marks <+: kind.marks

instance (form : ExportForm) (kind : DeclarationKind) : Decidable (form.Reads kind) :=
  inferInstanceAs (Decidable (_ ∧ _))

end ExportForm

structure Declaration where
  kind : DeclarationKind
  name : List Char
  /-- The blanks behind each keyword. -/
  gap : String → List Char
  /-- The blanks before each mark behind the name, if there are any. -/
  margin : String → List Char
  isWord : IsWord name
  gap_ne_nil : ∀ keyword, gap keyword ≠ []
  gap_blank : ∀ keyword, ∀ c ∈ gap keyword, Text.isBlank c = true
  margin_blank : ∀ mark, ∀ c ∈ margin mark, Text.isBlank c = true

namespace Declaration

open ExportForm Pattern

def spaced (d : Declaration) (keywords : List String) : List Char :=
  keywords.flatMap fun keyword => keyword.toList ++ d.gap keyword

def marked (d : Declaration) (marks : List String) : List Char :=
  marks.flatMap fun mark => d.margin mark ++ mark.toList

def tail (d : Declaration) : List Char := d.marked d.kind.marks ++ d.kind.closing

def line (d : Declaration) : List Char :=
  d.spaced ("export" :: d.kind.keywords) ++ (d.name ++ d.tail)

def exported (d : Declaration) : String := String.ofList d.name

/-- The declarations stand in the text, one on a line. The last line may have an end or not. -/
inductive Lines : List Declaration → List Char → Prop
  | none : Lines [] []
  | last (d : Declaration) : Lines [d] d.line
  | more {ds : List Declaration} {text : List Char} (d : Declaration) (lines : Lines ds text) :
    Lines (d :: ds) (d.line ++ '\n' :: text)

variable {d : Declaration} {kind : ModuleKind} {form : ExportForm} {text rest chunk : List Char}
  {words marks : List String} {c : Char}

/-! ## Where no export begins -/

theorem exportAt?_eq_none (other : ∀ c ∈ text.head?, c ≠ 'e') : form.exportAt? text = none := by
  have first : "export".toList.isPrefixOf? text = none := by
    apply isPrefixOf?_of_other
    intro mem
    exact other 'e' mem rfl
  rw [exportAt?, keywordsAt?_cons, first]
  rfl

theorem run_past (free : 'e' ∉ chunk) :
    form.scanner.run (chunk ++ rest) = form.scanner.run rest := by
  apply Scanner.run_append
  intro suffix isSuffix nonempty
  obtain ⟨c, suffix, rfl⟩ := List.exists_cons_of_ne_nil nonempty
  refine exportAt?_eq_none ?_
  rintro _ ⟨⟩ rfl
  exact free (isSuffix.mem List.mem_cons_self)

theorem run_newline : form.scanner.run ('\n' :: rest) = form.scanner.run rest := by
  rw [← List.singleton_append]
  exact run_past (by decide)

theorem not_mem_blanks (blank : ∀ c ∈ chunk, Text.isBlank c = true) : 'e' ∉ chunk :=
  fun mem => absurd (blank 'e' mem) (by decide)

theorem not_mem_spaced (d : Declaration) (free : ∀ word ∈ words, 'e' ∉ word.toList) :
    'e' ∉ d.spaced words := by
  intro mem
  obtain ⟨word, listed, mem⟩ := List.mem_flatMap.mp mem
  rcases List.mem_append.mp mem with mem | mem
  · exact free word listed mem
  · exact not_mem_blanks (d.gap_blank word) mem

theorem not_mem_marked (d : Declaration) (free : ∀ mark ∈ marks, 'e' ∉ mark.toList) :
    'e' ∉ d.marked marks := by
  intro mem
  obtain ⟨mark, listed, mem⟩ := List.mem_flatMap.mp mem
  rcases List.mem_append.mp mem with mem | mem
  · exact not_mem_blanks (d.margin_blank mark) mem
  · exact free mark listed mem

theorem toList_toString (value : Nat) : (toString value).toList = Nat.toDigits 10 value :=
  Nat.toList_repr

theorem isDigit_of_mem {value : Nat} (mem : c ∈ (toString value).toList) : c.isDigit = true := by
  rw [toList_toString] at mem
  exact Nat.isDigit_of_mem_toDigits (by decide) (by decide) mem

theorem not_mem_closing (kind : DeclarationKind) : 'e' ∉ kind.closing := by
  cases kind with
  | number value =>
    intro mem
    rcases List.mem_cons.mp mem with h | mem
    · cases h
    · rcases List.mem_append.mp mem with mem | mem
      · exact absurd (isDigit_of_mem mem) (by decide)
      · cases List.mem_singleton.mp mem
  | asyncFunction | plainFunction | asyncArrow | emptyClass => decide

theorem not_mem_keywords (kind : DeclarationKind) : ∀ word ∈ kind.keywords, 'e' ∉ word.toList := by
  cases kind <;> simp [DeclarationKind.keywords]

theorem not_mem_marks (kind : DeclarationKind) : ∀ mark ∈ kind.marks, 'e' ∉ mark.toList := by
  cases kind <;> simp [DeclarationKind.marks]

theorem not_mem_tail (d : Declaration) : 'e' ∉ d.tail := fun mem =>
  (List.mem_append.mp mem).elim (d.not_mem_marked (not_mem_marks d.kind)) (not_mem_closing d.kind)

theorem marked_assigned (d : Declaration) (more : List String) (behind : List Char) :
    d.marked ("=" :: more) ++ behind = d.margin "=" ++ '=' :: (d.marked more ++ behind) := by
  simp [marked]

/-- Behind a name, after blanks if there are any, stands what is neither a blank nor in a word. -/
theorem tail_opens (d : Declaration) : ∃ blanks c behind, d.tail = blanks ++ c :: behind ∧
    (∀ b ∈ blanks, Text.isBlank b = true) ∧ Text.isWord c = false ∧ Text.isBlank c = false := by
  unfold tail
  cases d.kind with
  | asyncFunction | plainFunction => exact ⟨[], '(', _, rfl, by simp, by decide, by decide⟩
  | asyncArrow | number =>
    exact ⟨d.margin "=", '=', _, d.marked_assigned _ _, d.margin_blank "=", by decide, by decide⟩
  | emptyClass =>
    exact ⟨[' '], '\x7b', _, rfl, List.all_eq_true.mp (by decide), by decide, by decide⟩

theorem tail_noWord (d : Declaration) (rest : List Char) :
    ∀ c ∈ (d.tail ++ rest).head?, Text.isWord c = false := by
  obtain ⟨blanks, c, behind, tail, blank, noWord, -⟩ := d.tail_opens
  rw [tail]
  cases blanks with
  | nil =>
    rintro _ ⟨⟩
    exact noWord
  | cons b blanks =>
    rintro _ ⟨⟩
    exact Text.isWord_of_isBlank (blank b List.mem_cons_self)

/-- Where a name ends nothing is read as if it were the first keyword. -/
theorem headedAt?_tail (d : Declaration) (form : ExportForm) (rest : List Char) :
    (Table.blanksAt? (d.tail ++ rest)).bind form.headedAt? = none := by
  obtain ⟨blanks, c, behind, tail, blank, noWord, noBlank⟩ := d.tail_opens
  have ends : ∀ b ∈ (c :: (behind ++ rest)).head?, Text.isBlank b = false := by
    rintro _ ⟨⟩
    exact noBlank
  rw [tail, List.append_assoc, List.cons_append, Table.blanksAt?]
  by_cases none : blanks = []
  · rw [none, List.nil_append, takeRun?_of_neg ends]
    rfl
  · rw [takeRun?_append none blank ends]
    exact headedAt?_eq_none noWord

theorem run_name (d : Declaration) (form : ExportForm) (rest : List Char) :
    form.scanner.run (d.name ++ (d.tail ++ rest)) = form.scanner.run (d.tail ++ rest) := by
  apply Scanner.run_append
  intro suffix isSuffix nonempty
  change (keywordsAt? ["export"] (suffix ++ (d.tail ++ rest))).bind form.headedAt? = none
  rw [keywordsAt?_cons, Option.bind_assoc, Option.bind_assoc]
  apply Option.bind_eq_none_iff.mpr
  intro behind begins
  change (Table.blanksAt? behind).bind form.headedAt? = none
  have spelled : ∀ c ∈ "export".toList, Text.isWord c = true := List.all_eq_true.mp (by decide)
  rcases List.append_eq_append_iff.mp (List.isPrefixOf?_eq_some_iff_append_eq.mp begins) with
    ⟨more, name, rfl⟩ | ⟨more, keyword, tail⟩
  · cases more with
    | nil => exact d.headedAt?_tail form rest
    | cons c more =>
      -- the name goes on where there would have to be a blank
      have isWord : Text.isWord c = true :=
        d.isWord.2 c (isSuffix.mem (name ▸ List.mem_append_right _ List.mem_cons_self))
      rw [Table.blanksAt?, takeRun?_of_neg]
      · rfl
      · rintro _ ⟨⟩
        exact Text.isBlank_of_isWord isWord
  · cases more with
    | nil =>
      rw [List.nil_append] at tail
      rw [← tail]
      exact d.headedAt?_tail form rest
    | cons c more =>
      -- the keyword would have to go on behind the name
      have isWord := spelled c (keyword ▸ List.mem_append_right _ List.mem_cons_self)
      have noWord := d.tail_noWord rest c (tail ▸ rfl)
      rw [isWord] at noWord
      cases noWord

/-! ## Reading a declaration at its beginning -/

theorem blanksAt?_gap (d : Declaration) (word : String)
    (ends : ∀ c ∈ rest.head?, Text.isBlank c = false) :
    Table.blanksAt? (d.gap word ++ rest) = some rest := by
  rw [Table.blanksAt?, takeRun?_append (d.gap_ne_nil word) (d.gap_blank word) ends]
  rfl

theorem head?_spaced (d : Declaration)
    (areWords : ∀ word ∈ words, word.toList.head?.any Text.isWord = true)
    (ends : ∀ c ∈ rest.head?, Text.isBlank c = false) :
    ∀ c ∈ (d.spaced words ++ rest).head?, Text.isBlank c = false := by
  cases words with
  | nil => exact ends
  | cons word words =>
    obtain ⟨c, head, isWord⟩ := (Option.any_eq_true ..).mp (areWords word List.mem_cons_self)
    obtain ⟨start, spelled⟩ := List.head?_eq_some_iff.mp head
    rw [spaced, List.flatMap_cons, spelled]
    rintro _ ⟨⟩
    exact Text.isBlank_of_isWord isWord

theorem keywordsAt?_spaced (d : Declaration)
    (areWords : ∀ word ∈ words, word.toList.head?.any Text.isWord = true)
    (ends : ∀ c ∈ rest.head?, Text.isBlank c = false) :
    keywordsAt? words (d.spaced words ++ rest) = some rest := by
  induction words with
  | nil => rfl
  | cons word words ih =>
    obtain ⟨-, later⟩ := List.forall_mem_cons.mp areWords
    have parts : d.spaced (word :: words) ++ rest =
        word.toList ++ (d.gap word ++ (d.spaced words ++ rest)) := by
      simp [spaced]
    have begins := List.isPrefixOf?_eq_some_iff_append_eq.mpr parts.symm
    rw [keywordsAt?_cons, begins, Option.bind_some,
      d.blanksAt?_gap word (d.head?_spaced later ends), Option.bind_some, ih later]

/-- What the keywords of a declaration may be. -/
def heads : List (List String) := [["async", "function"], ["function"], ["const"], ["class"]]

theorem areWords_of_mem_heads {head : List String} (mem : head ∈ heads) :
    ∀ word ∈ head, word.toList.head?.any Text.isWord = true := by
  have all : ∀ head ∈ heads, ∀ word ∈ head, word.toList.head?.any Text.isWord = true := by decide
  exact all head mem

/-- The first keyword behind `export` tells what declaration it is. -/
theorem keywordsAt?_heads (d : Declaration) (ends : ∀ c ∈ rest.head?, Text.isBlank c = false) :
    ∀ head ∈ heads, ∀ other ∈ heads, keywordsAt? head (d.spaced other ++ rest) =
      if other = head then some rest else none := by
  intro head mem other mem'
  split
  · rename_i same
    subst same
    exact d.keywordsAt?_spaced (areWords_of_mem_heads mem) ends
  · rename_i differs
    simp only [heads, List.mem_cons, List.not_mem_nil, or_false] at mem mem'
    rcases mem with rfl | rfl | rfl | rfl <;> rcases mem' with rfl | rfl | rfl | rfl <;>
      first | exact absurd rfl differs | rfl

theorem heads_of_mem (mem : form ∈ kind.forms) : ∀ head ∈ form.heads, head ∈ heads := by
  have all : ∀ form ∈ kind.forms, ∀ head ∈ form.heads, head ∈ heads := by
    cases kind <;> decide
  exact all form mem

theorem keywords_mem_heads (kind : DeclarationKind) : kind.keywords ∈ heads := by
  cases kind <;> simp [DeclarationKind.keywords, heads]

theorem headedAt?_spaced (d : Declaration) (mem : form ∈ kind.forms)
    (ends : ∀ c ∈ rest.head?, Text.isBlank c = false) :
    form.headedAt? (d.spaced d.kind.keywords ++ rest) =
      if d.kind.keywords ∈ form.heads then form.namedAt? rest else none := by
  have known := heads_of_mem mem
  rw [headedAt?]
  revert known
  induction form.heads with
  | nil => exact fun _ => rfl
  | cons head others ih =>
    intro known
    obtain ⟨first, later⟩ := List.forall_mem_cons.mp known
    rw [List.findSome?_cons,
      d.keywordsAt?_heads ends head first d.kind.keywords (keywords_mem_heads d.kind), ih later]
    by_cases same : d.kind.keywords = head
    · rw [if_pos same, if_pos (List.mem_cons.mpr (.inl same)), Option.bind_some]
      cases form.namedAt? rest with
      | none => exact ite_self none
      | some read => rfl
    · simp [same]

theorem marksAt?_marked (d : Declaration)
    (areSolid : ∀ mark ∈ marks, mark.toList.head?.any (!Text.isBlank ·) = true) :
    marksAt? marks (d.marked marks ++ rest) = some rest := by
  induction marks with
  | nil => rfl
  | cons mark marks ih =>
    obtain ⟨first, later⟩ := List.forall_mem_cons.mp areSolid
    obtain ⟨c, head, solid⟩ := (Option.any_eq_true ..).mp first
    obtain ⟨start, spelled⟩ := List.head?_eq_some_iff.mp head
    have parts : d.marked (mark :: marks) ++ rest =
        d.margin mark ++ (mark.toList ++ (d.marked marks ++ rest)) := by
      simp [marked]
    have begins : (d.marked (mark :: marks) ++ rest).dropWhile Text.isBlank =
        mark.toList ++ (d.marked marks ++ rest) := by
      rw [parts, spelled]
      refine Text.dropWhile_run (d.margin_blank mark) ?_
      rintro _ ⟨⟩
      simpa using solid
    rw [marksAt?, begins, List.isPrefixOf?_eq_some_iff_append_eq.mpr rfl, Option.bind_some,
      ih later]

theorem namedAt?_name (d : Declaration) (form : ExportForm) (rest : List Char) :
    form.namedAt? (d.name ++ (d.tail ++ rest)) =
      (marksAt? form.marks (d.tail ++ rest)).map fun left => (d.name, left) := by
  rw [namedAt?, takeRun?_append d.isWord.1 d.isWord.2 (d.tail_noWord rest)]
  rfl

theorem exportAt?_line (d : Declaration) (mem : form ∈ kind.forms) (rest : List Char) :
    form.exportAt? (d.line ++ rest) =
      if d.kind.keywords ∈ form.heads then
        (marksAt? form.marks (d.tail ++ rest)).map fun left => (d.name, left)
      else none := by
  obtain ⟨c, more, name⟩ := List.exists_cons_of_ne_nil d.isWord.1
  have isWord : Text.isWord c = true := d.isWord.2 c (name ▸ List.mem_cons_self)
  have ends : ∀ c ∈ (d.name ++ (d.tail ++ rest)).head?, Text.isBlank c = false := by
    rw [name]
    rintro _ ⟨⟩
    exact Text.isBlank_of_isWord isWord
  have parts : d.line ++ rest = d.spaced ["export"] ++
      (d.spaced d.kind.keywords ++ (d.name ++ (d.tail ++ rest))) := by
    simp [line, spaced]
  have areWords := areWords_of_mem_heads (keywords_mem_heads d.kind)
  rw [exportAt?, parts, d.keywordsAt?_spaced (by decide) (d.head?_spaced areWords ends),
    Option.bind_some, d.headedAt?_spaced mem ends, d.namedAt?_name]

/-- If a rule reads a declaration, what it leaves of it has nothing to do with exports. -/
theorem exportAt?_of_reads (d : Declaration) (mem : form ∈ kind.forms) (reads : form.Reads d.kind)
    (rest : List Char) : ∃ left, 'e' ∉ left ∧
      form.exportAt? (d.line ++ rest) = some (d.name, left ++ rest) := by
  obtain ⟨headed, more, same⟩ := reads
  have parts : d.tail = d.marked form.marks ++ (d.marked more ++ d.kind.closing) := by
    rw [tail, ← same]
    simp [marked]
  have free := not_mem_tail d
  rw [parts] at free
  refine ⟨d.marked more ++ d.kind.closing, fun mem => free (List.mem_append_right _ mem), ?_⟩
  rw [d.exportAt?_line mem, if_pos headed, parts, List.append_assoc,
    d.marksAt?_marked form.areSolid]
  rfl

theorem isBlank_of_isDigit (h : c.isDigit = true) : Text.isBlank c = false := by
  have bounds : 48 ≤ c.toNat ∧ c.toNat ≤ 57 := by
    simpa [Char.isDigit, UInt32.le_iff_toNat_le] using h
  simp only [Text.isBlank, Bool.or_eq_false_iff, Bool.and_eq_false_iff, decide_eq_false_iff_not,
    beq_eq_false_iff_ne]
  omega

/-- A number is no asynchronous function. -/
theorem marksAt?_number (d : Declaration) {value : Nat} (number : d.kind = .number value) :
    marksAt? ["=", "async"] (d.tail ++ rest) = none := by
  have some : (toString value).toList ≠ [] := by
    rw [toList_toString]
    exact Nat.toDigits_ne_nil
  obtain ⟨c, digits, spelled⟩ := List.exists_cons_of_ne_nil some
  have mem : c ∈ (toString value).toList := by
    rw [spelled]
    exact List.mem_cons_self
  have isDigit := isDigit_of_mem mem
  have parts : d.tail ++ rest = d.marked ["="] ++ (' ' :: c :: (digits ++ ';' :: rest)) := by
    rw [tail, number, DeclarationKind.marks, DeclarationKind.closing_number, spelled]
    simp only [List.append_assoc, List.cons_append, List.nil_append]
  have behind : (' ' :: c :: (digits ++ ';' :: rest)).dropWhile Text.isBlank =
      c :: (digits ++ ';' :: rest) := by
    rw [List.dropWhile_cons_of_pos (by decide),
      List.dropWhile_cons_of_neg (by simp [isBlank_of_isDigit isDigit])]
  have other : "async".toList.isPrefixOf? (c :: (digits ++ ';' :: rest)) = none := by
    apply isPrefixOf?_of_other
    rintro ⟨⟩
    exact absurd isDigit (by decide)
  rw [← List.singleton_append, marksAt?_append, parts, d.marksAt?_marked (by decide),
    Option.bind_some, marksAt?, behind, other]
  rfl

/-- A rule with the keywords of a declaration reads it, unless it asks for more marks. -/
theorem number_of_misses {k : DeclarationKind} (mem : form ∈ kind.forms)
    (headed : k.keywords ∈ form.heads) (misses : ¬ form.Reads k) :
    (∃ value, k = .number value) ∧ form.marks = ["=", "async"] := by
  have misses : ¬ form.marks <+: k.marks := fun marks => misses ⟨headed, marks⟩
  cases kind <;> simp only [ModuleKind.forms, List.mem_cons, List.not_mem_nil, or_false] at mem <;>
    rcases mem with rfl | rfl | rfl <;> cases k <;>
      simp [ExportForm.heads, DeclarationKind.keywords, DeclarationKind.marks] at headed misses ⊢

theorem exportAt?_of_not_reads (d : Declaration) (mem : form ∈ kind.forms)
    (misses : ¬ form.Reads d.kind) (rest : List Char) : form.exportAt? (d.line ++ rest) = none := by
  rw [d.exportAt?_line mem]
  split
  · rename_i headed
    obtain ⟨⟨value, number⟩, marks⟩ := number_of_misses mem headed misses
    rw [marks, d.marksAt?_number number]
    rfl
  · rfl

/-! ## All declarations of a text -/

theorem run_line (d : Declaration) (mem : form ∈ kind.forms) (rest : List Char) :
    form.scanner.run (d.line ++ rest) =
      (if form.Reads d.kind then [d.name] else []) ++ form.scanner.run rest := by
  split
  · rename_i reads
    obtain ⟨left, free, read⟩ := d.exportAt?_of_reads mem reads rest
    rw [Scanner.run_of_some read, run_past free]
    rfl
  · rename_i misses
    -- only the first letter of the first keyword and the name can begin an export
    have nothing := d.exportAt?_of_not_reads mem misses rest
    have parts : d.line ++ rest = 'e' :: ("xport".toList ++ d.gap "export" ++
        d.spaced d.kind.keywords ++ (d.name ++ (d.tail ++ rest))) := by
      simp [line, spaced]
    rw [parts] at nothing ⊢
    rw [Scanner.run_cons nothing, run_past, d.run_name, run_past d.not_mem_tail, List.nil_append]
    intro mem
    rcases List.mem_append.mp mem with mem | mem
    · rcases List.mem_append.mp mem with mem | mem
      · exact absurd mem (by decide)
      · exact not_mem_blanks (d.gap_blank "export") mem
    · exact d.not_mem_spaced (not_mem_keywords d.kind) mem

theorem run_lines {ds : List Declaration} (h : Lines ds text) (mem : form ∈ kind.forms) :
    form.scanner.run text = (ds.filter fun d => form.Reads d.kind).map name := by
  have nothing : form.scanner.run [] = [] :=
    Scanner.run_nil (show form.exportAt? [] = none from exportAt?_eq_none (by simp))
  induction h with
  | none => exact nothing
  | last d =>
    rw [← List.append_nil d.line, run_line d mem, nothing]
    split <;> simp [*]
  | more d _ ih =>
    rw [run_line d mem, run_newline, ih]
    split <;> simp [*]

theorem exists_reads_controller (kind : DeclarationKind) :
    (∃ form ∈ ModuleKind.controller.forms, form.Reads kind) ↔ kind.isFunction = true := by
  cases kind <;> simp [ModuleKind.forms, Reads, DeclarationKind.keywords,
    DeclarationKind.marks, DeclarationKind.isFunction, ExportForm.heads]

theorem exists_reads_service (kind : DeclarationKind) :
    ∃ form ∈ ModuleKind.service.forms, form.Reads kind := by
  cases kind <;> simp [ModuleKind.forms, Reads, DeclarationKind.keywords,
    DeclarationKind.marks, ExportForm.heads]

theorem mem_exportsOf_lines {ds : List Declaration} (h : Lines ds text) (kind : ModuleKind)
    (name : String) : name ∈ kind.exportsOf text ↔
      ∃ d ∈ ds, (∃ form ∈ kind.forms, form.Reads d.kind) ∧ d.exported = name := by
  rw [kind.exportsOf_eq, NameSet.mem_ofList_iff]
  constructor
  · intro mem
    obtain ⟨form, isForm, mem⟩ := List.mem_flatMap.mp mem
    rw [run_lines h isForm, List.map_map] at mem
    obtain ⟨d, known, rfl⟩ := List.mem_map.mp mem
    obtain ⟨known, reads⟩ := List.mem_filter.mp known
    exact ⟨d, known, ⟨form, isForm, of_decide_eq_true reads⟩, rfl⟩
  · rintro ⟨d, known, ⟨form, isForm, reads⟩, rfl⟩
    refine List.mem_flatMap.mpr ⟨form, isForm, ?_⟩
    rw [run_lines h isForm, List.map_map]
    exact List.mem_map.mpr ⟨d, List.mem_filter.mpr ⟨known, decide_eq_true reads⟩, rfl⟩

/-- From the declarations of a text the names of all are read as exports of a service, and those
of its functions, asynchronous constants among them, as exports of a controller. -/
theorem exportsOf_lines {ds : List Declaration} (h : Lines ds text) :
    ModuleKind.controller.exportsOf text =
        .ofList ((ds.filter fun d => d.kind.isFunction).map exported) ∧
      ModuleKind.service.exportsOf text = .ofList (ds.map exported) := by
  constructor
  · refine NameSet.ext fun name => ?_
    rw [mem_exportsOf_lines h, NameSet.mem_ofList_iff]
    simp only [exists_reads_controller, List.mem_map, List.mem_filter, and_assoc]
  · refine NameSet.ext fun name => ?_
    rw [mem_exportsOf_lines h, NameSet.mem_ofList_iff]
    simp only [exists_reads_service, true_and, List.mem_map]

def plain (kind : DeclarationKind) (name : String) (isWord : IsWord name.toList) :
    Declaration where
  kind := kind
  name := name.toList
  gap _ := [' ']
  margin _ := [' ']
  isWord := isWord
  gap_ne_nil _ := List.cons_ne_nil _ _
  gap_blank _ := List.all_eq_true.mp (by decide)
  margin_blank _ := List.all_eq_true.mp (by decide)

/-- Names that are keywords, and one of them on a line of its own. -/
def keywordNames : List Declaration := [
  { plain .asyncFunction "function" ⟨by decide, List.all_eq_true.mp (by decide)⟩ with
    gap := fun _ => ['\n', '\t'], gap_ne_nil := fun _ => List.cons_ne_nil _ _
    gap_blank := fun _ => List.all_eq_true.mp (by decide) },
  plain .plainFunction "async" ⟨by decide, List.all_eq_true.mp (by decide)⟩,
  plain .asyncArrow "export" ⟨by decide, List.all_eq_true.mp (by decide)⟩,
  plain (.number 42) "asyncexport" ⟨by decide, List.all_eq_true.mp (by decide)⟩,
  plain .emptyClass "class" ⟨by decide, List.all_eq_true.mp (by decide)⟩]

def keywordNamesText : String :=
  "export\n\tasync\n\tfunction\n\tfunction() \x7b\x7d\nexport function async() \x7b\x7d\n" ++
    "export const export = async () => \x7b\x7d\nexport const asyncexport = 42;\n" ++
      "export class class \x7b\x7d"

theorem lines_keywordNames : Lines keywordNames keywordNamesText.toList := by
  have text : keywordNamesText.toList = (keywordNames.get ⟨0, by decide⟩).line ++ '\n' ::
      ((keywordNames.get ⟨1, by decide⟩).line ++ '\n' ::
        ((keywordNames.get ⟨2, by decide⟩).line ++ '\n' ::
          ((keywordNames.get ⟨3, by decide⟩).line ++ '\n' ::
            (keywordNames.get ⟨4, by decide⟩).line))) := by
    decide +kernel
  rw [text]
  exact .more _ (.more _ (.more _ (.more _ (.last _))))

theorem exportsOf_lines_keywordNames : Lines keywordNames keywordNamesText.toList ∧
    ModuleKind.controller.exportsOf keywordNamesText.toList =
      .ofList ["function", "async", "export"] ∧
    ModuleKind.service.exportsOf keywordNamesText.toList =
      .ofList ["function", "async", "export", "asyncexport", "class"] := by
  obtain ⟨controller, service⟩ := exportsOf_lines lines_keywordNames
  refine ⟨lines_keywordNames, controller.trans ?_, service.trans ?_⟩
  · decide
  · decide +kernel

end Declaration

end Scaffold
