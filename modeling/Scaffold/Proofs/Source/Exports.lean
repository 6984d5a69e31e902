import Scaffold.Proofs.Source.Creation
import Scaffold.Source.Export

/-!
# Reading exports

The rules for exported names, read directly: keywords with blanks behind them, a name, and the marks
that have to stand behind the name. Keywords that may be left out are looked for first. The name is
read as far as it goes, because no mark begins like a word.
-/

namespace Scaffold

open Pattern Attempt Table

/-- What a rule reads behind its first keyword. -/
structure ExportForm where
  /-- Keywords that may be left out. -/
  leading : List String
  keywords : List String
  /-- What stands behind the name, with or without blanks before it. -/
  marks : List String
  areWords : ∀ keyword ∈ leading ++ keywords, keyword.toList.head?.any Text.isWord = true
  areSolid : ∀ mark ∈ marks, mark.toList.head?.any (!Text.isBlank ·) = true
  endsName : ∀ mark ∈ marks.head?, mark.toList.head?.any (!Text.isWord ·) = true

def marksAt? : List String → List Char → Option (List Char)
  | [], text => some text
  | mark :: marks, text =>
    (mark.toList.isPrefixOf? (text.dropWhile Text.isBlank)).bind (marksAt? marks)

theorem marksAt?_append (front back : List String) (text : List Char) :
    marksAt? (front ++ back) text = (marksAt? front text).bind (marksAt? back) := by
  induction front generalizing text with
  | nil => rfl
  | cons mark front ih =>
    rw [List.cons_append, marksAt?, marksAt?, funext ih]
    exact (Option.bind_assoc ..).symm

def keywordsAt? : List String → List Char → Option (List Char) :=
  spacedAt? fun keyword => keyword.toList.isPrefixOf?

theorem keywordsAt?_cons (word : String) (words : List String) (text : List Char) :
    keywordsAt? (word :: words) text =
      ((word.toList.isPrefixOf? text).bind blanksAt?).bind (keywordsAt? words) := rfl

theorem keywordsAt?_append (front back : List String) (text : List Char) :
    keywordsAt? (front ++ back) text = (keywordsAt? front text).bind (keywordsAt? back) := by
  induction front generalizing text with
  | nil => rfl
  | cons word front ih =>
    rw [List.cons_append, keywordsAt?_cons, keywordsAt?_cons, funext ih]
    exact (Option.bind_assoc ..).symm

namespace ExportForm

variable {α : Type} {form : ExportForm} {text rest name : List Char} {c : Char}
  {words marks : List String} {place : Place} {groups : Groups}
  {accept : Place → Groups → Option α}

/-- The keywords that may stand before the name, in order of preference. -/
def heads (form : ExportForm) : List (List String) :=
  (if form.leading.isEmpty then [] else [form.leading ++ form.keywords]) ++ [form.keywords]

def namedAt? (form : ExportForm) (text : List Char) : Option (List Char × List Char) :=
  (takeRun? Text.isWord text).bind fun read =>
    (marksAt? form.marks read.2).map fun rest => (read.1, rest)

def headedAt? (form : ExportForm) (text : List Char) : Option (List Char × List Char) :=
  form.heads.findSome? fun head => (keywordsAt? head text).bind form.namedAt?

def exportAt? (form : ExportForm) (text : List Char) : Option (List Char × List Char) :=
  (keywordsAt? ["export"] text).bind form.headedAt?

/-! ## Where nothing is read -/

theorem isPrefixOf?_eq_none {word : String} (isWord : word.toList.head?.any Text.isWord = true)
    (other : Text.isWord c = false) : word.toList.isPrefixOf? (c :: text) = none := by
  obtain ⟨d, head, isWord⟩ := (Option.any_eq_true ..).mp isWord
  obtain ⟨start, spelled⟩ := List.head?_eq_some_iff.mp head
  rw [spelled]
  apply isPrefixOf?_of_other
  rintro ⟨⟩
  rw [isWord] at other
  cases other

theorem keywordsAt?_eq_none {word : String} (isWord : word.toList.head?.any Text.isWord = true)
    (other : Text.isWord c = false) : keywordsAt? (word :: words) (c :: text) = none := by
  rw [keywordsAt?_cons, isPrefixOf?_eq_none isWord other]
  rfl

theorem namedAt?_eq_none (other : Text.isWord c = false) : form.namedAt? (c :: text) = none := by
  rw [namedAt?, takeRun?_of_neg]
  · rfl
  · rintro d ⟨⟩
    exact other

/-- Keywords and names begin with a character of a word. -/
theorem headedAt?_eq_none (other : Text.isWord c = false) :
    form.headedAt? (c :: text) = none := by
  apply List.findSome?_eq_none_iff.mpr
  intro head mem
  cases head with
  | nil => exact namedAt?_eq_none other
  | cons word words =>
    have listed : word ∈ form.leading ++ form.keywords := by
      rcases List.mem_append.mp mem with mem | mem
      · split at mem
        · cases mem
        · exact List.mem_singleton.mp mem ▸ List.mem_cons_self
      · exact List.mem_append_right _ (List.mem_singleton.mp mem ▸ List.mem_cons_self)
    rw [keywordsAt?_eq_none (form.areWords word listed) other]
    rfl

/-! ## What is left -/

theorem suffix_of_isPrefixOf? {start : List Char} (h : start.isPrefixOf? text = some rest) :
    rest <:+ text :=
  ⟨start, List.isPrefixOf?_eq_some_iff_append_eq.mp h⟩

theorem suffix_of_marksAt? (h : marksAt? marks text = some rest) : rest <:+ text := by
  induction marks generalizing text with
  | nil =>
    cases h
    exact List.suffix_refl rest
  | cons mark marks ih =>
    obtain ⟨behind, first, later⟩ := Option.bind_eq_some_iff.mp h
    exact (ih later).trans ((suffix_of_isPrefixOf? first).trans (List.dropWhile_suffix _))

theorem suffix_of_keywordsAt? (h : keywordsAt? words text = some rest) : rest <:+ text := by
  induction words generalizing text with
  | nil =>
    cases h
    exact List.suffix_refl rest
  | cons word words ih =>
    rw [keywordsAt?_cons] at h
    obtain ⟨more, first, later⟩ := Option.bind_eq_some_iff.mp h
    obtain ⟨behind, spelled, blanks⟩ := Option.bind_eq_some_iff.mp first
    exact (ih later).trans ((suffix_of_blanksAt? blanks).trans (suffix_of_isPrefixOf? spelled))

theorem suffix_of_namedAt? (h : form.namedAt? text = some (name, rest)) : rest <:+ text := by
  obtain ⟨⟨taken, behind⟩, run, marked⟩ := Option.bind_eq_some_iff.mp h
  obtain ⟨_, marks, same⟩ := Option.map_eq_some_iff.mp marked
  cases same
  exact (suffix_of_marksAt? marks).trans (suffix_of_takeRun? run)

theorem suffix_of_headedAt? (h : form.headedAt? text = some (name, rest)) : rest <:+ text := by
  obtain ⟨head, -, h⟩ := List.exists_of_findSome?_eq_some h
  obtain ⟨behind, words, named⟩ := Option.bind_eq_some_iff.mp h
  exact (suffix_of_namedAt? named).trans (suffix_of_keywordsAt? words)

theorem length_of_exportAt? (h : form.exportAt? text = some (name, rest)) :
    rest.length < text.length := by
  rw [exportAt?, keywordsAt?_cons, Option.bind_assoc, Option.bind_assoc] at h
  obtain ⟨gap, spelled, h⟩ := Option.bind_eq_some_iff.mp h
  obtain ⟨behind, blanks, headed⟩ := Option.bind_eq_some_iff.mp h
  have inside := ((suffix_of_headedAt? headed).trans (suffix_of_blanksAt? blanks)).length_le
  rw [← List.isPrefixOf?_eq_some_iff_append_eq.mp spelled, List.length_append]
  have shown : 0 < "export".toList.length := by decide
  omega

def scanner (form : ExportForm) : Scanner (List Char) where
  step := form.exportAt?
  shrinks := length_of_exportAt?

/-! ## The patterns -/

def literals (words : List String) : List Pattern :=
  words.flatMap fun word => [literal word, blankPlus]

def named (form : ExportForm) : List Pattern :=
  ModuleKind.exportedName :: form.marks.flatMap fun mark => [blankStar, literal mark]

def headed (form : ExportForm) : List Pattern :=
  (if form.leading.isEmpty then [] else [optional (sequence (literals form.leading))]) ++
    (literals form.keywords ++ form.named)

def pattern (form : ExportForm) : Pattern := sequence (literals ["export"] ++ form.headed)

theorem spells_literal {word : String} (isWord : word.toList.head?.any Text.isWord = true) :
    Spells (fun word => word.toList.isPrefixOf?) literal word :=
  ⟨fun _ _ => goesOn_literal word,
    fun blank => isPrefixOf?_eq_none isWord (Text.isWord_of_isBlank blank)⟩

theorem goesOn_marks (areSolid : ∀ mark ∈ marks, mark.toList.head?.any (!Text.isBlank ·) = true)
    (h : place.IsAt text) :
    GoesOn accept ((marksAt? marks text).map fun rest => (groups, rest))
      ((sequence (marks.flatMap fun mark => [blankStar, literal mark])).attempt
        place groups accept) := by
  induction marks generalizing place text with
  | nil => exact .stops groups h
  | cons mark marks ih =>
    obtain ⟨first, later⟩ := List.forall_mem_cons.mp areSolid
    rw [marksAt?, Option.map_bind, List.flatMap_cons, List.cons_append, List.cons_append,
      List.nil_append, attempt_sequence_cons]
    obtain ⟨stop, isAt, blanks⟩ := (goesOn_blanks mark h first).exists_stop
    rw [blanks, attempt_sequence_cons]
    exact (goesOn_literal mark isAt).andThen fun rest stop _ isAt => ih later isAt

/-- No mark begins inside a name. -/
theorem attempt_marks_eq_none {mark : String}
    (areSolid : mark.toList.head?.any (!Text.isBlank ·) = true)
    (endsName : mark.toList.head?.any (!Text.isWord ·) = true) (isWord : Text.isWord c = true)
    (h : place.IsAt (c :: rest)) : (sequence ((mark :: marks).flatMap fun mark =>
      [blankStar, literal mark])).attempt place groups accept = none := by
  rw [List.flatMap_cons, List.cons_append, List.cons_append, List.nil_append, attempt_sequence_cons]
  obtain ⟨stop, isAt, blanks⟩ := (goesOn_blanks mark h areSolid).exists_stop
  rw [List.dropWhile_cons_of_neg (by simp [Text.isBlank_of_isWord isWord])] at isAt
  rw [blanks, attempt_sequence_cons]
  apply attempt_literal_eq_none mark isAt
  obtain ⟨d, head, noWord⟩ := (Option.any_eq_true ..).mp endsName
  obtain ⟨start, spelled⟩ := List.head?_eq_some_iff.mp head
  rw [spelled]
  apply isPrefixOf?_of_other
  rintro ⟨⟩
  rw [isWord] at noWord
  cases noWord

theorem goesOn_named (form : ExportForm) (h : place.IsAt text)
    (accepts : ∀ stop groups, (accept stop groups).isSome = true) :
    GoesOn accept ((form.namedAt? text).map fun read => ((1, read.1) :: groups, read.2))
      ((sequence form.named).attempt place groups accept) := by
  have word : GoesOn (fun stop groups => (sequence (form.marks.flatMap fun mark =>
        [blankStar, literal mark])).attempt stop groups accept)
      ((takeRun? Text.isWord text).map fun read => ((1, read.1) :: groups, read.2))
      (ModuleKind.exportedName.attempt place groups fun stop groups =>
        (sequence (form.marks.flatMap fun mark => [blankStar, literal mark])).attempt
          stop groups accept) := by
    refine GoesOn.group h ?_ fun _ _ => takeRun?_parts
    cases marks : form.marks with
    | nil => exact goesOn_word h fun _ _ => accepts _ _
    | cons mark more =>
      have solid := form.areSolid mark (marks ▸ List.mem_cons_self)
      have ends := form.endsName mark (marks ▸ rfl)
      exact goesOn_someRun_of_blocks (s := .word) h fun stop c rest isAt isWord =>
        attempt_marks_eq_none solid ends isWord isAt
  rw [named, attempt_sequence_cons, namedAt?, Option.map_bind]
  refine word.andThen fun read stop _ isAt => ?_
  rw [Function.comp_apply, Option.map_map]
  change GoesOn _ (Option.map (fun rest => ((1, read.1) :: groups, rest)) _) _
  exact goesOn_marks form.areSolid isAt

theorem solid_named (form : ExportForm)
    (accepts : ∀ stop groups, (accept stop groups).isSome = true) :
    Solid fun stop groups => (sequence form.named).attempt stop groups accept := by
  intro stop c rest groups isAt blank
  have goesOn := @goesOn_named α _ _ groups accept form isAt accepts
  rw [namedAt?_eq_none (Text.isWord_of_isBlank blank)] at goesOn
  exact goesOn.eq_none

theorem solid_keywords {ps : List Pattern}
    (areWords : ∀ word ∈ words, word.toList.head?.any Text.isWord = true)
    (solid : Solid fun stop groups => (sequence ps).attempt stop groups accept) :
    Solid fun stop groups => (sequence (literals words ++ ps)).attempt stop groups accept :=
  solid_spacedBy (fun word mem => spells_literal (areWords word mem)) solid

theorem goesOn_keywords {ps : List Pattern}
    (areWords : ∀ word ∈ words, word.toList.head?.any Text.isWord = true)
    (solid : Solid fun stop groups => (sequence ps).attempt stop groups accept)
    (h : place.IsAt text) :
    GoesOn (fun stop groups => (sequence ps).attempt stop groups accept)
      ((keywordsAt? words text).map fun rest => (groups, rest))
      ((sequence (literals words ++ ps)).attempt place groups accept) :=
  goesOn_spacedBy (fun word mem => spells_literal (areWords word mem)) solid h

/-- With the leading keywords or without them: the first is tried before the second. -/
theorem goesOn_headed (form : ExportForm) (h : place.IsAt text)
    (accepts : ∀ stop groups, (accept stop groups).isSome = true) :
    GoesOn accept ((form.headedAt? text).map fun read => ((1, read.1) :: groups, read.2))
      ((sequence form.headed).attempt place groups accept) := by
  have leads := fun word mem => form.areWords word (List.mem_append_left _ mem)
  have begins := fun word mem => form.areWords word (List.mem_append_right _ mem)
  -- What is read behind the leading keywords is what is read without them.
  have bare : ∀ {place : Place} {text : List Char}, place.IsAt text → GoesOn accept
      (((keywordsAt? form.keywords text).bind form.namedAt?).map
        fun read => ((1, read.1) :: groups, read.2))
      ((sequence (literals form.keywords ++ form.named)).attempt place groups accept) := by
    intro place text h
    rw [Option.map_bind]
    refine (goesOn_keywords begins (form.solid_named accepts) h).andThen fun rest stop _ isAt => ?_
    exact form.goesOn_named isAt accepts
  rw [headedAt?, heads, headed, List.findSome?_append, List.findSome?_singleton]
  split
  · rw [List.nil_append, List.findSome?_nil, Option.none_or]
    exact bare h
  · have solid := solid_keywords begins (form.solid_named accepts)
    rw [List.findSome?_singleton, Option.map_or, List.singleton_append, attempt_sequence_cons,
      attempt_optional]
    refine GoesOn.or_of_accepts ?_ (bare h) accepts
    rw [keywordsAt?_append, Option.bind_assoc, Option.map_bind, ← List.append_nil (literals _)]
    refine (@goesOn_keywords α _ _ _ groups _ [] leads solid h).andThen fun rest stop _ isAt => ?_
    exact bare isAt

theorem solid_headed (form : ExportForm)
    (accepts : ∀ stop groups, (accept stop groups).isSome = true) :
    Solid fun stop groups => (sequence form.headed).attempt stop groups accept := by
  intro stop c rest groups isAt blank
  have goesOn := @goesOn_headed α _ _ groups accept form isAt accepts
  rw [headedAt?_eq_none (Text.isWord_of_isBlank blank)] at goesOn
  exact goesOn.eq_none

theorem describes_export (form : ExportForm) :
    form.scanner.Describes form.pattern fun name => [(1, name)] := by
  refine ⟨fun {place text} isAt => ?_⟩
  change GoesOn _ ((form.exportAt? text).map _) _
  have accepts : ∀ stop groups,
      (some (⟨place, stop, groups⟩ : Found)).isSome = true := fun _ _ => rfl
  rw [exportAt?, Option.map_bind, matchAt?, pattern]
  refine (goesOn_keywords (by decide) (form.solid_headed accepts) isAt).andThen
    fun behind stop _ isAt => ?_
  exact form.goesOn_headed isAt accepts

end ExportForm

namespace ModuleKind

def forms : ModuleKind → List ExportForm
  | controller => [
    ⟨[], ["async", "function"], [], by decide, by decide, by decide⟩,
    ⟨[], ["const"], ["=", "async"], by decide, by decide, by decide⟩,
    ⟨[], ["function"], [], by decide, by decide, by decide⟩]
  | service => [
    ⟨["async"], ["function"], [], by decide, by decide, by decide⟩,
    ⟨[], ["const"], ["="], by decide, by decide, by decide⟩,
    ⟨[], ["class"], [], by decide, by decide, by decide⟩]

theorem rules_eq (kind : ModuleKind) : kind.rules = kind.forms.map ExportForm.pattern := by
  cases kind <;> rfl

theorem exportsOf_eq (kind : ModuleKind) (text : List Char) :
    kind.exportsOf text =
      .ofList (kind.forms.flatMap fun form => (form.scanner.run text).map String.ofList) := by
  rw [exportsOf, rules_eq, List.flatMap_map]
  refine congrArg NameSet.ofList (congrArg (List.flatMap · _) (funext fun form => ?_))
  exact form.describes_export.findAll (fun _ _ _ => rfl) text

end ModuleKind

end Scaffold
