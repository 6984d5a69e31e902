import Scaffold.Proofs.Project.Listing

/-!
# The list of services as a comment

The services package lists what was found in line comments. A line break in what is listed ends a
comment, so the package is nothing but comments and its clause just if the text behind every such
break begins a comment of its own.
-/

namespace Scaffold

namespace Text

/-- All lines of a text behind the first one are comments. -/
def CommentsOn (cs : List Char) : Prop := ∀ line ∈ (cs.splitOn '\n').tail, "//".toList <+: line

variable {cs ds : List Char} {c : Char}

/-- What does not begin with a slash does not make a comment of what is in front of it. -/
theorem comment_append_iff (apart : '/' ∉ ds.head?) :
    "//".toList <+: cs ++ ds ↔ "//".toList <+: cs := by
  have slashes : "//".toList = ['/', '/'] := rfl
  have next : ¬ ['/'] <+: ds := by
    rintro ⟨rest, rfl⟩
    exact apart rfl
  rw [slashes]
  match cs with
  | [] =>
    constructor
    · rintro ⟨rest, rfl⟩
      exact absurd rfl apart
    · intro h
      cases List.prefix_nil.mp h
  | [a] => simp [List.cons_prefix_cons, next]
  | a :: b :: cs => simp [List.cons_prefix_cons]

theorem forall_splitOn_iff : (∀ line ∈ cs.splitOn '\n', "//".toList <+: line) ↔
    "//".toList <+: cs ∧ CommentsOn cs := by
  have joined : ['\n'].intercalate (cs.splitOn '\n') = cs := List.intercalate_splitOn '\n'
  rw [CommentsOn]
  cases lines : cs.splitOn '\n' with
  | nil => exact absurd lines (List.splitOn_ne_nil _ _)
  | cons first others =>
    -- The line break behind the first line is no slash.
    have begins : "//".toList <+: cs ↔ "//".toList <+: first := by
      rw [lines] at joined
      cases others with
      | nil => rw [← joined, List.intercalate_singleton]
      | cons second others =>
        rw [← joined, List.intercalate_cons_cons, List.append_assoc]
        exact comment_append_iff (by simp)
    rw [List.forall_mem_cons, begins, List.tail_cons]

theorem commentsOn_nil : CommentsOn [] := by simp [CommentsOn]

theorem commentsOn_cons_iff :
    CommentsOn (c :: cs) ↔ (c = '\n' → "//".toList <+: cs) ∧ CommentsOn cs := by
  rw [CommentsOn, List.splitOn_cons_eq_if_modifyHead]
  by_cases breaks : c = '\n'
  · rw [if_pos (beq_iff_eq.mpr breaks), List.tail_cons, forall_splitOn_iff]
    simp [breaks]
  · rw [if_neg (by simpa using breaks), List.tail_modifyHead]
    simp [breaks, CommentsOn]

theorem commentsOn_append (apart : '/' ∉ ds.head?) :
    CommentsOn (cs ++ ds) ↔ CommentsOn cs ∧ CommentsOn ds := by
  induction cs with
  | nil => simp [commentsOn_nil]
  | cons c cs ih =>
    rw [List.cons_append, commentsOn_cons_iff, commentsOn_cons_iff, ih, comment_append_iff apart,
      and_assoc]

theorem commentsOn_append_of_unbroken (unbroken : '\n' ∉ cs) :
    CommentsOn (cs ++ ds) ↔ CommentsOn ds := by
  induction cs with
  | nil => rfl
  | cons c cs ih =>
    obtain ⟨differs, unbroken⟩ := List.ne_and_not_mem_of_not_mem_cons unbroken
    rw [List.cons_append, commentsOn_cons_iff, ih unbroken]
    simp [differs.symm]

theorem commentsOn_of_unbroken (unbroken : '\n' ∉ cs) : CommentsOn cs := by
  rw [← List.append_nil cs, commentsOn_append_of_unbroken unbroken]
  exact commentsOn_nil

end Text

def SourceModule.parts (m : SourceModule) : List String := m.name :: m.file :: m.functions.toList

theorem commentsOn_intercalate (texts : List String) :
    Text.CommentsOn (", ".intercalate texts).toList ↔ ∀ t ∈ texts, Text.CommentsOn t.toList := by
  induction texts with
  | nil => simp [Text.commentsOn_nil]
  | cons first texts ih =>
    cases texts with
    | nil => simp
    | cons second texts =>
      rw [String.intercalate_cons_cons, String.toList_append, String.toList_append,
        List.append_assoc, Text.commentsOn_append (by simp), List.forall_mem_cons, ← ih,
        Text.commentsOn_append_of_unbroken (by decide)]

namespace ProjectText

namespace Services

variable {found : List SourceModule}

theorem commentsOn_functionList (m : SourceModule) : Text.CommentsOn m.functionList.toList ↔
    ∀ f ∈ m.functions.toList, Text.CommentsOn f.toList := by
  rw [SourceModule.functionList]
  split
  · rename_i empty
    rw [List.isEmpty_iff.mp empty]
    simpa using Text.commentsOn_of_unbroken (by decide)
  · exact commentsOn_intercalate m.functions.toList

theorem commentsOn_line (m : SourceModule) :
    Text.CommentsOn (line m).toList ↔ ∀ part ∈ m.parts, Text.CommentsOn part.toList := by
  simp only [line, String.toList_append, List.append_assoc]
  rw [Text.commentsOn_append_of_unbroken (by decide), Text.commentsOn_append (by simp),
    Text.commentsOn_append_of_unbroken (by decide), Text.commentsOn_append (by simp),
    Text.commentsOn_append_of_unbroken (by decide), commentsOn_functionList, SourceModule.parts,
    List.forall_mem_cons, List.forall_mem_cons]

/-- All lines but the last one are comments, and the last one names the package. -/
structure IsCommentBlock (text : String) : Prop where
  clause : (linesOf text).getLast? = some "package services"
  comments : ∀ l ∈ (linesOf text).dropLast, "//".toList <+: l.toList

/-- What is listed, line by line as it was meant. -/
def listed (found : List SourceModule) : List String :=
  if found.isEmpty then ["//   (none)"] else found.map line

theorem linesOf_services (found : List SourceModule) : linesOf (services found) =
    (opening ++ listed found).flatMap linesWithin ++ ["package services"] := by
  rw [services, endLines_append]
  exact linesOf_endLines_flatMap (opening ++ listed found) (endLines closing)

/-- The characters of a literal are at hand this way, without decoding it. -/
theorem comment_ofList {cs : List Char} (h : "//".toList <+: cs) :
    "//".toList <+: (String.ofList cs).toList :=
  h.trans (String.toList_ofList ▸ List.prefix_refl cs)

theorem fixed_of_mem_opening : ∀ l ∈ opening, IsLine l ∧ "//".toList <+: l.toList := by
  simp only [opening, List.forall_mem_cons]
  and_intros
  all_goals first
    | exact List.forall_mem_nil _
    | exact isLine_ofList (by decide)
    | exact comment_ofList (by decide)

theorem isComment_of_mem {l : String} (mem : l ∈ opening ++ listed found) :
    "//".toList <+: l.toList := by
  rw [List.mem_append, listed] at mem
  obtain mem | mem := mem
  · exact (fixed_of_mem_opening l mem).2
  · split at mem
    · rw [List.mem_singleton.mp mem]
      decide
    · obtain ⟨m, -, rfl⟩ := List.mem_map.mp mem
      simp only [line, String.toList_append, List.append_assoc]
      exact (show "//".toList <+: "//   - ".toList by decide).trans (List.prefix_append _ _)

theorem commentsOn_listed (found : List SourceModule) :
    (∀ l ∈ opening ++ listed found, Text.CommentsOn l.toList) ↔
      ∀ m ∈ found, ∀ part ∈ m.parts, Text.CommentsOn part.toList := by
  have fixed : ∀ l ∈ opening, Text.CommentsOn l.toList :=
    fun l mem => Text.commentsOn_of_unbroken (fixed_of_mem_opening l mem).1
  rw [List.forall_mem_append, and_iff_right fixed, listed]
  cases found with
  | nil => simpa using Text.commentsOn_of_unbroken (by decide)
  | cons m found => simp [commentsOn_line]

theorem forall_linesWithin_iff {l : String} (comment : "//".toList <+: l.toList) :
    (∀ k ∈ linesWithin l, "//".toList <+: k.toList) ↔ Text.CommentsOn l.toList := by
  rw [linesWithin, List.forall_mem_map]
  simp only [String.toList_ofList]
  rw [Text.forall_splitOn_iff, and_iff_right comment]

theorem isCommentBlock_iff (found : List SourceModule) : IsCommentBlock (services found) ↔
    ∀ m ∈ found, ∀ part ∈ m.parts, Text.CommentsOn part.toList := by
  have lines := linesOf_services found
  calc IsCommentBlock (services found)
    _ ↔ ∀ l ∈ (opening ++ listed found).flatMap linesWithin, "//".toList <+: l.toList := by
        constructor
        · intro block
          have comments := block.comments
          rwa [lines, List.dropLast_concat] at comments
        · intro comments
          constructor
          · rw [lines, List.getLast?_concat]
          · rwa [lines, List.dropLast_concat]
    _ ↔ ∀ l ∈ opening ++ listed found, ∀ k ∈ linesWithin l, "//".toList <+: k.toList :=
        List.forall_mem_flatMap
    _ ↔ ∀ l ∈ opening ++ listed found, Text.CommentsOn l.toList :=
        forall₂_congr fun l mem => forall_linesWithin_iff (isComment_of_mem mem)
    _ ↔ ∀ m ∈ found, ∀ part ∈ m.parts, Text.CommentsOn part.toList := commentsOn_listed found

end Services

end ProjectText

theorem contents?_services (m : Model) (name : ModuleName) :
    contents? "internal/services/services.go" (m.artifacts name)
      = some (ProjectText.services m.services) := by
  simp [contents?, Model.artifacts, List.find?_append,
    @find?_records m name "internal/services/services.go"
      (by rintro (_ | _) <;> simp [RecordKind.file])]

/-- The services package is comments and its clause, unless a part of what it lists has a line break
that no comment begins behind. -/
theorem Model.render_services (m : Model) (name : ModuleName) :
    ∃ artifacts text, m.render name.text = .ok artifacts ∧
      contents? "internal/services/services.go" artifacts = some text ∧
        (ProjectText.Services.IsCommentBlock text ↔
          ∀ s ∈ m.services, ∀ part ∈ s.parts, Text.CommentsOn part.toList) :=
  ⟨_, _, m.render_text name, contents?_services m name,
    ProjectText.Services.isCommentBlock_iff m.services⟩

def withBrokenName : Model where
  services := [⟨"a\nb", "services/a.js", ∅⟩]

theorem Model.render_services_withBrokenName :
    ∃ artifacts text, withBrokenName.render "x" = .ok artifacts ∧
      contents? "internal/services/services.go" artifacts = some text ∧
        "b (services/a.js): no exported functions" ∈ linesOf text ∧
          ¬ ProjectText.Services.IsCommentBlock text := by
  have broken : linesWithin (ProjectText.Services.line ⟨"a\nb", "services/a.js", ∅⟩) =
      ["//   - a", "b (services/a.js): no exported functions"] := by decide
  have shown : "b (services/a.js): no exported functions" ∈
      linesOf (ProjectText.services withBrokenName.services) := by
    rw [ProjectText.Services.linesOf_services]
    apply List.mem_append_left
    apply List.mem_flatMap_of_mem (List.mem_append_right _ (List.mem_singleton_self _))
    rw [broken]
    exact List.mem_cons_of_mem _ (List.mem_singleton_self _)
  refine ⟨_, _, withBrokenName.render_text ⟨"x", by decide⟩, contents?_services _ _, shown, ?_⟩
  rw [ProjectText.Services.isCommentBlock_iff]
  intro comments
  have behind := comments _ (List.mem_singleton_self _) "a\nb" List.mem_cons_self
  exact absurd (behind ['b'] (by decide)) (by decide)

end Scaffold
