import Scaffold.Disk.Walk
import Scaffold.Proofs.Text.Runs

/-!
# Names behind a path

Names that are joined to a path come behind its components, however it is spelled. What is left of
the joined path behind the first one is the names.
-/

namespace Scaffold

namespace Path

theorem IsName.not_idle {s : String} (h : IsName s) : isIdle s = false := by
  simp [isIdle, h.notEmpty, h.notHere]

theorem IsName.component_eq {s : String} (h : IsName s) : component s = .name s := by
  simp [component, h.notUp]

theorem ofString_of_isName {s : String} (h : IsName s) : ofString s = ⟨[s]⟩ := by
  have whole : Text.splitAt (· == '/') s.toList = [s.toList] := by
    refine Text.splitAt_eq_singleton fun c hc => ?_
    rw [beq_eq_false_iff_ne]
    rintro rfl
    exact h.noSlash hc
  rw [ofString, whole, List.map_singleton, String.ofList_toList]

theorem intercalate_splitAt (cs : List Char) :
    ['/'].intercalate (Text.splitAt (· == '/') cs) = cs := by
  induction cs with
  | nil => rfl
  | cons c rest ih =>
    rw [Text.splitAt]
    split
    · rename_i slash
      rw [List.intercalate_cons_of_ne_nil (Text.splitAt_ne_nil _ rest), ih, beq_iff_eq.mp slash]
      rfl
    · split
      · rename_i none
        exact absurd none (Text.splitAt_ne_nil _ rest)
      · rename_i piece pieces split
        rw [split] at ih
        rw [← ih]
        cases pieces <;> simp

theorem text_ofString (s : String) : (ofString s).text = s := by
  have pieces : String.toList ∘ String.ofList = id := funext fun _ => String.toList_ofList
  rw [← String.toList_inj, text, ofString, String.toList_intercalate, List.map_map, pieces,
    List.map_id]
  exact intercalate_splitAt s.toList

/-! ## Joining -/

/-- The segments without one slash at the end. -/
def dropSlash (segments : List String) : List String :=
  if segments.getLast? = some "" then segments.dropLast else segments

theorem dropSlash_cons {s : String} {rest : List String} (h : s ≠ "" ∨ rest ≠ []) :
    dropSlash (s :: rest) = s :: dropSlash rest := by
  cases rest with
  | nil => simp [dropSlash, h.resolve_right (by simp)]
  | cons t rest =>
    unfold dropSlash
    rw [List.getLast?_cons_cons]
    split <;> rfl

theorem filter_dropSlash {p : String → Bool} (h : p "" = false) (segments : List String) :
    (dropSlash segments).filter p = segments.filter p := by
  unfold dropSlash
  split
  · rename_i last
    obtain ⟨front, rfl⟩ := List.getLast?_eq_some_iff.mp last
    simp [h]
  · rfl

/-- Names one below the other, at least one of them. -/
structure AreNames (names : List String) : Prop where
  some : names ≠ []
  isName : ∀ s ∈ names, IsName s

instance (names : List String) : Decidable (AreNames names) :=
  decidable_of_iff (names ≠ [] ∧ ∀ s ∈ names, IsName s) ⟨fun ⟨a, b⟩ => ⟨a, b⟩, fun ⟨a, b⟩ => ⟨a, b⟩⟩

theorem AreNames.noUps {names : List String} (h : AreNames names) : ".." ∉ names :=
  fun mem => (h.isName ".." mem).notUp rfl

theorem areNames_singleton {name : String} (h : IsName name) : AreNames [name] where
  some := List.cons_ne_nil name []
  isName _ hs := List.mem_singleton.mp hs ▸ h

theorem AreNames.append {front back : List String} (hf : AreNames front) (hb : AreNames back) :
    AreNames (front ++ back) where
  some := List.append_ne_nil_of_left_ne_nil hf.some back
  isName s hs := (List.mem_append.mp hs).elim (hf.isName s) (hb.isName s)

/-- Segments none of which vanishes when a path is followed. -/
structure AreSolid (segments : List String) : Prop where
  some : segments ≠ []
  notEmpty : "" ∉ segments

theorem AreNames.solid {names : List String} (h : AreNames names) : AreSolid names where
  some := h.some
  notEmpty mem := (h.isName "" mem).notEmpty rfl

theorem areSolid_here : AreSolid ["."] := ⟨by decide, by decide⟩

theorem isAbsolute_solid {segments : List String} (h : AreSolid segments) :
    isAbsolute ⟨segments⟩ = false := by
  obtain ⟨s, rest, rfl⟩ := List.exists_cons_of_ne_nil h.some
  have notEmpty : s ≠ "" := fun empty => h.notEmpty (empty ▸ List.mem_cons_self)
  simp [isAbsolute, notEmpty]

theorem join_solid (p : Path) {tail : List String} (h : AreSolid tail) :
    p.join ⟨tail⟩ = ⟨dropSlash p.segments ++ tail⟩ := by
  rw [join, isAbsolute_solid h]
  unfold dropSlash
  by_cases empty : p.isEmpty = true
  · have segments : p.segments = [""] ∨ p.segments = [] := by simpa [isEmpty] using empty
    rcases segments with segments | segments <;> simp [empty, segments]
  · simp only [empty, Bool.false_eq_true, if_false, beq_iff_eq]
    split <;> rfl

theorem getLast?_append_solid (segments : List String) {tail : List String} (h : AreSolid tail) :
    (segments ++ tail).getLast? ≠ some "" := by
  rw [List.getLast?_append, List.getLast?_eq_some_getLast h.some, Option.some_or]
  intro last
  exact h.notEmpty (Option.some.inj last ▸ List.getLast_mem h.some)

theorem dropSlash_append_solid (segments : List String) {tail : List String}
    (h : AreSolid tail) : dropSlash (segments ++ tail) = segments ++ tail :=
  if_neg (getLast?_append_solid segments h)

theorem joinName_join (p : Path) {names : List String} {name : String} (h : AreNames names)
    (hname : IsName name) : (p.join ⟨names⟩).joinName name = p.join ⟨names ++ [name]⟩ := by
  have single := areNames_singleton hname
  rw [joinName, ofString_of_isName hname, join_solid _ single.solid, join_solid p h.solid,
    join_solid p (h.append single).solid, dropSlash_append_solid _ h.solid, List.append_assoc]

theorem solid_of_areSolid {segments : List String} (h : AreSolid segments) :
    Disk.solid segments = segments := by
  refine List.filter_eq_self.mpr fun s hs => ?_
  rw [bne_iff_ne]
  rintro rfl
  exact h.notEmpty hs

theorem solid_join (p : Path) {tail : List String} (h : AreSolid tail) :
    Disk.solid (p.join ⟨tail⟩).segments = Disk.solid p.segments ++ tail := by
  rw [join_solid p h]
  refine (List.filter_append ..).trans ?_
  rw [filter_dropSlash rfl]
  exact congrArg (Disk.solid p.segments ++ ·) (solid_of_areSolid h)

theorem isAbsolute_join (p : Path) {tail : List String} (h : AreSolid tail) :
    (p.join ⟨tail⟩).isAbsolute = p.isAbsolute := by
  rw [join_solid p h]
  obtain ⟨segments⟩ := p
  match segments with
  | [] => exact isAbsolute_solid h
  | [s] =>
    by_cases empty : s = ""
    · subst empty
      exact isAbsolute_solid h
    · rw [dropSlash_cons (.inl empty)]
      simp [isAbsolute, empty]
  | s :: t :: more =>
    have length := List.length_pos_iff.mpr h.some
    rw [dropSlash_cons (.inr (by simp))]
    simp only [isAbsolute, List.cons_append, List.head?_cons, List.length_cons,
      List.length_append]
    congr 2
    rw [eq_iff_iff]
    omega

/-- A joined path is spelled behind the same text, whatever is joined. -/
theorem text_join (p : Path) {tail : List String} (h : AreSolid tail) :
    (p.join ⟨tail⟩).text =
      String.join ((dropSlash p.segments).map (· ++ "/")) ++ (⟨tail⟩ : Path).text := by
  rw [join_solid p h, text, text]
  generalize dropSlash p.segments = front
  induction front with
  | nil => rfl
  | cons s front ih =>
    have more : front ++ tail ≠ [] := List.append_ne_nil_of_right_ne_nil front h.some
    simp only [List.cons_append, String.intercalate_cons_of_ne_nil more, ih, List.map_cons,
      String.join_cons, String.append_assoc]

theorem utf8ByteSize_text_pos {segments : List String} (h : AreSolid segments) :
    0 < (⟨segments⟩ : Path).text.utf8ByteSize := by
  obtain ⟨s, rest, rfl⟩ := List.exists_cons_of_ne_nil h.some
  have notEmpty : s ≠ "" := fun empty => h.notEmpty (empty ▸ List.mem_cons_self)
  have size : 0 < s.utf8ByteSize := by
    rw [Nat.pos_iff_ne_zero, ne_eq, String.utf8ByteSize_eq_zero_iff]
    exact notEmpty
  rw [text]
  cases rest with
  | nil =>
    rw [String.intercalate_singleton]
    exact size
  | cons t rest =>
    rw [String.intercalate_cons_cons, String.utf8ByteSize_append, String.utf8ByteSize_append]
    omega

theorem bodyComponents_names {names : List String} (h : AreNames names) :
    bodyComponents names = names.map .name := by
  unfold bodyComponents
  rw [List.filter_eq_self.mpr fun s hs => by simp [(h.isName s hs).not_idle]]
  exact List.map_congr_left fun s hs => (h.isName s hs).component_eq

theorem bodyComponents_dropSlash (segments : List String) :
    bodyComponents (dropSlash segments) = bodyComponents segments := by
  unfold bodyComponents
  rw [filter_dropSlash rfl]

theorem front_of_head {s : String} {rest : List String} (notEmpty : s ≠ "") (notHere : s ≠ ".") :
    (⟨s :: rest⟩ : Path).front = ([], s :: rest) := by
  unfold front
  split
  · exact absurd (List.cons.inj ‹_›).1 notEmpty
  · exact absurd (List.cons.inj ‹_›).1 notHere
  · rfl

theorem front_root {rest : List String} (some : rest ≠ []) :
    (⟨"" :: rest⟩ : Path).front = ([.root], rest) := by
  obtain ⟨t, rest, rfl⟩ := List.exists_cons_of_ne_nil some
  rfl

theorem front_names {names : List String} (h : AreNames names) :
    (⟨names⟩ : Path).front = ([], names) := by
  obtain ⟨name, rest, rfl⟩ := List.exists_cons_of_ne_nil h.some
  have isName := h.isName name List.mem_cons_self
  exact front_of_head isName.notEmpty isName.notHere

theorem trimBody_append_idle (front : List String) {s : String} (h : isIdle s = true) :
    trimBody (front ++ [s]) = trimBody front := by
  rw [trimBody, List.reverse_append, List.reverse_singleton, List.singleton_append,
    List.dropWhile_cons_of_pos h, trimBody]

theorem trimBody_dropSlash (segments : List String) :
    trimBody (dropSlash segments) = trimBody segments := by
  unfold dropSlash
  split
  · rename_i last
    obtain ⟨front, rfl⟩ := List.getLast?_eq_some_iff.mp last
    rw [List.dropLast_concat, trimBody_append_idle front rfl]
  · rfl

/-- A joined path starts as the path in front does, and has its body before the names, apart from
what is idle at the end of the body. -/
theorem front_join (p : Path) {names : List String} (h : AreNames names) :
    ∃ body, (p.join ⟨names⟩).front = (p.front.1, body ++ names) ∧
      bodyComponents body = bodyComponents p.front.2 ∧ trimBody body = trimBody p.front.2 := by
  -- By the first segment: a dot, a root (which may end the path), or a name or `..`.
  obtain ⟨segments⟩ := p
  rw [join_solid _ h.solid]
  cases segments with
  | nil => exact ⟨[], front_names h, rfl, rfl⟩
  | cons s rest =>
    by_cases here : s = "."
    · subst here
      rw [dropSlash_cons (.inl (by decide))]
      exact ⟨dropSlash rest, rfl, bodyComponents_dropSlash rest, trimBody_dropSlash rest⟩
    · by_cases empty : s = ""
      · subst empty
        cases rest with
        | nil => exact ⟨[], front_names h, rfl, rfl⟩
        | cons t rest =>
          rw [dropSlash_cons (.inr (by simp)), List.cons_append,
            front_root (List.append_ne_nil_of_right_ne_nil _ h.some)]
          exact ⟨dropSlash (t :: rest), rfl, bodyComponents_dropSlash (t :: rest),
            trimBody_dropSlash (t :: rest)⟩
      · rw [dropSlash_cons (.inl empty), List.cons_append, front_of_head empty here,
          front_of_head empty here]
        refine ⟨s :: dropSlash rest, rfl, ?_, ?_⟩
        · rw [← dropSlash_cons (.inl empty), bodyComponents_dropSlash]
        · rw [← dropSlash_cons (.inl empty), trimBody_dropSlash]

theorem components_join (p : Path) {names : List String} (h : AreNames names) :
    (p.join ⟨names⟩).components = p.components ++ names.map .name := by
  obtain ⟨body, front, same, -⟩ := front_join p h
  rw [components_eq, components_eq, front, bodyComponents_append, same, bodyComponents_names h,
    List.append_assoc]

/-! ## The file name -/

theorem fileName?_joinName (p : Path) {name : String} (h : IsName name) :
    (p.joinName name).fileName? = some name := by
  rw [joinName, ofString_of_isName h, fileName?, components_join p (areNames_singleton h)]
  simp

theorem stem_joinName (p : Path) {name : String} (h : IsName name) :
    (p.joinName name).stem = (splitName name).1 := by
  rw [stem, fileName?_joinName p h]
  rfl

theorem extension?_joinName (p : Path) {name : String} (h : IsName name) :
    (p.joinName name).extension? = (splitName name).2 := by
  rw [extension?, fileName?_joinName p h]
  rfl

theorem extension?_ofString {name : String} (h : IsName name) :
    (ofString name).extension? = (splitName name).2 := by
  have alone := areNames_singleton h
  rw [ofString_of_isName h, extension?, fileName?, components_eq, front_names alone,
    List.nil_append, bodyComponents_names alone]
  rfl

theorem splitName_eq_some_iff {name stem e : String} : splitName name = (stem, some e) ↔
    name = stem ++ "." ++ e ∧ stem ≠ "" ∧ '.' ∉ e.toList := by
  constructor
  · intro h
    unfold splitName at h
    dsimp only at h
    split at h
    · cases h
    · rename_i dot before found
      split at h
      · cases h
      · rename_i some
        cases h
        -- The name is cut at the first dot of its reverse, which is its last one.
        have isDot : dot = '.' := by
          simpa [found] using List.head?_dropWhile_not (· != '.') name.toList.reverse
        have whole := List.takeWhile_append_dropWhile (p := (· != '.')) (l := name.toList.reverse)
        rw [found, isDot] at whole
        have spelled := congrArg List.reverse whole
        refine ⟨?_, ?_, ?_⟩
        · rw [← String.toList_inj]
          simpa using spelled.symm
        · simpa using some
        · intro mem
          rw [String.toList_ofList, List.mem_reverse] at mem
          simpa using List.mem_takeWhile_imp mem
  · rintro ⟨rfl, some, noDots⟩
    have reversed : (stem ++ "." ++ e).toList.reverse =
        e.toList.reverse ++ '.' :: stem.toList.reverse := by
      simp
    have all : ∀ c ∈ e.toList.reverse, (c != '.') = true := by
      intro c mem
      rw [bne_iff_ne]
      rintro rfl
      exact noDots (List.mem_reverse.mp mem)
    have stop : ∀ c ∈ ('.' :: stem.toList.reverse).head?, (c != '.') = false := by
      rintro _ ⟨⟩
      rfl
    simp only [splitName, reversed, Text.takeWhile_run all stop, Text.dropWhile_run all stop,
      List.reverse_reverse, String.ofList_toList]
    rw [if_neg (by simpa using some)]

/-! ## Behind a path -/

/-- Taking the components of a body off its front leaves idle segments at most. -/
theorem stripBody_append (body tail : List String) :
    ∃ idle, (∀ s ∈ idle, isIdle s = true) ∧
      stripBody (bodyComponents body) (body ++ tail) = some (idle ++ tail) := by
  induction body with
  | nil => exact ⟨[], by simp, rfl⟩
  | cons s body ih =>
    obtain ⟨idle, allIdle, stripped⟩ := ih
    by_cases isIdle_s : isIdle s = true
    · have body_s : bodyComponents (s :: body) = bodyComponents body := by
        simp [bodyComponents, isIdle_s]
      rw [body_s]
      cases none : bodyComponents body with
      | nil =>
        -- Only idle segments are left, and nothing takes them off.
        have idle_body : ∀ t ∈ body, isIdle t = true := by
          simpa [bodyComponents] using none
        refine ⟨s :: body, fun t ht => ?_, rfl⟩
        rcases List.mem_cons.mp ht with rfl | ht
        · exact isIdle_s
        · exact idle_body t ht
      | cons c cs =>
        refine ⟨idle, allIdle, ?_⟩
        rw [← stripped, none, stripBody, stripBody, List.cons_append,
          List.dropWhile_cons_of_pos isIdle_s]
    · refine ⟨idle, allIdle, ?_⟩
      have body_s : bodyComponents (s :: body) = component s :: bodyComponents body := by
        simp [bodyComponents, isIdle_s]
      rw [body_s, stripBody, List.cons_append, List.dropWhile_cons_of_neg isIdle_s]
      simpa using stripped

theorem dropWhile_names {names : List String} (h : AreNames names) :
    names.dropWhile isIdle = names := by
  obtain ⟨name, rest, rfl⟩ := List.exists_cons_of_ne_nil h.some
  rw [List.dropWhile_cons_of_neg]
  simp [(h.isName name List.mem_cons_self).not_idle]

theorem trimBody_names {names : List String} (h : AreNames names) : trimBody names = names := by
  have reversed : AreNames names.reverse :=
    ⟨by simpa using h.some, fun s hs => h.isName s (List.mem_reverse.mp hs)⟩
  rw [trimBody, dropWhile_names reversed, List.reverse_reverse]

theorem ofParts_names {names : List String} (h : AreNames names) : ofParts [] names = ⟨names⟩ := by
  obtain ⟨name, rest, rfl⟩ := List.exists_cons_of_ne_nil h.some
  rfl

theorem front_start (p : Path) : p.front.1 = [] ∨ ∃ c, p.front.1 = [c] := by
  unfold front
  split
  · exact .inr ⟨.root, rfl⟩
  · exact .inr ⟨.here, rfl⟩
  · exact .inl rfl

theorem dropSlash_of_components_eq_nil {p : Path} (h : p.components = []) :
    dropSlash p.segments = [] := by
  obtain ⟨segments⟩ := p
  cases segments with
  | nil => rfl
  | cons s rest =>
    by_cases here : s = "."
    · subst here
      cases h
    · by_cases empty : s = ""
      · subst empty
        cases rest with
        | nil => rfl
        | cons t rest => cases h
      · rw [components_eq, front_of_head empty here] at h
        simp [bodyComponents, isIdle, empty, here] at h

theorem stripPrefix?_join (root : Path) {names : List String} (h : AreNames names) :
    stripPrefix? root (root.join ⟨names⟩) = some ⟨names⟩ := by
  unfold stripPrefix?
  cases parts : root.components with
  | nil =>
    rw [join_solid root h.solid, dropSlash_of_components_eq_nil parts, List.nil_append,
      front_names h]
    exact congrArg some ((congrArg (ofParts []) (trimBody_names h)).trans (ofParts_names h))
  | cons c cs =>
    obtain ⟨body, front, same, -⟩ := front_join root h
    obtain ⟨idle, allIdle, stripped⟩ := stripBody_append body names
    have behind : (some (idle ++ names)).map
        (fun body => ofParts [] (trimBody (body.dropWhile isIdle))) = some ⟨names⟩ := by
      rw [Option.map_some, List.dropWhile_append_of_pos allIdle, dropWhile_names h,
        trimBody_names h, ofParts_names h]
    rw [components_eq, ← same] at parts
    rw [front]
    rcases front_start root with start | ⟨d, start⟩
    · rw [start, List.nil_append] at parts
      rw [parts] at stripped
      rw [start, ← behind, ← stripped]
    · rw [start, List.singleton_append] at parts
      obtain ⟨rfl, rest⟩ := List.cons.inj parts
      rw [rest] at stripped
      simp only [start, beq_self_eq_true, if_true, stripped]
      exact behind

/-- What is left of a path behind a root, its components between slashes. -/
def placeFrom (root p : Path) : String :=
  "/".intercalate (((stripPrefix? root p).getD p).components.map PathComponent.text)

theorem placeFrom_join (root : Path) {names : List String} (h : AreNames names) :
    placeFrom root (root.join ⟨names⟩) = "/".intercalate names := by
  have text : PathComponent.text ∘ PathComponent.name = id := rfl
  rw [placeFrom, stripPrefix?_join root h, Option.getD_some, components_eq, front_names h,
    List.nil_append, bodyComponents_names h, List.map_map, text, List.map_id]

end Path

end Scaffold
