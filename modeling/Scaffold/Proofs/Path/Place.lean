import Scaffold.Proofs.Path.Above
import Scaffold.Proofs.Text.Lines

/-!
# Places below a root

What is left of a path behind a root has just the components behind those of the root, and a path
is told by the texts of its components. So the place of a file, told by them, leads back to it from
the root, however the root and the way to the file are spelled.
-/

namespace Scaffold

namespace Path

variable {p q root : Path} {s : String} {body rest segments : List String}
  {c : PathComponent} {cs more : List PathComponent}

/-! ## Components and segments -/

theorem text_component (s : String) : (component s).text = s := by
  unfold component
  split
  · rename_i up
    exact (beq_iff_eq.mp up).symm
  · rfl

theorem texts_bodyComponents (segments : List String) :
    (bodyComponents segments).map PathComponent.text = segments.filter (!isIdle ·) := by
  have same : PathComponent.text ∘ component = id := funext text_component
  rw [bodyComponents, List.map_map, same, List.map_id]

theorem bodyComponents_filter (segments : List String) :
    bodyComponents (segments.filter (!isIdle ·)) = bodyComponents segments := by
  simp [bodyComponents, List.filter_filter]

theorem bodyComponents_dropWhile (segments : List String) :
    bodyComponents (segments.dropWhile isIdle) = bodyComponents segments := by
  induction segments with
  | nil => rfl
  | cons s rest ih =>
    by_cases idle : isIdle s = true
    · rw [List.dropWhile_cons_of_pos idle, ih, bodyComponents_cons_idle idle]
    · rw [List.dropWhile_cons_of_neg idle]

theorem mem_segments_of_name (h : .name s ∈ p.components) : s ∈ p.segments := by
  rw [components_eq] at h
  obtain ⟨t, kept, named⟩ :=
    List.mem_map.mp ((List.mem_append.mp h).resolve_left (name_not_mem_start p s))
  obtain rfl := eq_of_component_eq named
  rw [segments_eq]
  exact List.mem_append_right _ (List.mem_filter.mp kept).1

/-- Behind the first component there are only names and ways up. -/
theorem eq_up_or_name_of_tail (h : p.components = c :: cs) :
    ∀ d ∈ cs, d = .up ∨ ∃ s, d = .name s := by
  intro d hd
  rw [components_eq] at h
  have mem : d ∈ bodyComponents p.front.2 := by
    rcases front_start p with none | ⟨first, single⟩
    · rw [none, List.nil_append] at h
      rw [h]
      exact List.mem_cons_of_mem c hd
    · rw [single, List.singleton_append] at h
      rwa [(List.cons.inj h).2]
  exact eq_up_or_name mem

theorem isAbsolute_iff_root : p.isAbsolute = true ↔ p.components.head? = .some .root := by
  rw [isAbsolute_eq, components_eq, beq_iff_eq]
  rcases front_start p with none | ⟨first, single⟩
  · rw [none, List.nil_append]
    refine ⟨fun h => absurd h.symm (List.cons_ne_nil _ _), fun h => ?_⟩
    rcases eq_up_or_name (List.mem_of_mem_head? h) with up | ⟨_, name⟩
    · cases up
    · cases name
  · rw [single, List.singleton_append, List.head?_cons]
    simp

/-- Components that neither come from the root nor from a single dot are those of the segments. -/
theorem components_eq_body (noRoot : .root ∉ p.components) (noHere : .here ∉ p.components) :
    p.components = bodyComponents p.segments := by
  rw [bodyComponents_segments, components_eq]
  rw [components_eq] at noRoot noHere
  rcases p.front_cases with ⟨_, _, -, front⟩ | ⟨_, -, front⟩ | ⟨front, -⟩ <;>
    rw [front] at noRoot noHere ⊢
  · exact absurd List.mem_cons_self noRoot
  · exact absurd List.mem_cons_self noHere
  · rfl

/-! ## The texts of the components -/

/-- The names of the path hold no slash, as in every path that was made from a text. -/
def Spelled (p : Path) : Prop := ∀ s, .name s ∈ p.components → '/' ∉ s.toList

theorem spelled_ofString (text : String) : Spelled (ofString text) := by
  intro s named slash
  obtain ⟨piece, mem, rfl⟩ := List.mem_map.mp (mem_segments_of_name named)
  rw [String.toList_ofList] at slash
  exact absurd (Text.not_separator_of_mem_splitAt mem slash) (by decide)

theorem Spelled.of_append (h : Spelled p) (parts : p.components = cs ++ q.components) :
    Spelled q := fun s named => h s (parts ▸ List.mem_append_right cs named)

theorem splitAt_intercalate {pieces : List (List Char)} (some : pieces ≠ [])
    (free : ∀ piece ∈ pieces, '/' ∉ piece) :
    Text.splitAt (· == '/') (['/'].intercalate pieces) = pieces := by
  induction pieces with
  | nil => exact absurd rfl some
  | cons piece pieces ih =>
    obtain ⟨first, others⟩ := List.forall_mem_cons.mp free
    have noSlash : ∀ c ∈ piece, (c == '/') = false := by
      intro c mem
      rw [beq_eq_false_iff_ne]
      rintro rfl
      exact first mem
    by_cases last : pieces = []
    · subst last
      rw [List.intercalate_singleton, Text.splitAt_eq_singleton noSlash]
    · rw [List.intercalate_cons_of_ne_nil last, List.append_assoc, List.singleton_append,
        Text.splitAt_append (p := (· == '/')) (beq_self_eq_true '/') noSlash, ih last others]

theorem ofString_text (some : segments ≠ []) (free : ∀ s ∈ segments, '/' ∉ s.toList) :
    ofString (⟨segments⟩ : Path).text = ⟨segments⟩ := by
  have pieces : String.ofList ∘ String.toList = id := funext fun _ => String.ofList_toList
  have apart : ∀ piece ∈ segments.map String.toList, '/' ∉ piece := by
    intro piece mem
    obtain ⟨s, hs, rfl⟩ := List.mem_map.mp mem
    exact free s hs
  rw [ofString, text, String.toList_intercalate]
  refine congrArg Path.mk ?_
  rw [show "/".toList = ['/'] from rfl, splitAt_intercalate (by simpa using some) apart,
    List.map_map, pieces, List.map_id]

/-- A path is told by the texts of its components, up to the doubled slash behind a root. -/
theorem components_ofString_texts (h : Spelled p) :
    (ofString ("/".intercalate (p.components.map PathComponent.text))).components =
      p.components := by
  have noSlash : ∀ s ∈ p.front.2.filter (!isIdle ·), '/' ∉ s.toList := by
    intro s mem
    by_cases up : s = ".."
    · subst up
      decide
    · refine h s (List.mem_append_right _ (List.mem_map.mpr ⟨s, mem, ?_⟩))
      simp [component, up]
  rw [components_eq p, List.map_append, texts_bodyComponents, ← bodyComponents_filter p.front.2]
  generalize kept_eq : p.front.2.filter (!isIdle ·) = kept at noSlash
  have solid : ∀ s ∈ kept, isIdle s = false := by
    intro s mem
    rw [← kept_eq] at mem
    simpa using (List.mem_filter.mp mem).2
  have told : ∀ front : List String, (∀ s ∈ front, '/' ∉ s.toList) →
      ∀ s ∈ front ++ kept, '/' ∉ s.toList := fun front free s mem =>
    (List.mem_append.mp mem).elim (free s) (noSlash s)
  rcases p.front_cases with ⟨_, _, -, front⟩ | ⟨_, -, front⟩ | ⟨front, -⟩ <;> rw [front]
  · -- A root is told as a slash and parted from the names by another: two empty segments.
    have spelled : "/".intercalate ("/" :: kept) = (⟨["", ""] ++ kept⟩ : Path).text := by
      cases kept with
      | nil => rfl
      | cons s kept =>
        rw [text, List.cons_append, List.singleton_append, String.intercalate_cons_cons,
          String.intercalate_cons_cons, String.intercalate_cons_cons, String.append_assoc]
        rfl
    have parts := ofString_text (by simp) (told ["", ""] (by decide))
    exact (congrArg (fun text => (ofString text).components) spelled).trans
      (congrArg components parts)
  · have parts := ofString_text (by simp) (told ["."] (by decide))
    exact congrArg components parts
  · cases kept with
    | nil => rfl
    | cons s kept =>
      have parts := ofString_text (by simp) (told [] (by simp))
      have notIdle := solid s List.mem_cons_self
      have notEmpty : s ≠ "" := by
        rintro rfl
        cases notIdle
      have notHere : s ≠ "." := by
        rintro rfl
        cases notIdle
      refine (congrArg components parts).trans ?_
      rw [List.nil_append, components_eq, front_of_head notEmpty notHere]

/-! ## Joining -/

theorem isEmpty_of_components_eq_nil (h : p.components = []) : p.isEmpty = true := by
  rw [components_eq] at h
  rcases p.front_cases with ⟨_, _, -, front⟩ | ⟨_, -, front⟩ | ⟨front, spelled⟩ <;>
    rw [front] at h
  · cases h
  · cases h
  · rcases spelled with none | empty | ⟨s, rest, spelled, notEmpty, notHere⟩
    · simp [isEmpty, none]
    · simp [isEmpty, empty]
    · rw [spelled, List.nil_append,
        bodyComponents_cons (by simp [isIdle, notEmpty, notHere])] at h
      cases h

theorem join_of_absolute (h : q.isAbsolute = true) (p : Path) : p.join q = q := if_pos h

theorem join_of_components_eq_nil (h : p.components = []) (q : Path) : p.join q = q := by
  unfold join
  rw [isEmpty_of_components_eq_nil h]
  split <;> rfl

theorem components_join_relative (some : p.components ≠ []) (relative : q.isAbsolute = false)
    (solid : q.segments ≠ []) :
    (p.join q).components = p.components ++ bodyComponents q.segments := by
  have joined : p.join q = ⟨dropSlash p.segments ++ q.segments⟩ := by
    unfold join dropSlash
    rw [relative, isEmpty_of_components some]
    simp only [Bool.false_eq_true, if_false, beq_iff_eq]
    split <;> rfl
  rw [joined, components_eq, components_eq]
  rcases p.front_cases with ⟨t, rest, rfl, front⟩ | ⟨rest, rfl, front⟩ | ⟨front, spelled⟩ <;>
    rw [front]
  · rw [dropSlash_cons (.inr (by simp)), List.cons_append,
      front_root (List.append_ne_nil_of_right_ne_nil _ solid), bodyComponents_append,
      bodyComponents_dropSlash]
    rfl
  · rw [dropSlash_cons (.inl (by decide))]
    change [PathComponent.here] ++ bodyComponents (dropSlash rest ++ q.segments) = _
    rw [bodyComponents_append, bodyComponents_dropSlash]
    rfl
  · rcases spelled with none | empty | ⟨s, rest, spelled, notEmpty, notHere⟩
    · rw [components_eq, front, none] at some
      exact absurd rfl some
    · rw [components_eq, front, empty] at some
      exact absurd rfl some
    · rw [spelled, dropSlash_cons (.inl notEmpty), List.cons_append,
        front_of_head notEmpty notHere, ← List.cons_append, ← dropSlash_cons (.inl notEmpty),
        bodyComponents_append, bodyComponents_dropSlash]
      rfl

/-- A path leads on from what it is joined to, unless it is absolute. -/
theorem components_prefix_join (p : Path) (relative : q.isAbsolute = false)
    (solid : q.segments ≠ []) : p.components <+: (p.join q).components := by
  by_cases none : p.components = []
  · rw [none]
    exact List.nil_prefix
  · rw [components_join_relative none relative solid]
    exact List.prefix_append _ _

/-! ## Behind a root -/

theorem components_stripBody (h : stripBody cs segments = some rest) :
    bodyComponents segments = cs ++ bodyComponents rest := by
  induction cs generalizing segments with
  | nil =>
    cases h
    rfl
  | cons c cs ih =>
    rw [stripBody] at h
    split at h
    · cases h
    · rename_i s behind found
      have first := List.head?_dropWhile_not isIdle segments
      rw [found] at first
      split at h
      · rename_i same
        rw [← bodyComponents_dropWhile, found, bodyComponents_cons first, ih h,
          beq_iff_eq.mp same, List.cons_append]
      · cases h

theorem stripBody_of_components (h : bodyComponents segments = cs ++ more) :
    ∃ rest, stripBody cs segments = some rest := by
  induction cs generalizing segments with
  | nil => exact ⟨segments, rfl⟩
  | cons c cs ih =>
    rw [← bodyComponents_dropWhile, List.cons_append] at h
    rw [stripBody]
    split
    · rename_i none
      rw [none] at h
      cases h
    · rename_i s behind found
      have first := List.head?_dropWhile_not isIdle segments
      rw [found] at first h
      rw [bodyComponents_cons first] at h
      obtain ⟨same, others⟩ := List.cons.inj h
      rw [if_pos (beq_iff_eq.mpr same)]
      exact ih others

theorem components_ofParts_trimmed (body : List String) :
    (ofParts [] (trimBody (body.dropWhile isIdle))).components = bodyComponents body := by
  rw [← bodyComponents_dropWhile body, ← bodyComponents_trimBody (body.dropWhile isIdle)]
  cases trimmed : trimBody (body.dropWhile isIdle) with
  | nil => rfl
  | cons s rest =>
    have first := List.head?_dropWhile_not isIdle body
    obtain ⟨more, parts⟩ := prefix_of_trimBody (body.dropWhile isIdle)
    rw [trimmed] at parts
    rw [← parts] at first
    have notEmpty : s ≠ "" := by
      rintro rfl
      cases first
    have notHere : s ≠ "." := by
      rintro rfl
      cases first
    rw [show ofParts [] (s :: rest) = ⟨s :: rest⟩ from rfl, components_eq,
      front_of_head notEmpty notHere]
    rfl

/-- What is left behind a root has the components behind those of the root. -/
theorem components_stripPrefix? (h : stripPrefix? root p = some q) :
    p.components = root.components ++ q.components := by
  unfold stripPrefix? at h
  cases parts : root.components with
  | nil =>
    rw [parts] at h
    cases h
    exact p.components_home.symm
  | cons c cs =>
    rw [parts] at h
    obtain ⟨body, stripped, rfl⟩ := Option.map_eq_some_iff.mp h
    rw [components_ofParts_trimmed, components_eq]
    rcases front_start p with none | ⟨first, single⟩
    · rw [show p.front = ([], p.front.2) from Prod.ext none rfl] at stripped
      rw [none, List.nil_append]
      exact components_stripBody stripped
    · rw [show p.front = ([first], p.front.2) from Prod.ext single rfl] at stripped
      dsimp only at stripped
      split at stripped
      · rename_i same
        rw [single, beq_iff_eq.mp same, components_stripBody stripped]
        rfl
      · cases stripped

theorem stripPrefix?_of_components (h : p.components = root.components ++ more) :
    ∃ q, stripPrefix? root p = some q := by
  unfold stripPrefix?
  cases parts : root.components with
  | nil => exact ⟨_, rfl⟩
  | cons c cs =>
    rw [parts, components_eq] at h
    rcases front_start p with none | ⟨first, single⟩
    · rw [none, List.nil_append] at h
      obtain ⟨body, stripped⟩ := stripBody_of_components h
      rw [show p.front = ([], p.front.2) from Prod.ext none rfl]
      exact ⟨_, congrArg (Option.map _) stripped⟩
    · rw [single, List.singleton_append, List.cons_append] at h
      obtain ⟨rfl, behind⟩ := List.cons.inj h
      obtain ⟨body, stripped⟩ := stripBody_of_components behind
      rw [show p.front = ([first], p.front.2) from Prod.ext single rfl]
      dsimp only
      rw [if_pos (beq_self_eq_true [first]), stripped]
      exact ⟨_, rfl⟩

/-! ## Places -/

theorem components_left (h : p.components = root.components ++ more) :
    ((stripPrefix? root p).getD p).components = more := by
  obtain ⟨q, stripped⟩ := stripPrefix?_of_components h
  rw [stripped, Option.getD_some]
  exact List.append_cancel_left ((components_stripPrefix? stripped).symm.trans h)

theorem components_left_elsewhere (h : ¬ root.components <+: p.components) :
    ((stripPrefix? root p).getD p).components = p.components := by
  cases stripped : stripPrefix? root p with
  | none => rfl
  | some q => exact absurd ⟨_, (components_stripPrefix? stripped).symm⟩ h

theorem components_placeFrom (spelled : Spelled p) (h : p.components = root.components ++ more) :
    (ofString (placeFrom root p)).components = more := by
  have left := components_left h
  rw [← left] at h
  rw [placeFrom, components_ofString_texts (spelled.of_append h), left]

theorem components_placeFrom_elsewhere (spelled : Spelled p)
    (h : ¬ root.components <+: p.components) :
    (ofString (placeFrom root p)).components = p.components := by
  have left := components_left_elsewhere h
  rw [placeFrom, left, components_ofString_texts spelled]

theorem segments_ofString_ne_nil (text : String) : (ofString text).segments ≠ [] := by
  simpa [ofString] using Text.splitAt_ne_nil _ text.toList

theorem components_join_of_below (spelled : Spelled p) (below : root.components <+: p.components) :
    (root.join (.ofString (placeFrom root p))).components = p.components := by
  obtain ⟨more, parts⟩ := below
  have told := components_placeFrom spelled parts.symm
  cases start : root.components with
  | nil =>
    rw [start, List.nil_append] at parts
    rw [join_of_components_eq_nil start, told, parts]
  | cons c cs =>
    have behind : ∀ d ∈ more, d = .up ∨ ∃ s, d = .name s := by
      rw [start, List.cons_append] at parts
      exact fun d hd => eq_up_or_name_of_tail parts.symm d (List.mem_append_right cs hd)
    have noRoot : .root ∉ more := fun mem => by simpa using behind _ mem
    have noHere : .here ∉ more := fun mem => by simpa using behind _ mem
    rw [← told] at noRoot noHere
    have relative : (ofString (placeFrom root p)).isAbsolute = false := by
      rw [← Bool.not_eq_true, isAbsolute_iff_root]
      exact fun first => noRoot (List.mem_of_mem_head? first)
    rw [components_join_relative (start ▸ List.cons_ne_nil c cs) relative
      (segments_ofString_ne_nil _), ← components_eq_body noRoot noHere, told, parts]

theorem components_join_of_absolute (spelled : Spelled p) (absolute : p.isAbsolute = true) :
    (root.join (.ofString (placeFrom root p))).components = p.components := by
  by_cases below : root.components <+: p.components
  · exact components_join_of_below spelled below
  · have told := components_placeFrom_elsewhere spelled below
    have there : (ofString (placeFrom root p)).isAbsolute = true := by
      rw [isAbsolute_iff_root, told, ← isAbsolute_iff_root, absolute]
    rw [join_of_absolute there, told]

def fileIn (root dir name : String) : Path := ((ofString root).join (.ofString dir)).joinName name

/-- A file is found below the root, unless the directory is given from the root of the disk. -/
theorem fileIn_cases (root dir name : String) :
    (ofString root).components <+: (fileIn root dir name).components ∨
      (fileIn root dir name).isAbsolute = true := by
  have onwards : ∀ (p : Path) (text : String), (ofString text).isAbsolute = true ∨
      p.components <+: (p.join (.ofString text)).components := by
    intro p text
    cases absolute : (ofString text).isAbsolute with
    | true => exact .inl rfl
    | false => exact .inr (components_prefix_join p absolute (segments_ofString_ne_nil text))
  rcases onwards ((ofString root).join (.ofString dir)) name with absolute | inside
  · rw [fileIn, joinName, join_of_absolute absolute]
    exact .inr absolute
  · rcases onwards (ofString root) dir with absolute | below
    · rw [join_of_absolute absolute] at inside
      refine .inr (isAbsolute_iff_root.mpr ?_)
      rw [fileIn, joinName, join_of_absolute absolute]
      obtain ⟨more, parts⟩ := inside
      rw [← parts, List.head?_append, isAbsolute_iff_root.mp absolute, Option.some_or]
    · exact .inl (below.trans inside)

theorem spelled_join (hp : Spelled p) (hq : Spelled q) (solid : q.segments ≠ []) :
    Spelled (p.join q) := by
  cases absolute : q.isAbsolute with
  | true =>
    rw [join_of_absolute absolute]
    exact hq
  | false =>
    by_cases none : p.components = []
    · rw [join_of_components_eq_nil none]
      exact hq
    · intro s named
      rw [components_join_relative none absolute solid] at named
      rcases List.mem_append.mp named with named | named
      · exact hp s named
      · rw [bodyComponents_segments] at named
        exact hq s (List.mem_append_right _ named)

theorem spelled_fileIn (root dir name : String) : Spelled (fileIn root dir name) :=
  spelled_join (spelled_join (spelled_ofString root) (spelled_ofString dir)
    (segments_ofString_ne_nil dir)) (spelled_ofString name) (segments_ofString_ne_nil name)

/-- The place of the file below the root leads back to it from there, and if the file is below the
root, it is made of the components that remain behind those of the root. -/
theorem components_join_place (root dir name : String) :
    ((ofString root).join
          (.ofString (placeFrom (.ofString root) (fileIn root dir name)))).components =
        (fileIn root dir name).components ∧
      ∀ more, (fileIn root dir name).components = (ofString root).components ++ more →
        (ofString (placeFrom (.ofString root) (fileIn root dir name))).components = more := by
  have spelled := spelled_fileIn root dir name
  refine ⟨?_, fun more parts => components_placeFrom spelled parts⟩
  rcases fileIn_cases root dir name with below | absolute
  · exact components_join_of_below spelled below
  · exact components_join_of_absolute spelled absolute

end Path

end Scaffold
