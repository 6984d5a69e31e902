import Mathlib.Data.List.DropRight
import Mathlib.Data.List.TakeWhile
import Scaffold.Proofs.Path

/-!
# Paths above a path

A path whose body ends sooner leads a part of the way. The parent of a path is one of these, and
so is its home, the path without what is idle at its end.
-/

namespace Scaffold

namespace Path

/-! ## Idle segments at the end -/

theorem trimBody_append (body : List String) :
    ∃ idle, body = trimBody body ++ idle ∧ ∀ s ∈ idle, isIdle s = true := by
  refine ⟨(body.reverse.takeWhile isIdle).reverse, ?_, fun s hs => ?_⟩
  · rw [trimBody, ← List.reverse_append, List.takeWhile_append_dropWhile, List.reverse_reverse]
  · exact List.mem_takeWhile_imp (List.mem_reverse.mp hs)

theorem prefix_of_trimBody (body : List String) : trimBody body <+: body := by
  obtain ⟨idle, parts, -⟩ := trimBody_append body
  exact ⟨idle, parts.symm⟩

theorem not_idle_of_trimBody {body front : List String} {s : String}
    (h : trimBody body = front ++ [s]) : isIdle s = false := by
  have first := List.head?_dropWhile_not isIdle body.reverse
  rw [← List.reverse_reverse (body.reverse.dropWhile isIdle), ← trimBody, h,
    List.reverse_append] at first
  exact first

theorem bodyComponents_idle {idle : List String} (h : ∀ s ∈ idle, isIdle s = true) :
    bodyComponents idle = [] := by
  rw [bodyComponents, List.filter_eq_nil_iff.mpr fun s hs => by simp [h s hs], List.map_nil]

theorem bodyComponents_trimBody (body : List String) :
    bodyComponents (trimBody body) = bodyComponents body := by
  obtain ⟨idle, parts, isIdle⟩ := trimBody_append body
  calc bodyComponents (trimBody body)
      = bodyComponents (trimBody body) ++ bodyComponents idle := by
        rw [bodyComponents_idle isIdle, List.append_nil]
    _ = bodyComponents body := by rw [← bodyComponents_append, ← parts]

theorem solid_append (front back : List String) :
    Disk.solid (front ++ back) = Disk.solid front ++ Disk.solid back := List.filter_append ..

theorem bodyComponents_singleton {s : String} (h : isIdle s = false) :
    bodyComponents [s] = [component s] := by
  simp [bodyComponents, h]

theorem bodyComponents_cons {s : String} (h : isIdle s = false) (rest : List String) :
    bodyComponents (s :: rest) = component s :: bodyComponents rest := by
  rw [← List.singleton_append, bodyComponents_append, bodyComponents_singleton h]
  rfl

theorem bodyComponents_cons_idle {s : String} (h : isIdle s = true) (rest : List String) :
    bodyComponents (s :: rest) = bodyComponents rest := by
  simp [bodyComponents, h]

theorem solid_singleton {s : String} (h : isIdle s = false) : Disk.solid [s] = [s] := by
  have notEmpty : s ≠ "" := by
    rintro rfl
    cases h
  simp [Disk.solid, notEmpty]

theorem eq_of_component_eq {s t : String} (h : component s = .name t) : s = t := by
  unfold component at h
  split at h
  · cases h
  · exact PathComponent.name.inj h

theorem eq_dot_of_mem_solid_idle {idle : List String} (h : ∀ s ∈ idle, isIdle s = true) :
    ∀ s ∈ Disk.solid idle, s = "." := by
  intro s hs
  obtain ⟨mem, notEmpty⟩ := List.mem_filter.mp hs
  simpa [isIdle, bne_iff_ne.mp notEmpty] using h s mem

/-! ## Paths that end sooner -/

def cut (p : Path) (body : List String) : Path := ofParts p.front.1 (trimBody body)

/-- The path without what is idle at its end. -/
def home (p : Path) : Path := p.cut p.front.2

theorem front_cases (p : Path) :
    (∃ s rest, p = ⟨"" :: s :: rest⟩ ∧ p.front = ([.root], s :: rest)) ∨
    (∃ rest, p = ⟨"." :: rest⟩ ∧ p.front = ([.here], rest)) ∨
    (p.front = ([], p.segments) ∧
      (p.segments = [] ∨ p.segments = [""] ∨
        ∃ s rest, p.segments = s :: rest ∧ s ≠ "" ∧ s ≠ ".")) := by
  obtain ⟨segments⟩ := p
  match segments with
  | [] => exact .inr (.inr ⟨rfl, .inl rfl⟩)
  | s :: rest =>
    by_cases here : s = "."
    · subst here
      exact .inr (.inl ⟨rest, rfl, rfl⟩)
    by_cases empty : s = ""
    · subst empty
      cases rest with
      | nil => exact .inr (.inr ⟨rfl, .inr (.inl rfl)⟩)
      | cons t rest => exact .inl ⟨t, rest, rfl, rfl⟩
    · exact .inr (.inr ⟨front_of_head empty here, .inr (.inr ⟨s, rest, rfl, empty, here⟩)⟩)

def startSegments : List PathComponent → List String
  | .root :: _ => [""]
  | .here :: _ => ["."]
  | _ => []

theorem segments_eq (p : Path) : p.segments = startSegments p.front.1 ++ p.front.2 := by
  rcases p.front_cases with ⟨s, rest, rfl, front⟩ | ⟨rest, rfl, front⟩ | ⟨front, -⟩
  · rw [front]
    rfl
  · rw [front]
    rfl
  · rw [front]
    rfl

theorem bodyComponents_segments (p : Path) :
    bodyComponents p.segments = bodyComponents p.front.2 := by
  rw [segments_eq p]
  rcases p.front_cases with ⟨_, _, -, front⟩ | ⟨_, -, front⟩ | ⟨front, -⟩ <;> rw [front] <;> rfl

theorem isAbsolute_eq (p : Path) : p.isAbsolute = (p.front.1 == [.root]) := by
  rcases p.front_cases with ⟨s, rest, rfl, front⟩ | ⟨rest, rfl, front⟩ | ⟨front, spelled⟩
  · simp [front, isAbsolute]
  · rw [front]
    rfl
  · rw [front]
    obtain ⟨segments⟩ := p
    rcases spelled with rfl | rfl | ⟨s, rest, rfl, notEmpty, -⟩
    · rfl
    · rfl
    · simp [isAbsolute, notEmpty]

theorem intercalate_append (front back : List String) :
    ∃ r, "/".intercalate (front ++ back) = "/".intercalate front ++ r := by
  induction front with
  | nil => exact ⟨"/".intercalate back, by simp⟩
  | cons s front ih =>
    obtain ⟨r, parts⟩ := ih
    cases front with
    | nil =>
      cases back with
      | nil => exact ⟨"", by simp⟩
      | cons t back =>
        refine ⟨"/" ++ "/".intercalate (t :: back), ?_⟩
        rw [List.singleton_append, String.intercalate_cons_cons, String.intercalate_singleton,
          String.append_assoc]
    | cons t front =>
      refine ⟨r, ?_⟩
      rw [List.cons_append, List.cons_append, String.intercalate_cons_cons, ← List.cons_append,
        parts, String.intercalate_cons_cons, String.append_assoc, String.append_assoc,
        String.append_assoc]

section Cut

variable {p : Path} {body : List String} (h : body <+: p.front.2)

include h

theorem front_cut : ∃ rest, (p.cut body).front = (p.front.1, rest) ∧
    (rest = trimBody body ∨ rest = [""] ∧ trimBody body = [] ∧ p.front.1 ≠ [.here]) := by
  have sooner := (prefix_of_trimBody body).trans h
  unfold cut
  rcases p.front_cases with ⟨s, rest, rfl, front⟩ | ⟨rest, rfl, front⟩ | ⟨front, spelled⟩
  · rw [front]
    cases trimmed : trimBody body with
    | nil => exact ⟨[""], rfl, .inr ⟨rfl, rfl, by simp⟩⟩
    | cons t more => exact ⟨t :: more, rfl, .inl rfl⟩
  · rw [front]
    exact ⟨trimBody body, rfl, .inl rfl⟩
  · rw [front] at sooner ⊢
    cases trimmed : trimBody body with
    | nil => exact ⟨[""], rfl, .inr ⟨rfl, rfl, by simp⟩⟩
    | cons t more =>
      rw [trimmed] at sooner
      rcases spelled with segments | segments | ⟨s, rest, segments, notEmpty, notHere⟩
      · rw [segments] at sooner
        exact absurd (List.prefix_nil.mp sooner) (List.cons_ne_nil t more)
      · rw [segments] at sooner
        obtain ⟨rfl, none⟩ := List.cons_prefix_cons.mp sooner
        rw [List.prefix_nil.mp none] at trimmed
        cases not_idle_of_trimBody (show trimBody body = [] ++ [""] from trimmed)
      · rw [segments] at sooner
        obtain ⟨rfl, -⟩ := List.cons_prefix_cons.mp sooner
        exact ⟨t :: more, front_of_head notEmpty notHere, .inl rfl⟩

theorem components_cut : (p.cut body).components = p.front.1 ++ bodyComponents body := by
  obtain ⟨rest, front, rfl | ⟨rfl, none, -⟩⟩ := front_cut h
  · rw [components_eq, front, bodyComponents_trimBody]
  · rw [components_eq, front, ← bodyComponents_trimBody body, none]
    rfl

theorem isAbsolute_cut : (p.cut body).isAbsolute = p.isAbsolute := by
  obtain ⟨rest, front, -⟩ := front_cut h
  rw [isAbsolute_eq, isAbsolute_eq, front]

theorem solid_cut : Disk.solid (p.cut body).segments
    = Disk.solid (startSegments p.front.1) ++ Disk.solid (trimBody body) := by
  obtain ⟨rest, front, rfl | ⟨rfl, none, -⟩⟩ := front_cut h
  · rw [segments_eq, front, solid_append]
  · rw [segments_eq, front, solid_append, none]
    rfl

theorem text_cut : ∃ r, p.text = (p.cut body).text ++ r := by
  obtain ⟨rest, front, rfl | ⟨rfl, none, notHere⟩⟩ := front_cut h
  · obtain ⟨more, parts⟩ := (prefix_of_trimBody body).trans h
    rw [text, text, segments_eq, segments_eq (p.cut body), front, ← parts, ← List.append_assoc]
    exact intercalate_append _ more
  · rw [text, text, segments_eq (p.cut body), front]
    rcases p.front_cases with ⟨s, rest, rfl, start⟩ | ⟨rest, rfl, start⟩ | ⟨start, -⟩
    · rw [start]
      exact ⟨"/".intercalate (s :: rest), String.intercalate_cons_cons ..⟩
    · exact absurd (congrArg Prod.fst start) notHere
    · rw [start]
      exact ⟨_, String.empty_append.symm⟩

end Cut

/-! ## Above a path -/

/-- The path starts as the other one does, and leads a part of its way. -/
structure Above (q p : Path) : Prop where
  absolute : q.isAbsolute = p.isAbsolute
  way : Disk.solid q.segments <+: Disk.solid p.segments

theorem Above.refl (p : Path) : Above p p := ⟨rfl, List.prefix_rfl⟩

theorem Above.trans {p q r : Path} (first : Above r q) (second : Above q p) : Above r p :=
  ⟨first.absolute.trans second.absolute, first.way.trans second.way⟩

/-- The last segment that is followed is the file name, if there is one. -/
def EndsInName (p : Path) : Prop :=
  ∀ s, p.fileName? = some s → (Disk.solid p.segments).getLast? = some s

/-- Behind a name the path does not go upwards. -/
def Descends (p : Path) : Prop :=
  ∀ front s back, p.components = front ++ .name s :: back → .up ∉ back

/-- What is followed behind a path that ends sooner: what is idle, and then what was left out. -/
theorem solid_eq_cut {p : Path} {body more : List String} (parts : p.front.2 = body ++ more) :
    ∃ dots, (∀ s ∈ dots, s = ".") ∧
      Disk.solid p.segments = Disk.solid (p.cut body).segments ++ dots ++ Disk.solid more := by
  obtain ⟨idle, trimmed, isIdle⟩ := trimBody_append body
  refine ⟨Disk.solid idle, eq_dot_of_mem_solid_idle isIdle, ?_⟩
  have whole : Disk.solid body = Disk.solid (trimBody body) ++ Disk.solid idle := by
    rw [← solid_append, ← trimmed]
  rw [solid_cut ⟨more, parts.symm⟩, segments_eq, solid_append, parts, solid_append, whole]
  simp only [List.append_assoc]

theorem above_cut {p : Path} {body : List String} (h : body <+: p.front.2) :
    Above (p.cut body) p := by
  obtain ⟨more, parts⟩ := h
  obtain ⟨dots, -, way⟩ := solid_eq_cut parts.symm
  refine ⟨isAbsolute_cut ⟨more, parts⟩, dots ++ Disk.solid more, ?_⟩
  rw [way, List.append_assoc]

theorem fileName?_eq (p : Path) (s : String) :
    p.fileName? = some s ↔ p.components.getLast? = some (.name s) := by
  unfold fileName?
  split
  · rename_i t last
    rw [last]
    simp
  · rename_i other
    simp only [reduceCtorEq, false_iff]
    exact other s

theorem name_not_mem_start (p : Path) (s : String) : .name s ∉ p.front.1 := by
  rcases p.front_cases with ⟨_, _, _, front⟩ | ⟨_, _, front⟩ | ⟨front, -⟩ <;> simp [front]

theorem isIdle_fileName {p : Path} {s : String} (h : p.fileName? = some s) :
    isIdle s = false ∧ component s = .name s := by
  rw [fileName?_eq, components_eq] at h
  have mem := (List.mem_append.mp (List.mem_of_getLast? h)).resolve_left (name_not_mem_start p s)
  obtain ⟨t, kept, named⟩ := List.mem_map.mp mem
  obtain rfl := eq_of_component_eq named
  exact ⟨by simpa using (List.mem_filter.mp kept).2, named⟩

theorem notHere_of_fileName? {p : Path} {s : String} (h : p.fileName? = some s) : s ≠ "." := by
  rintro rfl
  cases (isIdle_fileName h).1

theorem notUp_of_fileName? {p : Path} {s : String} (h : p.fileName? = some s) : s ≠ ".." := by
  rintro rfl
  cases (isIdle_fileName h).2

theorem endsInName_cut {p : Path} {body : List String} (h : body <+: p.front.2) :
    EndsInName (p.cut body) := by
  intro s named
  rw [fileName?_eq, components_cut h, ← bodyComponents_trimBody] at named
  rw [solid_cut h]
  rcases List.eq_nil_or_concat (trimBody body) with trimmed | ⟨front, c, trimmed⟩
  · rw [trimmed, show bodyComponents [] = [] from rfl, List.append_nil] at named
    exact absurd (List.mem_of_getLast? named) (name_not_mem_start p s)
  · rw [List.concat_eq_append] at trimmed
    have notIdle := not_idle_of_trimBody trimmed
    rw [trimmed, bodyComponents_append, bodyComponents_singleton notIdle, ← List.append_assoc,
      List.getLast?_concat] at named
    obtain rfl := eq_of_component_eq (Option.some.inj named)
    rw [trimmed, solid_append, solid_singleton notIdle, ← List.append_assoc, List.getLast?_concat]

theorem parent?_eq_cut {p : Path} {body : List String} {c : String}
    (h : trimBody p.front.2 = body ++ [c]) : p.parent? = some (p.cut body) := by
  have notNil : body ++ [c] ≠ [] := List.append_ne_nil_of_right_ne_nil body (List.cons_ne_nil c [])
  unfold parent?
  rw [h]
  split
  · rename_i none
    exact absurd none notNil
  · rename_i none
    exact absurd none notNil
  · rename_i front _ _
    rw [List.dropLast_concat, cut, front]

theorem exists_parent {p : Path} {s : String} (h : p.fileName? = some s) :
    ∃ q, p.parent? = some q := by
  rcases List.eq_nil_or_concat' (trimBody p.front.2) with trimmed | ⟨body, c, trimmed⟩
  · rw [fileName?_eq, components_eq, ← bodyComponents_trimBody, trimmed,
      show bodyComponents [] = [] from rfl, List.append_nil] at h
    exact absurd (List.mem_of_getLast? h) (name_not_mem_start p s)
  · exact ⟨_, parent?_eq_cut trimmed⟩

/-- A parent ends before the last component. Only a single dot has the empty path as its parent. -/
theorem parent?_cases {p q : Path} (h : p.parent? = some q) :
    (p.front.1 = [.here] ∧ bodyComponents p.front.2 = [] ∧ q = ⟨[""]⟩) ∨
    ∃ body c idle, p.front.2 = body ++ c :: idle ∧ isIdle c = false ∧
      (∀ s ∈ idle, isIdle s = true) ∧ q = p.cut body := by
  rcases List.eq_nil_or_concat (trimBody p.front.2) with trimmed | ⟨body, c, trimmed⟩
  · have none : bodyComponents p.front.2 = [] := by
      rw [← bodyComponents_trimBody, trimmed]
      rfl
    unfold parent? at h
    rw [trimmed] at h
    split at h
    · rename_i start _
      cases h
      exact .inl ⟨congrArg Prod.fst start, none, rfl⟩
    · cases h
    · rename_i some
      exact absurd rfl some
  · rw [List.concat_eq_append] at trimmed
    obtain ⟨idle, parts, allIdle⟩ := trimBody_append p.front.2
    cases (parent?_eq_cut trimmed).symm.trans h
    refine .inr ⟨body, c, idle, ?_, not_idle_of_trimBody trimmed, allIdle, rfl⟩
    rw [parts, trimmed, List.append_assoc, List.singleton_append]

theorem above_parent {p q : Path} (h : p.parent? = some q) : Above q p := by
  rcases parent?_cases h with ⟨start, none, rfl⟩ | ⟨body, c, idle, parts, -, -, rfl⟩
  · refine ⟨?_, List.nil_prefix⟩
    rw [isAbsolute_eq p, start]
    rfl
  · exact above_cut ⟨c :: idle, parts.symm⟩

theorem components_parent {p q : Path} (h : p.parent? = some q) :
    ∃ c, p.components = q.components ++ [c] := by
  rcases parent?_cases h with ⟨start, none, rfl⟩ | ⟨body, c, idle, parts, notIdle, allIdle, rfl⟩
  · exact ⟨.here, by rw [components_eq, start, none]; rfl⟩
  · refine ⟨component c, ?_⟩
    rw [components_eq, parts, components_cut ⟨c :: idle, parts.symm⟩, ← List.singleton_append,
      bodyComponents_append, bodyComponents_append, bodyComponents_singleton notIdle,
      bodyComponents_idle allIdle, List.append_nil, List.append_assoc]

theorem descends_parent {p q : Path} (descends : Descends p) (h : p.parent? = some q) :
    Descends q := by
  obtain ⟨c, components⟩ := components_parent h
  intro front s back parts up
  refine descends front s (back ++ [c]) ?_ (List.mem_append_left _ up)
  rw [components, parts, List.append_assoc, List.cons_append]

theorem endsInName_parent {p q : Path} (h : p.parent? = some q) : EndsInName q := by
  rcases parent?_cases h with ⟨-, -, rfl⟩ | ⟨body, c, idle, parts, -, -, rfl⟩
  · intro s named
    cases named
  · exact endsInName_cut ⟨c :: idle, parts.symm⟩

theorem solid_parent {p q : Path} {s : String} (h : p.parent? = some q)
    (named : p.fileName? = some s) (ends : EndsInName p) :
    ∃ dots, (∀ d ∈ dots, d = ".") ∧
      Disk.solid p.segments = Disk.solid q.segments ++ dots ++ [s] := by
  have last := ends s named
  rcases parent?_cases h with ⟨start, none, rfl⟩ | ⟨body, c, idle, parts, notIdle, allIdle, rfl⟩
  · rw [fileName?_eq, components_eq, start, none] at named
    cases named
  · obtain ⟨dots, areDots, way⟩ := solid_eq_cut parts
    rw [fileName?_eq, components_eq, parts, ← List.singleton_append, bodyComponents_append,
      bodyComponents_append, bodyComponents_singleton notIdle, bodyComponents_idle allIdle,
      List.append_nil, ← List.append_assoc, List.getLast?_concat] at named
    obtain rfl := eq_of_component_eq (Option.some.inj named)
    rw [← List.singleton_append, solid_append, solid_singleton notIdle] at way
    -- A dot behind the name would be what comes last.
    have none : Disk.solid idle = [] := by
      rw [List.eq_nil_iff_forall_not_mem]
      intro d hd
      have dot := eq_dot_of_mem_solid_idle allIdle
      rw [way, ← List.append_assoc,
        List.getLast?_append_of_ne_nil _ (List.ne_nil_of_mem hd)] at last
      rw [dot c (List.mem_of_getLast? last)] at notIdle
      cases notIdle
    refine ⟨dots, areDots, ?_⟩
    rw [way, none, List.append_nil]

theorem eq_up_or_name {body : List String} {c : PathComponent} (h : c ∈ bodyComponents body) :
    c = .up ∨ ∃ s, c = .name s := by
  obtain ⟨s, -, rfl⟩ := List.mem_map.mp h
  unfold component
  split
  · exact .inl rfl
  · exact .inr ⟨s, rfl⟩

/-- A path that goes downwards only behind its names ends in one, if there are any. -/
theorem name_not_mem_of_fileName? {p : Path} (descends : Descends p) (h : p.fileName? = none)
    (s : String) : .name s ∉ p.components := by
  intro named
  have body := named
  rw [components_eq] at body
  obtain ⟨front, back, parts⟩ := List.append_of_mem
    ((List.mem_append.mp body).resolve_left (name_not_mem_start p s))
  have noUp : .up ∉ back := by
    refine descends (p.front.1 ++ front) s back ?_
    rw [components_eq, parts, List.append_assoc]
  obtain ⟨t, last⟩ : ∃ t, (PathComponent.name s :: back).getLast? = some (.name t) := by
    rcases List.eq_nil_or_concat back with rfl | ⟨more, c, rfl⟩
    · exact ⟨s, rfl⟩
    · rw [List.concat_eq_append] at parts noUp ⊢
      have mem : c ∈ bodyComponents p.front.2 := by
        rw [parts]
        simp
      rcases eq_up_or_name mem with rfl | ⟨t, rfl⟩
      · exact absurd (List.mem_append_right more List.mem_cons_self) noUp
      · exact ⟨t, by rw [← List.cons_append, List.getLast?_concat]⟩
  have found : p.fileName? = some t := by
    rw [fileName?_eq, components_eq, parts, List.getLast?_append_of_ne_nil _ (by simp),
      List.getLast?_append_of_ne_nil _ (by simp), last]
  cases h.symm.trans found

theorem solid_of_no_names {p : Path} (h : ∀ s, .name s ∉ p.components) :
    ∀ s ∈ Disk.solid p.segments, s = "." ∨ s = ".." := by
  intro s hs
  rw [segments_eq, solid_append, List.mem_append] at hs
  rcases hs with hs | hs
  · rcases p.front_cases with ⟨_, _, -, front⟩ | ⟨_, -, front⟩ | ⟨front, -⟩ <;> rw [front] at hs
    · simp [startSegments, Disk.solid] at hs
    · simp [startSegments, Disk.solid] at hs
      exact .inl hs
    · simp [startSegments, Disk.solid] at hs
  · obtain ⟨mem, notEmpty⟩ := List.mem_filter.mp hs
    by_cases here : s = "."
    · exact .inl here
    refine .inr ?_
    by_contra up
    refine h s (List.mem_append_right _ (List.mem_map.mpr ⟨s, List.mem_filter.mpr ⟨mem, ?_⟩, ?_⟩))
    · simp [isIdle, here, bne_iff_ne.mp notEmpty]
    · simp [component, up]

/-! ## The home of a path -/

theorem above_home (p : Path) : Above p.home p := above_cut List.prefix_rfl

theorem components_home (p : Path) : p.home.components = p.components :=
  components_cut List.prefix_rfl

theorem fileName?_home (p : Path) : p.home.fileName? = p.fileName? := by
  rw [fileName?, components_home, fileName?]

theorem endsInName_home (p : Path) : EndsInName p.home := endsInName_cut List.prefix_rfl

theorem trimBody_trimBody (body : List String) : trimBody (trimBody body) = trimBody body := by
  rw [trimBody, trimBody, List.reverse_reverse, List.dropWhile_idempotent]

theorem parent?_home (p : Path) : p.home.parent? = p.parent? := by
  obtain ⟨rest, front, same⟩ := front_cut (List.prefix_refl p.front.2)
  have trimmed : trimBody rest = trimBody p.front.2 := by
    rcases same with rfl | ⟨rfl, none, -⟩
    · exact trimBody_trimBody p.front.2
    · exact none.symm
  unfold parent?
  rw [home, front, trimmed]
  rcases p.front with ⟨start, body⟩
  cases trimBody body <;> rcases start with _ | ⟨_ | _ | _ | _, _ | _⟩ <;> rfl

theorem descends_of_no_ups {p : Path} (noUps : .up ∉ p.components) : Descends p := by
  intro front s back parts up
  exact noUps (parts ▸ List.mem_append_right front (List.mem_cons_of_mem _ up))

theorem descends_home {p : Path} (h : Descends p) : Descends p.home := by
  intro front s back parts
  rw [components_home] at parts
  exact h front s back parts

theorem solid_eq_home (p : Path) : ∃ dots, (∀ d ∈ dots, d = ".") ∧
    Disk.solid p.segments = Disk.solid p.home.segments ++ dots := by
  obtain ⟨dots, areDots, way⟩ := solid_eq_cut (List.append_nil p.front.2).symm
  exact ⟨dots, areDots, way.trans (List.append_nil _)⟩

theorem solid_home {p : Path} {s : String} (named : p.fileName? = some s) (ends : EndsInName p) :
    Disk.solid p.home.segments = Disk.solid p.segments := by
  obtain ⟨dots, areDots, way⟩ := p.solid_eq_home
  rcases List.eq_nil_or_concat' dots with rfl | ⟨front, d, rfl⟩
  · rw [way, List.append_nil]
  · have last := ends s named
    rw [way, ← List.append_assoc, List.getLast?_concat] at last
    have dot := areDots d (List.mem_append_right front List.mem_cons_self)
    exact absurd ((Option.some.inj last).symm.trans dot) (notHere_of_fileName? named)

/-- Only dots at the end hide the file name. -/
theorem endsInName_of_getLast? {p : Path} (h : (Disk.solid p.segments).getLast? ≠ some ".") :
    EndsInName p := by
  intro s named
  obtain ⟨dots, areDots, way⟩ := p.solid_eq_home
  rcases List.eq_nil_or_concat' dots with rfl | ⟨front, d, rfl⟩
  · rw [way, List.append_nil]
    exact endsInName_home p s ((fileName?_home p).trans named)
  · have dot := areDots d (List.mem_append_right front List.mem_cons_self)
    refine absurd ?_ h
    rw [way, ← List.append_assoc, List.getLast?_concat, dot]

theorem text_home (p : Path) : ∃ r, p.text = p.home.text ++ r := text_cut List.prefix_rfl

theorem ofParts_start {p : Path} {body : List String} (some : body ≠ []) :
    ofParts p.front.1 body = ⟨startSegments p.front.1 ++ body⟩ := by
  obtain ⟨s, rest, rfl⟩ := List.exists_cons_of_ne_nil some
  rcases p.front_cases with ⟨_, _, -, front⟩ | ⟨_, -, front⟩ | ⟨front, -⟩
  all_goals
    rw [front]
    rfl

theorem trimBody_concat (front : List String) {s : String} (h : isIdle s = false) :
    trimBody (front ++ [s]) = front ++ [s] := by
  rw [trimBody, List.reverse_append, List.reverse_singleton, List.singleton_append,
    List.dropWhile_cons_of_neg (by simp [h]), List.reverse_cons, List.reverse_reverse]

theorem parent?_join_name (p : Path) {name : String} (h : IsName name) :
    (p.join ⟨[name]⟩).parent? = some p.home := by
  obtain ⟨body, front, -, same⟩ := front_join p (areNames_singleton h)
  have trimmed : trimBody (p.join ⟨[name]⟩).front.2 = body ++ [name] := by
    rw [front, trimBody_concat body h.not_idle]
  rw [parent?_eq_cut trimmed, cut, front, same, home, cut]

theorem parent?_join (p : Path) {names : List String} {name : String} (hn : AreNames names)
    (h : IsName name) : (p.join ⟨names ++ [name]⟩).parent? = some (p.join ⟨names⟩) := by
  have all := hn.append (areNames_singleton h)
  obtain ⟨body, front, -, -⟩ := front_join p all
  have trimmed : trimBody (p.join ⟨names ++ [name]⟩).front.2 = body ++ names ++ [name] := by
    rw [front, ← List.append_assoc, trimBody_concat _ h.not_idle]
  have last : trimBody (body ++ names) = body ++ names := by
    obtain ⟨more, s, rfl⟩ := (List.eq_nil_or_concat names).resolve_left hn.some
    rw [List.concat_eq_append] at hn ⊢
    have notIdle := (hn.isName s (List.mem_append_right _ List.mem_cons_self)).not_idle
    rw [← List.append_assoc, trimBody_concat _ notIdle]
  have spelled := segments_eq (p.join ⟨names ++ [name]⟩)
  rw [front, join_solid p all.solid, ← List.append_assoc, ← List.append_assoc,
    ← List.append_assoc] at spelled
  rw [parent?_eq_cut trimmed, cut, last, front]
  have some : body ++ names ≠ [] := List.append_ne_nil_of_right_ne_nil body hn.some
  rw [ofParts_start some, join_solid p hn.solid, ← List.append_assoc,
    List.append_cancel_right spelled]

/-! ## Slashes at the end -/

theorem isEmpty_of_components {p : Path} (h : p.components ≠ []) : p.isEmpty = false := by
  rw [← Bool.not_eq_true]
  intro empty
  obtain ⟨segments⟩ := p
  rcases (show segments = [""] ∨ segments = [] by simpa [isEmpty] using empty) with rfl | rfl
  · exact h rfl
  · exact h rfl

theorem join_slashes {segments : List String} (some : segments ≠ []) :
    String.join (segments.map (· ++ "/")) = "/".intercalate (segments ++ [""]) := by
  induction segments with
  | nil => exact absurd rfl some
  | cons s rest ih =>
    cases rest with
    | nil => simp
    | cons t rest =>
      rw [List.map_cons, String.join_cons, ih (List.cons_ne_nil t rest)]
      exact (String.intercalate_cons_cons ..).symm

theorem text_join_append (p : Path) {tail : List String} (h : AreSolid tail) :
    ∃ r, (p.join ⟨tail⟩).text = p.text ++ r := by
  have dropped : ∃ r, String.join ((dropSlash p.segments).map (· ++ "/")) = p.text ++ r := by
    unfold dropSlash text
    split
    · rename_i last
      obtain ⟨front, segments⟩ := List.getLast?_eq_some_iff.mp last
      rw [segments, List.dropLast_concat]
      refine ⟨"", ?_⟩
      cases front with
      | nil => rfl
      | cons s front => rw [join_slashes (List.cons_ne_nil s front), String.append_empty]
    · cases segments : p.segments with
      | nil => exact ⟨"", rfl⟩
      | cons s rest =>
        rw [join_slashes (List.cons_ne_nil s rest)]
        exact intercalate_append (s :: rest) [""]
  obtain ⟨r, spelled⟩ := dropped
  exact ⟨r ++ (⟨tail⟩ : Path).text, by rw [text_join p h, spelled, String.append_assoc]⟩

/-- Trimming takes all slashes off the end, but none off a path of slashes only. -/
theorem trimSlashes_cases (segments : List String) :
    (trimSlashes segments = segments ∧ ∀ s ∈ segments, s = "") ∨
    ∃ front s slashes, s ≠ "" ∧ trimSlashes segments = front ++ [s] ∧
      segments = front ++ [s] ++ slashes ∧ ∀ t ∈ slashes, t = "" := by
  have parts := List.takeWhile_append_dropWhile (p := (· == "")) (l := segments.reverse)
  have slashes : ∀ t ∈ segments.reverse.takeWhile (· == ""), t = "" := by
    intro t ht
    simpa using List.mem_takeWhile_imp ht
  cases kept : segments.reverse.dropWhile (· == "") with
  | nil =>
    refine .inl ⟨by rw [trimSlashes, kept]; rfl, fun s hs => slashes s ?_⟩
    rw [kept, List.append_nil] at parts
    rw [parts]
    exact List.mem_reverse.mpr hs
  | cons s front =>
    refine .inr ⟨front.reverse, s, (segments.reverse.takeWhile (· == "")).reverse, ?_, ?_, ?_, ?_⟩
    · have first := List.head?_dropWhile_not (· == "") segments.reverse
      rw [kept] at first
      simpa using first
    · rw [trimSlashes, kept, List.reverse_cons]
      split
      · rename_i none
        exact absurd none (List.append_ne_nil_of_right_ne_nil _ (List.cons_ne_nil s []))
      · rfl
    · rw [← List.reverse_cons, ← List.reverse_append, ← kept, parts, List.reverse_reverse]
    · exact fun t ht => slashes t (List.mem_reverse.mp ht)

theorem solid_slashes {slashes : List String} (h : ∀ t ∈ slashes, t = "") :
    Disk.solid slashes = [] := List.filter_eq_nil_iff.mpr fun t ht => by simp [h t ht]

theorem solid_trimSlashes (segments : List String) :
    Disk.solid (trimSlashes segments) = Disk.solid segments := by
  rcases trimSlashes_cases segments with ⟨same, -⟩ | ⟨front, s, slashes, -, trimmed, parts, empty⟩
  · rw [same]
  · rw [trimmed, parts, solid_append _ slashes, solid_slashes empty, List.append_nil]

theorem isAbsolute_trimSlashes (p : Path) :
    (⟨trimSlashes p.segments⟩ : Path).isAbsolute = p.isAbsolute := by
  obtain ⟨segments⟩ := p
  rcases trimSlashes_cases segments with ⟨same, -⟩ | ⟨front, s, slashes, some, trimmed, parts, -⟩
  · rw [same]
  · rw [trimmed, parts]
    cases front with
    | nil => simp [isAbsolute, some]
    | cons t front =>
      have more : 1 ≤ front.length + (slashes.length + 1) := by omega
      simp [isAbsolute, more]

theorem text_trimSlashes (p : Path) :
    ∃ r, p.text = (⟨trimSlashes p.segments⟩ : Path).text ++ r := by
  rcases trimSlashes_cases p.segments with ⟨same, -⟩ | ⟨front, s, slashes, -, trimmed, parts, -⟩
  · exact ⟨"", by rw [same, String.append_empty]⟩
  · rw [trimmed, text, parts]
    exact intercalate_append (front ++ [s]) slashes

theorem endsInSlash_trimSlashes {p : Path} (h : Disk.solid p.segments ≠ []) :
    (⟨trimSlashes p.segments⟩ : Path).endsInSlash = false := by
  rcases trimSlashes_cases p.segments with ⟨-, none⟩ | ⟨front, s, slashes, some, trimmed, -, -⟩
  · exact absurd (solid_slashes none) h
  · simp [trimmed, endsInSlash, some]

theorem isEmpty_trimSlashes {p : Path} (h : p.isEmpty = false) :
    (⟨trimSlashes p.segments⟩ : Path).isEmpty = false := by
  rcases trimSlashes_cases p.segments with ⟨same, -⟩ | ⟨front, s, slashes, some, trimmed, -, -⟩
  · rw [same]
    exact h
  · rw [trimmed]
    simp [isEmpty, some, List.append_eq_singleton_iff]

end Path

end Scaffold
