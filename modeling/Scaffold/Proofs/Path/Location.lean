import Scaffold.Path.Bytes
import Scaffold.Proofs.Path.Place
import Scaffold.Proofs.Text.Slices

/-!
# Recorded locations

A text is read back from its bytes, and its bytes mean in a path what its characters do. So the
location that is recorded for a path tells the components that are left behind the root, if they
are UTF-8, and just then it leads back to the path from the root.
-/

namespace Scaffold

namespace BytePath

variable {root p q : BytePath} {s t : String} {c : PathComponent} {more : List PathComponent}

/-! ## Texts and their bytes -/

theorem unspell_spell (bytes : List UInt8) : unspell (spell bytes) = bytes := by
  rw [unspell, spell, String.toList_ofList, List.map_map]
  refine (List.map_congr_left fun b _ => ?_).trans (List.map_id bytes)
  rw [Function.comp_apply, toNat_ofByte, UInt8.ofNat_toNat]
  rfl

theorem read_utf8 (s : String) : read (utf8 s) = s := by
  rw [read, utf8, unspell_spell]
  exact (congrArg String.ofList (Text.decode_toUTF8 s)).trans String.ofList_toList

theorem utf8_injective : Function.Injective utf8 :=
  Function.LeftInverse.injective read_utf8

def charBytes (c : Char) : List Char := (String.utf8EncodeChar c).map ofByte

theorem toList_utf8 (s : String) : (utf8 s).toList = s.toList.flatMap charBytes := by
  rw [utf8, spell, String.toList_ofList, Text.toList_toUTF8, List.map_flatMap]
  rfl

theorem utf8_ofList (chars : List Char) :
    utf8 (String.ofList chars) = String.ofList (chars.flatMap charBytes) := by
  rw [← String.toList_inj, toList_utf8, String.toList_ofList, String.toList_ofList]

theorem utf8_append (s t : String) : utf8 (s ++ t) = utf8 s ++ utf8 t := by
  rw [← String.toList_inj, String.toList_append, toList_utf8, toList_utf8, toList_utf8,
    String.toList_append, List.flatMap_append]

theorem charBytes_ascii {c : Char} (ascii : c.toNat < 0x80) : charBytes c = [c] := by
  rw [charBytes, Text.encodeChar_ascii ascii, List.map_singleton, ofByte,
    Text.toNat_byte (by omega), Char.ofNat_toNat]

/-- A text of ASCII is its own bytes. -/
theorem utf8_ascii (ascii : s.toList.all (·.toNat < 0x80) = true) : utf8 s = s := by
  rw [← String.toList_inj, toList_utf8]
  refine (List.flatMap_congr fun c mem => ?_).trans (List.flatMap_singleton' s.toList)
  exact charBytes_ascii (of_decide_eq_true (List.all_eq_true.mp ascii c mem))

theorem utf8_empty : utf8 "" = "" := utf8_ascii rfl

theorem utf8_slash : utf8 "/" = "/" := utf8_ascii rfl

theorem utf8_here : utf8 "." = "." := utf8_ascii rfl

theorem utf8_up : utf8 ".." = ".." := utf8_ascii rfl

theorem utf8_intercalate (pieces : List String) :
    utf8 ("/".intercalate pieces) = "/".intercalate (pieces.map utf8) := by
  induction pieces with
  | nil => exact utf8_empty
  | cons piece pieces ih =>
    cases pieces with
    | nil => simp
    | cons next pieces =>
      rw [List.map_cons] at ih
      rw [List.map_cons, List.map_cons, String.intercalate_cons_cons,
        String.intercalate_cons_cons, utf8_append, utf8_append, ih, utf8_slash]

/-! ## Cutting at the slashes -/

theorem slash_not_mem_charBytes {c : Char} (other : c ≠ '/') : '/' ∉ charBytes c := by
  intro mem
  obtain ⟨b, mem, same⟩ := List.mem_map.mp mem
  have byte : b.toNat = 47 := by
    rw [← toNat_ofByte b, same]
    rfl
  rcases Nat.lt_or_ge c.toNat 0x80 with ascii | beyond
  · rw [Text.encodeChar_ascii ascii, List.mem_singleton] at mem
    rw [mem, Text.toNat_byte (by omega)] at byte
    exact other (Char.toNat_inj.mp byte)
  · obtain ⟨first, later, bytes, leads, goesOn⟩ := Text.encodeChar_other beyond
    rw [bytes] at mem
    rcases List.mem_cons.mp mem with rfl | mem
    · omega
    · have continues := goesOn b mem
      simp [Text.isContinuation, byte] at continues

theorem flatMap_joinWith (pieces : List (List Char)) :
    (Text.joinWith ['/'] pieces).flatMap charBytes =
      Text.joinWith ['/'] (pieces.map (List.flatMap charBytes)) := by
  have slash : ['/'].flatMap charBytes = ['/'] := by
    rw [List.flatMap_singleton, charBytes_ascii (by decide)]
  induction pieces with
  | nil => rfl
  | cons piece pieces ih =>
    cases pieces with
    | nil => rfl
    | cons next pieces =>
      have step (first second : List Char) (others : List (List Char)) :
          Text.joinWith ['/'] (first :: second :: others) =
            first ++ ['/'] ++ Text.joinWith ['/'] (second :: others) := rfl
      rw [List.map_cons] at ih
      rw [List.map_cons, List.map_cons, step, step, List.flatMap_append, List.flatMap_append, ih,
        slash]

theorem splitAt_flatMap (chars : List Char) :
    Text.splitAt (· == '/') (chars.flatMap charBytes) =
      (Text.splitAt (· == '/') chars).map (List.flatMap charBytes) := by
  conv_lhs => rw [← Text.joinWith_splitAt '/' chars, flatMap_joinWith]
  refine Text.splitAt_joinWith (p := (· == '/')) rfl ?_ ?_
  · simpa using Text.splitAt_ne_nil _ chars
  · intro piece mem c hc
    obtain ⟨old, hold, rfl⟩ := List.mem_map.mp mem
    obtain ⟨d, hd, hc⟩ := List.mem_flatMap.mp hc
    rw [beq_eq_false_iff_ne]
    rintro rfl
    refine slash_not_mem_charBytes ?_ hc
    rintro rfl
    simpa using Text.not_separator_of_mem_splitAt hold hd

/-- The bytes of a text are cut where the text is. -/
theorem ofText_eq (s : String) : ofText s = ofPath (.ofString s) := by
  have pieces : String.ofList ∘ List.flatMap charBytes = utf8 ∘ String.ofList :=
    funext fun piece => (utf8_ofList piece).symm
  rw [ofText, ofBytes, ofPath, mk.injEq, Path.ofString, Path.ofString, Path.mk.injEq]
  change (Text.splitAt (· == '/') (utf8 s).toList).map String.ofList = _
  rw [toList_utf8, splitAt_flatMap, List.map_map, List.map_map, pieces]

/-! ## The components of a text -/

def respell (f : String → String) : PathComponent → PathComponent
  | .name s => .name (f s)
  | c => c

theorem respell_injective : Function.Injective (respell utf8) := by
  have undo : Function.LeftInverse (respell read) (respell utf8) := by
    intro c
    cases c with
    | name s => exact congrArg PathComponent.name (read_utf8 s)
    | _ => rfl
  exact undo.injective

theorem text_respell (c : PathComponent) : (respell utf8 c).text = utf8 c.text := by
  cases c with
  | root => exact utf8_slash.symm
  | here => exact utf8_here.symm
  | up => exact utf8_up.symm
  | name s => rfl

/-- What means something in a path is no other text in bytes. -/
theorem beq_utf8 (fixed : utf8 t = t) (s : String) : (utf8 s == t) = (s == t) := by
  conv_lhs => rw [← fixed]
  exact utf8_injective.beq_eq

theorem isIdle_utf8 (s : String) : Path.isIdle (utf8 s) = Path.isIdle s := by
  rw [Path.isIdle, Path.isIdle, beq_utf8 utf8_empty, beq_utf8 utf8_here]

theorem component_utf8 (s : String) :
    Path.component (utf8 s) = respell utf8 (Path.component s) := by
  rw [Path.component, Path.component, beq_utf8 utf8_up]
  split <;> rfl

theorem bodyComponents_utf8 (segments : List String) :
    Path.bodyComponents (segments.map utf8) =
      (Path.bodyComponents segments).map (respell utf8) := by
  have idle : (fun s => !Path.isIdle s) ∘ utf8 = fun s => !Path.isIdle s :=
    funext fun s => congrArg (!·) (isIdle_utf8 s)
  have same : Path.component ∘ utf8 = respell utf8 ∘ Path.component := funext component_utf8
  rw [Path.bodyComponents, Path.bodyComponents, List.filter_map, idle, List.map_map, List.map_map,
    same]

theorem view_ofPath (p : Path) : (ofPath p).view = ⟨p.segments.map utf8⟩ := rfl

theorem front_ofPath (p : Path) :
    (ofPath p).view.front = (p.front.1, p.front.2.map utf8) := by
  rcases p.front_cases with ⟨s, rest, rfl, front⟩ | ⟨rest, rfl, front⟩ | ⟨front, start⟩
  · rw [view_ofPath, List.map_cons, utf8_empty, Path.front_root (by simp), front]
  · rw [view_ofPath, List.map_cons, utf8_here, front]
    rfl
  · rw [view_ofPath, front]
    rcases start with none | empty | ⟨s, rest, some, notEmpty, notHere⟩
    · rw [none]
      rfl
    · rw [empty, List.map_singleton, utf8_empty]
      rfl
    · have noEmpty : utf8 s ≠ "" := fun same =>
        notEmpty (utf8_injective (same.trans utf8_empty.symm))
      have noHere : utf8 s ≠ "." := fun same =>
        notHere (utf8_injective (same.trans utf8_here.symm))
      rw [some, List.map_cons, Path.front_of_head noEmpty noHere]

theorem components_ofPath (p : Path) :
    (ofPath p).components = p.components.map (respell utf8) := by
  have start : p.front.1.map (respell utf8) = p.front.1 := by
    rcases p.front_cases with ⟨_, _, -, front⟩ | ⟨_, -, front⟩ | ⟨front, -⟩ <;> rw [front] <;> rfl
  rw [components, Path.components_eq, Path.components_eq, front_ofPath, bodyComponents_utf8,
    List.map_append, start]

/-! ## Paths of text -/

theorem behind_ofPath (root p : Path) : (ofPath root).behind (ofPath p) =
    ((Path.stripPrefix? root p).getD p).components.map (respell utf8) := by
  have rooted := components_ofPath root
  have parts := components_ofPath p
  by_cases below : root.components <+: p.components
  · obtain ⟨more, same⟩ := below
    rw [← same, List.map_append, ← rooted] at parts
    rw [behind, Path.components_left parts, Path.components_left same.symm]
  · have elsewhere : ¬ (ofPath root).components <+: (ofPath p).components := by
      rw [rooted, parts]
      exact fun below' => below ((List.prefix_map_iff_of_injective respell_injective).mp below')
    rw [behind, Path.components_left_elsewhere elsewhere, Path.components_left_elsewhere below]
    exact parts

/-- Of a path of text nothing is lost in its location. -/
theorem locationFrom_ofPath (root p : Path) : root.locationFrom p = Path.placeFrom root p := by
  have kept : (fun c => read c.text) ∘ respell utf8 = PathComponent.text := by
    funext c
    rw [Function.comp_apply, text_respell, read_utf8]
  rw [Path.locationFrom, locationFrom, behind_ofPath, List.map_map, kept, Path.placeFrom]

/-! ## Components that are text -/

def IsText (c : PathComponent) : Prop := ∃ s, c.text = utf8 s

theorem isText_respell (c : PathComponent) : IsText (respell utf8 c) := ⟨c.text, text_respell c⟩

theorem isText_components_ofText (s : String) : ∀ c ∈ (ofText s).components, IsText c := by
  rw [ofText_eq, components_ofPath]
  exact List.forall_mem_map.mpr fun c _ => isText_respell c

theorem isText_body_ofText (s : String) :
    ∀ c ∈ Path.bodyComponents (ofText s).view.segments, IsText c := by
  rw [ofText_eq, view_ofPath, bodyComponents_utf8]
  exact List.forall_mem_map.mpr fun c _ => isText_respell c

/-- The path is text, apart from the components of the root that it may begin with. -/
def LeadsOn (root p : BytePath) : Prop :=
  ∃ front more, p.components = front ++ more ∧ (front = [] ∨ front = root.components) ∧
    ∀ c ∈ more, IsText c

theorem LeadsOn.trans (hp : LeadsOn root p) (hq : LeadsOn p q) : LeadsOn root q := by
  obtain ⟨front, more, parts, start, told⟩ := hp
  obtain ⟨way, behind, on, rfl | rfl, toldBehind⟩ := hq
  · exact ⟨[], behind, on, .inl rfl, toldBehind⟩
  · rw [parts, List.append_assoc] at on
    exact ⟨front, more ++ behind, on, start, List.forall_mem_append.mpr ⟨told, toldBehind⟩⟩

theorem leadsOn_join (p : BytePath) (s : String) : LeadsOn p (p.join (ofText s)) := by
  have anew : p.view.join (ofText s).view = (ofText s).view → LeadsOn p (p.join (ofText s)) :=
    fun same => ⟨[], (ofText s).components, congrArg Path.components same, .inl rfl,
      isText_components_ofText s⟩
  cases absolute : (ofText s).view.isAbsolute with
  | true => exact anew (Path.join_of_absolute absolute p.view)
  | false =>
    by_cases none : p.components = []
    · exact anew (Path.join_of_components_eq_nil none _)
    · have joined := Path.components_join_relative none absolute
        (Path.segments_ofString_ne_nil (utf8 s))
      exact ⟨p.components, _, joined, .inr rfl, isText_body_ofText s⟩

/-- Whatever is behind the root is text. -/
theorem LeadsOn.isText (h : LeadsOn root p) (parts : p.components = root.components ++ more) :
    ∀ c ∈ more, IsText c := by
  obtain ⟨front, others, same, rfl | rfl, told⟩ := h
  · rw [List.nil_append] at same
    rw [← same, parts] at told
    exact fun c mem => told c (List.mem_append_right _ mem)
  · rw [List.append_cancel_left (parts.symm.trans same)]
    exact told

theorem LeadsOn.isText_behind (h : LeadsOn root p) : ∀ c ∈ root.behind p, IsText c := by
  by_cases below : root.components <+: p.components
  · obtain ⟨more, same⟩ := below
    rw [behind, Path.components_left same.symm]
    exact h.isText same.symm
  · rw [behind, Path.components_left_elsewhere below]
    obtain ⟨front, more, parts, rfl | rfl, told⟩ := h
    · rw [List.nil_append] at parts
      exact fun c mem => told c (parts ▸ mem)
    · exact absurd ⟨more, parts.symm⟩ below

theorem utf8_locationFrom (told : ∀ c ∈ root.behind p, IsText c) :
    utf8 (root.locationFrom p) = Path.placeFrom root.view p.view := by
  rw [locationFrom, utf8_intercalate, List.map_map, Path.placeFrom]
  refine congrArg (String.intercalate "/") (List.map_congr_left fun c mem => ?_)
  obtain ⟨s, text⟩ := told c mem
  rw [Function.comp_apply, text, read_utf8]

/-! ## Leading back -/

theorem view_location (told : ∀ c ∈ root.behind p, IsText c) :
    (ofText (root.locationFrom p)).view = .ofString (Path.placeFrom root.view p.view) := by
  rw [← utf8_locationFrom told]
  rfl

/-- The location of what is below the root leads back to it just if what is behind the root is
UTF-8. -/
theorem leadsBack_iff (whole : Path.Spelled p.view) (below : root.components <+: p.components) :
    (root.join (ofText (root.locationFrom p))).components = p.components ↔
      ∀ c ∈ root.behind p, IsText c := by
  constructor
  · intro back
    obtain ⟨more, parts⟩ := below
    rw [behind, Path.components_left parts.symm]
    exact (leadsOn_join root _).isText (back.trans parts.symm)
  · intro told
    have back := Path.components_join_of_below whole below
    rw [← view_location told] at back
    exact back

def fileIn (root : List UInt8) (dir : String) (name : List UInt8) : BytePath :=
  ((ofBytes root).join (ofText dir)).join (ofBytes name)

/-- The path that is meant by the location of the file. -/
def location (root : List UInt8) (dir : String) (name : List UInt8) : BytePath :=
  ofText ((ofBytes root).locationFrom (fileIn root dir name))

/-- However root and directory are spelled, the location of a file whose name is UTF-8 leads back to
it from the root, and if the file is below the root, the location has the components that remain
behind those of the root. -/
theorem components_join_location (root : List UInt8) (dir : String) (name : List UInt8)
    (text : ∃ s : String, name = s.toUTF8.toList) :
    ((ofBytes root).join (location root dir name)).components =
        (fileIn root dir name).components ∧
      ∀ more, (fileIn root dir name).components = (ofBytes root).components ++ more →
        (location root dir name).components = more := by
  obtain ⟨s, rfl⟩ := text
  have told := ((leadsOn_join (ofBytes root) dir).trans (leadsOn_join _ s)).isText_behind
  have meant : (location root dir s.toUTF8.toList).view =
      .ofString (Path.placeFrom (.ofString (spell root))
        (Path.fileIn (spell root) (utf8 dir) (utf8 s))) := view_location told
  have back := Path.components_join_place (spell root) (utf8 dir) (utf8 s)
  rw [← meant] at back
  exact back

/-- The root ends in a byte that is not UTF-8, and its spelling in slashes. -/
def rawRoot : List UInt8 := "/srv".toUTF8.toList ++ [0xFF, 0x2F, 0x2F]

theorem components_join_location_rawRoot :
    (ofBytes rawRoot).locationFrom (fileIn rawRoot "./v1/../routes/" "é.js".toUTF8.toList) =
        "v1/../routes/é.js" ∧
      ((ofBytes rawRoot).join
          (location rawRoot "./v1/../routes/" "é.js".toUTF8.toList)).components =
        (fileIn rawRoot "./v1/../routes/" "é.js".toUTF8.toList).components :=
  ⟨by decide +kernel, (components_join_location rawRoot "./v1/../routes/" _ ⟨"é.js", rfl⟩).1⟩

def backend : List UInt8 := "/srv/backend".toUTF8.toList

/-- The first byte of the name cannot begin a character. -/
def brokenName : List UInt8 := 0xFF :: ".js".toUTF8.toList

theorem components_join_location_brokenName :
    (ofBytes backend).locationFrom (fileIn backend "services" brokenName) = "services/\uFFFD.js" ∧
      ((ofBytes backend).join (location backend "services" brokenName)).components ≠
        (fileIn backend "services" brokenName).components := by
  decide +kernel

end BytePath

end Scaffold
