import Scaffold.Proofs.Settings.Merging
import Scaffold.Settings.Sections

/-!
# Settings over their defaults

A section that sets some keys of a record gives the record whose other fields have their defaults,
in whatever order the keys stand and whatever else stands between them.
-/

namespace Scaffold

open Settings

/-! ## What sections say -/

namespace SourceLayout

def settings (l : SourceLayout) : List (String × Setting) := [
  ("routes_dir", .text l.routes),
  ("controllers_dir", .text l.controllers),
  ("middleware_dir", .text l.middleware),
  ("services_dir", .text l.services),
  ("migrations_dir", .text l.migrations),
  ("schema_setup_file", .text l.schemaSetup),
  ("manifest_file", .text l.manifest),
  ("source_extensions", .list true (l.sourceExtensions.map .text)),
  ("migration_extensions", .list true (l.migrationExtensions.map .text)),
  ("route_suffix", .text l.routeSuffix),
  ("controller_suffix", .text l.controllerSuffix),
  ("extra_route_patterns", .list true (l.extraRoutePatterns.map .text))]

def onDefaults (l : SourceLayout) (keys : List String) : SourceLayout :=
  let d := analyzer.defaults
  { routes := if "routes_dir" ∈ keys then l.routes else d.routes
    controllers := if "controllers_dir" ∈ keys then l.controllers else d.controllers
    middleware := if "middleware_dir" ∈ keys then l.middleware else d.middleware
    services := if "services_dir" ∈ keys then l.services else d.services
    migrations := if "migrations_dir" ∈ keys then l.migrations else d.migrations
    schemaSetup := if "schema_setup_file" ∈ keys then l.schemaSetup else d.schemaSetup
    manifest := if "manifest_file" ∈ keys then l.manifest else d.manifest
    sourceExtensions := if "source_extensions" ∈ keys then l.sourceExtensions else d.sourceExtensions
    migrationExtensions :=
      if "migration_extensions" ∈ keys then l.migrationExtensions else d.migrationExtensions
    routeSuffix := if "route_suffix" ∈ keys then l.routeSuffix else d.routeSuffix
    controllerSuffix := if "controller_suffix" ∈ keys then l.controllerSuffix else d.controllerSuffix
    extraRoutePatterns :=
      if "extra_route_patterns" ∈ keys then l.extraRoutePatterns else d.extraRoutePatterns }

end SourceLayout

namespace ProjectSettings

def settings (p : ProjectSettings) : List (String × Setting) := [
  ("output_dir", .text p.output),
  ("module_name", .text p.moduleName),
  ("clean_output", .bool p.cleanOutput)]

/-- The default settings with those of a project under some keys. -/
def onDefaults (p : ProjectSettings) (keys : List String) : ProjectSettings :=
  let d := generator.defaults
  { output := if "output_dir" ∈ keys then p.output else d.output
    moduleName := if "module_name" ∈ keys then p.moduleName else d.moduleName
    cleanOutput := if "clean_output" ∈ keys then p.cleanOutput else d.cleanOutput }

end ProjectSettings

namespace Settings

variable {σ : Type} {s : Section σ} {settings held entries : List (String × Setting)}
  {result : List String → σ} {keys chosen : List String}

/-- Entries set the chosen keys to the settings under them. Entries under other keys than those of
the settings may be anything. -/
structure SetsKeys (settings : List (String × Setting)) (chosen : List String)
    (held : List (String × Setting)) : Prop where
  sound : ∀ entry ∈ held, entry.1 ∈ settings.map Prod.fst → entry ∈ settings ∧ entry.1 ∈ chosen
  complete : ∀ key ∈ chosen, key ∈ held.map Prod.fst

/-- What a section becomes depends on the keys that are set alone, not on their order. -/
structure Overrides (s : Section σ) (settings : List (String × Setting))
    (result : List String → σ) : Prop where
  names : s.fields.map SectionField.name = settings.map Prod.fst
  solid : ∀ entry ∈ settings, ¬entry.2.IsTable
  blank : result [] = s.defaults
  step : ∀ keys, ∀ entry ∈ settings, s.readEntry (result keys) entry = .ok (result (entry.1 :: keys))
  same : ∀ keys keys', (∀ key ∈ settings.map Prod.fst, key ∈ keys ↔ key ∈ keys') →
    result keys = result keys'

namespace Overrides

theorem foreign (h : Overrides s settings result) {entry : String × Setting}
    (other : entry.1 ∉ settings.map Prod.fst) (record : σ) :
    s.readEntry record entry = .ok record := by
  have unnamed : s.fields.find? (·.name == entry.1) = none := by
    rw [← h.names] at other
    simp only [List.find?_eq_none, beq_iff_eq]
    rintro field mem same
    exact other (same ▸ List.mem_map_of_mem mem)
  rw [Section.readEntry, unnamed]

/-- Entries are read into whatever keys were set before them. -/
theorem foldlM_readEntry (h : Overrides s settings result)
    (known : ∀ entry ∈ held, entry.1 ∈ settings.map Prod.fst → entry ∈ settings)
    (keys : List String) :
    held.foldlM s.readEntry (result keys) = .ok (result (held.map Prod.fst ++ keys)) := by
  induction held generalizing keys with
  | nil => rfl
  | cons entry rest ih =>
    have later := fun e mem => known e (List.mem_cons_of_mem entry mem)
    rw [List.foldlM_cons]
    by_cases mem : entry.1 ∈ settings.map Prod.fst
    · rw [h.step keys entry (known entry List.mem_cons_self mem)]
      -- the keys come out in another order, which does not matter
      refine (ih later (entry.1 :: keys)).trans (congrArg _ (h.same _ _ ?_))
      intro key _
      simp only [List.map_cons, List.cons_append, List.mem_append, List.mem_cons]
      exact or_left_comm
    · rw [h.foreign mem]
      refine (ih later keys).trans (congrArg _ (h.same _ _ ?_))
      intro key isKey
      have differ : key ≠ entry.1 := fun same => mem (same ▸ isKey)
      simp [differ]

theorem read_table (h : Overrides s settings result) (sets : SetsKeys settings chosen held)
    (located : Bool) : s.read (.table located held) = .ok (result chosen) := by
  rw [Section.read, ← h.blank, h.foldlM_readEntry fun e mem isKey => (sets.sound e mem isKey).1]
  refine congrArg _ (h.same _ _ ?_)
  intro key isKey
  rw [List.append_nil]
  constructor
  · intro mem
    obtain ⟨entry, isHeld, rfl⟩ := List.mem_map.mp mem
    exact (sets.sound entry isHeld isKey).2
  · exact sets.complete key

end Overrides

theorem toTexts_texts (located : Bool) (texts : List String) :
    (Setting.list located (texts.map .text)).toTexts = .ok texts := by
  rw [Setting.toTexts]
  induction texts with
  | nil => rfl
  | cons text rest ih =>
    rw [List.map_cons, List.mapM_cons, ih]
    rfl

section Entry

variable {key : String} {record next : σ}

theorem readEntry_text {text : String} {set : String → σ → σ}
    (named : s.fields.find? (·.name == key) = some (.text key set))
    (put : set text record = next) : s.readEntry record (key, .text text) = .ok next := by
  rw [Section.readEntry, named, ← put]
  rfl

theorem readEntry_texts {texts : List String} {set : List String → σ → σ}
    (named : s.fields.find? (·.name == key) = some (.texts key set))
    (put : set texts record = next) :
    s.readEntry record (key, .list true (texts.map .text)) = .ok next := by
  rw [Section.readEntry, named, ← put]
  simp only [SectionField.texts, toTexts_texts]
  rfl

theorem readEntry_flag {flag : Bool} {set : Bool → σ → σ}
    (named : s.fields.find? (·.name == key) = some (.flag key set))
    (put : set flag record = next) : s.readEntry record (key, .bool flag) = .ok next := by
  rw [Section.readEntry, named, ← put]
  rfl

end Entry

/-- Keys stay set as they are when their table is put together from its entries. -/
theorem setsKeys_mergeEntries (solid : ∀ entry ∈ settings, ¬entry.2.IsTable)
    (sets : SetsKeys settings chosen held) :
    SetsKeys settings chosen (Setting.mergeEntries held []) where
  sound := by
    rintro ⟨key, v⟩ mem isKey
    rcases Setting.mem_mergeEntries mem with none | ⟨w, old, isHeld, rfl⟩
    · exact absurd none List.not_mem_nil
    · obtain ⟨setting, isChosen⟩ := sets.sound (key, w) isHeld isKey
      rw [Setting.merge_of_not_table (solid _ setting)]
      exact ⟨setting, isChosen⟩
  complete := by
    intro key isChosen
    exact Setting.mem_keys_mergeEntries.mpr (.inl (sets.complete key isChosen))

theorem overrides_analyzer (l : SourceLayout) : Overrides analyzer l.settings l.onDefaults where
  names := rfl
  solid := by simp [SourceLayout.settings, Setting.IsTable]
  blank := rfl
  step := by
    intro keys entry mem
    simp only [SourceLayout.settings, List.mem_cons, List.not_mem_nil, or_false] at mem
    rcases mem with rfl | rfl | rfl | rfl | rfl | rfl | rfl | rfl | rfl | rfl | rfl | rfl
    all_goals first
      | exact readEntry_text rfl (by simp [SourceLayout.onDefaults])
      | exact readEntry_texts rfl (by simp [SourceLayout.onDefaults])
  same := by
    intro keys keys' same
    simp only [SourceLayout.settings, List.map_cons, List.map_nil, List.forall_mem_cons] at same
    simp [SourceLayout.onDefaults, same]

theorem overrides_generator (p : ProjectSettings) : Overrides generator p.settings p.onDefaults where
  names := rfl
  solid := by simp [ProjectSettings.settings, Setting.IsTable]
  blank := rfl
  step := by
    intro keys entry mem
    simp only [ProjectSettings.settings, List.mem_cons, List.not_mem_nil, or_false] at mem
    rcases mem with rfl | rfl | rfl
    · exact readEntry_text rfl (by simp [ProjectSettings.onDefaults])
    · exact readEntry_text rfl (by simp [ProjectSettings.onDefaults])
    · exact readEntry_flag rfl (by simp [ProjectSettings.onDefaults])
  same := by
    intro keys keys' same
    simp only [ProjectSettings.settings, List.map_cons, List.map_nil, List.forall_mem_cons] at same
    simp [ProjectSettings.onDefaults, same]

end Settings

end Scaffold
