import Mathlib.Data.List.Nodup
import Scaffold.Settings.File

/-!
# The names in a file of settings

In what is read from a file no name at the top is repeated, whatever the format.
-/

namespace Scaffold

/-! ## JSON -/

namespace Json

variable {fuel depth : Nat} {key name : String} {v : Value} {text cs rest : List Char}
  {members read : List (String × Value)}

theorem mem_keys_setMember : name ∈ (setMember key v members).map Prod.fst ↔
    name = key ∨ name ∈ members.map Prod.fst := by
  induction members with
  | nil => simp [setMember]
  | cons member rest ih =>
    obtain ⟨k, old⟩ := member
    rw [setMember]
    by_cases same : k = key
    · subst same
      simp
    · rw [if_neg (by simpa using same), List.map_cons, List.mem_cons, ih, List.map_cons,
        List.mem_cons]
      exact or_left_comm

theorem nodup_setMember (key : String) (v : Value) (h : (members.map Prod.fst).Nodup) :
    ((setMember key v members).map Prod.fst).Nodup := by
  induction members with
  | nil => simp [setMember]
  | cons member rest ih =>
    obtain ⟨k, old⟩ := member
    obtain ⟨differ, apart⟩ := List.nodup_cons.mp h
    rw [setMember]
    by_cases same : k = key
    · rw [if_pos (beq_iff_eq.mpr same)]
      exact h
    · rw [if_neg (by simpa using same), List.map_cons, List.nodup_cons]
      refine ⟨?_, ih apart⟩
      rw [mem_keys_setMember]
      rintro (here | later)
      · exact same here
      · exact differ later

theorem nodup_readObject (h : readObject fuel depth members cs = some (read, rest))
    (apart : (members.map Prod.fst).Nodup) : (read.map Prod.fst).Nodup := by
  induction fuel generalizing members cs with
  | zero => simp [readObject] at h
  | succ fuel ih =>
    simp only [readObject, Option.bind_eq_bind, Option.bind_eq_some_iff] at h
    obtain ⟨⟨key, behind⟩, -, ⟨v, after⟩, -, step⟩ := h
    have apart := nodup_setMember key v apart
    simp only at step
    split at step
    · exact ih step apart
    · obtain ⟨rfl, -⟩ := Prod.mk.inj (Option.some.inj step)
      exact apart
    · cases step

theorem wordValue_ne_object {word : String} (plain : ∀ members, v ≠ .object members) :
    wordValue word v cs ≠ some (.object members, rest) := by
  intro h
  rw [wordValue] at h
  split at h
  · exact plain _ (Prod.mk.inj (Option.some.inj h)).1
  · cases h

theorem numberValue_ne_object {negative : Bool} :
    numberValue negative cs ≠ some (.object members, rest) := by
  intro h
  rw [numberValue] at h
  split at h
  all_goals cases h

theorem nodup_readValue (h : readValue fuel depth cs = some (.object members, rest)) :
    (members.map Prod.fst).Nodup := by
  cases fuel with
  | zero => simp [readValue] at h
  | succ fuel =>
    rw [readValue] at h
    -- only the case of a brace reads a table, all others read values of other kinds or nothing
    split at h
    case h_8 =>
      split at h
      · cases h
      · split at h
        · cases h
          exact List.nodup_nil
        · obtain ⟨⟨read, behind⟩, done, same⟩ := Option.map_eq_some_iff.mp h
          cases same
          exact nodup_readObject done List.nodup_nil
    case h_7 =>
      split at h
      · cases h
      · split at h
        · cases h
        · obtain ⟨_, -, same⟩ := Option.map_eq_some_iff.mp h
          cases same
    case h_9 =>
      split at h
      · exact absurd h numberValue_ne_object
      · cases h
    case h_6 =>
      split at h
      all_goals cases h
    case h_1 => cases h
    case h_5 => exact absurd h numberValue_ne_object
    all_goals exact absurd h (wordValue_ne_object (by simp))

theorem nodup_ofText? (h : Value.ofText? text = some (.object members)) :
    (members.map Prod.fst).Nodup := by
  rw [Value.ofText?] at h
  split at h
  case h_1 v rest read =>
    split at h
    · cases h
      exact nodup_readValue read
    · cases h
  case h_2 => cases h

end Json

/-! ## TOML -/

namespace Toml

variable {fuel : Nat} {key name : String} {path current : List String} {text cs : List Char}
  {change : Option Tree → Option Tree} {entries altered : Entries}

namespace Entries

theorem mem_keys_alter (h : entries.alter key change = some altered)
    (mem : name ∈ altered.map Prod.fst) : name = key ∨ name ∈ entries.map Prod.fst := by
  induction entries generalizing altered with
  | nil =>
    obtain ⟨tree, -, rfl⟩ := Option.map_eq_some_iff.mp h
    exact .inl (by simpa using mem)
  | cons entry rest ih =>
    obtain ⟨k, tree⟩ := entry
    rw [alter] at h
    by_cases same : k = key
    · rw [if_pos (beq_iff_eq.mpr same)] at h
      obtain ⟨tree, -, rfl⟩ := Option.map_eq_some_iff.mp h
      exact .inr mem
    · rw [if_neg (by simpa using same)] at h
      obtain ⟨others, done, rfl⟩ := Option.map_eq_some_iff.mp h
      rw [List.map_cons, List.mem_cons] at mem ⊢
      rcases mem with here | later
      · exact .inr (.inl here)
      · exact (ih done later).imp_right .inr

theorem nodup_alter (h : entries.alter key change = some altered)
    (apart : (entries.map Prod.fst).Nodup) : (altered.map Prod.fst).Nodup := by
  induction entries generalizing altered with
  | nil =>
    obtain ⟨tree, -, rfl⟩ := Option.map_eq_some_iff.mp h
    simp
  | cons entry rest ih =>
    obtain ⟨k, tree⟩ := entry
    obtain ⟨differ, others⟩ := List.nodup_cons.mp apart
    rw [alter] at h
    by_cases same : k = key
    · rw [if_pos (beq_iff_eq.mpr same)] at h
      obtain ⟨tree, -, rfl⟩ := Option.map_eq_some_iff.mp h
      exact apart
    · rw [if_neg (by simpa using same)] at h
      obtain ⟨later, done, rfl⟩ := Option.map_eq_some_iff.mp h
      rw [List.map_cons, List.nodup_cons]
      refine ⟨?_, ih done others⟩
      intro mem
      rcases mem_keys_alter done mem with here | mem
      · exact same here
      · exact differ mem

/-- A change below some path keeps the names apart if the change itself does. -/
theorem nodup_under {change : Entries → Option Entries} (h : under path change entries = some altered)
    (kept : ∀ altered, change entries = some altered → (altered.map Prod.fst).Nodup)
    (apart : (entries.map Prod.fst).Nodup) : (altered.map Prod.fst).Nodup := by
  cases path with
  | nil =>
    rw [under] at h
    exact kept altered h
  | cons key path =>
    rw [under] at h
    exact nodup_alter h apart

theorem nodup_addValue {v : Value} (h : entries.addValue key v path = some altered)
    (apart : (entries.map Prod.fst).Nodup) : (altered.map Prod.fst).Nodup := by
  cases path with
  | nil =>
    rw [addValue] at h
    exact nodup_alter h apart
  | cons step path =>
    rw [addValue] at h
    exact nodup_alter h apart

theorem nodup_makeTable (h : entries.makeTable path key = some altered)
    (apart : (entries.map Prod.fst).Nodup) : (altered.map Prod.fst).Nodup :=
  nodup_under h (fun _ made => nodup_alter made apart) apart

theorem nodup_addTable (h : entries.addTable path key = some altered)
    (apart : (entries.map Prod.fst).Nodup) : (altered.map Prod.fst).Nodup :=
  nodup_under h (fun _ made => nodup_alter made apart) apart

end Entries

theorem nodup_readLines (h : readLines fuel current entries cs = some altered)
    (apart : (entries.map Prod.fst).Nodup) : (altered.map Prod.fst).Nodup := by
  induction fuel generalizing current entries cs with
  | zero => simp [readLines] at h
  | succ fuel ih =>
    rw [readLines] at h
    split at h
    · cases h
      exact apart
    · simp only [Option.bind_eq_bind, Option.bind_eq_some_iff] at h
      obtain ⟨⟨⟨path, key⟩, rest⟩, -, added, step, rest, -, more⟩ := h
      exact ih more (Entries.nodup_addTable step apart)
    · simp only [Option.bind_eq_bind, Option.bind_eq_some_iff] at h
      obtain ⟨⟨⟨path, key⟩, rest⟩, -, made, step, rest, -, more⟩ := h
      exact ih more (Entries.nodup_makeTable step apart)
    · simp only [Option.bind_eq_bind, Option.bind_eq_some_iff] at h
      obtain ⟨_, -, _, -, ⟨v, _⟩, -, ⟨path, key⟩, -, added, step, rest, -, more⟩ := h
      refine ih more (Entries.nodup_under step ?_ apart)
      exact fun _ done => Entries.nodup_addValue done apart

theorem keys_finishEntries (entries : Entries) :
    (finishEntries entries).map Prod.fst = entries.map Prod.fst := by
  induction entries with
  | nil => rw [finishEntries]; rfl
  | cons entry rest ih =>
    obtain ⟨key, tree⟩ := entry
    rw [finishEntries, List.map_cons, ih, List.map_cons]

end Toml

/-! ## Settings -/

namespace Setting

theorem keys_ofTomlEntries (entries : List (String × Toml.Value)) :
    (ofTomlEntries entries).map Prod.fst = entries.map Prod.fst := by
  induction entries with
  | nil => rw [ofTomlEntries]; rfl
  | cons entry rest ih =>
    obtain ⟨key, v⟩ := entry
    rw [ofTomlEntries, List.map_cons, ih, List.map_cons]

theorem keys_ofJsonMembers (members : List (String × Json.Value)) :
    (ofJsonMembers members).map Prod.fst = members.map Prod.fst := by
  induction members with
  | nil => rw [ofJsonMembers]; rfl
  | cons member rest ih =>
    obtain ⟨key, v⟩ := member
    rw [ofJsonMembers, List.map_cons, ih, List.map_cons]

end Setting

namespace Settings

theorem Format.nodup_read {format : Format} {text : List Char} {entries : List (String × Setting)}
    (h : format.read? text = some entries) : (entries.map Prod.fst).Nodup := by
  cases format with
  | toml =>
    obtain ⟨doc, read, rfl⟩ := Option.map_eq_some_iff.mp h
    obtain ⟨tree, lines, rfl⟩ := Option.map_eq_some_iff.mp read
    rw [Setting.keys_ofTomlEntries, Toml.keys_finishEntries]
    exact Toml.nodup_readLines lines List.nodup_nil
  | json =>
    rw [read?] at h
    split at h
    case h_1 members read =>
      cases h
      rw [Setting.keys_ofJsonMembers]
      exact Json.nodup_ofText? read
    case h_2 => cases h

end Settings

end Scaffold
