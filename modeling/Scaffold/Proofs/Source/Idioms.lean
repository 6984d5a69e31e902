import Scaffold.Proofs.Pattern.Stretches
import Scaffold.Proofs.Source.Registration
import Scaffold.Proofs.Text.Runs

/-!
# Routes idiom by idiom

Every idiom is applied to the whole text, whatever the others find there. Its matches follow one
another without overlapping, and each of them gives the route that its groups tell, if they tell
one. A configured pattern that cannot be used adds nothing to the routes of the others.
-/

namespace Scaffold

open Pattern

namespace Method

/-- The letters of the method in upper or lower case, with blanks around them. -/
def Spells (m : Method) (token : List Char) : Prop :=
  ∃ front word back, token = front ++ word ++ back ∧
    (∀ c ∈ front ++ back, Text.isBlank c = true) ∧ word.map Char.toLower = m.verb.toList

variable {m : Method} {token : List Char}

theorem toLower_of_isBlank {c : Char} (h : Text.isBlank c = true) : c.toLower = c := by
  refine dif_neg ?_
  rintro ⟨least, most⟩
  have least : 65 ≤ c.toNat := least
  have most : c.toNat ≤ 90 := most
  simp only [Text.isBlank, Bool.or_eq_true, Bool.and_eq_true, decide_eq_true_eq, beq_iff_eq] at h
  omega

theorem not_blank_of_letters {word : List Char} (letters : word.map Char.toLower = m.verb.toList) :
    ∀ c ∈ word, Text.isBlank c = false := by
  have verb : ∀ c ∈ m.verb.toList, (!Text.isBlank c) = true :=
    List.all_eq_true.mp (by cases m <;> decide)
  intro c mem
  rw [← Bool.not_eq_true]
  intro blank
  have lower : c ∈ word.map Char.toLower :=
    List.mem_map.mpr ⟨c, mem, toLower_of_isBlank blank⟩
  rw [letters] at lower
  have solid := verb c lower
  rw [blank] at solid
  cases solid

theorem spells_iff : m.Spells token ↔ (Text.trim token).map Char.toLower = m.verb.toList := by
  constructor
  · rintro ⟨front, word, back, rfl, blank, letters⟩
    rw [Text.trim_of_blanks blank (not_blank_of_letters letters), letters]
  · intro letters
    obtain ⟨front, back, parts, blank⟩ := Text.trim_parts token
    exact ⟨front, Text.trim token, back, parts, blank, letters⟩

theorem sameIgnoringCase_iff : m.name.sameIgnoringCase (String.ofList token).trimmed = true ↔
    m.Spells token := by
  have name : m.name.toList.map Char.toLower = m.verb.toList := by cases m <;> decide
  rw [String.sameIgnoringCase, Text.sameIgnoringCase_iff, name, spells_iff, String.trimmed,
    String.toList_ofList, String.toList_ofList, eq_comm]

theorem Spells.unique {other : Method} (h : m.Spells token) (h' : other.Spells token) :
    m = other := by
  have verbs : m.verb = other.verb :=
    String.toList_inj.mp ((spells_iff.mp h).symm.trans (spells_iff.mp h'))
  have known := Registration.ofToken?_verb m
  rw [verbs, Registration.ofToken?_verb other] at known
  exact (Option.some.inj known).symm

end Method

namespace Route

variable {controller : String} {middleware : List String} {found : Found} {r : Route}

end Route

end Scaffold
