import Scaffold.Project.Pending
import Scaffold.Proofs.Text.Slices

/-!
# Names of controllers that handle authentication

The test of a name can be made on its bytes: the first four are taken as a slice, compared without
case, and the character behind them is looked at. If the four bytes end inside a character the name
fails at once, so the second slice is never taken there. The outcome is that of the test on the
characters.
-/

namespace Scaffold

def authLetters : List Char := ['a', 'u', 't', 'h']

/-- The test of a name on its bytes. It stops at a fault of a slice. -/
def isAuthBytes (bytes : List UInt8) : Except Text.SliceFault Bool :=
  let letters := Text.encode authLetters
  match Text.sliceTo? bytes letters.length with
  | none => .ok false
  | some head =>
    if Text.sameBytesIgnoringCase head letters then do
      let behind ← Text.sliceFrom bytes letters.length
      .ok (!(Text.decodeFrom none behind).head?.any Char.isLower)
    else .ok false

theorem isAuthController_iff (name : String) : isAuthController name = true ↔
    ∃ front rest, name.toList = front ++ rest ∧ front.map Char.toLower = authLetters ∧
      rest.head?.any Char.isLower = false := by
  rw [isAuthController]
  constructor
  · intro accepted
    split at accepted
    · rename_i a u t h rest chars
      rw [Bool.and_eq_true, beq_iff_eq, Bool.not_eq_true'] at accepted
      exact ⟨[a, u, t, h], rest, chars, accepted.1, accepted.2⟩
    · cases accepted
  · rintro ⟨front, rest, chars, letters, free⟩
    obtain ⟨a, later, rfl, isA, letters⟩ := List.map_eq_cons_iff.mp letters
    obtain ⟨u, later, rfl, isU, letters⟩ := List.map_eq_cons_iff.mp letters
    obtain ⟨t, later, rfl, isT, letters⟩ := List.map_eq_cons_iff.mp letters
    obtain ⟨h, later, rfl, isH, letters⟩ := List.map_eq_cons_iff.mp letters
    obtain rfl := List.map_eq_nil_iff.mp letters
    rw [chars]
    change ([a, u, t, h].map Char.toLower == authLetters && !rest.head?.any Char.isLower) = true
    rw [List.map_cons, List.map_cons, List.map_cons, List.map_singleton, isA, isU, isT, isH, free]
    rfl

theorem length_encode_of_letters {front : List Char}
    (letters : front.map Char.toLower = authLetters) :
    (Text.encode front).length = (Text.encode authLetters).length := by
  rw [← letters, ← Text.map_lowerByte_encode, List.length_map]

theorem isAuthController_of_front {name : String} {front rest : List Char}
    (chars : name.toList = front ++ rest)
    (size : (Text.encode front).length = (Text.encode authLetters).length) :
    isAuthController name =
      (Text.sameIgnoringCase front authLetters && !rest.head?.any Char.isLower) := by
  have small : authLetters.map Char.toLower = authLetters := by decide
  rw [Bool.eq_iff_iff, isAuthController_iff, Bool.and_eq_true, Text.sameIgnoringCase_iff, small,
    Bool.not_eq_true']
  constructor
  · rintro ⟨front', rest', chars', letters, free⟩
    have size' := (length_encode_of_letters letters).trans size.symm
    obtain ⟨rfl, rfl⟩ := Text.front_unique (chars'.symm.trans chars) size'
    exact ⟨letters, free⟩
  · rintro ⟨letters, free⟩
    exact ⟨front, rest, chars, letters, free⟩

theorem isAuthController_of_no_boundary {name : String}
    (inside : Text.isBoundary (Text.encode name.toList) (Text.encode authLetters).length = false) :
    isAuthController name = false := by
  rw [← Bool.not_eq_true, isAuthController_iff]
  rintro ⟨front, rest, chars, letters, -⟩
  have boundary := Text.isBoundary_front front rest
  rw [← chars, length_encode_of_letters letters, inside] at boundary
  cases boundary

theorem isAuthBytes_encode (name : String) :
    isAuthBytes (Text.encode name.toList) = .ok (isAuthController name) := by
  cases boundary : Text.isBoundary (Text.encode name.toList) (Text.encode authLetters).length with
  | false =>
    have stopped : Text.sliceTo? (Text.encode name.toList) (Text.encode authLetters).length = none :=
      if_neg (by rw [boundary]; exact Bool.false_ne_true)
    rw [isAuthBytes, stopped, isAuthController_of_no_boundary boundary]
  | true =>
    obtain ⟨front, rest, chars, size⟩ := (Text.isBoundary_iff _ _).mp boundary
    rw [isAuthController_of_front chars size.symm, chars, isAuthBytes, size,
      Text.sliceTo?_front, Text.sliceFrom_front]
    simp only [Text.sameBytesIgnoringCase_encode]
    cases Text.sameIgnoringCase front authLetters with
    | false => rfl
    | true =>
      rw [if_pos rfl, Bool.true_and]
      change Except.ok (!(Text.decodeFrom none (Text.encode rest)).head?.any Char.isLower) = _
      rw [Text.decode_encode]

theorem ascii_of_toLower {c : Char} (ascii : c.toLower.toNat < 128) : c.toNat < 128 := by
  by_cases capital : c.isUpper = true
  · rw [Text.toLower_of_capital capital] at ascii
    omega
  · rwa [Text.toLower_of_not_capital capital] at ascii

theorem ascii_of_letters {front : List Char} (letters : front.map Char.toLower = authLetters) :
    ∀ c ∈ front, c.toNat < 128 := by
  intro c mem
  have lower : c.toLower ∈ authLetters := letters ▸ List.mem_map_of_mem mem
  have small : authLetters.all (·.toNat < 128) = true := by decide
  exact ascii_of_toLower (of_decide_eq_true (List.all_eq_true.mp small _ lower))

theorem isLower_eq_false_iff (c : Char) : c.isLower = false ↔ ¬('a' ≤ c ∧ c ≤ 'z') := by
  have lower : c.isLower = true ↔ 'a' ≤ c ∧ c ≤ 'z' :=
    Bool.and_eq_true_iff.trans (and_congr decide_eq_true_iff decide_eq_true_iff)
  rw [← Bool.not_eq_true, lower]

/-- The test on the bytes of a name never cuts it inside a character, and has the outcome of the
test on its characters: the first four are the letters, in either case, and no small letter stands
behind them. -/
theorem isAuthController_eq_bytes (name : String) :
    isAuthBytes name.toUTF8.toList = .ok (isAuthController name) ∧
      (isAuthController name = true ↔
        (∀ c ∈ name.toList.take 4, c.toNat < 128) ∧
        (name.toList.take 4).map Char.toLower = ['a', 'u', 't', 'h'] ∧
        ∀ c ∈ name.toList[4]?, ¬('a' ≤ c ∧ c ≤ 'z')) ∧
      ∀ place, Text.isBoundary name.toUTF8.toList place = true ↔
        ∃ front rest, name.toList = front ++ rest ∧ place = (Text.encode front).length := by
  have bytes : name.toUTF8.toList = Text.encode name.toList := Text.toList_toUTF8 name
  rw [bytes]
  refine ⟨isAuthBytes_encode name, ?_, Text.isBoundary_iff name.toList⟩
  rw [isAuthController_iff]
  constructor
  · rintro ⟨front, rest, chars, letters, free⟩
    have four : front.length = 4 := by rw [← List.length_map Char.toLower, letters]; rfl
    have taken : name.toList.take 4 = front := by rw [chars, ← four, List.take_left]
    have fifth : name.toList[4]? = rest.head? := by
      rw [chars, ← four, List.getElem?_append_right (Nat.le_refl _), Nat.sub_self,
        List.head?_eq_getElem?]
    rw [taken, fifth]
    refine ⟨ascii_of_letters letters, letters, fun c first => ?_⟩
    exact (isLower_eq_false_iff c).mp ((Option.any_eq_false _ _).mp free c first)
  · rintro ⟨-, letters, free⟩
    refine ⟨name.toList.take 4, name.toList.drop 4, (List.take_append_drop 4 _).symm, letters, ?_⟩
    rw [List.head?_drop, Option.any_eq_false]
    exact fun c fifth => (isLower_eq_false_iff c).mpr (free c fifth)

/-- A name may have characters of several bytes anywhere. The fourth byte may be inside one. -/
example : ["AUTHé", "auté", "éauth", "autĥ", "authe"].map isAuthController =
    [true, false, false, false, false] := by
  decide

end Scaffold
