import Scaffold.Proofs.Json.Damage

/-!
# One reading of a text

A text is an object in one way: its members, with the texts of their keys and values, and their
order are in the text. What follows an object, a value or a string does not change where it ends.
-/

namespace Scaffold.Json

variable {first : Bool} {text other key value inner inner' rest rest' gap gap' : List Char}
  {texts texts' : List (List Char)} {m m' : Member} {members others : List Member}

/-! ## Strings, values and members -/

theorem unique_string (h : IsString text) (h' : IsString other)
    (same : text ++ rest = other ++ rest') : text = other ∧ rest = rest' := by
  cases h with
  | @quoted body isBody =>
    cases h' with
    | @quoted body' isBody' =>
      simp only [List.cons_append, List.append_assoc, List.nil_append, List.cons.injEq,
        true_and] at same
      have passed := skipString_body isBody rest
      rw [same, skipString_body isBody' rest'] at passed
      cases passed
      rw [List.append_cancel_right same]
      exact ⟨rfl, rfl⟩

theorem unique_value (h : IsValue text) (h' : IsValue other) (ends : Ends rest)
    (ends' : Ends rest') (same : text ++ rest = other ++ rest') : text = other ∧ rest = rest' := by
  have passed := skip_value h blanks_nil ends
  rw [same] at passed
  cases passed.symm.trans (skip_value h' blanks_nil ends')
  exact ⟨List.append_cancel_right same, rfl⟩

theorem unique_blanks (h : Blanks gap) (h' : Blanks gap') (opens : Opens text)
    (opens' : Opens other) (same : gap ++ (text ++ rest) = gap' ++ (other ++ rest')) :
    text ++ rest = other ++ rest' := by
  obtain ⟨c, more, rfl, opening⟩ := opens
  obtain ⟨d, further, rfl, opening'⟩ := opens'
  have skipped := congrArg skipBlanks same
  rwa [List.cons_append, List.cons_append, skipBlanks_append_cons h opening.1,
    skipBlanks_append_cons h' opening'.1] at skipped

theorem unique_colon (h : Blanks gap) (h' : Blanks gap')
    (same : gap ++ ':' :: rest = gap' ++ ':' :: rest') : rest = rest' := by
  have skipped := congrArg skipBlanks same
  rw [skipBlanks_append_cons h rfl, skipBlanks_append_cons h' rfl] at skipped
  exact (List.cons.inj skipped).2

theorem unique_member (isMember : IsMember m text) (isMember' : IsMember m' other)
    (pair : IsPair m) (pair' : IsPair m') (ends : Ends rest) (ends' : Ends rest')
    (same : text ++ rest = other ++ rest') : m = m' ∧ rest = rest' := by
  cases isMember with
  | pair before after =>
    cases isMember' with
    | pair before' after' =>
      simp only [List.append_assoc, List.cons_append] at same
      obtain ⟨rfl, behindKey⟩ := unique_string pair.1 pair'.1 same
      have behindColon := unique_blanks after after' (opens_value pair.2) (opens_value pair'.2)
        (unique_colon before before' behindKey)
      obtain ⟨rfl, rfl⟩ := unique_value pair.2 pair'.2 ends ends' behindColon
      exact ⟨rfl, rfl⟩

theorem member_cons (isMember : IsMember m text) (pair : IsPair m) :
    ∃ more, text = '"' :: more := by
  cases isMember with
  | pair _ _ =>
    obtain ⟨more, rfl⟩ := isString_cons pair.1
    exact ⟨_, rfl⟩

/-! ## Objects -/

theorem not_end_of_lead {lead : List Char} (h : Blanks gap) (isLead : Lead first lead)
    (quoted : ∃ more, text = '"' :: more) :
    gap ++ '\x7d' :: rest ≠ lead ++ (text ++ rest') := by
  obtain ⟨more, rfl⟩ := quoted
  intro same
  have next := congrArg (nextMember first) same
  rw [nextMember_end h, List.cons_append, nextMember_lead isLead] at next
  cases next

theorem unique_lead {lead lead' : List Char} (isLead : Lead first lead)
    (isLead' : Lead first lead')
    (quoted : ∃ more, text = '"' :: more) (quoted' : ∃ more, other = '"' :: more)
    (same : lead ++ (text ++ rest) = lead' ++ (other ++ rest')) :
    text ++ rest = other ++ rest' := by
  obtain ⟨more, rfl⟩ := quoted
  obtain ⟨further, rfl⟩ := quoted'
  have next := congrArg (nextMember first) same
  rw [List.cons_append, List.cons_append, nextMember_lead isLead, nextMember_lead isLead'] at next
  rw [List.cons_append, List.cons_append, (Prod.mk.inj (Except.ok.inj next)).2]

theorem unique_parts (parts : Parts first texts inner) (parts' : Parts first texts' inner')
    (pairs : List.Forall₂ IsMember members texts) (pairs' : List.Forall₂ IsMember others texts')
    (each : ∀ m ∈ members, IsPair m) (each' : ∀ m ∈ others, IsPair m)
    (same : inner ++ '\x7d' :: rest = inner' ++ '\x7d' :: rest') :
    members = others ∧ rest = rest' := by
  -- both readings go on in step: where one ends the other cannot have a member
  induction parts generalizing texts' inner' members others with
  | none blanks =>
    cases pairs
    cases parts' with
    | none blanks' =>
      cases pairs'
      have skipped := congrArg skipBlanks same
      rw [skipBlanks_append_cons blanks rfl, skipBlanks_append_cons blanks' rfl] at skipped
      exact ⟨rfl, (List.cons.inj skipped).2⟩
    | part isLead more =>
      cases pairs' with
      | cons isMember pairs' =>
        have quoted := member_cons isMember (each' _ List.mem_cons_self)
        rw [List.append_assoc, List.append_assoc] at same
        exact absurd same (not_end_of_lead blanks isLead quoted)
  | part isLead more ih =>
    cases pairs with
    | cons isMember pairs =>
      obtain ⟨pair, eachRest⟩ := List.forall_mem_cons.mp each
      have quoted := member_cons isMember pair
      rw [List.append_assoc, List.append_assoc] at same
      cases parts' with
      | none blanks => exact absurd same.symm (not_end_of_lead blanks isLead quoted)
      | part isLead' more' =>
        cases pairs' with
        | cons isMember' pairs' =>
          obtain ⟨pair', eachRest'⟩ := List.forall_mem_cons.mp each'
          rw [List.append_assoc, List.append_assoc] at same
          have begun := unique_lead isLead isLead' quoted (member_cons isMember' pair') same
          have closing : ∀ behind, Ends ('\x7d' :: behind) := ends_cons (by decide)
          obtain ⟨rfl, behind⟩ := unique_member isMember isMember' pair pair'
            (ends_parts more (closing rest)) (ends_parts more' (closing rest')) begun
          obtain ⟨rfl, rfl⟩ := ih more' pairs pairs' eachRest eachRest' behind
          exact ⟨rfl, rfl⟩

/-- An object has its members in one way only. -/
theorem unique_object (isObject : IsObject members text) (isObject' : IsObject others text)
    (each : ∀ m ∈ members, IsPair m) (each' : ∀ m ∈ others, IsPair m) : members = others := by
  obtain ⟨pairs, ⟨parts⟩⟩ := isObject
  generalize whole : '\x7b' :: (_ ++ ['\x7d']) = text at isObject'
  obtain ⟨pairs', ⟨parts'⟩⟩ := isObject'
  exact (unique_parts parts parts' pairs pairs' each each' (List.cons.inj whole).2).1

theorem unique_document {Tells Tells' : List Char → Prop} {document : String}
    (isValue : ∀ text, Tells text → IsValue text) (isValue' : ∀ text, Tells' text → IsValue text)
    (h : Document Tells document) (h' : Document Tells' document) :
    ∃ text, Tells text ∧ Tells' text := by
  cases h with
  | @blanks before text after blanks tells blanks' =>
    generalize whole : String.ofList (before ++ (text ++ after)) = document at h'
    cases h' with
    | @blanks before' text' after' front tells' back =>
      have same := String.ofList_injective whole
      have begun := unique_blanks blanks front (opens_value (isValue text tells))
        (opens_value (isValue' text' tells')) same
      have ends : ∀ {behind}, Blanks behind → Ends behind := fun h => by
        have nothing : Ends [] := fun c head => nomatch head
        have all := ends_blanks h nothing
        rwa [List.append_nil] at all
      obtain ⟨rfl, -⟩ := unique_value (isValue text tells) (isValue' text' tells') (ends blanks')
        (ends back) begun
      exact ⟨text, tells, tells'⟩

end Scaffold.Json
