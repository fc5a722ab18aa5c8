/-!
# How texts begin

A text that is put together begins as its first part does.  So a fixed phrase in front of other
texts, whatever these are, decides which phrases the whole begins with.

## Main Definitions

* `Apart`: neither of two phrases begins the other

## Main Statements

* `startsWith_append`, `startsWith_append_of_startsWith`: a text begins with its first part
* `startsWith_or_startsWith`: of two beginnings of a text, one begins the other
* `Apart.append`: a text parts from every phrase that its first part parts from
-/

namespace RefactorGateway.Text

theorem startsWith_append (first rest : String) : (first ++ rest).startsWith first = true := by
  rw [String.startsWith_string_iff, String.toList_append]
  exact List.prefix_append first.toList rest.toList

theorem startsWith_append_of_startsWith {phrase first : String}
    (begins : first.startsWith phrase = true) (rest : String) :
    (first ++ rest).startsWith phrase = true := by
  rw [String.startsWith_string_iff] at begins ⊢
  rw [String.toList_append]
  exact begins.trans (List.prefix_append first.toList rest.toList)

/-- Of two beginnings of a text, one begins the other. -/
theorem startsWith_or_startsWith {text first second : String}
    (one : text.startsWith first = true) (other : text.startsWith second = true) :
    second.startsWith first = true ∨ first.startsWith second = true := by
  simp only [String.startsWith_string_iff] at *
  exact List.prefix_or_prefix_of_prefix one other

/-- Neither of two phrases begins the other. -/
def Apart (first second : String) : Prop :=
  second.startsWith first = false ∧ first.startsWith second = false

instance (first second : String) : Decidable (Apart first second) :=
  inferInstanceAs (Decidable (_ ∧ _))

/-- What stands behind a text does not bring it closer to a phrase that it parts from. -/
theorem Apart.append {phrase first : String} (apart : Apart phrase first) (rest : String) :
    Apart phrase (first ++ rest) := by
  constructor
  · rw [← Bool.not_eq_true]
    intro begins
    rcases startsWith_or_startsWith begins (startsWith_append first rest) with before | after
    · rw [apart.1] at before
      cases before
    · rw [apart.2] at after
      cases after
  · rw [← Bool.not_eq_true]
    intro begins
    have shorter : phrase.startsWith first = true := by
      rw [String.startsWith_string_iff] at begins ⊢
      rw [String.toList_append] at begins
      exact (List.prefix_append first.toList rest.toList).trans begins
    rw [apart.2] at shorter
    cases shorter

end RefactorGateway.Text
