import Mathlib.Data.List.DropRight
import RefactorGateway.Text.Blank
/-!
# How texts end

Slashes at the end of a text are taken away all at once, so it does not matter how many there were.
A text of which nothing but blanks remains had nothing but blanks in front of its slashes.

## Main Definitions

* `slashes`: a text of slashes
* `Stripped`: a text, and the same text without the slashes at its end

## Main Statements

* `stripped_trimSlashes`, `Stripped.eq_trimSlashes`: there is one such text, and trimming finds it
* `trimSlashes_append_slashes`: more slashes at the end make no difference
* `trim_eq_empty_iff`: a text is trimmed to nothing if all of it is blank
* `allBlank_trimSlashes_iff`: which texts are blank without the slashes at their end
-/

namespace RefactorGateway.Text

/-! ### Slashes -/

/-- A text of slashes. -/
def slashes (k : Nat) : String := String.ofList (List.replicate k '/')

/-- The second text is the first one without the slashes at its end, however many these are. -/
structure Stripped (text rest : String) : Prop where
  /-- Nothing but slashes is taken away. -/
  exists_slashes : ∃ k, text = rest ++ slashes k
  /-- None of them is left. -/
  no_slash : rest.endsWith '/' = false

theorem toList_slashes (k : Nat) : (slashes k).toList = List.replicate k '/' :=
  String.toList_ofList

theorem dropTrailing_eq_rdropWhile (p : Char → Bool) (cs : List Char) :
    dropTrailing p cs = cs.rdropWhile p :=
  rfl

theorem toList_trimSlashes (text : String) :
    (trimSlashes text).toList = text.toList.rdropWhile (· == '/') :=
  String.toList_ofList

/-- Slashes at the end of a text are taken away, whatever their number. -/
theorem trimSlashes_append_slashes (text : String) (k : Nat) :
    trimSlashes (text ++ slashes k) = trimSlashes text := by
  apply String.toList_inj.1
  rw [toList_trimSlashes, toList_trimSlashes, String.toList_append, toList_slashes]
  induction k with
  | zero => rw [List.replicate_zero, List.append_nil]
  | succ k ih =>
    rw [List.replicate_succ', ← List.append_assoc, List.rdropWhile_concat_pos _ _ _ rfl]
    exact ih

theorem endsWith_trimSlashes (text : String) : (trimSlashes text).endsWith '/' = false := by
  rw [String.endsWith_char_eq_getLast?, toList_trimSlashes, beq_eq_false_iff_ne]
  intro last
  have some : text.toList.rdropWhile (· == '/') ≠ [] :=
    List.ne_nil_of_mem (List.mem_of_getLast? last)
  rw [List.getLast?_eq_some_getLast some] at last
  exact List.rdropWhile_last_not _ _ some (beq_iff_eq.2 (Option.some.inj last))

/-- What trimming takes away is slashes. -/
theorem stripped_trimSlashes (text : String) : Stripped text (trimSlashes text) where
  exists_slashes := by
    refine ⟨(text.toList.rtakeWhile (· == '/')).length, String.toList_inj.1 ?_⟩
    have taken : text.toList.rtakeWhile (· == '/') =
        List.replicate (text.toList.rtakeWhile (· == '/')).length '/' := by
      refine List.eq_replicate_iff.2 ⟨rfl, fun c mem => ?_⟩
      exact eq_of_beq (List.mem_rtakeWhile_imp (p := (· == '/')) mem)
    rw [String.toList_append, toList_trimSlashes, toList_slashes, ← taken]
    exact List.rdropWhile_append_rtakeWhile.symm
  no_slash := endsWith_trimSlashes text

theorem trimSlashes_of_endsWith_eq_false {text : String} (bare : text.endsWith '/' = false) :
    trimSlashes text = text := by
  apply String.toList_inj.1
  rw [toList_trimSlashes, List.rdropWhile_eq_self_iff]
  intro some same
  rw [String.endsWith_char_eq_getLast?, List.getLast?_eq_some_getLast some, beq_iff_eq.1 same,
    beq_self_eq_true] at bare
  cases bare

/-- There is no other text of which the same can be said. -/
theorem Stripped.eq_trimSlashes {text rest : String} (stripped : Stripped text rest) :
    rest = trimSlashes text := by
  obtain ⟨k, rfl⟩ := stripped.exists_slashes
  rw [trimSlashes_append_slashes, trimSlashes_of_endsWith_eq_false stripped.no_slash]

/-! ### Blanks -/

/-- Trimming leaves no character that was not there. -/
theorem trimChars_subset (cs : List Char) : trimChars cs ⊆ cs := by
  have kept := (List.rdropWhile_prefix isBlank (cs.dropWhile isBlank)).subset
  exact List.Subset.trans kept (List.dropWhile_subset _)

theorem allBlank_append (first second : String) :
    allBlank (first ++ second) = (allBlank first && allBlank second) := by
  rw [allBlank, String.toList_append, List.all_append]
  rfl

/-- Trimming leaves nothing of a text just if it has no character but blanks. -/
theorem trim_eq_empty_iff {text : String} : trim text = "" ↔ allBlank text = true := by
  rw [← String.toList_inj, trim, String.toList_ofList, trimChars, dropTrailing_eq_rdropWhile,
    allBlank, List.all_eq_true]
  show List.rdropWhile isBlank (text.toList.dropWhile isBlank) = [] ↔ _
  rw [List.rdropWhile_eq_nil_iff]
  constructor
  · intro blank
    -- what is left in front would begin with a character that is no blank
    have none_left : text.toList.dropWhile isBlank = [] := by
      by_contra some
      have first := blank _ (List.head_mem some)
      rw [List.head_dropWhile_not isBlank some] at first
      cases first
    exact List.dropWhile_eq_nil_iff.1 none_left
  · intro blank c mem
    exact blank c (List.dropWhile_subset _ mem)

/-- A text is blank without the slashes at its end just if it is a blank text with slashes
behind. -/
theorem allBlank_trimSlashes_iff {text : String} :
    allBlank (trimSlashes text) = true ↔
      ∃ blanks k, allBlank blanks = true ∧ text = blanks ++ slashes k := by
  constructor
  · intro blank
    obtain ⟨k, same⟩ := (stripped_trimSlashes text).exists_slashes
    exact ⟨trimSlashes text, k, blank, same⟩
  · rintro ⟨blanks, k, blank, rfl⟩
    rw [trimSlashes_append_slashes]
    obtain ⟨j, same⟩ := (stripped_trimSlashes blanks).exists_slashes
    rw [same, allBlank_append, Bool.and_eq_true] at blank
    exact blank.1

end RefactorGateway.Text
