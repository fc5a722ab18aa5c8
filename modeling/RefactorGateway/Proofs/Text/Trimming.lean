import Mathlib.Data.List.TakeWhile
import RefactorGateway.Proofs.Text.Ending
/-!
# Texts without the blanks at their ends

Trimming takes the blanks at both ends of a text away and leaves a text that has none there.  There
is no other text of which this can be said, so it does not matter in which order, or how many times,
blanks are taken away.

## Main Definitions

* `BareEnds`: a text neither begins nor ends with a blank
* `Trimmed`: a text, and the same text without the blanks at its ends

## Main Statements

* `trimmed_trim`, `Trimmed.eq_trim`: there is one such text, and trimming finds it
* `trim_append_of_allBlank`: blanks behind a text make no difference
-/

namespace RefactorGateway.Text

/-- A text neither begins nor ends with a blank. -/
structure BareEnds (text : String) : Prop where
  no_blank_first : text.startsWith isBlank = false
  no_blank_last : text.endsWith isBlank = false

theorem bareEnds_iff {text : String} :
    BareEnds text ↔
      text.toList.head?.any isBlank = false ∧ text.toList.getLast?.any isBlank = false := by
  rw [← String.startsWith_bool_eq_head?, ← String.endsWith_bool_eq_getLast?]
  exact ⟨fun bare => ⟨bare.no_blank_first, bare.no_blank_last⟩, fun ⟨first, last⟩ => ⟨first, last⟩⟩

instance : DecidablePred BareEnds := fun _ => decidable_of_iff' _ bareEnds_iff

/-- The second text is the first one without the blanks at its ends, however many these are. -/
structure Trimmed (text core : String) : Prop where
  /-- Nothing but blanks is taken away. -/
  exists_blanks : ∃ before behind, allBlank before = true ∧ allBlank behind = true ∧
    text = before ++ core ++ behind
  /-- None of them is left. -/
  bare : BareEnds core

/-! ### Trimming from one side -/

theorem not_isBlank_of_head?_dropWhile {cs : List Char} {c : Char}
    (first : (cs.dropWhile isBlank).head? = some c) : isBlank c = false := by
  rw [← List.find?_not_eq_head?_dropWhile] at first
  simpa using List.find?_some first

theorem dropWhile_isBlank_eq_self {cs : List Char}
    (bare : ∀ c, cs.head? = some c → isBlank c = false) : cs.dropWhile isBlank = cs := by
  cases cs with
  | nil => rfl
  | cons c rest => exact List.dropWhile_cons_of_neg (Bool.eq_false_iff.1 (bare c rfl))

/-- Blanks behind a list are taken away with those at its end. -/
theorem rdropWhile_isBlank_append {blanks : List Char} (blank : ∀ c ∈ blanks, isBlank c = true)
    (cs : List Char) : (cs ++ blanks).rdropWhile isBlank = cs.rdropWhile isBlank := by
  have turned : ∀ c ∈ blanks.reverse, isBlank c = true :=
    fun c mem => blank c (List.mem_reverse.1 mem)
  rw [List.rdropWhile, List.reverse_append, List.dropWhile_append_of_pos turned, List.rdropWhile]

/-! ### What trimming leaves -/

theorem toList_trim (text : String) :
    (trim text).toList = (text.toList.dropWhile isBlank).rdropWhile isBlank :=
  String.toList_ofList

theorem bareEnds_trim (text : String) : BareEnds (trim text) := by
  rw [bareEnds_iff, toList_trim, Option.any_eq_false, Option.any_eq_false]
  constructor
  · intro c first
    -- what is left begins as it did before blanks behind it were taken away
    obtain ⟨taken, whole⟩ := List.rdropWhile_prefix isBlank (text.toList.dropWhile isBlank)
    have first_before : (text.toList.dropWhile isBlank).head? = some c := by
      rw [← whole, List.head?_append, first, Option.some_or]
    exact not_isBlank_of_head?_dropWhile first_before
  · intro c last
    rw [List.rdropWhile, List.getLast?_reverse] at last
    exact not_isBlank_of_head?_dropWhile last

/-- What trimming takes away is blanks. -/
theorem trimmed_trim (text : String) : Trimmed text (trim text) where
  exists_blanks := by
    refine ⟨String.ofList (text.toList.takeWhile isBlank),
      String.ofList ((text.toList.dropWhile isBlank).rtakeWhile isBlank), ?_, ?_, ?_⟩
    · rw [allBlank, String.toList_ofList]
      exact List.all_takeWhile
    · rw [allBlank, String.toList_ofList, List.all_eq_true]
      exact fun c mem => List.mem_rtakeWhile_imp mem
    · apply String.toList_inj.1
      rw [String.toList_append, String.toList_append, String.toList_ofList, String.toList_ofList,
        toList_trim, List.append_assoc, List.rdropWhile_append_rtakeWhile,
        List.takeWhile_append_dropWhile]
  bare := bareEnds_trim text

/-! ### There is no other -/

theorem trim_append_of_allBlank_left {blanks : String} (blank : allBlank blanks = true)
    (text : String) : trim (blanks ++ text) = trim text := by
  rw [allBlank, List.all_eq_true] at blank
  apply String.toList_inj.1
  rw [toList_trim, toList_trim, String.toList_append, List.dropWhile_append_of_pos blank]

/-- Blanks behind a text make no difference. -/
theorem trim_append_of_allBlank {blanks : String} (blank : allBlank blanks = true) (text : String) :
    trim (text ++ blanks) = trim text := by
  by_cases all : allBlank text = true
  · -- nothing is left of either, since both are blank
    rw [trim_eq_empty_iff.2 all, trim_eq_empty_iff, allBlank_append, all, blank]
    rfl
  · rw [allBlank, List.all_eq_true] at all blank
    have some : text.toList.dropWhile isBlank ≠ [] :=
      fun none => all (List.dropWhile_eq_nil_iff.1 none)
    apply String.toList_inj.1
    rw [toList_trim, toList_trim, String.toList_append, List.dropWhile_append,
      if_neg (by rwa [List.isEmpty_iff]), rdropWhile_isBlank_append blank]

theorem BareEnds.trim_eq {text : String} (bare : BareEnds text) : trim text = text := by
  rw [bareEnds_iff, Option.any_eq_false, Option.any_eq_false, ← List.head?_reverse] at bare
  obtain ⟨first, last⟩ := bare
  apply String.toList_inj.1
  rw [toList_trim, dropWhile_isBlank_eq_self first, List.rdropWhile,
    dropWhile_isBlank_eq_self last, List.reverse_reverse]

/-- There is no other text of which the same can be said. -/
theorem Trimmed.eq_trim {text core : String} (trimmed : Trimmed text core) : core = trim text := by
  obtain ⟨before, behind, blank, blank', rfl⟩ := trimmed.exists_blanks
  rw [trim_append_of_allBlank blank', trim_append_of_allBlank_left blank, trimmed.bare.trim_eq]

/-- A text with bare ends is all that trimming leaves of it. -/
theorem BareEnds.trimmed {text : String} (bare : BareEnds text) : Trimmed text text := by
  have trimmed := trimmed_trim text
  rwa [bare.trim_eq] at trimmed

end RefactorGateway.Text
