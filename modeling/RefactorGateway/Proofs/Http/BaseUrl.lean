import RefactorGateway.Http.Url
import Mathlib.Data.List.DropRight
/-!
# Paths behind a base URL

A request goes to a base URL with a path behind it.  The two are put together as texts and read as
one URL.  So the server is that of the base URL, and the path comes to stand behind what the base
URL has of a path or a query.  A base URL with a fragment loses it.

## Main Definitions

* `IsPath`: a path that is read as it is
* `LiesBelow`: what a URL has to do with the base URL

## Main Statements

* `read_append`: how a base URL with a path behind it is read
* `exists_target_append`: where the path comes to stand
* `liesBelow_of_read`: a URL that is read lies below the base URL
* `credentials_eq_of_read`: and has its credentials

## Design Notes

The URL of a base URL alone does not tell where a path behind it goes: one that ends in a dot
segment, or in a slash, is read as if it had an empty segment more.  So a base URL is always read
with a slash behind it.  What is then read of it and what is read with a path have the same parts
but for the end, and both follow from one description of these parts (`behind?`).
-/

namespace RefactorGateway.Http.Url

/-! ### Scans -/

section Scans

variable {α : Type} {p : α → Bool} {a : α}

theorem takeWhile_append_cons (stops : p a = false) (xs ys : List α) :
    (xs ++ a :: ys).takeWhile p = xs.takeWhile p := by
  rw [List.takeWhile_append, List.takeWhile_cons, stops]
  split
  · next all =>
    rw [(List.takeWhile_prefix p).eq_of_length all]
    exact List.append_nil xs
  · rfl

theorem dropWhile_append_cons (stops : p a = false) (xs ys : List α) :
    (xs ++ a :: ys).dropWhile p = xs.dropWhile p ++ a :: ys := by
  rw [List.dropWhile_append, List.dropWhile_cons, stops]
  split
  · next all =>
    rw [List.isEmpty_iff.1 all]
    rfl
  · rfl

/-- A scan that stops within a list does not see what follows. -/
theorem takeWhile_append_of_mem (stops : p a = false) {xs : List α} (mem : a ∈ xs)
    (ys : List α) : (xs ++ ys).takeWhile p = xs.takeWhile p := by
  obtain ⟨before, after, rfl⟩ := List.append_of_mem mem
  rw [List.append_assoc, List.cons_append, takeWhile_append_cons stops,
    takeWhile_append_cons stops]

theorem dropWhile_append_of_mem (stops : p a = false) {xs : List α} (mem : a ∈ xs)
    (ys : List α) : (xs ++ ys).dropWhile p = xs.dropWhile p ++ ys := by
  obtain ⟨before, after, rfl⟩ := List.append_of_mem mem
  rw [List.append_assoc, List.cons_append, dropWhile_append_cons stops,
    dropWhile_append_cons stops, List.append_assoc, List.cons_append]

theorem mem_dropWhile_iff (stops : p a = false) {xs : List α} :
    a ∈ xs.dropWhile p ↔ a ∈ xs := by
  refine ⟨fun mem => (List.dropWhile_suffix p).subset mem, fun mem => ?_⟩
  obtain ⟨before, after, rfl⟩ := List.append_of_mem mem
  rw [dropWhile_append_cons stops]
  exact List.mem_append_right _ List.mem_cons_self

theorem takeWhile_ne_self [DecidableEq α] {xs : List α} (absent : a ∉ xs) :
    xs.takeWhile (· ≠ a) = xs :=
  List.takeWhile_eq_self_iff.2 fun _ mem => decide_eq_true fun same => absent (same ▸ mem)

theorem dropWhile_ne_nil [DecidableEq α] {xs : List α} (absent : a ∉ xs) :
    xs.dropWhile (· ≠ a) = [] :=
  List.dropWhile_eq_nil_iff.2 fun _ mem => decide_eq_true fun same => absent (same ▸ mem)

theorem subset_of_mem_splitOn [DecidableEq α] {xs part : List α} (mem : part ∈ xs.splitOn a) :
    part ⊆ xs := by
  induction xs generalizing part with
  | nil =>
    rw [List.splitOn_nil, List.mem_singleton] at mem
    exact mem ▸ List.Subset.refl _
  | cons x xs ih =>
    rw [List.splitOn_cons_eq_if_modifyHead] at mem
    split at mem
    · rcases List.mem_cons.1 mem with rfl | later
      · exact List.nil_subset _
      · exact List.subset_cons_of_subset x (ih later)
    · obtain ⟨first, rest, parts⟩ := List.exists_cons_of_ne_nil (List.splitOn_ne_nil a xs)
      rw [parts, List.modifyHead_cons] at mem
      rw [parts] at ih
      rcases List.mem_cons.1 mem with rfl | later
      · exact List.cons_subset_cons x (ih List.mem_cons_self)
      · exact List.subset_cons_of_subset x (ih (List.mem_cons_of_mem first later))

end Scans

/-! ### Paths -/

/-- The characters that tell the parts of a URL from each other. -/
def marks : List Char := ['?', '#', '\\', '@']

/-- A character that stands for itself in a path and in a query. -/
def isPlain (c : Char) : Bool :=
  !isEdge c && !marks.contains c && encodeChar pathSet c == [c] && encodeChar querySet c == [c]

/-- Whether a segment stands for itself. -/
def isName (segment : List Char) : Bool :=
  !isDoubleDot (String.ofList segment) && !isSingleDot (String.ofList segment)

/-- A path, without the slash before it, that is read as it is. -/
structure IsPath (path : List Char) : Prop where
  plain : ∀ c ∈ path, isPlain c = true
  named : ∀ segment ∈ path.splitOn '/', isName segment = true

instance (path : List Char) : Decidable (IsPath path) :=
  decidable_of_iff (path.all isPlain = true ∧ (path.splitOn '/').all isName = true) <| by
    rw [List.all_eq_true, List.all_eq_true]
    exact ⟨fun h => ⟨h.1, h.2⟩, fun h => ⟨h.plain, h.named⟩⟩

section Plain

variable {c : Char} {cs : List Char}

theorem isPlain_iff : isPlain c = true ↔ isEdge c = false ∧ c ∉ marks ∧
    encodeChar pathSet c = [c] ∧ encodeChar querySet c = [c] := by
  simp only [isPlain, Bool.and_eq_true, Bool.not_eq_true', beq_iff_eq, and_assoc,
    ← Bool.not_eq_true, List.contains_iff_mem]

theorem isBreak_of_isPlain (plain : isPlain c = true) : isBreak c = false := by
  obtain ⟨no_edge, -⟩ := isPlain_iff.1 plain
  refine Bool.eq_false_iff.2 fun breaks => ?_
  simp only [isBreak, Bool.or_eq_true, decide_eq_true_eq] at breaks
  rcases breaks with (rfl | rfl) | rfl <;> cases no_edge

theorem encode_append (set xs ys : List Char) :
    encode set (xs ++ ys) = encode set xs ++ encode set ys := by
  rw [encode, List.flatMap_append, String.ofList_append]
  rfl

theorem encode_eq_ofList {set : List Char} (kept : ∀ c ∈ cs, encodeChar set c = [c]) :
    encode set cs = String.ofList cs := by
  rw [encode, List.flatMap_congr kept, List.flatMap_singleton']

theorem plain_slash (plain : ∀ c ∈ cs, isPlain c = true) : ∀ c ∈ '/' :: cs, isPlain c = true :=
  List.forall_mem_cons.2 ⟨by decide, plain⟩

theorem slashed_of_isPlain (plain : isPlain c = true) : slashed c = c := by
  obtain ⟨-, no_mark, -⟩ := isPlain_iff.1 plain
  have no_backslash : c ≠ '\\' := fun same => no_mark (by simp [same, marks])
  simp only [slashed, isSlash, Bool.or_eq_true, decide_eq_true_eq]
  split <;> simp_all

/-- A path has no marks of a query or a fragment. -/
theorem not_mem_append {mark : Char} {path : List Char} (marks : isPlain mark = false)
    (no_mark : mark ∉ cs) (plain : ∀ c ∈ path, isPlain c = true) : mark ∉ cs ++ path := by
  refine fun mem => (List.mem_append.1 mem).elim no_mark fun mem => ?_
  rw [plain mark mem] at marks
  cases marks

end Plain

/-! ### Texts -/

/-- What cleaning leaves of a text that goes on. -/
def stem (cs : List Char) : List Char := (cs.dropWhile isEdge).filter fun c => !isBreak c

variable {path : List Char}

theorem clean_append (cs : List Char) (plain : ∀ c ∈ path, isPlain c = true) :
    clean (cs ++ '/' :: path) = stem cs ++ '/' :: path := by
  have plain' := plain_slash plain
  have ends : ((cs.dropWhile isEdge ++ '/' :: path).reverse.dropWhile isEdge).reverse =
      cs.dropWhile isEdge ++ '/' :: path := by
    refine List.rdropWhile_eq_self_iff.2 fun _ => ?_
    rw [List.getLast_append_of_ne_nil _ (List.cons_ne_nil _ _), Bool.not_eq_true]
    exact (isPlain_iff.1 (plain' _ (List.getLast_mem _))).1
  have kept : (('/' :: path).filter fun c => !isBreak c) = '/' :: path := by
    refine List.filter_eq_self.2 fun c mem => ?_
    rw [isBreak_of_isPlain (plain' c mem)]
    rfl
  rw [clean, dropWhile_append_cons rfl, ends, List.filter_append, kept, stem]

theorem splitScheme_append (cs path : List Char) :
    splitScheme (cs ++ '/' :: path) =
      (splitScheme cs).map fun parts => (parts.1, parts.2 ++ '/' :: path) := by
  unfold splitScheme
  have stops : isSchemeChar '/' = false := rfl
  rw [takeWhile_append_cons stops, dropWhile_append_cons stops]
  cases cs.takeWhile isSchemeChar with
  | nil => rfl
  | cons first more =>
    cases cs.dropWhile isSchemeChar with
    | nil => simp
    | cons mark rest =>
      by_cases colon : mark = ':'
      · subst colon
        simp only [List.cons_append]
        split <;> rfl
      · simp [colon]

/-- What is behind the scheme and its slashes in a text that goes on with a slash. -/
def behind? (base : String) : Option (Bool × List Char) := do
  let (scheme, rest) ← splitScheme (stem base.toList)
  let secure ← isSecure? scheme
  return (secure, rest.dropWhile isSlash)

/-- How a base URL with a path behind it is read.  If there is nothing but slashes behind its
scheme, the path is taken for the server. -/
theorem read_append (base : String) (plain : ∀ c ∈ path, isPlain c = true) :
    read (base ++ "/" ++ String.ofList path) =
      (behind? base).bind fun parts =>
        if parts.2 = [] then readBehind parts.1 (path.dropWhile isSlash)
        else readBehind parts.1 (parts.2 ++ '/' :: path) := by
  have text : (base ++ "/" ++ String.ofList path).toList = base.toList ++ '/' :: path := by
    simp
  unfold read behind?
  rw [text, clean_append _ plain, splitScheme_append]
  cases splitScheme (stem base.toList) with
  | none => rfl
  | some parts =>
    obtain ⟨scheme, rest⟩ := parts
    simp only [Option.map_some, Option.bind_eq_bind, Option.bind_some]
    cases isSecure? scheme with
    | none => rfl
    | some secure =>
      simp only [Option.bind_some, Option.pure_def, List.dropWhile_append, List.isEmpty_iff,
        apply_ite (readBehind secure)]
      rfl

/-! ### Locations -/

section Locations

variable {cs : List Char}

theorem resolveSegments_append (done xs : List String) {ys : List String} (more : ys ≠ []) :
    resolveSegments done (xs ++ ys) = resolveSegments (xs.foldl enter done) ys := by
  induction xs generalizing done with
  | nil => rfl
  | cons x xs ih =>
    obtain ⟨next, rest, later⟩ :=
      List.exists_cons_of_ne_nil (List.append_ne_nil_of_right_ne_nil xs more)
    rw [List.cons_append, List.foldl_cons, ← ih, later, resolveSegments]
    exact List.cons_ne_nil next rest

/-- Segments that stand for themselves are added as they are. -/
theorem resolveSegments_of_isName (done : List String) {segments : List (List Char)}
    (named : ∀ segment ∈ segments, isName segment = true) :
    resolveSegments done (segments.map String.ofList) = done ++ segments.map String.ofList := by
  induction segments generalizing done with
  | nil => exact (List.append_nil done).symm
  | cons segment segments ih =>
    obtain ⟨name, later⟩ := List.forall_mem_cons.1 named
    simp only [isName, Bool.and_eq_true, Bool.not_eq_true'] at name
    obtain ⟨no_double, no_single⟩ := name
    cases segments with
    | nil => simp [resolveSegments, no_double, no_single]
    | cons next rest =>
      have entered : enter done (String.ofList segment) = done ++ [String.ofList segment] := by
        simp [enter, no_double, no_single]
      rw [List.map_cons, resolveSegments, entered, ih _ later, List.append_assoc,
        List.singleton_append]
      exact List.cons_ne_nil _ _

theorem map_encode_of_isPath (is_path : IsPath path) :
    (path.splitOn '/').map (encode pathSet) = (path.splitOn '/').map String.ofList := by
  refine List.map_congr_left fun name mem => encode_eq_ofList fun c there => ?_
  exact (isPlain_iff.1 (is_path.plain c (subset_of_mem_splitOn mem there))).2.2.1

theorem readSegments_of_isPath (is_path : IsPath path) :
    readSegments path = (path.splitOn '/').map String.ofList := by
  rw [readSegments, map_encode_of_isPath is_path, resolveSegments_of_isName [] is_path.named,
    List.nil_append]

/-- The directory to which a path leads. -/
def directoryOf (cs : List Char) : List String :=
  ((cs.splitOn '/').map (encode pathSet)).foldl enter []

theorem readSegments_append (cs : List Char) (is_path : IsPath path) :
    readSegments (cs ++ '/' :: path) = directoryOf cs ++ (path.splitOn '/').map String.ofList := by
  have more : (path.splitOn '/').map String.ofList ≠ [] := by simp
  rw [readSegments, List.splitOn_append_cons_self, List.map_append, map_encode_of_isPath is_path,
    resolveSegments_append _ _ more, resolveSegments_of_isName _ is_path.named, directoryOf]

/-- What follows a fragment belongs to it. -/
theorem readLocation_append_of_fragment (fragment : '#' ∈ cs) (more : List Char) :
    readLocation (cs ++ more) = readLocation cs := by
  rw [readLocation, takeWhile_append_of_mem (by decide) fragment, readLocation]

theorem readLocation_of_no_fragment (no_fragment : '#' ∉ cs) :
    readLocation cs =
      (readSegments (((cs.takeWhile (· ≠ '?')).map slashed).drop 1),
        (cs.dropWhile (· ≠ '?')).tail?.map (encode querySet)) := by
  rw [readLocation, takeWhile_ne_self no_fragment]

/-- What follows a query belongs to it. -/
theorem readLocation_append_of_query (no_fragment : '#' ∉ cs) (query : '?' ∈ cs) :
    ∃ segments begun, ∀ path, (∀ c ∈ path, isPlain c = true) →
      readLocation (cs ++ '/' :: path) =
        (segments, some (begun ++ String.ofList ('/' :: path))) := by
  obtain ⟨mark, begun, split⟩ := List.exists_cons_of_ne_nil <| List.ne_nil_of_mem <|
    (mem_dropWhile_iff (p := fun c => decide (c ≠ '?')) (by decide)).2 query
  refine ⟨readSegments (((cs.takeWhile (· ≠ '?')).map slashed).drop 1), encode querySet begun,
    fun path plain => ?_⟩
  have plain := plain_slash plain
  have kept : encode querySet ('/' :: path) = String.ofList ('/' :: path) :=
    encode_eq_ofList fun c mem => (isPlain_iff.1 (plain c mem)).2.2.2
  rw [readLocation_of_no_fragment (not_mem_append rfl no_fragment plain),
    takeWhile_append_of_mem (by decide) query, dropWhile_append_of_mem (by decide) query, split,
    List.cons_append, List.tail?_cons, Option.map_some, encode_append, kept]

/-- What follows a path belongs to it. -/
theorem readLocation_append_of_path (no_fragment : '#' ∉ cs) (no_query : '?' ∉ cs) :
    ∃ directory, ∀ path, IsPath path →
      readLocation (cs ++ '/' :: path) =
        (directory ++ (path.splitOn '/').map String.ofList, none) := by
  have location (path : List Char) (is_path : IsPath path) :
      readLocation (cs ++ '/' :: path) =
        (readSegments ((cs.map slashed ++ '/' :: path).drop 1), none) := by
    have plain := plain_slash is_path.plain
    have kept : ('/' :: path).map slashed = '/' :: path :=
      (List.map_congr_left fun c mem => slashed_of_isPlain (plain c mem)).trans (List.map_id' _)
    have no_query' := not_mem_append rfl no_query plain
    rw [readLocation_of_no_fragment (not_mem_append rfl no_fragment plain),
      takeWhile_ne_self no_query', dropWhile_ne_nil no_query', List.map_append, kept]
    rfl
  -- the first slash is not part of a segment: it is that of the base URL, or else that of the path
  cases cs with
  | nil =>
    refine ⟨[], fun path is_path => ?_⟩
    rw [location path is_path, List.nil_append, ← readSegments_of_isPath is_path]
    rfl
  | cons first rest =>
    refine ⟨directoryOf (rest.map slashed), fun path is_path => ?_⟩
    rw [location path is_path, ← readSegments_append _ is_path]
    rfl

/-- The parts of a path, each behind a slash. -/
theorem slash_intercalate_splitOn (path : List Char) :
    "/" ++ "/".intercalate ((path.splitOn '/').map String.ofList) =
      String.ofList ('/' :: path) := by
  rw [← String.toList_inj, String.toList_append, String.toList_intercalate, List.map_map,
    show String.toList ∘ String.ofList = id from funext fun _ => String.toList_ofList, List.map_id,
    String.toList_ofList, List.intercalate_splitOn, String.toList_ofList, List.singleton_append]

/-- Where a path comes to stand: right behind what there is of a path or a query. -/
theorem exists_target_append (server : Url) (no_fragment : '#' ∉ cs) :
    ∃ front, ∀ path, IsPath path →
      (server.withLocation (cs ++ '/' :: path)).target =
        front ++ String.ofList ('/' :: path) := by
  by_cases query : '?' ∈ cs
  · obtain ⟨segments, begun, location⟩ := readLocation_append_of_query no_fragment query
    refine ⟨"/" ++ "/".intercalate segments ++ "?" ++ begun, fun path is_path => ?_⟩
    rw [withLocation, location path is_path.plain, target]
    simp only [String.append_assoc]
  · obtain ⟨directory, location⟩ := readLocation_append_of_path no_fragment query
    have names (path : List Char) : (path.splitOn '/').map String.ofList ≠ [] := by simp
    -- there is no slash between the directory and the path if there is no directory
    by_cases top : directory = []
    · refine ⟨"", fun path is_path => ?_⟩
      rw [withLocation, location path is_path, target, top, List.nil_append,
        slash_intercalate_splitOn, String.empty_append, String.append_empty]
    · refine ⟨"/" ++ "/".intercalate directory, fun path is_path => ?_⟩
      rw [withLocation, location path is_path, target,
        String.intercalate_append_of_ne_nil top (names path), ← slash_intercalate_splitOn]
      simp only [String.append_assoc, String.append_empty]

theorem query_withLocation_append (server : Url) (no_fragment : '#' ∉ cs)
    (is_path : IsPath path) :
    (server.withLocation (cs ++ '/' :: path)).query = none ↔ '?' ∉ cs := by
  by_cases query : '?' ∈ cs
  · obtain ⟨segments, begun, location⟩ := readLocation_append_of_query no_fragment query
    rw [withLocation, location path is_path.plain]
    simp [query]
  · obtain ⟨directory, location⟩ := readLocation_append_of_path no_fragment query
    rw [withLocation, location path is_path]
    simp [query]

end Locations

/-! ### Base URLs -/

section Base

variable {text : String} {secure : Bool} {rest : List Char}

theorem readBehind_append (secure : Bool) (rest path : List Char) :
    readBehind secure (rest ++ '/' :: path) =
      (readServer secure (rest.takeWhile inAuthority)).map fun server =>
        server.withLocation (rest.dropWhile inAuthority ++ '/' :: path) := by
  have stops : inAuthority '/' = false := rfl
  rw [readBehind, takeWhile_append_cons stops, dropWhile_append_cons stops]

theorem dropWhile_of_splitScheme {cs scheme : List Char}
    (found : splitScheme cs = some (scheme, rest)) : cs.dropWhile isSchemeChar = ':' :: rest := by
  unfold splitScheme at found
  split at found
  · next first more after _ behind =>
    split at found
    · cases found
      exact behind
    · cases found
  · cases found

/-- The marks of a query and of a fragment stand behind the server. -/
theorem mem_dropWhile_of_behind? {mark : Char} (marks : mark = '?' ∨ mark = '#')
    (found : behind? text = some (secure, rest)) :
    mark ∈ rest.dropWhile inAuthority ↔ mark ∈ text.toList := by
  obtain ⟨no_edge, no_break, no_scheme, no_slash, ends, no_colon⟩ :
      isEdge mark = false ∧ isBreak mark = false ∧ isSchemeChar mark = false ∧
        isSlash mark = false ∧ inAuthority mark = false ∧ mark ≠ ':' := by
    rcases marks with rfl | rfl <;> decide
  simp only [behind?, Option.bind_eq_bind, Option.bind_eq_some_iff, Prod.exists] at found
  obtain ⟨scheme, later, split, secure', -, made⟩ := found
  cases made
  calc mark ∈ (later.dropWhile isSlash).dropWhile inAuthority
      ↔ mark ∈ ':' :: later := by
        rw [mem_dropWhile_iff ends, mem_dropWhile_iff no_slash, List.mem_cons]
        exact (or_iff_right no_colon).symm
    _ ↔ mark ∈ stem text.toList := by
        rw [← dropWhile_of_splitScheme split, mem_dropWhile_iff no_scheme]
    _ ↔ mark ∈ text.toList := by
        rw [stem, List.mem_filter, mem_dropWhile_iff no_edge, no_break]
        exact and_iff_left rfl

/-- A URL is that of a path behind a base URL.  Read with only a slash behind it, the base URL is
`base`. -/
structure LiesBelow (url : Url) (text : String) (base : Url) (path : String) : Prop where
  /-- The server and the credentials are those of the base URL. -/
  same_server : { url with segments := base.segments, query := base.query } = base
  /-- The path comes in place of the slash. -/
  follows : '#' ∉ text.toList →
    ∃ front, base.target = front ++ "/" ∧ url.target = front ++ path
  /-- It stands in the path unless the base URL has begun a query. -/
  query_eq_none_iff : '#' ∉ text.toList → (url.query = none ↔ '?' ∉ text.toList)
  /-- A fragment takes it in. -/
  lost : '#' ∈ text.toList → url.target = base.target

theorem isPath_nil : IsPath [] := by decide +kernel

theorem readBehind_nil (secure : Bool) : readBehind secure [] = none := by
  cases secure <;> decide +kernel

/-- How a base URL is read with only a slash behind it. -/
theorem read_slash (text : String) :
    read (text ++ "/") =
      (behind? text).bind fun parts =>
        if parts.2 = [] then none else readBehind parts.1 (parts.2 ++ ['/']) := by
  have alone := read_append text isPath_nil.plain
  simp only [List.dropWhile_nil, readBehind_nil] at alone
  rwa [show text ++ "/" ++ String.ofList [] = text ++ "/" from String.append_empty] at alone

/-- The parts of a base URL that names a server. -/
theorem exists_behind_of_read {base : Url} (named : read (text ++ "/") = some base) :
    ∃ secure rest server, behind? text = some (secure, rest) ∧ rest ≠ [] ∧
      readServer secure (rest.takeWhile inAuthority) = some server ∧
      base = server.withLocation (rest.dropWhile inAuthority ++ ['/']) := by
  rw [read_slash] at named
  obtain ⟨⟨secure, rest⟩, found, read_base⟩ := Option.bind_eq_some_iff.1 named
  split at read_base
  · cases read_base
  · next some_server =>
    rw [readBehind_append] at read_base
    obtain ⟨server, served, rfl⟩ := Option.map_eq_some_iff.1 read_base
    exact ⟨secure, rest, server, found, some_server, served, rfl⟩

/-- A path behind a text that names a server is read below it. -/
theorem liesBelow_of_read {base : Url} (named : read (text ++ "/") = some base)
    (is_path : IsPath path) :
    ∃ url, read (text ++ "/" ++ String.ofList path) = some url ∧
      url.LiesBelow text base (String.ofList ('/' :: path)) := by
  obtain ⟨secure, rest, server, found, some_server, served, rfl⟩ := exists_behind_of_read named
  refine ⟨server.withLocation (rest.dropWhile inAuthority ++ '/' :: path), ?_, rfl, ?_, ?_, ?_⟩
  · rw [read_append text is_path.plain, found, Option.bind_some, if_neg some_server,
      readBehind_append, served, Option.map_some]
  · intro no_fragment
    rw [← mem_dropWhile_of_behind? (.inr rfl) found] at no_fragment
    obtain ⟨front, target⟩ := exists_target_append server no_fragment
    exact ⟨front, target [] isPath_nil, target path is_path⟩
  · intro no_fragment
    rw [← mem_dropWhile_of_behind? (.inr rfl) found] at no_fragment
    rw [query_withLocation_append server no_fragment is_path,
      mem_dropWhile_of_behind? (.inl rfl) found]
  · intro fragment
    rw [← mem_dropWhile_of_behind? (.inr rfl) found] at fragment
    rw [withLocation, withLocation, readLocation_append_of_fragment fragment,
      readLocation_append_of_fragment fragment]

/-! ### Credentials -/

theorem beforeHost_of_not_mem {cs : List Char} (absent : '@' ∉ cs) : beforeHost cs = [] := by
  have all : afterCredentials cs = cs := by
    rw [afterCredentials, takeWhile_ne_self (mt List.mem_reverse.1 absent), List.reverse_reverse]
  rw [beforeHost, all, Nat.sub_self, Nat.zero_sub, List.take_zero]

theorem credentials_of_readServer {server : Url} {authority : List Char}
    (served : readServer secure authority = some server) :
    server.credentials = readCredentials (beforeHost authority) := by
  unfold readServer at served
  simp only [Option.bind_eq_bind, Option.bind_eq_some_iff] at served
  obtain ⟨host, -, port, -, made⟩ := served
  cases made
  rfl

/-- What is behind the scheme names its credentials before an `@`. -/
theorem credentials_of_readBehind {url : Url} (absent : '@' ∉ rest)
    (found : readBehind secure rest = some url) : url.credentials = none := by
  obtain ⟨server, served, rfl⟩ := Option.map_eq_some_iff.1 found
  have absent' : '@' ∉ rest.takeWhile inAuthority :=
    fun mem => absent ((List.takeWhile_prefix _).subset mem)
  show server.credentials = _
  rw [credentials_of_readServer served, beforeHost_of_not_mem absent']
  decide +kernel

/-- A path has no credentials; so a URL has those of its base URL. -/
theorem credentials_eq_of_read {url : Url} (is_path : IsPath path)
    (found : read (text ++ "/" ++ String.ofList path) = some url) :
    url.credentials = (read (text ++ "/")).bind credentials := by
  rw [read_append text is_path.plain] at found
  obtain ⟨⟨secure, rest⟩, behind, read_url⟩ := Option.bind_eq_some_iff.1 found
  rw [read_slash, behind, Option.bind_some]
  by_cases no_server : rest = []
  · -- the path itself is read as a server, and it names no one
    rw [if_pos no_server] at read_url ⊢
    have absent : '@' ∉ path.dropWhile isSlash := fun mem =>
      not_mem_append (rfl : isPlain '@' = false) List.not_mem_nil is_path.plain
        ((List.dropWhile_suffix _).subset mem)
    rw [credentials_of_readBehind absent read_url]
    rfl
  · rw [if_neg no_server, readBehind_append] at read_url ⊢
    obtain ⟨server, served, rfl⟩ := Option.map_eq_some_iff.1 read_url
    rw [served]
    rfl

end Base

end RefactorGateway.Http.Url
