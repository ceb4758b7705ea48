import Mathlib
import TrainingScheduler.Programs

/-!
# Package lists

`parse_packages_text` of the image builder, whose tokens become arguments of `pip`.  The text is
split into words first, and a comment is only looked for inside a word.
-/

namespace TrainingScheduler.Packages

open List

abbrev Text := List Char

/-- The part in front of the first `#`. -/
def cut (text : Text) : Text := text.takeWhile (· ≠ '#')

def parseToken (chunk : Text) : Option Text :=
  let token := strip chunk
  if token = [] ∨ token.head? = some '#' then none
  else
    let token := if '#' ∈ token then strip (cut token) else token
    if token = [] then none else some token

def parsePackagesText : Option Text → List Text
  | none => []
  | some packages =>
    if packages = [] then []
    else
      let spaced := packages.map fun char => if char = ',' then ' ' else char
      ((spaced.splitOnP isSpace).filter (· ≠ [])).filterMap parseToken

def separates (char : Char) : Bool := char = ',' || isSpace char

/-- The pieces between commas and whitespace. -/
def pieces (text : Text) : List Text := text.splitOnP separates

def words (text : Text) : List Text := (pieces text).filter (· ≠ [])

/-- The words that remain of each line without its part from a `#` on. -/
def remaining (text : Text) : List Text := (text.splitOn '\n').flatMap fun line => words (cut line)

def comment (line : Text) : Text := line.dropWhile (· ≠ '#')

@[simp] theorem cut_nil : cut [] = [] := rfl

@[simp] theorem cut_cons (char : Char) (text : Text) :
    cut (char :: text) = if char = '#' then [] else char :: cut text := by
  by_cases hash : char = '#' <;> simp [cut, hash]

theorem cut_eq_nil_iff {text : Text} : cut text = [] ↔ text = [] ∨ text.head? = some '#' := by
  cases text <;> simp

@[simp] theorem pieces_nil : pieces [] = [[]] := rfl

@[simp] theorem pieces_cons (char : Char) (text : Text) :
    pieces (char :: text) =
      if separates char then [] :: pieces text else (pieces text).modifyHead (cons char) :=
  splitOnP_cons_eq_if_modifyHead char text

theorem exists_pieces (text : Text) : ∃ first rest, pieces text = first :: rest :=
  exists_cons_of_ne_nil (splitOnP_ne_nil separates text)

private theorem splitOnP_spaced (text : Text) :
    (text.map fun char => if char = ',' then ' ' else char).splitOnP isSpace = pieces text := by
  induction text with
  | nil => rfl
  | cons char text ih =>
    rw [map_cons, splitOnP_cons_eq_if_modifyHead, ih]
    by_cases comma : char = ','
    · simp [separates, comma, show isSpace ' ' = true by decide]
    · simp [separates, comma]

private theorem isSpace_of_mem (text : Text) :
    ∀ word ∈ pieces text, ∀ char ∈ word, isSpace char = false := by
  induction text with
  | nil => simp
  | cons head text ih =>
    obtain ⟨first, rest, split⟩ := exists_pieces text
    by_cases separator : separates head
    · simpa [separator] using ih
    · have clear : isSpace head = false := by simp_all [separates]
      rw [split, forall_mem_cons] at ih
      simpa [separator, split, clear] using ih

theorem strip_eq_self {text : Text} (solid : ∀ char ∈ text, isSpace char = false) :
    strip text = text := by
  rw [strip, dropWhile_eq_self_iff.mpr, rdropWhile_eq_self_iff.mpr]
  · intro nonempty
    simp [solid _ (getLast_mem nonempty)]
  · intro nonempty
    simp [solid _ (getElem_mem nonempty)]

theorem parseToken_eq {word : Text} (solid : ∀ char ∈ word, isSpace char = false) :
    parseToken word = if cut word = [] then none else some (cut word) := by
  have solid_cut : ∀ char ∈ cut word, isSpace char = false :=
    fun char member => solid char (takeWhile_subset _ member)
  simp only [parseToken, strip_eq_self solid, strip_eq_self solid_cut, ← cut_eq_nil_iff]
  by_cases marked : '#' ∈ word
  · simp [marked]
  · have whole : cut word = word := takeWhile_eq_self_iff.mpr fun char member =>
      decide_eq_true fun same => marked (same ▸ member)
    simp [marked, whole]

private theorem filterMap_parseToken {chunks : List Text}
    (solid : ∀ word ∈ chunks, ∀ char ∈ word, isSpace char = false) :
    (chunks.filter (· ≠ [])).filterMap parseToken = (chunks.map cut).filter (· ≠ []) := by
  induction chunks with
  | nil => rfl
  | cons word chunks ih =>
    obtain ⟨solid, rest⟩ := forall_mem_cons.mp solid
    rw [map_cons, filter_cons, filter_cons, ← ih rest]
    have token := parseToken_eq solid
    cases word with
    | nil => simp
    | cons head word => grind

theorem pieces_eq_flatMap (text : Text) : pieces text = (text.splitOn '\n').flatMap pieces := by
  induction text with
  | nil => rfl
  | cons char text ih =>
    obtain ⟨line, lines, split⟩ := exists_cons_of_ne_nil (splitOnP_ne_nil (· == '\n') text)
    obtain ⟨first, rest, head⟩ := exists_pieces line
    rw [splitOn] at ih ⊢
    rw [splitOnP_cons_eq_if_modifyHead, pieces_cons, ih, split]
    by_cases newline : char = '\n'
    · simp [newline, show separates '\n' = true by decide]
    · by_cases separator : separates char <;> simp [newline, separator, head]

theorem parsePackagesText_eq (packages : Text) :
    parsePackagesText (some packages) =
      (packages.splitOn '\n').flatMap fun line => ((pieces line).map cut).filter (· ≠ []) := by
  rw [← filter_flatMap, ← map_flatMap, ← pieces_eq_flatMap,
    ← filterMap_parseToken (isSpace_of_mem packages), parsePackagesText]
  split_ifs with empty
  · simp [empty]
  · rw [← splitOnP_spaced]

/-- In front of its comment a line is split as without it, and the first piece of the comment is
dropped. -/
theorem map_cut_pieces (line : Text) :
    ∃ first rest, pieces (comment line) = first :: rest ∧ cut first = [] ∧
      (pieces line).map cut = pieces (cut line) ++ rest.map cut := by
  induction line with
  | nil => exact ⟨[], [], rfl, rfl, rfl⟩
  | cons char line ih =>
    obtain ⟨head, tail, split⟩ := exists_pieces line
    by_cases hash : char = '#'
    · refine ⟨'#' :: head, tail, ?_, by simp, ?_⟩ <;>
        simp [comment, hash, split, show separates '#' = false by decide]
    · obtain ⟨first, rest, same, empty, ih⟩ := ih
      obtain ⟨front, fronts, cuts⟩ := exists_pieces (cut line)
      refine ⟨first, rest, by simpa [comment, hash] using same, empty, ?_⟩
      by_cases separator : separates char <;> simp_all

/-- What a line contributes in excess of the words in front of its comment. -/
theorem line_tokens (line : Text) : ∃ excess,
    ((pieces line).map cut).filter (· ≠ []) = words (cut line) ++ excess ∧
      (excess = [] ↔ ∀ word ∈ words (comment line), word.head? = some '#') := by
  obtain ⟨first, rest, split, empty, parts⟩ := map_cut_pieces line
  refine ⟨(rest.map cut).filter (· ≠ []), by rw [parts, filter_append, words], ?_⟩
  have kept (word : Text) : ¬decide (cut word ≠ []) = true ↔
      (decide (word ≠ []) = true → word.head? = some '#') := by
    simp [cut_eq_nil_iff, or_iff_not_imp_left]
  rw [filter_eq_nil_iff, forall_mem_map, words, split]
  simp only [mem_filter, and_imp, forall_mem_cons, kept]
  exact (and_iff_right ((kept first).mp (by simp [empty]))).symm

/-- The tokens are the words outside the comments exactly if every word of a comment starts with
`#`. -/
theorem packages_stripped_iff (packages : Text) :
    parsePackagesText (some packages) = remaining packages ↔
      ∀ line ∈ packages.splitOn '\n', ∀ word ∈ words (comment line), word.head? = some '#' := by
  choose excess tokens empty using line_tokens
  simp only [parsePackagesText_eq, remaining, tokens, ← empty]
  constructor
  · intro same
    have lengths := congrArg length same
    simp only [length_flatMap, length_append, sum_map_add] at lengths
    simpa [List.sum_eq_zero_iff] using lengths
  · intro none
    refine flatMap_congr fun line listed => ?_
    rw [none line listed, append_nil]

theorem marked_words_stripped :
    let packages := "numpy, pandas #both #needed\nscipy#too".toList
    parsePackagesText (some packages) = remaining packages ∧
      remaining packages = ["numpy", "pandas", "scipy"].map String.toList :=
  ⟨(packages_stripped_iff _).mpr (by decide +kernel), by decide +kernel⟩

/-- The words of a comment become packages. -/
theorem comment_words_installed :
    parsePackagesText (some "numpy # needed for data".toList) =
        ["numpy", "needed", "for", "data"].map String.toList ∧
      remaining "numpy # needed for data".toList = ["numpy".toList] := by
  decide +kernel

end TrainingScheduler.Packages
