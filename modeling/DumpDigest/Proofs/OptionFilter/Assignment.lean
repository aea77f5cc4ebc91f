import DumpDigest.OptionFilter
import DumpDigest.Proofs.Text.Front

/-!
# Assignments

What a text assigns, told without a reader: `Assigns` cuts it at its first `=` and takes the white
space off both sides, and `AssignsNothing` says why there is nothing to take.  The reader agrees
with them (`parseAssignment_eq_ok_iff`, `parseAssignment_eq_error_iff`).

Trimming is told in the same way: `Trimmed` says that a text is another one between white space and
begins and ends without any.  There is one such text only, the one that `trim` finds
(`trim_eq_iff`).
-/

namespace DumpDigest

open Text

/-- The text between the white space at its two ends. -/
structure Trimmed (text content : List Char) : Prop where
  parts : ∃ before after, text = before ++ (content ++ after) ∧
    (∀ c ∈ before, isBlank c = true) ∧ ∀ c ∈ after, isBlank c = true
  head : ∀ c ∈ content.head?, isBlank c = false
  last : ∀ c ∈ content.getLast?, isBlank c = false

theorem dropWhile_blanks {blanks rest : List Char} (blank : ∀ c ∈ blanks, isBlank c = true)
    (head : ∀ c ∈ rest.head?, isBlank c = false) : (blanks ++ rest).dropWhile isBlank = rest := by
  rw [List.dropWhile_append_of_pos blank]
  cases rest with
  | nil => rfl
  | cons c rest =>
    have kept : isBlank c = false := head c rfl
    rw [List.dropWhile_cons, kept]
    rfl

theorem not_isBlank_head_dropWhile (text : List Char) :
    ∀ c ∈ (text.dropWhile isBlank).head?, isBlank c = false := by
  intro c member
  have first := List.head?_dropWhile_not isBlank text
  rw [Option.mem_def] at member
  rw [member] at first
  exact first

theorem toList_trim (text : String) :
    (trim text).toList =
      ((text.toList.dropWhile isBlank).reverse.dropWhile isBlank).reverse := by
  rw [trim, String.toList_ofList]

theorem trimmed_trim (text : String) : Trimmed text.toList (trim text).toList := by
  rw [toList_trim]
  generalize text.toList = characters
  have ends := List.takeWhile_append_dropWhile (p := isBlank)
    (l := (characters.dropWhile isBlank).reverse)
  have middle : characters.dropWhile isBlank =
      ((characters.dropWhile isBlank).reverse.dropWhile isBlank).reverse ++
        ((characters.dropWhile isBlank).reverse.takeWhile isBlank).reverse := by
    rw [← List.reverse_append, ends, List.reverse_reverse]
  constructor
  · refine ⟨characters.takeWhile isBlank,
      ((characters.dropWhile isBlank).reverse.takeWhile isBlank).reverse, ?_,
      fun c member => List.mem_takeWhile_imp member,
      fun c member => List.mem_takeWhile_imp (List.mem_reverse.mp member)⟩
    rw [← middle, List.takeWhile_append_dropWhile]
  · intro c member
    refine not_isBlank_head_dropWhile characters c ?_
    rw [middle, List.head?_append, Option.mem_def.mp member]
    rfl
  · intro c member
    rw [List.getLast?_reverse] at member
    exact not_isBlank_head_dropWhile _ c member

theorem Trimmed.eq {text content : List Char} (h : Trimmed text content) :
    content = ((text.dropWhile isBlank).reverse.dropWhile isBlank).reverse := by
  obtain ⟨⟨before, after, rfl, blankBefore, blankAfter⟩, head, last⟩ := h
  cases content with
  | nil =>
    have gone : (before ++ ([] ++ after)).dropWhile isBlank = [] := by
      refine List.dropWhile_eq_nil_iff.mpr fun c member => ?_
      rcases List.mem_append.mp member with member | member
      · exact blankBefore c member
      · exact blankAfter c member
    rw [gone]
    rfl
  | cons c content =>
    have front : (before ++ (c :: content ++ after)).dropWhile isBlank = c :: content ++ after :=
      dropWhile_blanks blankBefore fun other member => head other member
    rw [front, List.reverse_append]
    rw [dropWhile_blanks (fun other member => blankAfter other (List.mem_reverse.mp member))
      fun other member => last other (by rwa [List.head?_reverse] at member)]
    exact (List.reverse_reverse _).symm

/-- What stands between the white space of a text is one text only. -/
theorem trim_eq_iff {text content : String} :
    trim text = content ↔ Trimmed text.toList content.toList := by
  constructor
  · rintro rfl
    exact trimmed_trim text
  · intro h
    refine String.toList_injective ?_
    rw [h.eq, toList_trim]

theorem trim_ofList_eq_iff {text : List Char} {content : String} :
    trim (.ofList text) = content ↔ Trimmed text content.toList := by
  rw [trim_eq_iff, String.toList_ofList]

/-! ### Assignments -/

/-- A text assigns a value to a key: the two stand before and behind its first `=`, perhaps with
white space around them, and the key is not empty. -/
inductive Assigns (text : String) : String × String → Prop
  | mk {left right : List Char} {key value : String} (split : text.toList = left ++ '=' :: right)
      (first : '=' ∉ left) (key_trimmed : Trimmed left key.toList)
      (value_trimmed : Trimmed right value.toList) (named : key ≠ "") : Assigns text (key, value)

/-- A text assigns nothing: it has no `=`, or nothing but white space before it. -/
def AssignsNothing (text : String) : Prop :=
  '=' ∉ text.toList ∨
    ∃ blanks rest, text.toList = blanks ++ '=' :: rest ∧ ∀ c ∈ blanks, isBlank c = true

theorem trimmed_nil_iff {text : List Char} :
    Trimmed text [] ↔ ∀ c ∈ text, isBlank c = true := by
  constructor
  · rintro ⟨⟨before, after, rfl, blankBefore, blankAfter⟩, -, -⟩ c member
    rcases List.mem_append.mp member with member | member
    · exact blankBefore c member
    · exact blankAfter c member
  · intro blank
    exact ⟨⟨text, [], (List.append_nil text).symm, blank, by simp⟩, by simp, by simp⟩

variable {text : String} {left right : List Char}

theorem parseAssignment_of_absent (absent : '=' ∉ text.toList) :
    parseAssignment text = .error ⟨text⟩ := by
  have none : text.toList.dropWhile (· ≠ '=') = [] :=
    List.dropWhile_eq_nil_iff.mpr (differs_of_not_mem absent)
  rw [parseAssignment, none]

theorem parseAssignment_of_split (split : text.toList = left ++ '=' :: right) (first : '=' ∉ left) :
    parseAssignment text =
      if (trim (.ofList left)).isEmpty then .error ⟨text⟩
      else .ok (trim (.ofList left), trim (.ofList right)) := by
  obtain ⟨key, value⟩ := parts_of_split split first
  rw [parseAssignment, key, value]

theorem trim_isEmpty_iff : (trim (.ofList left)).isEmpty = true ↔ ∀ c ∈ left, isBlank c = true := by
  rw [String.isEmpty_iff, trim_ofList_eq_iff]
  exact trimmed_nil_iff

/-- **What an assignment is read as** is what it assigns. -/
theorem parseAssignment_eq_ok_iff {pair : String × String} :
    parseAssignment text = .ok pair ↔ Assigns text pair := by
  constructor
  · intro read
    by_cases present : '=' ∈ text.toList
    · obtain ⟨left, right, split, first⟩ := List.eq_append_cons_of_mem present
      rw [parseAssignment_of_split split first] at read
      split at read
      · cases read
      · next named =>
        obtain rfl := Except.ok.inj read
        exact .mk split first (trim_ofList_eq_iff.mp rfl) (trim_ofList_eq_iff.mp rfl)
          fun empty => named (String.isEmpty_iff.mpr empty)
    · rw [parseAssignment_of_absent present] at read
      cases read
  · rintro ⟨split, first, key, value, named⟩
    rw [parseAssignment_of_split split first, trim_ofList_eq_iff.mpr key,
      trim_ofList_eq_iff.mpr value, if_neg fun empty => named (String.isEmpty_iff.mp empty)]

/-- **Why an assignment is refused** is that it assigns nothing; the error tells its text. -/
theorem parseAssignment_eq_error_iff {error : AssignmentError} :
    parseAssignment text = .error error ↔ AssignsNothing text ∧ error = ⟨text⟩ := by
  by_cases present : '=' ∈ text.toList
  · obtain ⟨left, right, split, first⟩ := List.eq_append_cons_of_mem present
    have nothing : AssignsNothing text ↔ ∀ c ∈ left, isBlank c = true := by
      constructor
      · rintro (absent | ⟨blanks, rest, split', blank⟩)
        · exact absurd present absent
        · have free : '=' ∉ blanks := fun member => absurd (blank '=' member) (by decide)
          rw [← (parts_of_split split first).1, (parts_of_split split' free).1]
          exact blank
      · exact fun blank => .inr ⟨left, right, split, blank⟩
    rw [parseAssignment_of_split split first, nothing, ← trim_isEmpty_iff]
    split
    · next empty =>
      exact ⟨fun h => ⟨empty, (Except.error.inj h).symm⟩, fun h => congrArg _ h.2.symm⟩
    · next named =>
      exact ⟨fun h => (by cases h), fun h => absurd h.1 named⟩
  · rw [parseAssignment_of_absent present]
    constructor
    · intro h
      exact ⟨.inl present, (Except.error.inj h).symm⟩
    · rintro ⟨-, rfl⟩
      rfl

theorem exists_assigns_iff : (∃ pair, Assigns text pair) ↔ ¬ AssignsNothing text := by
  constructor
  · rintro ⟨pair, assigns⟩ nothing
    have read := parseAssignment_eq_ok_iff.mpr assigns
    rw [parseAssignment_eq_error_iff.mpr ⟨nothing, rfl⟩] at read
    cases read
  · intro something
    cases read : parseAssignment text with
    | ok pair => exact ⟨pair, parseAssignment_eq_ok_iff.mp read⟩
    | error error => exact absurd (parseAssignment_eq_error_iff.mp read).1 something

end DumpDigest
