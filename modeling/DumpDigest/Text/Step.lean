/-! # Steps of a reader

A reader takes a piece from the front of a text. What remains is a proper suffix of the text, and
the result carries the proof of it: whoever repeats a reader on what remains comes to an end.
-/

namespace DumpDigest.Text

/-- A piece read from the front of a text, and what remains. -/
structure Step (α : Type) (text : List Char) where
  value : α
  rest : List Char
  suffix : rest <:+ text
  shorter : rest.length < text.length

namespace Step

variable {α β : Type} {text inner : List Char}

/-- The step over one character. -/
def one (value : α) (c : Char) (rest : List Char) : Step α (c :: rest) :=
  ⟨value, rest, List.suffix_cons c rest, Nat.lt_succ_self _⟩

/-- The step past a character and some more. -/
def past (value : α) (c : Char) (front rest : List Char) : Step α (c :: (front ++ rest)) :=
  ⟨value, rest, (List.suffix_append front rest).trans (List.suffix_cons c _),
    Nat.lt_succ_of_le (List.suffix_append front rest).length_le⟩

/-- The step with its value changed. -/
def map (f : α → β) (step : Step α text) : Step β text :=
  { step with value := f step.value }

/-- A step in a suffix of a text as a step in the text. -/
def widen (step : Step α inner) (suffix : inner <:+ text) : Step α text :=
  ⟨step.value, step.rest, step.suffix.trans suffix,
    Nat.lt_of_lt_of_le step.shorter suffix.length_le⟩

/-- A step behind a character as a step in front of it. -/
def behind (c : Char) (step : Step α inner) : Step α (c :: inner) :=
  step.widen (List.suffix_cons c inner)

/-- The step that leaves less of what a step left. -/
def skip (step : Step α text) (rest : List Char) (suffix : rest <:+ step.rest) : Step α text :=
  ⟨step.value, rest, suffix.trans step.suffix, Nat.lt_of_le_of_lt suffix.length_le step.shorter⟩

end Step

end DumpDigest.Text
