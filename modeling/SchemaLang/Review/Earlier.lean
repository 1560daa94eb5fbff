/-!
# Earlier holders of a key

Each element of a list beside the first one before it that has the same key. Reports of repetitions
are read off this list: an element repeats a key exactly if there is one beside it.
-/

namespace SchemaLang

variable {α κ : Type} [BEq κ]

/-- `withEarlier` for the rest of a list whose front part is `before`. -/
def withEarlierAfter (key : α → κ) (before : List α) : List α → List (α × Option α)
  | [] => []
  | x :: rest =>
    (x, before.find? fun y => key y == key x) :: withEarlierAfter key (before ++ [x]) rest

/-- The elements of a list, each beside the first element before it with the same key. -/
def withEarlier (key : α → κ) (l : List α) : List (α × Option α) :=
  withEarlierAfter key [] l

/-- The elements that repeat a key, each beside the first holder of the key. -/
def repeats (key : α → κ) (l : List α) : List (α × α) :=
  (withEarlier key l).filterMap fun (x, first?) => first?.map (x, ·)

theorem map_fst_withEarlierAfter (key : α → κ) (before l : List α) :
    (withEarlierAfter key before l).map (·.1) = l := by
  induction l generalizing before with
  | nil => rfl
  | cons x rest ih => simp [withEarlierAfter, ih]

/-- Nothing is dropped or moved. -/
@[simp] theorem map_fst_withEarlier (key : α → κ) (l : List α) :
    (withEarlier key l).map (·.1) = l :=
  map_fst_withEarlierAfter key [] l

end SchemaLang
