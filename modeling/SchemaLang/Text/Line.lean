/-!
# Lines

A text falls into lines at its line feeds. A carriage return in front of a line feed belongs to
the line end; any other is part of its line. A final line feed opens no further line.
-/

namespace SchemaLang.Text

/-- The lines of a text, without their ends. -/
def lines : List Char → List (List Char)
  | [] => []
  | '\n' :: rest => [] :: lines rest
  | '\r' :: '\n' :: rest => [] :: lines rest
  | c :: rest =>
    match lines rest with
    | [] => [[c]]
    | line :: others => (c :: line) :: others

@[simp] theorem lines_nil : lines [] = [] := by
  rw [lines]

/-- No line holds a line feed. -/
theorem newline_not_mem_of_mem_lines {s line : List Char} (h : line ∈ lines s) :
    '\n' ∉ line := by
  fun_induction lines s generalizing line with
  | case1 => simp at h
  | case2 rest ih | case3 rest ih =>
    rcases List.mem_cons.mp h with rfl | h
    · simp
    · exact ih h
  | case4 c rest hc _ hrest =>
    simp only [List.mem_singleton] at h
    simpa [h] using fun e => hc e.symm
  | case5 c rest hc _ first others hrest ih =>
    rcases List.mem_cons.mp h with rfl | h
    · have := ih (by rw [hrest]; exact List.mem_cons_self)
      simpa [this] using fun e => hc e.symm
    · exact ih (by rw [hrest]; exact List.mem_cons_of_mem _ h)

end SchemaLang.Text
