/-
  KappController.Kctrl.MessageBlock — `indentMessageBlock`: how a stage's output
  is shown under its log line.

  The output is split at newlines; each line is wrapped in the red marker when
  it is an error block, indented by `"\t  | "`, and the lines are joined again.
  A final newline is added when the joined text does not already end in one,
  which it never does: every indented line ends in its text, the indent or the
  marker, none of them a newline.  So every line of the output ends in EXACTLY
  one newline, and the output can be read back line by line.

  Main results:
    * `indentMessageBlock_eq` — the block is the indented lines, each with one
      newline.
    * `indentMessageBlock_round_trip` — reading the block back gives the output.
-/
import KappController.Go.Text

namespace KappController.Kctrl

open KappController.Go

/-! ## §1. The code. -/

/-- `indentMessageBlock`; `noColor` is the `color` package's `NoColor`. -/
def indentMessageBlock (noColor : Bool) (messageBlock : String) (errored : Bool) : String :=
  let lines := (split messageBlock '\n').map fun line =>
    "\t  | " ++ (if errored then redString noColor line else line)
  let indentedBlock := join lines "\n"
  if lastIndex indentedBlock.data '\n' ≠ (indentedBlock.length : Int) - 1 then indentedBlock ++ "\n"
  else indentedBlock

/-- Reading one printed line back: strip the indent, and the red marker when
    the line carries one. -/
def unindentLine (noColor errored : Bool) (line : String) : String :=
  let line := line.data.drop 5
  if errored && !noColor then ⟨(line.drop 5).take ((line.drop 5).length - 4)⟩ else ⟨line⟩

/-- Reading a printed block back: drop the final newline, split at newlines,
    read each line back, join with newlines. -/
def unindentMessageBlock (noColor errored : Bool) (printed : String) : String :=
  join ((split ⟨printed.data.dropLast⟩ '\n').map (unindentLine noColor errored)) "\n"

/-! ## §2. Every line ends in exactly one newline. -/

/-- One indented line, before its newline. -/
def indentLine (noColor errored : Bool) (line : String) : String :=
  "\t  | " ++ (if errored then redString noColor line else line)

theorem indentLine_data (noColor errored : Bool) (line : String) :
    (indentLine noColor errored line).data =
      ['\t', ' ', ' ', '|', ' '] ++
        (if errored && !noColor then ['\x1b', '[', '3', '1', 'm'] ++ line.data ++ ['\x1b', '[', '0', 'm']
         else line.data) := by
  cases errored <;> cases noColor <;> simp [indentLine, redString]

/-- A line with no newline stays without one when indented. -/
theorem newline_not_mem_indentLine {noColor errored : Bool} {line : String}
    (h : '\n' ∉ line.data) : '\n' ∉ (indentLine noColor errored line).data := by
  rw [indentLine_data]
  split <;> simp [h]

theorem indentLine_ne_nil (noColor errored : Bool) (line : String) :
    (indentLine noColor errored line).data ≠ [] := by
  simp [indentLine_data]

/-- Joining with a one-character separator, piece by piece. -/
theorem intercalate_cons_cons (c : Char) (x y : List Char) (rest : List (List Char)) :
    [c].intercalate (x :: y :: rest) = x ++ c :: [c].intercalate (y :: rest) := by
  simp [List.intercalate]

/-- The last character of a join is the last piece's. -/
theorem getLast?_intercalate {c : Char} : ∀ {L : List (List Char)} (hL : L ≠ []),
    L.getLast hL ≠ [] → ([c].intercalate L).getLast? = (L.getLast hL).getLast?
  | [x], _, _ => by simp [List.intercalate]
  | x :: y :: rest, _, hl => by
    have ih := getLast?_intercalate (c := c) (L := y :: rest) (List.cons_ne_nil _ _) hl
    have hI : [c].intercalate (y :: rest) ≠ [] := fun h =>
      hl (List.getLast?_eq_none_iff.mp (ih.symm.trans (by rw [h]; rfl)))
    rw [intercalate_cons_cons, ← List.singleton_append, ← List.append_assoc,
      List.getLast?_append_of_ne_nil _ hI, ih]
    rfl

/-- Pieces each followed by the separator are the join followed by it. -/
theorem flatten_map_append_singleton {α : Type} (f : α → List Char) (c : Char) :
    ∀ {L : List α}, L ≠ [] → (L.map fun l => f l ++ [c]).flatten = [c].intercalate (L.map f) ++ [c]
  | [x], _ => by simp [List.intercalate]
  | x :: y :: rest, _ => by
    have ih := flatten_map_append_singleton f c (L := y :: rest) (List.cons_ne_nil _ _)
    simp only [List.map_cons, List.flatten_cons] at ih ⊢
    rw [ih, intercalate_cons_cons]
    simp

/-- The indented lines, joined with newlines. -/
theorem join_indentLine_data (noColor errored : Bool) (lines : List String) :
    (join (lines.map (indentLine noColor errored)) "\n").data =
      ['\n'].intercalate (lines.map fun line => (indentLine noColor errored line).data) := by
  simp only [join, List.map_map]
  rfl

/-- The joined lines end in the last line's last character, never in a newline
    (Go compares byte offsets; a newline is one byte in UTF-8, so character
    offsets decide the same). -/
theorem lastIndex_join_indentLine (noColor errored : Bool) (messageBlock : String) :
    lastIndex (join ((split messageBlock '\n').map (indentLine noColor errored)) "\n").data '\n' ≠
      ((join ((split messageBlock '\n').map (indentLine noColor errored)) "\n").length : Int) - 1 := by
  have hL := split_ne_nil messageBlock '\n'
  have hL' : (split messageBlock '\n').map (fun line => (indentLine noColor errored line).data) ≠ [] := by
    simpa using hL
  have hlast := getLast?_intercalate (c := '\n') hL' (by rw [List.getLast_map]; exact indentLine_ne_nil _ _ _)
  rw [List.getLast_map] at hlast
  have hnl : '\n' ∉ (indentLine noColor errored ((split messageBlock '\n').getLast hL)).data :=
    newline_not_mem_indentLine (not_mem_of_mem_split (List.getLast_mem hL))
  rw [String.length, join_indentLine_data, Ne, lastIndex_eq_length_sub_one_iff]
  rintro (h | h)
  · rw [h] at hlast
    exact indentLine_ne_nil _ _ _ (List.getLast?_eq_none_iff.mp hlast.symm)
  · exact hnl (List.mem_of_getLast?_eq_some (hlast ▸ h))

/-- Dropping the newline a block ends in. -/
theorem mk_dropLast_append_newline (s : String) : String.mk (s ++ "\n").data.dropLast = s := by
  show String.mk (s.data ++ ['\n']).dropLast = s
  rw [List.dropLast_concat]

/-- The block is its lines, indented, each followed by exactly one newline. -/
theorem indentMessageBlock_eq (noColor errored : Bool) (messageBlock : String) :
    indentMessageBlock noColor messageBlock errored =
      join ((split messageBlock '\n').map (indentLine noColor errored)) "\n" ++ "\n" :=
  if_pos (lastIndex_join_indentLine noColor errored messageBlock)

/-! ## §3. Reading the block back. -/

/-- Reading an indented line back gives the line. -/
theorem unindentLine_indentLine (noColor errored : Bool) (line : String) :
    unindentLine noColor errored (indentLine noColor errored line) = line := by
  cases errored <;> cases noColor <;> simp [unindentLine, indentLine_data]

/-- Every line of the block is read back, so the block reads back as its output. -/
theorem unindentMessageBlock_indentMessageBlock (noColor errored : Bool) (messageBlock : String) :
    unindentMessageBlock noColor errored (indentMessageBlock noColor messageBlock errored) =
      messageBlock := by
  have hL := split_ne_nil messageBlock '\n'
  have hsplit : split (join ((split messageBlock '\n').map (indentLine noColor errored)) "\n") '\n' =
      (split messageBlock '\n').map (indentLine noColor errored) :=
    split_join (by simpa using hL) (by
      simp only [List.mem_map]
      rintro _ ⟨line, hline, rfl⟩
      exact newline_not_mem_indentLine (not_mem_of_mem_split hline))
  have hid : unindentLine noColor errored ∘ indentLine noColor errored = id :=
    funext (unindentLine_indentLine noColor errored)
  simp only [indentMessageBlock_eq, unindentMessageBlock, mk_dropLast_append_newline, hsplit,
    List.map_map, hid, List.map_id]
  exact join_split messageBlock '\n'

/-- The block is its lines, each indented and followed by one newline, and it
    reads back as the output. -/
theorem indentMessageBlock_round_trip (noColor errored : Bool) (messageBlock : String) :
    (indentMessageBlock noColor messageBlock errored).data =
        ((split messageBlock '\n').map fun line => (indentLine noColor errored line).data ++ ['\n']).flatten ∧
      unindentMessageBlock noColor errored (indentMessageBlock noColor messageBlock errored) =
        messageBlock := by
  refine ⟨?_, unindentMessageBlock_indentMessageBlock noColor errored messageBlock⟩
  rw [indentMessageBlock_eq, flatten_map_append_singleton _ _ (split_ne_nil messageBlock '\n'),
    ← join_indentLine_data]
  rfl

/-- Empty lines and a trailing newline each keep a line of their own. -/
example : indentMessageBlock true "a\n\nb\n" false = "\t  | a\n\t  | \n\t  | b\n\t  | \n" := by decide

end KappController.Kctrl
