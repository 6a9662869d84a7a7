/-
  KappController.Go.Text — the `strings` and `color` calls the tailer makes.

  `indentMessageBlock` splits a stage's output at newlines, colours and indents
  each line, joins the lines again and appends a newline unless the text already
  ends in one (a `strings.LastIndex` test).  Strings are character lists here;
  `LastIndex` and `len` count characters instead of Go's bytes, which changes
  neither the test "the last newline is the last character" nor anything else
  the model reads.

  Main results:
    * `join_split` / `split_join` — `strings.Join` and `strings.Split` invert
      each other on a one-character separator (Mathlib's `splitOn` lemmas).
    * `lastIndex_eq_length_sub_one_iff` — the `LastIndex` test is "ends in `c`".
-/
import Mathlib.Data.List.Basic

namespace KappController.Go

/-! ## §1. `strings.Split` and `strings.Join`. -/

/-- `strings.Split(s, sep)` for a one-character separator. -/
def split (s : String) (sep : Char) : List String :=
  (s.data.splitOn sep).map String.mk

/-- `strings.Join(elems, sep)`. -/
def join (elems : List String) (sep : String) : String :=
  ⟨sep.data.intercalate (elems.map String.data)⟩

/-- No piece of a split holds the separator. -/
theorem not_mem_of_mem_splitOn {sep : Char} :
    ∀ {s l : List Char}, l ∈ s.splitOn sep → sep ∉ l
  | [], l, h => by simp_all
  | c :: s, l, h => by
    simp only [List.splitOn, List.splitOnP_cons, beq_iff_eq] at h
    split_ifs at h with hc
    · rcases List.mem_cons.mp h with rfl | h
      · simp
      · exact not_mem_of_mem_splitOn h
    · obtain ⟨hd, tl, ht⟩ := List.exists_cons_of_ne_nil (List.splitOnP_ne_nil (· == sep) s)
      have ih : ∀ l ∈ s.splitOn sep, sep ∉ l := fun _ hl => not_mem_of_mem_splitOn hl
      simp only [List.splitOn] at ih
      rw [ht, List.modifyHead_cons, List.mem_cons] at h
      rcases h with rfl | h
      · simpa [Ne.symm hc] using ih hd (ht ▸ List.mem_cons_self hd tl)
      · exact ih l (ht ▸ List.mem_cons_of_mem hd h)

theorem split_ne_nil (s : String) (sep : Char) : split s sep ≠ [] := by
  simpa [split, List.splitOn] using List.splitOnP_ne_nil _ s.data

theorem not_mem_of_mem_split {s l : String} {sep : Char} (h : l ∈ split s sep) :
    sep ∉ l.data := by
  obtain ⟨l', hl', rfl⟩ := List.mem_map.mp h
  exact not_mem_of_mem_splitOn hl'

/-- Joining the pieces of a split gives the text back. -/
theorem join_split (s : String) (sep : Char) : join (split s sep) ⟨[sep]⟩ = s := by
  simp only [join, split, List.map_map]
  exact congrArg String.mk ((congrArg _ (List.map_id _)).trans (List.intercalate_splitOn s.data sep))

/-- Splitting a join gives the pieces back, when none holds the separator. -/
theorem split_join {ls : List String} {sep : Char} (hls : ls ≠ [])
    (h : ∀ l ∈ ls, sep ∉ l.data) : split (join ls ⟨[sep]⟩) sep = ls := by
  simp only [split, join]
  rw [List.splitOn_intercalate _ sep (by simpa using h) (by simpa using hls), List.map_map]
  exact List.map_id _

/-! ## §2. `strings.LastIndex`. -/

/-- `strings.LastIndex(s, string(c))`: the scan from the end, `-1` when `c` is absent. -/
def lastIndex (s : List Char) (c : Char) : Int := go s.length
where
  /-- The scan below position `i`. -/
  go : Nat → Int
    | 0 => -1
    | i + 1 => if s.get? i = some c then i else go i

theorem lastIndex.go_lt (s : List Char) (c : Char) : ∀ i, lastIndex.go s c i < i
  | 0 => by simp [go]
  | i + 1 => by
    simp only [go]
    split
    · omega
    · have := go_lt s c i; omega

/-- `LastIndex(s, c) = len(s) - 1` says exactly that `s` is empty or ends in `c`. -/
theorem lastIndex_eq_length_sub_one_iff (s : List Char) (c : Char) :
    lastIndex s c = s.length - 1 ↔ s = [] ∨ s.getLast? = some c := by
  rcases List.eq_nil_or_concat s with rfl | ⟨L, b, rfl⟩
  · simp [lastIndex, lastIndex.go]
  · rw [List.concat_eq_append]
    have hlt := lastIndex.go_lt (L ++ [b]) c L.length
    simp only [lastIndex, List.length_append, List.length_singleton, lastIndex.go,
      List.get?_eq_getElem?, List.getElem?_concat_length, Option.some.injEq,
      List.getLast?_concat, List.append_eq_nil, and_false, false_or]
    by_cases hb : b = c
    · simp [hb]
    · simp [hb]; omega

/-! ## §3. `color`. -/

/-- `color.RedString(s)` with no operands: `s` (through `Sprint`, so verbatim)
    inside the red SGR marker, or bare when `color.NoColor` is set. -/
def redString (noColor : Bool) (s : String) : String :=
  if noColor then s else "\x1b[31m" ++ s ++ "\x1b[0m"

/-- `color.GreenString(s)`, likewise with the green marker. -/
def greenString (noColor : Bool) (s : String) : String :=
  if noColor then s else "\x1b[32m" ++ s ++ "\x1b[0m"

end KappController.Go
