/-
  KappController.Go.Fmt — Go's `fmt` on a format string with NO operands.

  The tailer builds its errors as `fmt.Errorf(status.Fetch.Stderr)`: the stage's
  output is the FORMAT, not an operand.  `doPrintf` reads every `%` of it as the
  start of a verb (flags, an argument index `[n]`, a width, a precision, the
  verb), and with no operands each verb prints a diagnostic instead of a value:
  `%!d(MISSING)`, `%!d(BADINDEX)`, `%!(BADWIDTH)`, `%!(BADPREC)`, `%!(NOVERB)`.
  Only `%%` prints as one `%`.

  The verb scan follows `doPrintf` of Go's `fmt/print.go` step by step
  (`VerbScan`), over characters: for valid UTF-8 text Go's byte positions
  give the same result, since every character the scan tests is ASCII.

  Main results:
    * `formatLoop_fuel` — the loop bound `doPrintf` runs with is never reached.
    * `doPrintf_of_percent_free` — a format with no `%` prints as itself.
    * `errorf_message_of_percent_free` — so does `fmt.Errorf`'s message.
    * `doPrintf_eq_self_iff`, `errorf_message_eq_iff` — and ONLY such a
      format: every `%` starts a verb, which prints one `%` or a diagnostic
      `%!...`, so a `%` never survives in place.
-/
import Mathlib.Data.List.Infix

namespace KappController.Go

/-! ## §1. The pieces of one verb. -/

/-- The flag characters `doPrintf` skips after a `%`. -/
def isFlag (c : Char) : Bool :=
  c == '#' || c == '0' || c == '+' || c == '-' || c == ' '

/-- Go's `tooLarge`: the bound past which `parsenum` gives up. -/
def tooLarge (x : Nat) : Bool := decide (1000000 < x)

/-- Go's `parsenum` on the text in front: the text after the digits it reads, or
    `none` when the number passes `tooLarge` (Go then jumps to the end of the
    range it was given). -/
def parsenum : List Char → Nat → Option (List Char)
  | [], _ => some []
  | c :: s, num =>
    if c.isDigit then
      if tooLarge num then none else parsenum s (num * 10 + (c.toNat - '0'.toNat))
    else some (c :: s)

/-- Go's `parseArgNumber` on the text from a `[`: how many characters it takes,
    and whether it read an index `[n]`. -/
def parseArgNumber (s : List Char) : Nat × Bool :=
  if s.length < 3 then (1, false) else
  match (s.drop 1).findIdx? (· == ']') with
  | none => (1, false)
  | some j =>
    let ds := (s.drop 1).take j
    (j + 2, !ds.isEmpty && ds.all Char.isDigit && (parsenum ds 0).isSome)

/-- Where `doPrintf` is inside one verb: the format left (`format[i:]`), what it
    has written for the verb, `goodArgNum` and `afterIndex`. -/
structure VerbScan where
  rest : List Char
  out : List Char
  goodArgNum : Bool
  afterIndex : Bool

namespace VerbScan

/-- `argNumber` with no operands: an index is never in range, so a `[` always
    spoils the verb. -/
def argNumber (v : VerbScan) : VerbScan :=
  match v.rest with
  | '[' :: _ =>
    { v with rest := v.rest.drop (parseArgNumber v.rest).1, goodArgNum := false,
             afterIndex := (parseArgNumber v.rest).2 }
  | _ => { v with afterIndex := false }

/-- The width: `*` asks for an operand there is none of; digits are skipped.
    (Go's `afterIndex && widPresent` check only spoils a verb `argNumber` has
    already spoiled.) -/
def width (v : VerbScan) : VerbScan :=
  match v.rest with
  | '*' :: r => { v with rest := r, out := v.out ++ "%!(BADWIDTH)".toList, afterIndex := false }
  | _ => { v with rest := (parsenum v.rest 0).getD [] }

/-- The precision, when a `.` is followed by more format. -/
def precision (v : VerbScan) : VerbScan :=
  match v.rest with
  | '.' :: c :: r =>
    let v := argNumber { v with rest := c :: r }
    match v.rest with
    | '*' :: r => { v with rest := r, out := v.out ++ "%!(BADPREC)".toList, afterIndex := false }
    | _ => { v with rest := (parsenum v.rest 0).getD [] }
  | _ => v

end VerbScan

/-- One verb, from just after its `%`: what it prints, and the format after it,
    `none` once Go stops at `%!(NOVERB)`. -/
def printVerb (s : List Char) : List Char × Option (List Char) :=
  let v := (VerbScan.mk (s.dropWhile isFlag) [] true false).argNumber.width.precision
  let v := if v.afterIndex then v else v.argNumber
  match v.rest with
  | [] => (v.out ++ "%!(NOVERB)".toList, none)
  | verb :: r =>
    if verb == '%' then (v.out ++ ['%'], some r)
    else if v.goodArgNum then (v.out ++ "%!".toList ++ verb :: "(MISSING)".toList, some r)
    else (v.out ++ "%!".toList ++ verb :: "(BADINDEX)".toList, some r)

/-! ## §2. Every step reads the format forward. -/

theorem parsenum_suffix : ∀ (s : List Char) (n : Nat), (parsenum s n).getD [] <:+ s
  | [], _ => List.suffix_refl _
  | c :: s, n => by
    unfold parsenum
    split
    · split
      · exact List.nil_suffix
      · exact (parsenum_suffix s _).trans (List.suffix_cons c s)
    · exact List.suffix_refl _

theorem VerbScan.argNumber_suffix (v : VerbScan) : v.argNumber.rest <:+ v.rest := by
  unfold argNumber
  split
  · exact List.drop_suffix _ _
  · exact List.suffix_refl _

theorem VerbScan.width_suffix (v : VerbScan) : v.width.rest <:+ v.rest := by
  unfold width
  split
  · rename_i r hr
    exact hr ▸ List.suffix_cons _ _
  · exact parsenum_suffix _ _

theorem VerbScan.precision_suffix (v : VerbScan) : v.precision.rest <:+ v.rest := by
  unfold precision
  split
  · rename_i c r hr
    have h := argNumber_suffix { v with rest := c :: r }
    generalize argNumber { v with rest := c :: r } = w at h ⊢
    dsimp only at h ⊢
    refine (?_ : _ <:+ w.rest).trans (h.trans (hr ▸ List.suffix_cons _ _))
    split
    · rename_i r' hr'
      exact hr' ▸ List.suffix_cons _ _
    · exact parsenum_suffix _ _
  · exact List.suffix_refl _

/-- The format after a verb is a suffix of the format after its `%`, past at
    least the verb's last character. -/
theorem printVerb_cons_suffix {s r : List Char} (h : (printVerb s).2 = some r) : ∃ c, c :: r <:+ s := by
  let v := (VerbScan.mk (s.dropWhile isFlag) [] true false).argNumber.width.precision
  have hv : v.rest <:+ s :=
    ((VerbScan.precision_suffix _).trans <| (VerbScan.width_suffix _).trans <|
      VerbScan.argNumber_suffix _).trans (List.dropWhile_suffix _)
  have hw : (if v.afterIndex then v else v.argNumber).rest <:+ s := by
    split
    · exact hv
    · exact (VerbScan.argNumber_suffix v).trans hv
  revert h hw
  simp only [printVerb]
  generalize (if v.afterIndex then v else v.argNumber) = w
  intro h hw
  split at h
  · cases h
  · rename_i verb r' hr
    rw [hr] at hw
    have hr' : r' = r := by split_ifs at h <;> simp_all
    exact ⟨verb, hr' ▸ hw⟩

theorem printVerb_suffix {s r : List Char} (h : (printVerb s).2 = some r) : r <:+ s :=
  let ⟨_, hc⟩ := printVerb_cons_suffix h
  (List.suffix_cons _ _).trans hc

theorem printVerb_eq_some {s r : List Char} (h : (printVerb s).2 = some r) :
    ∃ q ≠ [], s = q ++ r := by
  obtain ⟨c, q, hq⟩ := printVerb_cons_suffix h
  exact ⟨q ++ [c], by simp, by rw [← hq, List.append_assoc, List.singleton_append]⟩

/-! ## §3. The format loop. -/

/-- `doPrintf`'s `formatLoop`, for at most `n` more verbs or characters. -/
def formatLoop : Nat → List Char → List Char
  | 0, _ => []
  | _ + 1, [] => []
  | n + 1, '%' :: s =>
    match (printVerb s).2 with
    | none => (printVerb s).1
    | some r => (printVerb s).1 ++ formatLoop n r
  | n + 1, c :: s => c :: formatLoop n s

/-- Go's `doPrintf` with no operands: the text `fmt.Sprintf(format)` prints.
    Each round of the loop takes at least one character, so the format's length
    bounds it (`formatLoop_fuel`). -/
def doPrintf (format : List Char) : List Char := formatLoop format.length format

/-- Any bound at least the format's length gives the same text: the loop ends
    by running out of format, never out of rounds. -/
theorem formatLoop_fuel : ∀ (n : Nat) (s : List Char), s.length ≤ n →
    formatLoop n s = formatLoop s.length s
  | 0, s, h => by rw [List.length_eq_zero.mp (Nat.le_zero.mp h)]; rfl
  | _ + 1, [], _ => by simp [formatLoop]
  | n + 1, c :: s, h => by
    have hs : s.length ≤ n := by simpa using h
    by_cases hc : c = '%'
    · subst hc
      simp only [formatLoop, List.length_cons]
      split
      · rfl
      · rename_i r hr
        have hr' := (printVerb_suffix hr).length_le
        rw [formatLoop_fuel n r (by omega), formatLoop_fuel s.length r hr']
    · simp only [formatLoop, List.length_cons]
      rw [formatLoop_fuel n s hs]

/-- A format with no `%` prints as itself. -/
theorem doPrintf_of_percent_free : ∀ (s : List Char), '%' ∉ s → doPrintf s = s
  | [], _ => rfl
  | c :: s, h => by
    have hc : c ≠ '%' := fun hc => h (hc ▸ List.mem_cons_self c s)
    have ih := doPrintf_of_percent_free s (fun hs => h (List.mem_cons_of_mem c hs))
    simp only [doPrintf, List.length_cons] at ih ⊢
    simp only [formatLoop, ih]

example : doPrintf "%d".toList = "%!d(MISSING)".toList := by decide
example : doPrintf "100%".toList = "100%!(NOVERB)".toList := by decide
example : doPrintf "50%% done".toList = "50% done".toList := by decide

/-- A character other than `%` prints as itself... -/
theorem doPrintf_cons_of_ne {c : Char} (u : List Char) (hc : c ≠ '%') :
    doPrintf (c :: u) = c :: doPrintf u := by
  simp only [doPrintf, List.length_cons, formatLoop, hc]

/-- ... and a `%` prints its verb, then the rest of the format after it. -/
theorem doPrintf_percent_cons (t : List Char) :
    doPrintf ('%' :: t) = (printVerb t).1 ++ match (printVerb t).2 with
      | none => []
      | some r => doPrintf r := by
  simp only [doPrintf, List.length_cons, formatLoop]
  cases hn : (printVerb t).2 with
  | none => simp
  | some r =>
    dsimp only
    rw [formatLoop_fuel _ r (printVerb_suffix hn).length_le]

/-! ## §4. A format with a `%` never prints as itself. -/

/-- Every `%` of the text is followed by `!` or ends it, as in Go's diagnostics
    `%!d(MISSING)` and in the `%` that `%%` prints. -/
def bangAfterPercent : List Char → Bool
  | '%' :: c :: l => c == '!' && bangAfterPercent (c :: l)
  | _ :: l => bangAfterPercent l
  | [] => true

theorem bangAfterPercent_cons_of_ne {c : Char} (l : List Char) (hc : c ≠ '%') :
    bangAfterPercent (c :: l) = bangAfterPercent l := by
  conv_lhs => unfold bangAfterPercent
  split <;> simp_all

theorem bangAfterPercent_percent_cons (c : Char) (l : List Char) :
    bangAfterPercent ('%' :: c :: l) = (c == '!' && bangAfterPercent (c :: l)) := rfl

theorem bangAfterPercent_tail {c : Char} {l : List Char} (h : bangAfterPercent (c :: l) = true) :
    bangAfterPercent l = true := by
  by_cases hc : c = '%'
  · subst hc
    cases l with
    | nil => rfl
    | cons d l => exact (Bool.and_eq_true _ _ ▸ h).2
  · rwa [bangAfterPercent_cons_of_ne _ hc] at h

theorem bangAfterPercent_split : ∀ {w c : List Char}, bangAfterPercent (w ++ '%' :: c) = true →
    c = [] ∨ ∃ c', c = '!' :: c'
  | [], [], _ => .inl rfl
  | [], d :: c, h => .inr ⟨c, by
      rw [List.nil_append, bangAfterPercent_percent_cons, Bool.and_eq_true, beq_iff_eq] at h
      rw [h.1]⟩
  | _ :: _, _, h => bangAfterPercent_split (bangAfterPercent_tail h)

theorem bangAfterPercent_append : ∀ {l₁ l₂ : List Char}, bangAfterPercent l₁ = true →
    bangAfterPercent l₂ = true → l₁.getLast? ≠ some '%' → bangAfterPercent (l₁ ++ l₂) = true
  | [], _, _, h₂, _ => h₂
  | [x], _, _, h₂, h => by
    rw [List.singleton_append, bangAfterPercent_cons_of_ne _ (by simpa using h)]
    exact h₂
  | x :: y :: l, _, h₁, h₂, h => by
    rw [List.getLast?_cons_cons] at h
    by_cases hx : x = '%'
    · subst hx
      rw [bangAfterPercent_percent_cons, Bool.and_eq_true] at h₁
      rw [List.cons_append, List.cons_append, bangAfterPercent_percent_cons, Bool.and_eq_true]
      exact ⟨h₁.1, bangAfterPercent_append h₁.2 h₂ h⟩
    · rw [bangAfterPercent_cons_of_ne _ hx] at h₁
      rw [List.cons_append, bangAfterPercent_cons_of_ne _ hx]
      exact bangAfterPercent_append h₁ h₂ h

/-- Diagnostics printed so far by one verb: none, or texts that start with `%`,
    end with `)`, and follow every `%` with `!`. -/
def DiagnosticText (o : List Char) : Prop :=
  bangAfterPercent o = true ∧ o.getLast? ≠ some '%' ∧ (o = [] ∨ o.head? = some '%')

instance : DecidablePred DiagnosticText := fun _ => by unfold DiagnosticText; infer_instance

theorem DiagnosticText.append {o d : List Char} (ho : DiagnosticText o) (hd : DiagnosticText d)
    (hne : d ≠ []) : DiagnosticText (o ++ d) := by
  refine ⟨bangAfterPercent_append ho.1 hd.1 ho.2.1, ?_, .inr ?_⟩
  · cases hl : d.getLast? with
    | none => exact absurd (List.getLast?_eq_none_iff.mp hl) hne
    | some x => simpa [hl] using hd.2.1
  · rcases ho.2.2 with rfl | h
    · exact hd.2.2.resolve_left hne
    · simp [h]

theorem VerbScan.argNumber_out (v : VerbScan) : v.argNumber.out = v.out := by
  unfold VerbScan.argNumber
  split <;> rfl

theorem VerbScan.width_diagnostic {v : VerbScan} (h : DiagnosticText v.out) :
    DiagnosticText v.width.out := by
  unfold VerbScan.width
  split
  · exact h.append (by decide) (by decide)
  · exact h

theorem VerbScan.precision_diagnostic {v : VerbScan} (h : DiagnosticText v.out) :
    DiagnosticText v.precision.out := by
  unfold VerbScan.precision
  split
  · rename_i c r _
    dsimp only
    have h' : DiagnosticText (VerbScan.argNumber { v with rest := c :: r }).out := by
      rw [VerbScan.argNumber_out]
      exact h
    generalize VerbScan.argNumber _ = w at h' ⊢
    split
    · exact h'.append (by decide) (by decide)
    · exact h'
  · exact h

/-- A `!` after the `%` is read as the verb `!`. -/
theorem printVerb_bang (t : List Char) : printVerb ('!' :: t) = ("%!!(MISSING)".toList, some t) := rfl

theorem DiagnosticText.verbText {o d : List Char} (ho : DiagnosticText o) (hd : d.head? = some '%')
    (hb : bangAfterPercent d = true) :
    (o ++ d).head? = some '%' ∧ bangAfterPercent (o ++ d) = true := by
  refine ⟨?_, bangAfterPercent_append ho.1 hb ho.2.1⟩
  rcases ho.2.2 with rfl | h
  · exact hd
  · simp [h]

theorem bangAfterPercent_diagnostic {verb : Char} (hv : verb ≠ '%') (s : List Char) :
    bangAfterPercent ("%!".toList ++ verb :: s) = bangAfterPercent s := by
  show bangAfterPercent ('%' :: '!' :: verb :: s) = _
  rw [bangAfterPercent_percent_cons, bangAfterPercent_cons_of_ne _ (by decide),
    bangAfterPercent_cons_of_ne _ hv]
  rfl

/-- What one verb prints starts with `%`, and each `%` in it is followed by
    `!` or ends it. -/
theorem printVerb_out (t : List Char) :
    (printVerb t).1.head? = some '%' ∧ bangAfterPercent (printVerb t).1 = true := by
  let v := (VerbScan.mk (t.dropWhile isFlag) [] true false).argNumber.width.precision
  have hv : DiagnosticText v.out := VerbScan.precision_diagnostic <| VerbScan.width_diagnostic <| by
    rw [VerbScan.argNumber_out]
    show DiagnosticText []
    decide
  have hw : DiagnosticText (if v.afterIndex then v else v.argNumber).out := by
    split
    · exact hv
    · rwa [VerbScan.argNumber_out]
  simp only [printVerb]
  generalize (if v.afterIndex then v else v.argNumber) = w at hw ⊢
  split
  · exact hw.verbText rfl (by decide)
  · rename_i verb r _
    split_ifs with hp hg
    · exact hw.verbText rfl rfl
    · have hv : verb ≠ '%' := by simpa using hp
      rw [List.append_assoc]
      exact hw.verbText rfl (by rw [bangAfterPercent_diagnostic hv]; decide)
    · have hv : verb ≠ '%' := by simpa using hp
      rw [List.append_assoc]
      exact hw.verbText rfl (by rw [bangAfterPercent_diagnostic hv]; decide)

/-- So a verb prints one `%`, or a text starting `%!`. -/
theorem printVerb_out_shape (t : List Char) :
    (printVerb t).1 = ['%'] ∨ ∃ o, (printVerb t).1 = '%' :: '!' :: o := by
  obtain ⟨hhead, hb⟩ := printVerb_out t
  obtain ⟨o', ho⟩ := List.head?_eq_some_iff.mp hhead
  rw [ho] at hb ⊢
  rcases bangAfterPercent_split (w := []) hb with rfl | ⟨o, rfl⟩
  · exact .inl rfl
  · exact .inr ⟨o, rfl⟩

/-- A verb that runs out of format prints no `%` followed by that format. -/
theorem printVerb_ne_of_none {t w : List Char} (hn : (printVerb t).2 = none) :
    (printVerb t).1 ≠ w ++ '%' :: t := by
  intro h
  have hb := (printVerb_out t).2
  rw [h] at hb
  rcases bangAfterPercent_split hb with rfl | ⟨t', rfl⟩
  · exact absurd (congrArg List.getLast? h) (by simp; decide)
  · rw [printVerb_bang] at hn
    cases hn

/-- The verb `!` prints its `%` first. -/
theorem eq_nil_of_printVerb_bang {t w c : List Char}
    (h : (printVerb ('!' :: t)).1 = w ++ '%' :: '!' :: c) : w = [] := by
  rw [printVerb_bang] at h
  cases w with
  | nil => rfl
  | cons y w' =>
    have : '%' ∈ "!!(MISSING)".toList := by
      rw [(List.cons.inj (show '%' :: "!!(MISSING)".toList = _ from h)).2]
      simp
    exact absurd this (by decide)

/-- The printed text never ends with the whole format behind a nonempty
    prefix, for formats up to length `n`. -/
theorem eq_nil_of_doPrintf_eq_append_of_length :
    ∀ (n : Nat) (u w : List Char), u.length ≤ n → doPrintf u = w ++ u → w = []
  | _, [], _, _, h => (List.append_eq_nil.mp (h.symm.trans rfl)).1
  | 0, _ :: _, _, hn, _ => absurd hn (by simp)
  | n + 1, c :: u, w, hn, h => by
    have ih := eq_nil_of_doPrintf_eq_append_of_length n
    by_cases hc : c = '%'
    · subst hc
      rw [doPrintf_percent_cons] at h
      cases hr : (printVerb u).2 with
      | none =>
        rw [hr, List.append_nil] at h
        exact absurd h (printVerb_ne_of_none hr)
      | some r =>
        rw [hr] at h
        dsimp only at h
        obtain ⟨q, hq, rfl⟩ := printVerb_eq_some hr
        have hrn : r.length ≤ n := by simp at hn; omega
        rcases List.append_eq_append_iff.mp h with ⟨a', rfl, h'⟩ | ⟨_ | ⟨x, c'⟩, hout, h'⟩
        · -- the format's `%` is printed by the rest of the format
          have := ih r (a' ++ '%' :: q) hrn (by rw [h']; simp)
          simp at this
        · have := ih r ('%' :: q) hrn (by simpa using h'.symm)
          simp at this
        · -- it is printed by the verb itself
          rw [List.cons_append, List.cons_eq_cons] at h'
          obtain ⟨rfl, hqr⟩ := h'
          have hb := (printVerb_out (q ++ r)).2
          rw [hout] at hb
          rcases bangAfterPercent_split hb with rfl | ⟨c₃, rfl⟩
          · exact absurd (ih r q hrn (by simpa using hqr.symm)) hq
          · rw [hqr, List.cons_append] at hout
            exact eq_nil_of_printVerb_bang hout
    · rw [doPrintf_cons_of_ne u hc] at h
      cases w with
      | nil => rfl
      | cons x w' =>
        rw [List.cons_append, List.cons_eq_cons] at h
        obtain ⟨rfl, h'⟩ := h
        have := ih u (w' ++ [c]) (by simpa using hn) (by rw [h']; simp)
        simp at this

theorem eq_nil_of_doPrintf_eq_append {u w : List Char} (h : doPrintf u = w ++ u) : w = [] :=
  eq_nil_of_doPrintf_eq_append_of_length u.length u w le_rfl h

/-- Nor is the format a `%`-free nonempty prefix followed by the text it prints. -/
theorem ne_append_doPrintf : ∀ (u a : List Char), a ≠ [] → '%' ∉ a → u ≠ a ++ doPrintf u
  | [], _, ha, _, h => ha (List.append_eq_nil.mp h.symm).1
  | c :: u, a, ha, hpa, h => by
    obtain ⟨x, a', rfl⟩ := List.exists_cons_of_ne_nil ha
    rw [List.cons_append, List.cons_eq_cons] at h
    obtain ⟨rfl, h'⟩ := h
    have hx : c ≠ '%' := fun hx => hpa (hx ▸ List.mem_cons_self _ _)
    rw [doPrintf_cons_of_ne u hx] at h'
    refine ne_append_doPrintf u (a' ++ [c]) (by simp) ?_ (by simpa using h')
    simp only [List.mem_append, List.mem_singleton, not_or]
    exact ⟨fun hm => hpa (List.mem_cons_of_mem _ hm), Ne.symm hx⟩

/-- A format prints as itself EXACTLY when it holds no `%`. -/
theorem doPrintf_eq_self_iff (s : List Char) : doPrintf s = s ↔ '%' ∉ s := by
  refine ⟨fun h => ?_, doPrintf_of_percent_free s⟩
  induction s with
  | nil => simp
  | cons c u ih =>
    by_cases hc : c = '%'
    · exfalso
      subst hc
      rw [doPrintf_percent_cons] at h
      rcases printVerb_out_shape u with hout | ⟨o, hout⟩ <;>
        rw [hout, List.cons_append, List.cons_eq_cons] at h
      · -- `%` printed for a `%%`: the rest prints as the format after the verb
        cases hn : (printVerb u).2 with
        | none =>
          rw [hn] at h
          obtain rfl : u = [] := h.2.symm
          exact absurd hout (by decide)
        | some r =>
          rw [hn] at h
          obtain ⟨q, hq, hu⟩ := printVerb_eq_some hn
          exact hq (eq_nil_of_doPrintf_eq_append (by simpa [hu] using h.2))
      · -- a diagnostic `%!`: the format after the `%` starts with `!`
        cases u with
        | nil => simp at h
        | cons x u' =>
          rw [List.cons_append, List.cons_eq_cons] at h
          obtain ⟨rfl, h'⟩ := h.2
          rw [printVerb_bang] at hout h'
          obtain ⟨-, ho⟩ := List.cons_eq_cons.mp (List.cons_eq_cons.mp hout).2
          exact ne_append_doPrintf u' o (by rw [← ho]; decide) (by rw [← ho]; decide)
            (by simpa using h'.symm)
    · rw [doPrintf_cons_of_ne u hc] at h
      exact List.not_mem_cons_of_ne_of_not_mem (Ne.symm hc) (ih (List.cons_eq_cons.mp h).2)

/-! ## §5. `fmt.Errorf`. -/

/-- A Go `error` value, as its `Error()` text. -/
structure GoError where
  message : String
  deriving DecidableEq, Repr

/-- `fmt.Errorf(format)`, with no operands. -/
def errorf (format : String) : GoError := ⟨⟨doPrintf format.data⟩⟩

/-- `fmt.Errorf` keeps a message with no `%` verbatim. -/
theorem errorf_message_of_percent_free (s : String) (h : '%' ∉ s.data) :
    (errorf s).message = s := by
  simp [errorf, doPrintf_of_percent_free _ h]

/-- ... and changes every message that holds a `%`. -/
theorem errorf_message_eq_iff (s : String) : (errorf s).message = s ↔ '%' ∉ s.data := by
  rw [← doPrintf_eq_self_iff]
  exact ⟨fun h => congrArg String.data h, fun h => congrArg String.mk h |>.trans rfl⟩

end KappController.Go
