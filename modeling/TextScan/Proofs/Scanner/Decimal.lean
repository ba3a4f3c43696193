import TextScan.Proofs.Scanner.Passage

/-!
# Decimal numbers

`parseFloatString` recognises the language of `IsNumeral`: digits, and a point and more digits if
it likes. What is ahead has one of four forms (`Lead`), each of which says what the longest start
in the language is, if there is one, and what the operation does (`parseFloatString_grammar`). A
point after the digits has to be followed by a digit: the digits alone are not taken then.
-/

namespace TextScan

/-! ## The language -/

/-- One digit or more. -/
structure IsDigits (t : Text) : Prop where
  ne_nil : t ≠ []
  digits : ∀ c ∈ t, isDigit c = true

inductive IsNumeral : Text → Prop where
  | whole {ds : Text} (hds : IsDigits ds) : IsNumeral ds
  | fraction {ds fs : Text} (hds : IsDigits ds) (hfs : IsDigits fs) : IsNumeral (ds ++ '.' :: fs)

/-- No digit is next. -/
def NoDigit (t : Text) : Prop := t.head?.any isDigit = false

instance (t : Text) : Decidable (NoDigit t) :=
  inferInstanceAs (Decidable (t.head?.any isDigit = false))

/-- The text starts with digits and a point that no digit follows. -/
def StopsAtPoint (r : Text) : Prop :=
  ∃ ds rest, IsDigits ds ∧ r = ds ++ '.' :: rest ∧ NoDigit rest

/-! ## Forms -/

theorem noDigit_point (t : Text) : NoDigit ('.' :: t) := rfl

theorem takeWhile_digits {ds rest : Text} (hds : IsDigits ds) (hrest : NoDigit rest) :
    (ds ++ rest).takeWhile isDigit = ds :=
  Text.takeWhile_append hds.digits hrest

theorem length_le_of_digits {u ds rest : Text} (hu : IsDigits u) (hds : IsDigits ds)
    (hrest : NoDigit rest) (h : u <+: ds ++ rest) : u.length ≤ ds.length := by
  have hle := (Text.longestPrefix_takeWhile isDigit (ds ++ rest)).longest u hu.digits h
  rwa [takeWhile_digits hds hrest] at hle

theorem not_noDigit_append {ds rest : Text} (hds : IsDigits ds) : ¬ NoDigit (ds ++ rest) := by
  cases ds with
  | nil => exact absurd rfl hds.ne_nil
  | cons c cs =>
    intro hnone
    have hc : isDigit c = false := hnone
    rw [hds.digits c List.mem_cons_self] at hc
    cases hc

/-- Digits are told apart from what follows them. -/
theorem digits_inj {ds ds' rest rest' : Text} (hds : IsDigits ds) (hds' : IsDigits ds')
    (hrest : NoDigit rest) (hrest' : NoDigit rest') (h : ds ++ rest = ds' ++ rest') :
    ds = ds' ∧ rest = rest' := by
  have hsame : ds = ds' := by
    rw [← takeWhile_digits hds hrest, h, takeWhile_digits hds' hrest']
  subst hsame
  exact ⟨rfl, List.append_cancel_left h⟩

/-- What a text may start with. -/
inductive Lead : Text → Prop where
  | none {r : Text} (hr : NoDigit r) : Lead r
  | whole {ds rest : Text} (hds : IsDigits ds) (hrest : NoDigit rest)
      (hpoint : rest.head? ≠ some '.') : Lead (ds ++ rest)
  | stopped {ds rest : Text} (hds : IsDigits ds) (hrest : NoDigit rest) :
      Lead (ds ++ '.' :: rest)
  | fraction {ds fs rest : Text} (hds : IsDigits ds) (hfs : IsDigits fs) (hrest : NoDigit rest) :
      Lead (ds ++ '.' :: (fs ++ rest))

/-- The digits that a text starts with, and a rest that starts with none. -/
theorem exists_digits {r : Text} (h : ¬ NoDigit r) :
    ∃ ds rest, IsDigits ds ∧ NoDigit rest ∧ r = ds ++ rest := by
  refine ⟨r.takeWhile isDigit, r.dropWhile isDigit, ⟨?_, ?_⟩, ?_, ?_⟩
  · exact Text.takeWhile_ne_nil_iff.mpr (Bool.not_eq_false _ ▸ h)
  · exact fun c hc => Text.eq_true_of_mem_takeWhile hc
  · exact Text.head?_dropWhile
  · exact List.takeWhile_append_dropWhile.symm

theorem lead (r : Text) : Lead r := by
  by_cases hr : NoDigit r
  · exact .none hr
  obtain ⟨ds, rest, hds, hrest, rfl⟩ := exists_digits hr
  by_cases hpoint : rest.head? = some '.'
  · obtain ⟨after, rfl⟩ := List.head?_eq_some_iff.mp hpoint
    by_cases hafter : NoDigit after
    · exact .stopped hds hafter
    · obtain ⟨fs, tail, hfs, htail, rfl⟩ := exists_digits hafter
      exact .fraction hds hfs htail
  · exact .whole hds hrest hpoint

/-! ## The longest start of each form -/

section Longest

variable {ds fs rest : Text} (hds : IsDigits ds) (hrest : NoDigit rest)
include hds hrest

theorem longest_whole (hpoint : rest.head? ≠ some '.') :
    LongestPrefix IsNumeral (ds ++ rest) ds := by
  refine ⟨.whole hds, List.prefix_append ds rest, fun u hu hstarts => ?_⟩
  cases hu with
  | whole hu => exact length_le_of_digits hu hds hrest hstarts
  | @fraction es gs hes hgs =>
    obtain ⟨tail, htail⟩ := hstarts
    rw [List.append_assoc] at htail
    -- The digits end at the same place, so that the point of `u` would be the one that is missing.
    obtain ⟨-, rfl⟩ := digits_inj hes hds (noDigit_point _) hrest htail
    exact absurd rfl hpoint

theorem longest_fraction (hfs : IsDigits fs) :
    LongestPrefix IsNumeral (ds ++ '.' :: (fs ++ rest)) (ds ++ '.' :: fs) := by
  refine ⟨.fraction hds hfs, ⟨rest, by simp⟩, fun u hu hstarts => ?_⟩
  rw [List.length_append, List.length_cons]
  cases hu with
  | whole hu =>
    have := length_le_of_digits hu hds (noDigit_point _) hstarts
    omega
  | @fraction es gs hes hgs =>
    obtain ⟨tail, htail⟩ := hstarts
    rw [List.append_assoc] at htail
    obtain ⟨rfl, hpoint⟩ := digits_inj hes hds (noDigit_point _) (noDigit_point _) htail
    have := length_le_of_digits hgs hfs hrest ⟨tail, List.tail_eq_of_cons_eq hpoint⟩
    rw [List.length_append, List.length_cons]
    omega

theorem not_stopsAtPoint_whole (hpoint : rest.head? ≠ some '.') : ¬ StopsAtPoint (ds ++ rest) := by
  rintro ⟨es, tail, hes, h, -⟩
  obtain ⟨-, rfl⟩ := digits_inj hds hes hrest (noDigit_point tail) h
  exact hpoint rfl

omit hrest in
theorem not_stopsAtPoint_fraction (hfs : IsDigits fs) :
    ¬ StopsAtPoint (ds ++ '.' :: (fs ++ rest)) := by
  rintro ⟨es, tail, hes, h, htail⟩
  obtain ⟨-, hpoint⟩ := digits_inj hds hes (noDigit_point _) (noDigit_point tail) h
  obtain rfl : fs ++ rest = tail := List.tail_eq_of_cons_eq hpoint
  exact not_noDigit_append hfs htail

end Longest

theorem not_isNumeral_of_noDigit {r t : Text} (hr : NoDigit r) (ht : t <+: r) : ¬ IsNumeral t := by
  obtain ⟨tail, rfl⟩ := ht
  rintro (hds | ⟨hds, -⟩)
  · exact not_noDigit_append hds hr
  · rw [List.append_assoc] at hr
    exact not_noDigit_append hds hr

namespace Scanner

/-! ## What is done at each form -/

section Forms

variable {s : Scanner} {skip : Option Bool} {ds fs rest : Text}

theorem run_parseFloatString_of_noDigit (h : NoDigit (s.skipped skip).ahead) :
    s.run (parseFloatString skip) =
      (.error (.scan (.missing "float" (s.skipped skip).ahead.head? (s.skipped skip).cursor)),
        s.skipped skip) := by
  have hnext : (s.skipped skip).nextIs isDigit = false := h
  rw [run_parseFloatString, hnext, if_neg Bool.false_ne_true]

/-- Past the digits the fraction decides. -/
theorem run_parseFloatString_of_digits (hds : IsDigits ds) (hrest : NoDigit rest)
    (h : (s.skipped skip).ahead = ds ++ rest) {r : Except Fault Unit} {n : Nat}
    (hfraction : ((s.skipped skip).advanceBy ds.length).run advanceFraction =
      (r, (s.skipped skip).advanceBy n)) :
    s.run (parseFloatString skip) =
      (r.map fun _ => (s.skipped skip).ahead.take n, (s.skipped skip).advanceBy n) := by
  have hrun : (s.skipped skip).ahead.takeWhile isDigit = ds := by
    rw [h, takeWhile_digits hds hrest]
  have hnext : (s.skipped skip).nextIs isDigit = true := by
    rw [nextIs, ← Text.takeWhile_ne_nil_iff, hrun]
    exact hds.ne_nil
  rw [run_parseFloatString, hnext, if_pos rfl, hrun, hfraction, ← slice_advanceBy]
  cases r <;> rfl

theorem ahead_advanceBy_append {t : Text} (h : s.ahead = t ++ rest) :
    (s.advanceBy t.length).ahead = rest := by
  rw [ahead_advanceBy, h, List.drop_left]

theorem run_advanceFraction_of_whole (h : s.ahead.head? ≠ some '.') :
    s.run advanceFraction = (.ok (), s) := by
  have hpoint : (s.nextIs fun c => [c] = ['.']) = false := by
    unfold nextIs
    cases hhead : s.ahead.head? with
    | none => rfl
    | some c => simpa [hhead] using h
  rw [run_advanceFraction, hpoint, if_neg Bool.false_ne_true]

theorem run_advanceFraction_of_point (h : s.ahead = '.' :: rest) :
    s.run advanceFraction =
      if NoDigit rest then
        (.error (.scan (.missing "float" rest.head? (s.cursor + 1))), s.advanceBy 1)
      else (.ok (), s.advanceBy (1 + (rest.takeWhile isDigit).length)) := by
  have hpoint : (s.nextIs fun c => [c] = ['.']) = true := by
    rw [nextIs, h]
    rfl
  have hnext : (s.advanceBy 1).nextIs isDigit = rest.head?.any isDigit := by
    rw [nextIs, ahead_advanceBy_one h]
  rw [run_advanceFraction, hpoint, if_pos rfl, hnext, ahead_advanceBy_one h, advanceBy_advanceBy]
  by_cases hrest : NoDigit rest
  · rw [if_pos hrest, if_neg (Bool.eq_false_iff.mp hrest), cursor_advanceBy]
  · rw [if_neg hrest, if_pos (Bool.not_eq_false _ ▸ hrest)]

theorem run_parseFloatString_of_whole (hds : IsDigits ds) (hrest : NoDigit rest)
    (hpoint : rest.head? ≠ some '.') (h : (s.skipped skip).ahead = ds ++ rest) :
    s.run (parseFloatString skip) = (.ok ds, (s.skipped skip).advanceBy ds.length) := by
  have hfraction := run_advanceFraction_of_whole (ahead_advanceBy_append h ▸ hpoint)
  rw [run_parseFloatString_of_digits hds hrest h hfraction, h, List.take_left]
  rfl

theorem run_parseFloatString_of_stopped (hds : IsDigits ds) (hrest : NoDigit rest)
    (h : (s.skipped skip).ahead = ds ++ '.' :: rest) :
    s.run (parseFloatString skip) =
      (.error (.scan (.missing "float" rest.head? ((s.skipped skip).cursor + ds.length + 1))),
        (s.skipped skip).advanceBy (ds.length + 1)) := by
  have hfraction := run_advanceFraction_of_point (ahead_advanceBy_append h)
  rw [if_pos hrest, advanceBy_advanceBy] at hfraction
  rw [run_parseFloatString_of_digits hds (noDigit_point rest) h hfraction]
  rfl

theorem run_parseFloatString_of_fraction (hds : IsDigits ds) (hfs : IsDigits fs)
    (hrest : NoDigit rest) (h : (s.skipped skip).ahead = ds ++ '.' :: (fs ++ rest)) :
    s.run (parseFloatString skip) =
      (.ok (ds ++ '.' :: fs), (s.skipped skip).advanceBy (ds ++ '.' :: fs).length) := by
  have hlength : ds.length + (1 + fs.length) = (ds ++ '.' :: fs).length := by
    rw [List.length_append, List.length_cons, Nat.add_comm 1]
  have hsplit : ds ++ '.' :: (fs ++ rest) = (ds ++ '.' :: fs) ++ rest := by
    rw [List.append_assoc, List.cons_append]
  have hfraction := run_advanceFraction_of_point (ahead_advanceBy_append h)
  rw [if_neg (not_noDigit_append hfs), takeWhile_digits hfs hrest, advanceBy_advanceBy, hlength]
    at hfraction
  rw [run_parseFloatString_of_digits hds (noDigit_point _) h hfraction, h, hsplit, List.take_left]
  rfl

end Forms

/-- Either there is a longest start and it is answered, or there is nothing to answer and nothing is
answered: no digit is in front, or the text stops at a point. -/
theorem parseFloatString_cases (s : Scanner) (skip : Option Bool) :
    (∃ t, LongestPrefix IsNumeral (s.skipped skip).ahead t ∧
        ¬ StopsAtPoint (s.skipped skip).ahead ∧
        s.run (parseFloatString skip) = (.ok t, (s.skipped skip).advanceBy t.length)) ∨
      (∀ t, (s.run (parseFloatString skip)).1 ≠ .ok t ∧
        ¬ (LongestPrefix IsNumeral (s.skipped skip).ahead t ∧
          ¬ StopsAtPoint (s.skipped skip).ahead)) ∧
        (NoDigit (s.skipped skip).ahead ∨ StopsAtPoint (s.skipped skip).ahead) := by
  generalize hr : (s.skipped skip).ahead = r
  cases lead r with
  | none hnone =>
    rw [run_parseFloatString_of_noDigit (hr.symm ▸ hnone)]
    refine .inr ⟨fun t => ⟨nofun, fun ht => ?_⟩, .inl hnone⟩
    exact not_isNumeral_of_noDigit hnone ht.1.starts ht.1.mem
  | whole hds hrest hpoint =>
    exact .inl ⟨_, longest_whole hds hrest hpoint, not_stopsAtPoint_whole hds hrest hpoint,
      run_parseFloatString_of_whole hds hrest hpoint hr⟩
  | stopped hds hrest =>
    rw [run_parseFloatString_of_stopped hds hrest hr]
    exact .inr ⟨fun t => ⟨nofun, fun ht => ht.2 ⟨_, _, hds, rfl, hrest⟩⟩,
      .inr ⟨_, _, hds, rfl, hrest⟩⟩
  | fraction hds hfs hrest =>
    exact .inl ⟨_, longest_fraction hds hrest hfs, not_stopsAtPoint_fraction hds hfs,
      run_parseFloatString_of_fraction hds hfs hrest hr⟩

/-- **Decimal numbers are recognised exactly.** With `r` the text ahead, past white space that is
skipped: a text is answered, and passed, just if it is the longest start of `r` in the language and
`r` does not stop at a point. Without a digit in front that is reported where `r` starts, and a
point without a digit after it is reported behind the point. There is no other outcome. -/
theorem parseFloatString_grammar (s : Scanner) (skip : Option Bool) :
    let start := s.skipped skip
    let r := start.ahead
    let outcome := s.run (parseFloatString skip)
    (∀ t, outcome.1 = .ok t ↔ LongestPrefix IsNumeral r t ∧ ¬ StopsAtPoint r) ∧
      (∀ t, outcome.1 = .ok t → outcome.2 = start.advanceBy t.length) ∧
      (NoDigit r →
        outcome = (.error (.scan (.missing "float" r.head? start.cursor)), start)) ∧
      (∀ ds rest, IsDigits ds → NoDigit rest → r = ds ++ '.' :: rest →
        outcome = (.error (.scan (.missing "float" rest.head? (start.cursor + ds.length + 1))),
          start.advanceBy (ds.length + 1))) ∧
      ((∃ t, outcome.1 = .ok t) ∨ NoDigit r ∨ StopsAtPoint r) := by
  intro start r outcome
  have hnone (hr : NoDigit r) : outcome = _ := run_parseFloatString_of_noDigit hr
  have hstopped (ds rest : Text) (hds : IsDigits ds) (hrest : NoDigit rest)
      (h : r = ds ++ '.' :: rest) : outcome = _ := run_parseFloatString_of_stopped hds hrest h
  obtain ⟨t, hlongest, hgoes, hok⟩ | ⟨hfails, hform⟩ := parseFloatString_cases s skip
  · have hanswer : outcome = (.ok t, start.advanceBy t.length) := hok
    refine ⟨fun u => ?_, fun u hu => ?_, hnone, hstopped, .inl ⟨t, congrArg Prod.fst hanswer⟩⟩
    · rw [hanswer, Except.ok.injEq]
      constructor
      · rintro rfl
        exact ⟨hlongest, hgoes⟩
      · rintro ⟨hu, -⟩
        exact hlongest.unique hu
    · rw [hanswer] at hu ⊢
      cases hu
      rfl
  · exact ⟨fun t => iff_of_false (hfails t).1 (hfails t).2, fun t ht => absurd ht (hfails t).1,
      hnone, hstopped, .inr hform⟩

/-- A second point is left. -/
example : (Scanner.run ⟨[' ', '1', '.', '5', '.', '2'], 0, .default⟩ (parseFloatString none)).1 =
    .ok ['1', '.', '5'] := rfl

end Scanner

end TextScan
