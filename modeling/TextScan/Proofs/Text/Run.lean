import TextScan.Text.Basic

/-!
# Runs of characters

The run of a class at the start of a text is `takeWhile`. It ends at the first character outside
the class, or at the end of the text, and `length_takeWhile_eq_iff` tells its length by that. No
longer start of the text lies in the class (`longestPrefix_takeWhile`).
-/

namespace TextScan

/-- `t` is the longest text of a language that `r` starts with. -/
structure LongestPrefix (language : Text → Prop) (r t : Text) : Prop where
  mem : language t
  starts : t <+: r
  longest : ∀ u, language u → u <+: r → u.length ≤ t.length

theorem LongestPrefix.unique {language : Text → Prop} {r t u : Text}
    (ht : LongestPrefix language r t) (hu : LongestPrefix language r u) : t = u := by
  have htu : t <+: u := List.prefix_of_prefix_length_le ht.starts hu.starts
    (hu.longest t ht.mem ht.starts)
  exact htu.eq_of_length_le (ht.longest u hu.mem hu.starts)

namespace Text

/-- Every character is in the class. -/
def IsRun (p : Char → Bool) (t : Text) : Prop := ∀ c ∈ t, p c = true

variable (p : Char → Bool) (t : Text)

theorem take_length_takeWhile : t.take (t.takeWhile p).length = t.takeWhile p :=
  (List.prefix_iff_eq_take.mp (List.takeWhile_prefix p)).symm

theorem length_takeWhile_le : (t.takeWhile p).length ≤ t.length :=
  (List.takeWhile_prefix p).length_le

variable {p t}

theorem eq_true_of_mem_takeWhile {c : Char} (h : c ∈ t.takeWhile p) : p c = true :=
  List.all_eq_true.mp List.all_takeWhile c h

theorem takeWhile_eq_nil_iff : t.takeWhile p = [] ↔ t.head?.any p = false := by
  cases t with
  | nil => simp
  | cons c rest => by_cases hc : p c = true <;> simp [hc]

theorem takeWhile_ne_nil_iff : t.takeWhile p ≠ [] ↔ t.head?.any p = true := by
  rw [ne_eq, takeWhile_eq_nil_iff, Bool.not_eq_false]

/-- A run ends where a text starts that does not go on with it. -/
theorem takeWhile_append {rest : Text} (ht : ∀ c ∈ t, p c = true)
    (hrest : rest.head?.any p = false) : (t ++ rest).takeWhile p = t := by
  rw [List.takeWhile_append_of_pos ht, takeWhile_eq_nil_iff.mpr hrest, List.append_nil]

theorem head?_dropWhile : (t.dropWhile p).head?.any p = false := by
  have hnext := List.head?_dropWhile_not p t
  cases h : (t.dropWhile p).head? with
  | none => rfl
  | some c =>
    rw [h] at hnext
    exact hnext

/-- The character after a run is outside the class. -/
theorem eq_false_after_takeWhile {c : Char} (h : t[(t.takeWhile p).length]? = some c) :
    p c = false := by
  induction t with
  | nil => simp at h
  | cons d rest ih =>
    by_cases hd : p d = true
    · simp only [List.takeWhile_cons, hd, ↓reduceIte, List.length_cons,
        List.getElem?_cons_succ] at h
      exact ih h
    · simp only [List.takeWhile_cons, hd, Bool.false_eq_true, ↓reduceIte, List.length_nil,
        List.getElem?_cons_zero, Option.some.injEq] at h
      subst h
      simpa using hd

theorem length_takeWhile_eq_iff {n : Nat} :
    (t.takeWhile p).length = n ↔
      n ≤ t.length ∧ (∀ c ∈ t.take n, p c = true) ∧ ∀ c, t[n]? = some c → p c = false := by
  constructor
  · rintro rfl
    refine ⟨length_takeWhile_le p t, fun c hc => ?_, fun c hc => eq_false_after_takeWhile hc⟩
    rw [take_length_takeWhile] at hc
    exact eq_true_of_mem_takeWhile hc
  · rintro ⟨hle, hall, hstop⟩
    -- The text is the part up to `n`, all of it in the run, and a rest that does not go on.
    have hsplit : t.takeWhile p = t.take n ++ (t.drop n).takeWhile p := by
      conv => lhs; rw [← List.take_append_drop n t]
      exact List.takeWhile_append_of_pos hall
    have hrest : (t.drop n).takeWhile p = [] := by
      cases hd : t.drop n with
      | nil => rfl
      | cons c rest =>
        have hc : t[n]? = some c := by
          rw [← List.head?_drop, hd]
          rfl
        simp [hstop c hc]
    rw [hsplit, hrest, List.append_nil, List.length_take]
    omega

theorem longestPrefix_takeWhile (p : Char → Bool) (t : Text) :
    LongestPrefix (IsRun p) t (t.takeWhile p) where
  mem _ hc := eq_true_of_mem_takeWhile hc
  starts := List.takeWhile_prefix p
  longest u hu hstarts := by
    obtain ⟨tail, rfl⟩ := hstarts
    rw [List.takeWhile_append_of_pos hu, List.length_append]
    exact Nat.le_add_right _ _

/-- A run is not longest if it goes on behind its end. -/
theorem eq_nil_of_longestPrefix_drop {r u : Text} (ht : LongestPrefix (IsRun p) r t)
    (hu : LongestPrefix (IsRun p) (r.drop t.length) u) : u = [] := by
  have hsplit : t ++ r.drop t.length = r := List.prefix_iff_eq_append.mp ht.starts
  have hstarts : t ++ u <+: r := by
    rw [← hsplit]
    exact (List.prefix_append_right_inj t).mpr hu.starts
  have hrun : IsRun p (t ++ u) := List.forall_mem_append.mpr ⟨ht.mem, hu.mem⟩
  have hle : (t ++ u).length ≤ t.length := ht.longest (t ++ u) hrun hstarts
  rw [List.length_append] at hle
  exact List.length_eq_zero_iff.mp (by omega)

end Text

end TextScan
