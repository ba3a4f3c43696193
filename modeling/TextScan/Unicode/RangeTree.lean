/-!
# Range trees

A property of characters is written down as a sorted list of disjoint ranges of numbers, each
with the value it gives. `RangeTree.ofList` makes a balanced search tree of such a list, so that
a look-up costs a handful of comparisons, also when the kernel evaluates it (`Nat.blt` and
`cond` instead of `Decidable` instances).

- `toList_ofList`: the tree holds the rows of the list, in order.
- `find?_ofList`: on a sorted list the tree finds what a search through the list finds.
-/

namespace TextScan.Unicode

/-- The numbers from `lo` to `hi`, both included, and what is said of them. -/
structure Range (α : Type) where
  lo : Nat
  hi : Nat
  value : α

namespace Range

variable {α : Type}

def holds (r : Range α) (n : Nat) : Bool := Nat.ble r.lo n && Nat.ble n r.hi

theorem holds_iff {r : Range α} {n : Nat} : r.holds n = true ↔ r.lo ≤ n ∧ n ≤ r.hi := by
  simp [holds, Nat.ble_eq]

theorem holds_eq_false {r : Range α} {n : Nat} (h : n < r.lo ∨ r.hi < n) :
    r.holds n = false := by
  rw [Bool.eq_false_iff, ne_eq, holds_iff]
  omega

/-- Each range is non-empty and ends before the next one starts. -/
def sorted : List (Range α) → Bool
  | [] => true
  | [r] => Nat.ble r.lo r.hi
  | r :: s :: rest => Nat.ble r.lo r.hi && Nat.blt r.hi s.lo && sorted (s :: rest)

end Range

inductive RangeTree (α : Type) where
  | leaf
  | node (left : RangeTree α) (range : Range α) (right : RangeTree α)

namespace RangeTree

variable {α : Type}

def toList : RangeTree α → List (Range α)
  | .leaf => []
  | .node l r t => l.toList ++ r :: t.toList

/-- The range that holds `n`, by binary search. -/
def find? : RangeTree α → Nat → Option (Range α)
  | .leaf, _ => none
  | .node l r t, n =>
    bif Nat.blt n r.lo then l.find? n else bif Nat.blt r.hi n then t.find? n else some r

def contains (t : RangeTree α) (n : Nat) : Bool := (t.find? n).isSome

/-- A tree over the first ranges of the list, at most `depth` deep, and the ranges left over. -/
def build : Nat → List (Range α) → RangeTree α × List (Range α)
  | 0, rows => (.leaf, rows)
  | depth + 1, rows =>
    match build depth rows with
    | (left, []) => (left, [])
    | (left, r :: rest) => (.node left r (build depth rest).1, (build depth rest).2)

/-- How many ranges a tree of a given depth has room for. -/
def capacity : Nat → Nat
  | 0 => 0
  | depth + 1 => 2 * capacity depth + 1

def ofList (rows : List (Range α)) : RangeTree α := (build (rows.length.log2 + 1) rows).1

/-! ### The rows of a tree -/

theorem toList_build (depth : Nat) (rows : List (Range α)) :
    (build depth rows).1.toList ++ (build depth rows).2 = rows := by
  induction depth generalizing rows with
  | zero => rfl
  | succ d ih =>
    have h := ih rows
    unfold build
    split
    · rename_i left he
      rw [he] at h
      exact h
    · rename_i left r rest he
      rw [he] at h
      have h2 := ih rest
      simp only [toList, List.append_assoc, List.cons_append, h2]
      exact h

theorem length_build_snd (depth : Nat) (rows : List (Range α)) :
    (build depth rows).2.length = rows.length - capacity depth := by
  induction depth generalizing rows with
  | zero => rfl
  | succ d ih =>
    have h := ih rows
    unfold build
    split
    · rename_i left he
      rw [he] at h
      simp only [List.length_nil] at h
      simp only [List.length_nil, capacity]
      omega
    · rename_i left r rest he
      rw [he] at h
      have h2 := ih rest
      simp only [List.length_cons] at h
      simp only [h2, capacity]
      omega

theorem le_capacity (n : Nat) : n ≤ capacity (n.log2 + 1) := by
  have hc : ∀ d, capacity d + 1 = 2 ^ d := fun d => by
    induction d with
    | zero => rfl
    | succ d ih => simp only [capacity, Nat.pow_succ]; omega
  have hlt : n < 2 ^ (n.log2 + 1) := Nat.lt_log2_self
  have := hc (n.log2 + 1)
  omega

/-- The tree holds the rows of the list, in order. -/
theorem toList_ofList (rows : List (Range α)) : (ofList rows).toList = rows := by
  have h := toList_build (rows.length.log2 + 1) rows
  have hl := length_build_snd (rows.length.log2 + 1) rows
  have hle := le_capacity rows.length
  have hnil : (build (rows.length.log2 + 1) rows).2 = [] :=
    List.eq_nil_of_length_eq_zero (by omega)
  rw [hnil, List.append_nil] at h
  exact h

/-! ### Look-up in sorted rows -/

theorem sorted_tail {r : Range α} {rows : List (Range α)} (h : Range.sorted (r :: rows) = true) :
    Range.sorted rows = true := by
  cases rows with
  | nil => rfl
  | cons s rest =>
    simp only [Range.sorted, Bool.and_eq_true] at h
    exact h.2

theorem lo_le_hi_of_sorted {r : Range α} {rows : List (Range α)}
    (h : Range.sorted (r :: rows) = true) : r.lo ≤ r.hi := by
  cases rows with
  | nil => simpa [Range.sorted] using h
  | cons s rest =>
    simp only [Range.sorted, Bool.and_eq_true, Nat.ble_eq] at h
    exact h.1.1

theorem hi_lt_of_sorted {r : Range α} {rows : List (Range α)}
    (h : Range.sorted (r :: rows) = true) : ∀ s ∈ rows, r.hi < s.lo := by
  induction rows generalizing r with
  | nil => intro s hs; cases hs
  | cons t rest ih =>
    intro s hs
    have ht : r.hi < t.lo := by
      simp only [Range.sorted, Bool.and_eq_true, Nat.blt_eq] at h
      exact h.1.2
    have hle := lo_le_hi_of_sorted (sorted_tail h)
    rcases List.mem_cons.mp hs with rfl | hs
    · exact ht
    · have := ih (sorted_tail h) s hs
      omega

theorem sorted_append {rows more : List (Range α)} (h : Range.sorted (rows ++ more) = true) :
    Range.sorted rows = true ∧ Range.sorted more = true ∧
      ∀ r ∈ rows, ∀ s ∈ more, r.hi < s.lo := by
  induction rows with
  | nil => exact ⟨rfl, h, fun r hr => by cases hr⟩
  | cons r rest ih =>
    obtain ⟨h1, h2, h3⟩ := ih (sorted_tail h)
    refine ⟨?_, h2, fun s hs u hu => ?_⟩
    · cases rest with
      | nil => simpa [Range.sorted] using lo_le_hi_of_sorted h
      | cons s rest =>
        simp only [List.cons_append, Range.sorted, Bool.and_eq_true] at h h1 ⊢
        exact ⟨h.1, h1⟩
    · rcases List.mem_cons.mp hs with rfl | hs
      · exact hi_lt_of_sorted h u (List.mem_append_right _ hu)
      · exact h3 s hs u hu

theorem find?_eq_none_of_forall {rows : List (Range α)} {n : Nat}
    (h : ∀ r ∈ rows, n < r.lo ∨ r.hi < n) : rows.find? (·.holds n) = none := by
  rw [List.find?_eq_none]
  intro r hr
  simp [Range.holds_eq_false (h r hr)]

/-- In a tree over sorted rows binary search finds what a search through the rows finds. -/
theorem find?_eq (t : RangeTree α) (h : Range.sorted t.toList = true) (n : Nat) :
    t.find? n = t.toList.find? (·.holds n) := by
  induction t with
  | leaf => rfl
  | node l r t ihl iht =>
    obtain ⟨hl, hr, hlr⟩ := sorted_append h
    have hlt := hi_lt_of_sorted hr
    have hle := lo_le_hi_of_sorted hr
    simp only [toList, find?, List.find?_append, List.find?_cons, ihl hl, iht (sorted_tail hr)]
    cases h1 : Nat.blt n r.lo with
    | true =>
      have hn : n < r.lo := Nat.blt_eq.mp h1
      have hf : r.holds n = false := Range.holds_eq_false (Or.inl hn)
      have ht : t.toList.find? (·.holds n) = none :=
        find?_eq_none_of_forall fun s hs => by have := hlt s hs; omega
      simp [hf, ht]
    | false =>
      have hn : ¬ n < r.lo := fun hc => by rw [Nat.blt_eq.mpr hc] at h1; cases h1
      have hl' : l.toList.find? (·.holds n) = none :=
        find?_eq_none_of_forall fun s hs => by have := hlr s hs r (by simp); omega
      cases h2 : Nat.blt r.hi n with
      | true => simp [hl', Range.holds_eq_false (r := r) (Or.inr (Nat.blt_eq.mp h2))]
      | false =>
        have hn2 : ¬ r.hi < n := fun hc => by rw [Nat.blt_eq.mpr hc] at h2; cases h2
        simp [hl', (Range.holds_iff (r := r)).mpr ⟨Nat.le_of_not_lt hn, Nat.le_of_not_lt hn2⟩]

/-- On a sorted list the tree finds what a search through the list finds. -/
theorem find?_ofList {rows : List (Range α)} (h : Range.sorted rows = true) (n : Nat) :
    (ofList rows).find? n = rows.find? (·.holds n) := by
  rw [find?_eq (ofList rows) (by rwa [toList_ofList]), toList_ofList]

end RangeTree

end TextScan.Unicode
