import TextScan.Proofs.Unicode.Decomposition
import TextScan.Text.Basic

/-!
# Evaluation by the kernel

Checks of whole tables are evaluated by the kernel and are written for it. `forced` hands a
character on as a number that is already computed, so that what is found out about it is found out
once. A check of a row asks something of every character in it (`charsAll`), or of it and of what
the row sends it to (`imagesAll`); that none of them is in another table is asked of the whole row at
once (`RangeTree.clear`).
-/

namespace TextScan.Unicode

/-! ## Characters -/

/-- `f` at a character whose number is computed first. -/
def forced {α : Type} (f : Char → α) (c : Char) : α :=
  match c.toNat with
  | 0 => f (Char.ofNat 0)
  | n + 1 => f (Char.ofNat (n + 1))

@[simp] theorem forced_eq {α : Type} (f : Char → α) (c : Char) : forced f c = f c := by
  unfold forced
  split
  · rename_i h
    rw [← h, c.ofNat_toNat]
  · rename_i n h
    exact congrArg f ((congrArg Char.ofNat h.symm).trans c.ofNat_toNat)

theorem forced_fun {α : Type} (f : Char → α) : forced f = f := funext (forced_eq f)

/-- `f` at a text whose characters are computed first. -/
def forcedText {α : Type} (f : Text → α) : Text → α
  | [] => f []
  | c :: t => forced (fun c => forcedText (fun t => f (c :: t)) t) c

@[simp] theorem forcedText_eq {α : Type} (f : Text → α) (t : Text) : forcedText f t = f t := by
  induction t generalizing f with
  | nil => rfl
  | cons c t ih => simp [forcedText, ih]

/-- Whether two texts are the same, number by number. -/
def same : Text → Text → Bool
  | [], [] => true
  | a :: s, b :: t => Nat.beq a.toNat b.toNat && same s t
  | _, _ => false

theorem eq_of_same {s t : Text} (h : same s t = true) : s = t := by
  induction s generalizing t with
  | nil =>
    cases t with
    | nil => rfl
    | cons b t => cases h
  | cons a s ih =>
    cases t with
    | nil => cases h
    | cons b t =>
      simp only [same, Bool.and_eq_true, Nat.beq_eq] at h
      rw [Char.toNat_inj.mp h.1, ih h.2]

def isStarter (c : Char) : Bool := Nat.beq (combiningClass c) 0

theorem isStarter_iff {c : Char} : isStarter c = true ↔ combiningClass c = 0 := by
  rw [isStarter, Nat.beq_eq]

/-! ## Rows -/

section Rows

variable {α : Type}

/-- Whether a search for any number from `lo` to `hi` passes the same ranges and finds none. -/
def RangeTree.clear : RangeTree α → Nat → Nat → Bool
  | .leaf, _, _ => true
  | .node l r t, lo, hi =>
    bif Nat.blt hi r.lo then l.clear lo hi
    else bif Nat.ble r.lo lo && Nat.blt r.hi lo then t.clear lo hi else false

theorem RangeTree.find?_of_clear {t : RangeTree α} {lo hi n : Nat} (h : t.clear lo hi = true)
    (hlo : lo ≤ n) (hhi : n ≤ hi) : t.find? n = none := by
  induction t with
  | leaf => rfl
  | node l r t ihl ihr =>
    unfold clear at h
    unfold find?
    cases hleft : Nat.blt hi r.lo with
    | true =>
      rw [hleft] at h
      rw [Nat.blt_eq] at hleft
      rw [Nat.blt_eq.mpr (by omega : n < r.lo)]
      exact ihl h
    | false =>
      rw [hleft, cond_false] at h
      cases hright : Nat.ble r.lo lo && Nat.blt r.hi lo with
      | false =>
        rw [hright] at h
        cases h
      | true =>
        rw [hright] at h
        rw [Bool.and_eq_true, Nat.ble_eq, Nat.blt_eq] at hright
        have hbelow : Nat.blt n r.lo = false := by
          rw [Bool.eq_false_iff, ne_eq, Nat.blt_eq]
          omega
        rw [hbelow, Nat.blt_eq.mpr (by omega : r.hi < n)]
        exact ihr h

/-- Whether a check holds of every number of a row. -/
def rowAll (check : Nat → Bool) (r : Range α) : Bool :=
  (List.range (r.hi - r.lo + 1)).all fun k => check (r.lo + k)

theorem of_rowAll {check : Nat → Bool} {r : Range α} (h : rowAll check r = true) {n : Nat}
    (hlo : r.lo ≤ n) (hhi : n ≤ r.hi) : check n = true := by
  have hcheck := List.all_eq_true.mp h (n - r.lo) (List.mem_range.mpr (by omega))
  rwa [Nat.add_sub_cancel' hlo] at hcheck

/-- Whether a check holds of every character of a row. -/
def charsAll (check : Char → Bool) (r : Range α) : Bool :=
  rowAll (fun n => forced check (Char.ofNat n)) r

theorem of_charsAll {check : Char → Bool} {r : Range α} (h : charsAll check r = true) {c : Char}
    (hlo : r.lo ≤ c.toNat) (hhi : c.toNat ≤ r.hi) : check c = true := by
  have hcheck := of_rowAll h hlo hhi
  rwa [forced_eq, c.ofNat_toNat] at hcheck

end Rows

/-- Whether a check holds of every character of a row and what the row sends it to. -/
def imagesAll (check : Char → Text → Bool) (r : Mapping) : Bool :=
  rowAll (fun n => forced (fun c => forcedText (check c) (r.image n)) (Char.ofNat n)) r

theorem of_imagesAll {check : Char → Text → Bool} {rows : List Mapping}
    (h : rows.all (imagesAll check) = true) {c : Char} {r : Mapping}
    (hfind : (RangeTree.ofList rows).find? c.toNat = some r) :
    check c (r.image c.toNat) = true := by
  obtain ⟨hmem, hlo, hhi⟩ := RangeTree.mem_of_find?_ofList hfind
  have hcheck := of_rowAll (List.all_eq_true.mp h r hmem) hlo hhi
  rwa [forced_eq, c.ofNat_toNat, forcedText_eq] at hcheck

theorem all_of_pieces {α : Type} {check : α → Bool} {rows : List α} (n : Nat)
    (hfirst : (rows.take n).all check = true) (hrest : (rows.drop n).all check = true) :
    rows.all check = true := by
  rw [← List.take_append_drop n rows, List.all_append, hfirst, hrest]
  rfl

end TextScan.Unicode
