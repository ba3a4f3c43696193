import TextScan.Proofs.Compare.Matching

/-!
# Matching another spelling

A respelling writes every character as a text that folds alike, and keeps what decides where a
match may begin and end: whether the start of a spelling folds away, and that a spelling which
does not start with a mark is not the spelling of one. A match then goes over to the other
spelling (`matchLength_respelled`) and comes back (`matchLength_of_respelled`), except that it may
end inside the spelling of a character; in that case the first spelling has no match at all.
-/

namespace TextScan

namespace Folding

variable {F : Folding} {spell : Char → Text}

/-- A spelling of every character as a text that folds alike. -/
structure Respells (F : Folding) (spell : Char → Text) : Prop where
  spell_ne_nil : ∀ c, spell c ≠ []
  alike : ∀ c, F.foldText (spell c) = F.fold c
  isMark_of_head : ∀ {c d : Char} {rest : Text}, spell c = d :: rest →
    F.isMark d = false → F.isMark c = false
  vanishes_of_head : ∀ {c d : Char} {rest : Text}, spell c = d :: rest →
    F.vanishes d = true → F.vanishes c = true

/-! ## Places -/

/-- The place in the respelled text where its first `n` characters end. -/
def reach (spell : Char → Text) (t : Text) (n : Nat) : Nat := ((t.take n).flatMap spell).length

theorem reach_zero (t : Text) : reach spell t 0 = 0 := rfl

theorem reach_cons_succ (c : Char) (t : Text) (n : Nat) :
    reach spell (c :: t) (n + 1) = (spell c).length + reach spell t n := by
  simp [reach]

theorem flatMap_split (spell : Char → Text) (t : Text) (n : Nat) :
    t.flatMap spell = (t.take n).flatMap spell ++ (t.drop n).flatMap spell := by
  rw [← List.flatMap_append, List.take_append_drop]

theorem take_reach (t : Text) (n : Nat) :
    (t.flatMap spell).take (reach spell t n) = (t.take n).flatMap spell := by
  rw [flatMap_split spell t n]
  exact List.take_left

theorem drop_reach (t : Text) (n : Nat) :
    (t.flatMap spell).drop (reach spell t n) = (t.drop n).flatMap spell := by
  rw [flatMap_split spell t n]
  exact List.drop_left

theorem reach_le (t : Text) (n : Nat) : reach spell t n ≤ (t.flatMap spell).length := by
  rw [flatMap_split spell t n, List.length_append]
  exact Nat.le_add_right _ _

theorem reach_add_of_getElem? {t : Text} {n : Nat} {c : Char} (h : t[n]? = some c) :
    reach spell t (n + 1) = reach spell t n + (spell c).length := by
  unfold reach
  rw [List.take_add_one, h, List.flatMap_append, List.length_append]
  simp

theorem reach_mono (t : Text) {m n : Nat} (h : m ≤ n) : reach spell t m ≤ reach spell t n := by
  obtain ⟨k, rfl⟩ := Nat.exists_eq_add_of_le h
  unfold reach
  rw [List.take_add, List.flatMap_append, List.length_append]
  exact Nat.le_add_right _ _

/-- Behind the spellings of the first `n` characters stands the spelling of the next one. -/
theorem getElem?_reach {t : Text} {n : Nat} {c : Char} (h : t[n]? = some c) {k : Nat}
    (hk : k < (spell c).length) : (t.flatMap spell)[reach spell t n + k]? = (spell c)[k]? := by
  obtain ⟨hlt, rfl⟩ := List.getElem?_eq_some_iff.mp h
  rw [← List.getElem?_drop, drop_reach, List.drop_eq_getElem_cons hlt, List.flatMap_cons,
    List.getElem?_append_left hk]

/-- A place lies between two spellings or inside one. -/
theorem reach_or_inside (t : Text) {f : Nat} (hf : f ≤ (t.flatMap spell).length) :
    (∃ n, n ≤ t.length ∧ f = reach spell t n) ∨
      ∃ n c k, t[n]? = some c ∧ 0 < k ∧ k < (spell c).length ∧ f = reach spell t n + k := by
  induction t generalizing f with
  | nil => exact .inl ⟨0, Nat.le_refl 0, Nat.le_zero.mp hf⟩
  | cons c rest ih =>
    rw [List.flatMap_cons, List.length_append] at hf
    rcases Nat.lt_or_ge f (spell c).length with hlt | hge
    · rcases Nat.eq_zero_or_pos f with rfl | hpos
      · exact .inl ⟨0, Nat.zero_le _, (reach_zero _).symm⟩
      · exact .inr ⟨0, c, f, rfl, hpos, hlt, (Nat.zero_add f).symm⟩
    · obtain ⟨g, rfl⟩ := Nat.exists_eq_add_of_le hge
      obtain ⟨n, hn, rfl⟩ | ⟨n, d, k, hd, hpos, hk, rfl⟩ := ih (f := g) (by omega)
      · exact .inl ⟨n + 1, Nat.succ_le_succ hn, (reach_cons_succ c rest n).symm⟩
      · refine .inr ⟨n + 1, d, k, hd, hpos, hk, ?_⟩
        rw [reach_cons_succ, Nat.add_assoc]

/-- Inside the spelling of a character no spelling ends. -/
theorem reach_ne_inside {t : Text} {i : Nat} {c : Char} (h : t[i]? = some c) {k : Nat}
    (hpos : 0 < k) (hk : k < (spell c).length) (n : Nat) :
    reach spell t i + k ≠ reach spell t n := by
  have hnext : reach spell t (i + 1) = reach spell t i + (spell c).length :=
    reach_add_of_getElem? h
  rcases Nat.lt_or_ge i n with hlt | hge
  · have : reach spell t (i + 1) ≤ reach spell t n := reach_mono t hlt
    omega
  · have : reach spell t n ≤ reach spell t i := reach_mono t hge
    omega

/-! ## Matches -/

theorem foldText_respelled (h : F.Respells spell) (t : Text) :
    F.foldText (t.flatMap spell) = F.foldText t := by
  induction t with
  | nil => rfl
  | cons c rest ih => rw [List.flatMap_cons, foldText_append, h.alike, ih, foldText_cons]

theorem fold_head_eq_nil_iff (h : F.Respells spell) {c d : Char} {rest : Text}
    (hc : spell c = d :: rest) : F.fold d = [] ↔ F.fold c = [] := by
  refine ⟨fun hd => ?_, fun hnil => ?_⟩
  · exact vanishes_iff.mp (h.vanishes_of_head hc (vanishes_iff.mpr hd))
  · have halike := h.alike c
    rw [hc, foldText_cons, hnil] at halike
    exact (List.append_eq_nil_iff.mp halike).1

/-- Where the spellings of the first characters end, the spelling of the next one starts. -/
theorem head_at_reach (h : F.Respells spell) {t : Text} {n : Nat} {d : Char}
    (hd : (t.flatMap spell)[reach spell t n]? = some d) :
    ∃ c rest, t[n]? = some c ∧ spell c = d :: rest := by
  cases hn : t[n]? with
  | none =>
    have hend : t.drop n = [] := List.drop_eq_nil_iff.mpr (List.getElem?_eq_none_iff.mp hn)
    rw [← List.head?_drop, drop_reach, hend] at hd
    cases hd
  | some c =>
    obtain ⟨e, rest, hc⟩ := List.exists_cons_of_ne_nil (h.spell_ne_nil c)
    rw [← Nat.add_zero (reach spell t n), getElem?_reach hn (by simp [hc]), hc] at hd
    cases hd
    exact ⟨c, rest, rfl, hc⟩

theorem startsVanishing_respelled (h : F.Respells spell) (t : Text) :
    F.startsVanishing (t.flatMap spell) = F.startsVanishing t := by
  cases t with
  | nil => rfl
  | cons c rest =>
    obtain ⟨d, more, hc⟩ := List.exists_cons_of_ne_nil (h.spell_ne_nil c)
    rw [List.flatMap_cons, hc, Bool.eq_iff_iff]
    show F.vanishes d = true ↔ F.vanishes c = true
    rw [vanishes_iff, vanishes_iff, fold_head_eq_nil_iff h hc]

/-- Two parts that fold alike, with nothing behind them that folds away, are the same part. -/
theorem eq_of_alike {t : Text} {m n : Nat} (hm : m ≤ t.length) (hn : n ≤ t.length)
    (halike : F.foldText (t.take m) = F.foldText (t.take n))
    (hmstop : ∀ c, t[m]? = some c → F.fold c ≠ []) (hnstop : ∀ c, t[n]? = some c → F.fold c ≠ []) :
    m = n := by
  have hle {i j : Nat} (hj : j ≤ t.length) (hij : F.foldText (t.take i) = F.foldText (t.take j))
      (hstop : ∀ c, t[i]? = some c → F.fold c ≠ []) : j ≤ i := by
    rcases Nat.lt_or_ge i j with hlt | hge
    · obtain ⟨k, rfl⟩ := Nat.exists_eq_add_of_lt hlt
      have hi : i < t.length := by omega
      rw [Nat.add_assoc, foldText_take_add, List.drop_eq_getElem_cons hi, List.take_succ_cons,
        foldText_cons] at hij
      have hnil := (List.append_eq_nil_iff.mp (List.self_eq_append_right.mp hij)).1
      exact absurd hnil (hstop _ (List.getElem?_eq_getElem hi))
    · exact hge
  exact Nat.le_antisymm (hle hm halike.symm hnstop) (hle hn halike hmstop)

section IsMatch

variable {t literal : Text}

theorem isMatch_respelled (h : F.Respells spell) {n : Nat} (hmatch : F.IsMatch t literal n)
    (hopen : ∀ c d rest, t[n]? = some c → spell c = d :: rest → F.isMark c = false →
      F.isMark d = false) :
    F.IsMatch (t.flatMap spell) literal (reach spell t n) := by
  obtain ⟨hl, hstart, hle, halike, hstop⟩ := hmatch
  refine ⟨hl, ?_, reach_le t n, ?_, fun d hd => ?_⟩
  · rw [startsVanishing_respelled h, hstart]
  · rw [take_reach, foldText_respelled h, halike]
  · obtain ⟨c, rest, hn, hc⟩ := head_at_reach h hd
    rw [ne_eq, fold_head_eq_nil_iff h hc]
    exact ⟨(hstop c hn).1, hopen c d rest hn hc (hstop c hn).2⟩

theorem isMatch_of_respelled (h : F.Respells spell) {n : Nat} (hn : n ≤ t.length)
    (hmatch : F.IsMatch (t.flatMap spell) literal (reach spell t n)) : F.IsMatch t literal n := by
  obtain ⟨hl, hstart, -, halike, hstop⟩ := hmatch
  refine ⟨hl, ?_, hn, ?_, fun c hc => ?_⟩
  · rw [← startsVanishing_respelled h, hstart]
  · rw [← halike, take_reach, foldText_respelled h]
  · obtain ⟨d, rest, hspell⟩ := List.exists_cons_of_ne_nil (h.spell_ne_nil c)
    have hnext : (t.flatMap spell)[reach spell t n]? = some d := by
      rw [← Nat.add_zero (reach spell t n), getElem?_reach hc (by simp [hspell]), hspell]
      rfl
    obtain ⟨hfold, hmark⟩ := hstop d hnext
    rw [ne_eq, fold_head_eq_nil_iff h hspell] at hfold
    exact ⟨hfold, h.isMark_of_head hspell hmark⟩

/-- A match that ends inside a spelling leaves no match of the text itself: it would fold alike
and end at another place. -/
theorem not_isMatch_of_inside (h : F.Respells spell) {i k : Nat} {c : Char} (hc : t[i]? = some c)
    (hpos : 0 < k) (hk : k < (spell c).length)
    (hmatch : F.IsMatch (t.flatMap spell) literal (reach spell t i + k)) (n : Nat) :
    ¬ F.IsMatch t literal n := by
  intro hplain
  refine reach_ne_inside hc hpos hk n
    (eq_of_alike hmatch.le_length (reach_le t n) ?_ (fun d hd => (hmatch.stops d hd).1) ?_)
  · rw [hmatch.alike, take_reach, foldText_respelled h, hplain.alike]
  · intro d hd
    obtain ⟨e, rest, hn, he⟩ := head_at_reach h hd
    rw [ne_eq, fold_head_eq_nil_iff h he]
    exact (hplain.stops e hn).1

/-- A match goes over to the other spelling, unless what follows it does not start with a mark
and is spelled so that it does. -/
theorem matchLength_respelled (h : F.Respells spell) {n : Nat}
    (hmatch : F.matchLength t literal = some n)
    (hopen : ∀ c d rest, t[n]? = some c → spell c = d :: rest → F.isMark c = false →
      F.isMark d = false) :
    F.matchLength (t.flatMap spell) literal = some (reach spell t n) :=
  matchLength_eq_some_iff.mpr (isMatch_respelled h (matchLength_eq_some_iff.mp hmatch) hopen)

/-- A match of the other spelling comes back, or there is none to come back to: it ends inside the
spelling of a character, before a part that is no mark. -/
theorem matchLength_of_respelled (h : F.Respells spell) {f : Nat}
    (hmatch : F.matchLength (t.flatMap spell) literal = some f) :
    (∃ n, F.matchLength t literal = some n ∧ f = reach spell t n) ∨
      F.matchLength t literal = none ∧
        ∃ i k c d, t[i]? = some c ∧ 0 < k ∧ (spell c)[k]? = some d ∧ F.isMark d = false ∧
          f = reach spell t i + k := by
  have hmatch := matchLength_eq_some_iff.mp hmatch
  obtain ⟨n, hn, rfl⟩ | ⟨i, c, k, hc, hpos, hk, rfl⟩ := reach_or_inside t hmatch.le_length
  · exact .inl ⟨n, matchLength_eq_some_iff.mpr (isMatch_of_respelled h hn hmatch), rfl⟩
  · refine .inr ⟨?_, i, k, c, (spell c)[k], hc, hpos, List.getElem?_eq_getElem hk, ?_, rfl⟩
    · rw [Option.eq_none_iff_forall_ne_some]
      intro n hn
      exact not_isMatch_of_inside h hc hpos hk hmatch n (matchLength_eq_some_iff.mp hn)
    · refine (hmatch.stops _ ?_).2
      rw [getElem?_reach hc hk, List.getElem?_eq_getElem hk]

end IsMatch

end Folding

end TextScan
