import Mathlib.Data.List.Basic
import Mathlib.Data.Set.List
import TextScan.Config.Basic

/-!
# Lists of option names

Options are read of a text name by name, so a text put together of others with separators between
them (`Joined`) reads as these read one after the other, and gives the flags that they give together
(`readEach_eq_ok_iff`), or the first error among theirs (`readEach_of_error`). It does not matter
which separator stands where, nor what the order of the parts is or whether one comes twice, and a
table with a list of names is read like one with any of its joined texts (`options_of_joined`). Texts
are sequences of code points here, since a name may hold a surrogate.
-/

namespace TextScan

namespace CodePoints

theorem ofText_of_toText? {t : CodePoints} {u : Text} (h : t.toText? = some u) : ofText u = t := by
  induction t generalizing u with
  | nil =>
    cases h
    rfl
  | cons p rest ih =>
    cases p with
    | char c =>
      obtain ⟨v, hv, rfl⟩ := Option.map_eq_some_iff.mp h
      exact congrArg (CodePoint.char c :: ·) (ih hv)
    | surrogate place => cases h

end CodePoints

namespace CompareOptions

/-! ## Unions -/

theorem union_literal (o : CompareOptions) : o.union literal = o := by
  simp only [union, literal, Bool.or_false]

theorem union_assoc (o p q : CompareOptions) : (o.union p).union q = o.union (p.union q) := by
  simp only [union, Bool.or_assoc]

/-- The union of two sets of flags is that of their binary digits. -/
theorem mask_union (o p : CompareOptions) : (o.union p).mask = o.mask ||| p.mask := by
  obtain ⟨c, d, w⟩ := o
  obtain ⟨c', d', w'⟩ := p
  cases c <;> cases d <;> cases w <;> cases c' <;> cases d' <;> cases w' <;> rfl

/-- The options with every flag that one of them has. -/
def unionAll (os : List CompareOptions) : CompareOptions :=
  ⟨os.any caseInsensitive, os.any diacriticInsensitive, os.any widthInsensitive⟩

theorem unionAll_cons (o : CompareOptions) (os : List CompareOptions) :
    unionAll (o :: os) = o.union (unionAll os) := rfl

theorem mask_unionAll (os : List CompareOptions) :
    (unionAll os).mask = (os.map mask).foldr (· ||| ·) 0 := by
  induction os with
  | nil => rfl
  | cons o os ih => rw [unionAll_cons, mask_union, ih, List.map_cons, List.foldr_cons]

/-- Neither order nor repetition matters. -/
theorem unionAll_congr {os os' : List CompareOptions} (h : ∀ o, o ∈ os ↔ o ∈ os') :
    unionAll os = unionAll os' := by
  have hany (flag : CompareOptions → Bool) : os.any flag = os'.any flag := by
    rw [Bool.eq_iff_iff, List.any_eq_true, List.any_eq_true]
    simp only [h]
  simp only [unionAll, hany]

/-! ## Reading a text in two parts -/

theorem addName_eq (o : CompareOptions) (raw : Text) :
    o.addName raw = (literal.addName raw).map o.union := by
  unfold addName
  dsimp only
  split
  · exact congrArg Except.ok (union_literal o).symm
  · cases ofName? raw.trim <;> rfl

theorem addPiece_eq (o : CompareOptions) (piece : CodePoints) :
    o.addPiece piece = (literal.addPiece piece).map o.union := by
  unfold addPiece
  cases piece.toText? with
  | none => rfl
  | some raw => exact addName_eq o raw

/-- Names that are read after others add their flags. -/
theorem foldlM_addPiece_eq (o : CompareOptions) (pieces : List CodePoints) :
    pieces.foldlM addPiece o = (pieces.foldlM addPiece literal).map o.union := by
  induction pieces generalizing o with
  | nil => exact congrArg Except.ok (union_literal o).symm
  | cons piece rest ih =>
    rw [List.foldlM_cons, List.foldlM_cons, addPiece_eq o]
    cases literal.addPiece piece with
    | error e => rfl
    | ok p =>
      show rest.foldlM addPiece (o.union p) = (rest.foldlM addPiece p).map o.union
      rw [ih (o.union p), ih p]
      cases rest.foldlM addPiece literal with
      | error e => rfl
      | ok q => exact congrArg Except.ok (union_assoc o p q)

/-- What stands before a separator is read first, and what stands after it if that can be read. -/
theorem readPieces_append {sep : CodePoint} (hsep : isSeparatorPoint sep = true)
    (x t : CodePoints) :
    readPieces (x ++ sep :: t) = readPieces x >>= fun o => (readPieces t).map o.union := by
  unfold readPieces
  rw [List.splitOnP_append_cons x t hsep, List.foldlM_append]
  exact congrArg _ (funext fun o => foldlM_addPiece_eq o _)

/-! ## Joined texts -/

/-- Texts one after the other, with some separator between neighbours. -/
inductive Joined : List CodePoints → CodePoints → Prop where
  | nil : Joined [] []
  | single (x : CodePoints) : Joined [x] x
  | cons (x : CodePoints) {sep : CodePoint} {xs : List CodePoints} {t : CodePoints}
      (hsep : isSeparatorPoint sep = true) (hxs : xs ≠ []) (h : Joined xs t) :
      Joined (x :: xs) (x ++ sep :: t)

theorem joined_intercalate (xs : List CodePoints) : Joined xs ([.char ','].intercalate xs) := by
  induction xs with
  | nil => exact .nil
  | cons x xs ih =>
    cases xs with
    | nil =>
      rw [List.intercalate_singleton]
      exact .single x
    | cons y ys =>
      rw [List.intercalate_cons_cons, List.append_assoc]
      exact .cons x rfl (List.cons_ne_nil y ys) ih

/-- Texts read one after the other. The first one that cannot be read is the error. -/
def readEach : List CodePoints → Except InvalidValue CompareOptions
  | [] => .ok literal
  | x :: xs => readPieces x >>= fun o => (readEach xs).map o.union

theorem readEach_cons_of_ok {x : CodePoints} {o : CompareOptions} (hx : readPieces x = .ok o)
    (xs : List CodePoints) : readEach (x :: xs) = (readEach xs).map o.union := by
  rw [readEach, hx]
  rfl

theorem readEach_cons_of_error {x : CodePoints} {e : InvalidValue} (hx : readPieces x = .error e)
    (xs : List CodePoints) : readEach (x :: xs) = .error e := by
  rw [readEach, hx]
  rfl

/-- A joined text reads as its parts do, one after the other. -/
theorem readPieces_joined {xs : List CodePoints} {t : CodePoints} (h : Joined xs t) :
    readPieces t = readEach xs := by
  induction h with
  | nil => rfl
  | single x =>
    cases hx : readPieces x with
    | error e => rw [readEach_cons_of_error hx]
    | ok o =>
      rw [readEach_cons_of_ok hx]
      exact congrArg Except.ok (union_literal o).symm
  | cons x hsep hxs h ih => rw [readPieces_append hsep, ih, readEach]

/-- All the flags of the parts are read, if every part can be read. -/
theorem readEach_eq_ok_iff {xs : List CodePoints} {o : CompareOptions} :
    readEach xs = .ok o ↔ ∃ os, xs.map readPieces = os.map .ok ∧ unionAll os = o := by
  constructor
  · intro h
    induction xs generalizing o with
    | nil => exact ⟨[], rfl, Except.ok.inj h⟩
    | cons x xs ih =>
      cases hx : readPieces x with
      | error e =>
        rw [readEach_cons_of_error hx] at h
        cases h
      | ok p =>
        rw [readEach_cons_of_ok hx] at h
        cases hxs : readEach xs with
        | error e =>
          rw [hxs] at h
          cases h
        | ok q =>
          obtain ⟨os, hos, rfl⟩ := ih hxs
          rw [hxs] at h
          exact ⟨p :: os, by rw [List.map_cons, hx, hos, List.map_cons], Except.ok.inj h⟩
  · rintro ⟨os, hos, rfl⟩
    induction xs generalizing os with
    | nil =>
      obtain rfl := List.map_eq_nil_iff.mp hos.symm
      rfl
    | cons x xs ih =>
      cases os with
      | nil => cases hos
      | cons p os =>
        obtain ⟨hx, hxs⟩ := List.cons_eq_cons.mp hos
        rw [readEach_cons_of_ok hx, ih os hxs]
        rfl

theorem readEach_of_error {before after : List CodePoints} {x : CodePoints} {e : InvalidValue}
    (hbefore : ∀ y ∈ before, ∃ o, readPieces y = .ok o) (hx : readPieces x = .error e) :
    readEach (before ++ x :: after) = .error e := by
  induction before with
  | nil => exact readEach_cons_of_error hx after
  | cons y before ih =>
    obtain ⟨o, ho⟩ := hbefore y List.mem_cons_self
    rw [List.cons_append, readEach_cons_of_ok ho,
      ih fun z hz => hbefore z (List.mem_cons_of_mem y hz)]
    rfl

/-- Texts can be read one after the other if each of them can. -/
theorem exists_readEach_iff {xs : List CodePoints} :
    (∃ o, readEach xs = .ok o) ↔ ∀ x ∈ xs, ∃ o, readPieces x = .ok o := by
  constructor
  · rintro ⟨o, ho⟩ x hx
    obtain ⟨os, hos, -⟩ := readEach_eq_ok_iff.mp ho
    have hmem : readPieces x ∈ os.map .ok := hos ▸ List.mem_map_of_mem hx
    obtain ⟨p, -, hp⟩ := List.mem_map.mp hmem
    exact ⟨p, hp.symm⟩
  · intro h
    have hmem : xs.map readPieces ∈ Set.range (List.map Except.ok) := by
      rw [Set.range_list_map]
      exact List.forall_mem_map.mpr fun x hx => (h x hx).imp fun _ ho => ho.symm
    obtain ⟨os, hos⟩ := hmem
    exact ⟨unionAll os, readEach_eq_ok_iff.mpr ⟨os, hos.symm, rfl⟩⟩

/-- Texts that occur among each other read alike. -/
theorem readEach_congr {xs ys : List CodePoints} (h : ∀ x, x ∈ ys ↔ x ∈ xs) {o : CompareOptions}
    (hxs : readEach xs = .ok o) : readEach ys = .ok o := by
  obtain ⟨os, hos, rfl⟩ := readEach_eq_ok_iff.mp hxs
  obtain ⟨p, hys⟩ := exists_readEach_iff.mpr fun y hy =>
    exists_readEach_iff.mp ⟨_, hxs⟩ y ((h y).mp hy)
  obtain ⟨os', hos', rfl⟩ := readEach_eq_ok_iff.mp hys
  have hmem {zs : List CodePoints} {ps : List CompareOptions}
      (hps : zs.map readPieces = ps.map .ok) (q : CompareOptions) :
      q ∈ ps ↔ ∃ z ∈ zs, readPieces z = .ok q := by
    rw [← List.mem_map, hps, List.mem_map_of_injective fun _ _ => Except.ok.inj]
  rw [hys, unionAll_congr fun q => ?_]
  rw [hmem hos', hmem hos]
  simp only [h]

/-! ## Texts as values -/

theorem isSeparatorPoint_char (c : Char) :
    isSeparatorPoint (.char c) = isNameSeparator c := by
  simp only [isSeparatorPoint, isNameSeparator, CodePoint.char.injEq]

/-- A text is cut into the same names as its code points. -/
theorem splitOnP_ofText (t : Text) :
    (CodePoints.ofText t).splitOnP isSeparatorPoint =
      (t.splitOnP isNameSeparator).map CodePoints.ofText := by
  induction t with
  | nil => rfl
  | cons c rest ih =>
    have hcons : CodePoints.ofText (c :: rest) = .char c :: CodePoints.ofText rest := rfl
    rw [hcons, List.splitOnP_cons_eq_if_modifyHead, List.splitOnP_cons_eq_if_modifyHead, ih,
      isSeparatorPoint_char]
    split
    · rfl
    · cases rest.splitOnP isNameSeparator <;> rfl

theorem readPieces_ofText (t : Text) : readPieces (.ofText t) = readNames t := by
  unfold readPieces readNames
  rw [splitOnP_ofText, List.foldlM_map]
  simp only [addPiece, CodePoints.toText?_ofText]

/-- What is read of a text that is given for the options. -/
def readText (t : CodePoints) : Except InvalidValue CompareOptions :=
  ofArgument (.value (.ofCodePoints t))

/-- With or without a surrogate, a text is read by its code points. -/
theorem readText_eq (t : CodePoints) : readText t = readPieces t := by
  unfold readText Value.ofCodePoints
  cases ht : t.toText? with
  | none => rfl
  | some u =>
    rw [← CodePoints.ofText_of_toText? ht, readPieces_ofText]
    rfl

end CompareOptions

namespace Config

open CompareOptions (Joined readText unionAll mask)

theorem display_ofCodePoints (t : CodePoints) : (Value.ofCodePoints t).display = t := by
  unfold Value.ofCodePoints
  cases ht : t.toText? with
  | none => rfl
  | some u => exact CodePoints.ofText_of_toText? ht

theorem checkWrite_ofCodePoints (t : CodePoints) : (Value.ofCodePoints t).checkWrite = .ok () := by
  unfold Value.ofCodePoints
  cases t.toText? <;> rfl

/-- A list of texts is joined by commas. -/
theorem joinNames_texts (xs : List CodePoints) :
    joinNames (.list (xs.map .ofCodePoints)) =
      .ok (.ofCodePoints ([.char ','].intercalate xs)) := by
  have hwrite : (xs.map Value.ofCodePoints).forM Value.checkWrite = .ok () := by
    induction xs with
    | nil => rfl
    | cons x xs ih =>
      show ((Value.ofCodePoints x).checkWrite >>= fun _ =>
        (xs.map Value.ofCodePoints).forM Value.checkWrite) = _
      rw [checkWrite_ofCodePoints]
      exact ih
  have hdisplay : (xs.map Value.ofCodePoints).map Value.display = xs := by
    simp only [List.map_map, Function.comp_def, display_ofCodePoints, List.map_id']
  show ((xs.map Value.ofCodePoints).forM Value.checkWrite >>= fun _ => _) = _
  rw [hwrite, hdisplay]
  rfl

/-- A table with a list of texts for the options is read like one with the texts joined. -/
theorem ofTable_of_texts {s : Table} {xs : List CodePoints}
    (hs : s.lookup optionsKey = some (.list (xs.map .ofCodePoints))) {t : CodePoints}
    (ht : Joined xs t) :
    ofTable s =
      (ofValues ((s.lookup skipKey).getD (.bool true)) (.value (.ofCodePoints t))
        ((s.lookup bitsKey).getD (.int defaultBits))).mapError .ofInvalid := by
  have hread : readText ([.char ','].intercalate xs) = readText t := by
    rw [CompareOptions.readText_eq, CompareOptions.readText_eq, CompareOptions.readPieces_joined ht,
      CompareOptions.readPieces_joined (CompareOptions.joined_intercalate xs)]
  unfold readText at hread
  unfold ofTable
  rw [hs, Option.getD_some, joinNames_texts]
  show (ofValues _ (.value (.ofCodePoints ([.char ','].intercalate xs))) _).mapError _ = _
  unfold ofValues
  rw [hread]

/-- **Option names are read part by part.** Options can be read of a joined text just if they can be
read of each part. They are then the union, bit by bit, and the same for every text joined of these
parts in any order and number; otherwise the error is that of the first part that has one. A table
with the parts in a list is read with the options, or the error, of the joined text. -/
theorem options_of_joined {xs : List CodePoints} {t : CodePoints} (h : Joined xs t) :
    ((∃ o, readText t = .ok o) ↔ ∀ x ∈ xs, ∃ o, readText x = .ok o) ∧
      (∀ os, xs.map readText = os.map .ok →
        readText t = .ok (unionAll os) ∧
          (unionAll os).mask = (os.map mask).foldr (· ||| ·) 0) ∧
      (∀ ys u o, Joined ys u → (∀ x, x ∈ ys ↔ x ∈ xs) → readText t = .ok o →
        readText u = .ok o) ∧
      (∀ before x after e, xs = before ++ x :: after → (∀ y ∈ before, ∃ o, readText y = .ok o) →
        readText x = .error e → readText t = .error e) ∧
      ∀ s : Table, s.lookup optionsKey = some (.list (xs.map .ofCodePoints)) →
        ofTable s =
          (do
            let skip ← readBool ((s.lookup skipKey).getD (.bool true))
            let o ← readText t
            let bits ← readBits ((s.lookup bitsKey).getD (.int defaultBits))
            return ⟨skip, o, bits⟩ : Except InvalidValue Config).mapError .ofInvalid := by
  have hread : readText = CompareOptions.readPieces := funext CompareOptions.readText_eq
  have ht : readText t = CompareOptions.readEach xs := by
    rw [hread, CompareOptions.readPieces_joined h]
  rw [ht, hread]
  refine ⟨CompareOptions.exists_readEach_iff, fun os hos => ⟨?_, CompareOptions.mask_unionAll os⟩,
    fun ys u o hu hmem ho => ?_, ?_, fun s hs => ?_⟩
  · exact CompareOptions.readEach_eq_ok_iff.mpr ⟨os, hos, rfl⟩
  · rw [CompareOptions.readPieces_joined hu]
    exact CompareOptions.readEach_congr hmem ho
  · rintro before x after e rfl hbefore hx
    exact CompareOptions.readEach_of_error hbefore hx
  · rw [ofTable_of_texts hs h, ← ht]
    rfl

/-- Names in several forms, one with a separator in it and one empty; and a list in which the second
name is unknown. -/
theorem options_of_joined_mixed :
    let width : CodePoints := .ofString " Width-Insensitive|"
    let case : CodePoints := .ofString "case_insensitive,LITERAL"
    let unknown : CodePoints := .ofString "fuzzy "
    let t : CodePoints := width ++ .char '|' :: ([] ++ .char ',' :: case)
    let u : CodePoints := case ++ .char '|' :: (unknown ++ .char ',' :: width)
    (Joined [width, [], case] t ∧ readText t = .ok ⟨true, false, true⟩ ∧
        ofTable [(optionsKey, .list ([width, [], case].map .ofCodePoints))] =
          .ok ⟨true, ⟨true, false, true⟩, some 64⟩) ∧
      Joined [case, unknown, width] u ∧
        readText u = .error (.unknownOption (.ofString "fuzzy")) := by
  intro width case unknown t u
  have ht : Joined [width, [], case] t :=
    .cons width rfl (List.cons_ne_nil _ _) (.cons [] rfl (List.cons_ne_nil _ _) (.single case))
  have hu : Joined [case, unknown, width] u :=
    .cons case rfl (List.cons_ne_nil _ _) (.cons unknown rfl (List.cons_ne_nil _ _) (.single width))
  have hparts : [width, [], case].map readText =
      [⟨false, false, true⟩, .literal, ⟨true, false, false⟩].map .ok := by decide +kernel
  have hcase : readText case = .ok ⟨true, false, false⟩ := by decide +kernel
  have hunknown : readText unknown = .error (.unknownOption (.ofString "fuzzy")) := by
    decide +kernel
  obtain ⟨-, hunion, -, -, htable⟩ := options_of_joined ht
  have hread : readText t = .ok ⟨true, false, true⟩ := (hunion _ hparts).1
  obtain ⟨-, -, -, hfirst, -⟩ := options_of_joined hu
  refine ⟨⟨ht, hread, ?_⟩, hu, hfirst [case] unknown [width] _ rfl ?_ hunknown⟩
  · rw [htable _ rfl, hread]
    rfl
  · exact List.forall_mem_singleton.mpr ⟨_, hcase⟩

end Config

end TextScan
