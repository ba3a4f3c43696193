import TextScan.Config.Environment
import TextScan.Proofs.Numeral.Integer
import TextScan.Proofs.Scanner.Conversion

/-!
# Configurations written and read back

A table is a configuration when each of its three settings can be read (`ofTable_eq_ok_iff`). What
`toTable` writes of a configuration that there is (`Obtainable`) reads as that configuration again,
and so does the table with every setting written out as a text (`toTexts`), as long as the width
has no more digits than are read (`obtainable_read_back`).
-/

namespace TextScan

theorem mapError_eq_ok_iff {α ε ε' : Type} {f : ε → ε'} {x : Except ε α} {a : α} :
    x.mapError f = .ok a ↔ x = .ok a := by
  cases x <;> simp [Except.mapError]

namespace CompareOptions

/-- The names of options are read as the options. -/
theorem readNames_write (o : CompareOptions) : readNames o.write = .ok o := by
  obtain ⟨c, d, w⟩ := o
  cases c <;> cases d <;> cases w <;> rfl

theorem write_injective {o p : CompareOptions} (h : o.write = p.write) : o = p := by
  have hread := readNames_write o
  rw [h, readNames_write] at hread
  exact (Except.ok.inj hread).symm

end CompareOptions

namespace Config

/-! ## Widths -/

/-- Integers are unbounded, or of a sign bit and at least one more. -/
def ValidBits (bits : Option Int) : Prop := ∀ w, bits = some w → 2 ≤ w

theorem checkBits_of_le {w : Int} (h : 2 ≤ w) : checkBits w = .ok (some w) := by
  rw [checkBits, if_neg (by omega)]

theorem readBits_bitsValue {bits : Option Int} (h : ValidBits bits) :
    readBits (bitsValue bits) = .ok bits := by
  cases bits with
  | none => rfl
  | some w => exact checkBits_of_le (h w rfl)

theorem bitsValue_injective {a b : Option Int} (h : bitsValue a = bitsValue b) : a = b := by
  cases a <;> cases b <;> simp_all [bitsValue]

theorem readBits_text (t : Text) :
    readBits (.text t) =
      if isWord unboundedWords t then .ok none
      else readInteger (.ofText t.trim) >>= checkBits := rfl

theorem readInteger_ofText (t : Text) {n : Int} :
    readInteger (.ofText t) = .ok n ↔ Integer.read t = .ok n := by
  rw [readInteger, CodePoints.plain_ofText]
  cases Integer.read t with
  | ok m => simp
  | error e => cases e <;> simp

/-- A width that is read of a text can be written. -/
theorem isWritable_of_readBits {t : Text} {w : Int} (h : readBits (.text t) = .ok (some w)) :
    Integer.isWritable w = true := by
  rw [readBits_text] at h
  split at h
  · cases h
  · obtain ⟨n, hn, hcheck⟩ := ok_of_bind h
    have hw : n = w := by
      unfold checkBits at hcheck
      split at hcheck
      · cases hcheck
      · exact Option.some.inj (Except.ok.inj hcheck)
    exact hw ▸ Integer.isWritable_of_read ((readInteger_ofText _).mp hn)

/-! ## Settings as texts -/

/-- A truth value as it is written in a file. -/
def boolText (b : Bool) : Text := if b then "true".toList else "false".toList

def bitsText : Option Int → Text
  | some w => Integer.write w
  | none => "none".toList

theorem readBool_boolText (b : Bool) : readBool (.text (boolText b)) = .ok b := by
  cases b <;> rfl

theorem toLower_of_isDigit {c : Char} (h : c.isDigit = true) : c.toLower = c := by
  obtain ⟨-, hhi⟩ := isDigit_range h
  unfold Char.toLower
  rw [dif_neg]
  rintro ⟨hlo, -⟩
  have : 65 ≤ c.toNat := UInt32.le_iff_toNat_le.mp hlo
  omega

theorem trim_write (n : Int) : (Integer.write n).trim = Integer.write n :=
  Text.trimBy_of_forall fun _ hc => Integer.isBlank_of_mem_write hc

/-- No integer is written as one of the words. -/
theorem isWord_write (n : Int) : isWord unboundedWords (Integer.write n) = false := by
  have hlower : Text.lowerAscii (Integer.write n).trim = Integer.write n := by
    rw [trim_write, Text.lowerAscii]
    refine (List.map_congr_left fun c hc => ?_).trans (List.map_id _)
    rcases Integer.mem_write hc with rfl | hdigit
    · rfl
    · exact toLower_of_isDigit hdigit
  have hletter {w : String} {c : Char} (hc : c ∈ w.toList) (hsign : c ≠ '-')
      (hdigit : c.isDigit = false) : w.toList ≠ Integer.write n := by
    intro hw
    rw [hw] at hc
    rcases Integer.mem_write hc with h | h
    · exact hsign h
    · rw [h] at hdigit
      cases hdigit
  have hempty : "".toList ≠ Integer.write n := by
    intro hw
    have hne : Integer.write n ≠ [] := Integer.write_ne_nil n
    exact hne hw.symm
  unfold isWord
  rw [hlower]
  simp only [unboundedWords, List.any_cons, List.any_nil, Bool.or_false, Bool.or_eq_false_iff,
    decide_eq_false_iff_not]
  exact ⟨hletter (c := 'n') (by decide) (by decide) rfl,
    hletter (c := 'u') (by decide) (by decide) rfl, hempty⟩

theorem readBits_bitsText {bits : Option Int} (h : ValidBits bits)
    (hwrite : ∀ w, bits = some w → Integer.isWritable w = true) :
    readBits (.text (bitsText bits)) = .ok bits := by
  cases bits with
  | none => rfl
  | some w =>
    have hread : readInteger (.ofText (Integer.write w)) = .ok w :=
      (readInteger_ofText _).mpr (Integer.read_write (hwrite w rfl))
    rw [bitsText, readBits_text, isWord_write, if_neg Bool.false_ne_true, trim_write, hread]
    exact checkBits_of_le (h w rfl)

/-! ## Tables -/

theorem ofValues_eq_ok_iff {skip bits : Value} {options : OptionsArgument} {c : Config} :
    ofValues skip options bits = .ok c ↔
      readBool skip = .ok c.skipWhitespace ∧ CompareOptions.ofArgument options = .ok c.options ∧
        readBits bits = .ok c.intBits := by
  constructor
  · intro h
    obtain ⟨b, hb, h⟩ := ok_of_bind h
    obtain ⟨o, ho, h⟩ := ok_of_bind h
    obtain ⟨w, hw, h⟩ := ok_of_bind h
    cases h
    exact ⟨hb, ho, hw⟩
  · rintro ⟨hb, ho, hw⟩
    unfold ofValues
    rw [hb, ho, hw]
    rfl

theorem ofTable_eq_ok_iff {t : Table} {c : Config} :
    ofTable t = .ok c ↔
      readBool ((t.lookup skipKey).getD (.bool true)) = .ok c.skipWhitespace ∧
        (∃ v, joinNames ((t.lookup optionsKey).getD (.text CompareOptions.literal.write)) = .ok v ∧
          CompareOptions.readValue v = .ok c.options) ∧
        readBits ((t.lookup bitsKey).getD (.int defaultBits)) = .ok c.intBits := by
  constructor
  · intro h
    obtain ⟨v, hv, h⟩ := ok_of_bind h
    rw [mapError_eq_ok_iff] at hv h
    obtain ⟨hb, ho, hw⟩ := ofValues_eq_ok_iff.mp h
    exact ⟨hb, ⟨v, hv, ho⟩, hw⟩
  · rintro ⟨hb, ⟨v, hv, ho⟩, hw⟩
    unfold ofTable
    rw [mapError_eq_ok_iff.mpr hv]
    exact mapError_eq_ok_iff.mpr (ofValues_eq_ok_iff.mpr ⟨hb, ho, hw⟩)

/-- The keys are three. -/
theorem keys_ne : skipKey ≠ optionsKey ∧ skipKey ≠ bitsKey ∧ optionsKey ≠ bitsKey := by
  decide

section Lookup

variable (skip options bits : Value)

theorem lookup_skipKey :
    [(skipKey, skip), (optionsKey, options), (bitsKey, bits)].lookup skipKey = some skip :=
  List.lookup_cons_self

theorem lookup_optionsKey :
    [(skipKey, skip), (optionsKey, options), (bitsKey, bits)].lookup optionsKey = some options := by
  rw [List.lookup_cons, beq_eq_false_iff_ne.mpr keys_ne.1.symm]
  exact List.lookup_cons_self

theorem lookup_bitsKey :
    [(skipKey, skip), (optionsKey, options), (bitsKey, bits)].lookup bitsKey = some bits := by
  rw [List.lookup_cons, beq_eq_false_iff_ne.mpr keys_ne.2.1.symm]
  rw [List.lookup_cons, beq_eq_false_iff_ne.mpr keys_ne.2.2.symm]
  exact List.lookup_cons_self

end Lookup

/-- A table with a value for each setting, the options as a text. -/
theorem ofTable_of_values {skip bits : Value} {names : Text} {c : Config}
    (hskip : readBool skip = .ok c.skipWhitespace)
    (hoptions : CompareOptions.readNames names = .ok c.options)
    (hbits : readBits bits = .ok c.intBits) :
    ofTable [(skipKey, skip), (optionsKey, .text names), (bitsKey, bits)] = .ok c := by
  refine ofTable_eq_ok_iff.mpr ?_
  rw [lookup_skipKey, lookup_optionsKey, lookup_bitsKey]
  exact ⟨hskip, ⟨.text names, rfl, hoptions⟩, hbits⟩

/-- The table of a configuration with every setting as a text. -/
def toTexts (c : Config) : Table :=
  [(skipKey, .text (boolText c.skipWhitespace)), (optionsKey, .text c.options.write),
   (bitsKey, .text (bitsText c.intBits))]

theorem toTable_injective {c d : Config} (h : c.toTable = d.toTable) : c = d := by
  simp only [toTable, List.cons.injEq, Prod.mk.injEq, true_and, Value.bool.injEq,
    Value.text.injEq, and_true] at h
  obtain ⟨hskip, hoptions, hbits⟩ := h
  cases c
  cases d
  congr
  · exact CompareOptions.write_injective hoptions
  · exact bitsValue_injective hbits

/-! ## Configurations that there are -/

/-- The configurations that can be had: of three values, of a value that should be a table, or of
the environment. -/
inductive Obtainable : Config → Prop where
  | ofValues {skip bits : Value} {options : OptionsArgument} {c : Config}
      (h : Config.ofValues skip options bits = .ok c) : Obtainable c
  | ofValue {v : Value} {c : Config} (h : Config.ofValue v = .ok c) : Obtainable c
  | ofEnvironment (env : Environment) : Obtainable (Config.ofEnvironment env).1

theorem validBits_of_ofTable {t : Table} {c : Config} (h : ofTable t = .ok c) :
    ValidBits c.intBits := by
  intro w hw
  rw [ofTable_eq_ok_iff] at h
  exact two_le_of_readBits (hw ▸ h.2.2)

theorem validBits_of_readBits (env : Environment) : ValidBits env.readBits.1 := by
  intro w hw
  unfold Environment.readBits Environment.readField at hw
  split at hw
  · cases hw
    decide
  · split at hw
    · rename_i hread
      exact two_le_of_readBits (hread.trans (congrArg Except.ok hw))
    · cases hw
      decide

theorem Obtainable.validBits {c : Config} (h : c.Obtainable) : ValidBits c.intBits := by
  cases h with
  | ofValues h => exact fun w hw => two_le_of_ofValues h hw
  | @ofValue v _ h =>
    cases v with
    | table t => exact validBits_of_ofTable h
    | _ => cases h
  | ofEnvironment env => exact validBits_of_readBits env

/-- **Configurations are read back.** A configuration that there is has a width of at least two, if
it has one; its table and, with a width that is not too long to read, its table of texts read as
the configuration; and no other configuration has the same table. -/
theorem obtainable_read_back {c : Config} (h : c.Obtainable) :
    (∀ w, c.intBits = some w → 2 ≤ w) ∧ ofTable c.toTable = .ok c ∧
      (∀ d : Config, d.Obtainable → d.toTable = c.toTable → d = c) ∧
        ((∀ w, c.intBits = some w → Integer.isWritable w = true) → ofTable c.toTexts = .ok c) := by
  have hbits := h.validBits
  refine ⟨hbits, ?_, fun d _ hd => toTable_injective hd, fun hwrite => ?_⟩
  · exact ofTable_of_values rfl (CompareOptions.readNames_write c.options)
      (readBits_bitsValue hbits)
  · exact ofTable_of_values (readBool_boolText c.skipWhitespace)
      (CompareOptions.readNames_write c.options) (readBits_bitsText hbits hwrite)

/-- A list of names with blanks, a bar and no name in it, and digits of another script. -/
theorem obtainable_read_back_list :
    let t : Table :=
      [(bitsKey, .text [' ', '\u0664', '_', '\u0668']),
       (optionsKey, .list [.text " Width-Insensitive|".toList, .text "case_insensitive".toList])]
    let c : Config := ⟨true, ⟨true, false, true⟩, some 48⟩
    c.Obtainable ∧ ofTable t = .ok c ∧ ofTable c.toTable = .ok c ∧ ofTable c.toTexts = .ok c := by
  intro t c
  have ht : ofTable t = .ok c := by decide +kernel
  have hc : c.Obtainable := .ofValue (v := .table t) ht
  have hwrite (w : Int) (hw : c.intBits = some w) : Integer.isWritable w = true := by
    cases hw
    decide +kernel
  obtain ⟨-, htable, -, htexts⟩ := obtainable_read_back hc
  exact ⟨hc, ht, htable, htexts hwrite⟩

end Config

end TextScan
