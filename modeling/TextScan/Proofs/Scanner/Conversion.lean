import TextScan.Proofs.Scanner.Failure

/-!
# Which errors scanning ends in

Under a configuration that is accepted the operations for scanning end in errors of scanning, with
one exception: `parseInt` does not convert more than `Integer.maxDigits` digits, and it needs the
range of the width that is set for integers, which for an enormous width cannot be computed. It
reports neither as an error of scanning (`run_fails_scanning`, `parseInt_tooManyDigits`).
-/

namespace TextScan

theorem ok_of_bind {ε α β : Type} {x : Except ε α} {f : α → Except ε β} {b : β}
    (h : x >>= f = .ok b) : ∃ a, x = .ok a ∧ f a = .ok b := by
  cases x with
  | error e => cases h
  | ok a => exact ⟨a, rfl, h⟩

namespace Config

theorem two_le_of_checkBits {n w : Int} (h : checkBits n = .ok (some w)) : 2 ≤ w := by
  unfold checkBits at h
  split at h <;> cases h
  omega

theorem two_le_of_readBits {v : Value} {w : Int} (h : readBits v = .ok (some w)) : 2 ≤ w := by
  unfold readBits at h
  split at h
  · cases h
  · split at h
    · cases h
    · obtain ⟨n, -, hn⟩ := ok_of_bind h
      exact two_le_of_checkBits hn
  · obtain ⟨n, -, hn⟩ := ok_of_bind h
    exact two_le_of_checkBits hn
  · exact two_le_of_checkBits h
  · cases h

/-- A configuration that is accepted leaves integers a sign and a digit. -/
theorem two_le_of_ofValues {skip bits : Value} {options : OptionsArgument} {config : Config}
    (h : ofValues skip options bits = .ok config) {w : Int} (hw : config.intBits = some w) :
    2 ≤ w := by
  obtain ⟨_, -, h⟩ := ok_of_bind h
  obtain ⟨_, -, h⟩ := ok_of_bind h
  obtain ⟨width, hwidth, h⟩ := ok_of_bind h
  cases h
  subst hw
  exact two_le_of_readBits hwidth

/-- The range of such a configuration cannot be computed only if its width is enormous. -/
theorem intRange_error {config : Config} {w : Int} (hw : config.intBits = some w)
    (hle : 2 ≤ w) {e : Fault} (h : config.intRange = .error e) :
    maxWidthInMemory < w ∧ (e = .tooLarge ∨ e = .outOfMemory) := by
  have hmax : maxWidthInMemory < maxWidth := by decide
  unfold intRange at h
  rw [hw] at h
  dsimp only at h
  split at h
  · omega
  · split at h
    · cases h
      exact ⟨by omega, .inl rfl⟩
    · split at h
      · cases h
        rename_i hlt
        exact ⟨hlt, .inr rfl⟩
      · cases h

end Config

namespace Scanner

/-- A failure to convert digits that is no error of scanning. -/
def Inconvertible (config : Config) (digits : Text) (e : Fault) : Prop :=
  digits ≠ [] ∧
    (Integer.maxDigits < digits.length ∧ e = .invalid (.tooManyDigits digits.length) ∨
      ∃ w, config.intBits = some w ∧ Config.maxWidthInMemory < w ∧
        (e = .tooLarge ∨ e = .outOfMemory))

theorem convert_of_many {c : Config} {digits : Text} (h : Integer.maxDigits < digits.length)
    (start : Nat) : convert c digits start = .error (.invalid (.tooManyDigits digits.length)) := by
  have hne : digits.isEmpty = false := by
    cases digits with
    | nil => exact absurd h (Nat.not_lt_zero _)
    | cons c rest => rfl
  unfold convert
  rw [hne, if_neg Bool.false_ne_true, if_pos h]

theorem eq_of_convert {c : Config} {digits : Text} {start n : Nat}
    (h : convert c digits start = .ok n) : n = Integer.ofAsciiDigits digits := by
  unfold convert at h
  split at h
  · cases h
  · split at h
    · cases h
    · split at h <;> cases h
      rfl

section Accepted

variable {skip bits : Value} {options : OptionsArgument} {c : Config}
  (hc : Config.ofValues skip options bits = .ok c)
include hc

theorem inconvertible_of_convert {digits : Text} {start : Nat} {e : Fault}
    (h : convert c digits start = .error e) :
    (∃ err : ScanError, e = .scan err ∧ err.cause = .invalidNumber digits) ∨
      Inconvertible c digits e := by
  obtain ⟨err, he, hcause, -⟩ | ⟨hne, hmany | ⟨-, hrange⟩⟩ := error_of_convert h
  · exact .inl ⟨err, he, hcause⟩
  · exact .inr ⟨hne, .inl hmany⟩
  · refine .inr ⟨hne, .inr ?_⟩
    cases hw : c.intBits with
    | none =>
      unfold Config.intRange at hrange
      rw [hw] at hrange
      cases hrange
    | some w =>
      exact ⟨w, rfl, Config.intRange_error hw (Config.two_le_of_ofValues hc hw) hrange⟩

/-- The digits that are not too many are a number, or are reported. -/
theorem convert_of_few {digits : Text} (hfew : digits.length ≤ Integer.maxDigits)
    (hwidth : ∀ w, c.intBits = some w → w ≤ Config.maxWidthInMemory) (start : Nat) :
    convert c digits start = .ok (Integer.ofAsciiDigits digits) ∨
      ∃ err : ScanError, convert c digits start = .error (.scan err) ∧
        err.cause = .invalidNumber digits := by
  cases h : convert c digits start with
  | ok n => exact .inl (congrArg Except.ok (eq_of_convert h))
  | error e =>
    obtain ⟨err, rfl, hcause⟩ | ⟨-, ⟨hmany, -⟩ | ⟨w, hw, hwide, -⟩⟩ := inconvertible_of_convert hc h
    · exact .inr ⟨err, rfl, hcause⟩
    · omega
    · have := hwidth w hw
      omega

theorem inconvertible_of_failure {s : Scanner} (hs : s.config = c) {st : Step}
    (hst : st.isSafe = true) {e : Fault} {after : Nat} (h : Failure s st e after) :
    (∃ err, e = .scan err ∧ err.cause ≠ .general) ∨
      ∃ skip, st = .parseInt skip ∧ Inconvertible c (s.digitsAhead skip) e := by
  cases h with
  | endOfInput => exact .inl ⟨_, rfl, nofun⟩
  | mismatch => exact .inl ⟨_, rfl, nofun⟩
  | missing =>
    refine .inl ⟨_, rfl, fun hgeneral => ?_⟩
    rw [(missing_eq _ _ _).2] at hgeneral
    cases hgeneral
  | @unconverted skip _ he =>
    rw [hs] at he
    obtain ⟨err, rfl, hcause⟩ | hinconvertible := inconvertible_of_convert hc he
    · refine .inl ⟨err, rfl, fun hgeneral => ?_⟩
      rw [hcause] at hgeneral
      cases hgeneral
    · exact .inr ⟨skip, rfl, hinconvertible⟩
  | caller hunsafe =>
    rw [hst] at hunsafe
    cases hunsafe

end Accepted

end Scanner

theorem Step.isOperation_of_isSafe {st : Step} (h : st.isSafe = true) : st.isOperation = true := by
  cases st with
  | peekUnchecked | advanceUnchecked => cases h
  | advanceIfEquals => rfl
  | _ => exact h

namespace Session

open Scanner

/-- Operations leave the settings as they are. -/
theorem config_run {s : Session} (hs : s.scanner.InBounds) {steps : List Step}
    (hsteps : ∀ st ∈ steps, st.isOperation = true) :
    (s.run steps).2.scanner.config = s.scanner.config := by
  have hkept : (s.run steps).2.scanner.config = s.scanner.config ∧
      (s.run steps).2.scanner.InBounds := by
    refine run_invariant_of_mem
      (P := fun t => t.scanner.config = s.scanner.config ∧ t.scanner.InBounds)
      (fun t st hst ht => ?_) ⟨rfl, hs⟩
    have hw := step_within ht.2 st
    exact ⟨(hw.config (hsteps st hst)).trans ht.1, hw.inBounds⟩
  exact hkept.1

theorem config_startAt {source : Text} {index : Int} {config : Config} {scanner : Scanner}
    (h : Scanner.startAt source index config = .ok scanner) : scanner.config = config := by
  unfold Scanner.startAt at h
  split at h <;> cases h
  rfl

theorem step_parseInt (s : Session) (skip : Option Bool) :
    (s.step (.parseInt skip)).1 =
      (convert s.scanner.config (s.scanner.digitsAhead skip)
        (s.scanner.skipped skip).cursor).map .number := by
  show (s.scanner.run (Scanner.parseInt skip)).1.map _ = _
  rw [run_parseInt]
  rfl

theorem cursor_step_parseInt (s : Session) (skip : Option Bool) :
    (s.step (.parseInt skip)).2.scanner.cursor =
      (s.scanner.skipped skip).cursor + (s.scanner.digitsAhead skip).length := by
  show (s.scanner.run (Scanner.parseInt skip)).2.cursor = _
  rw [run_parseInt]
  rfl

theorem step_parseInt_of_many {s : Session} {skip : Option Bool}
    (h : Integer.maxDigits < (s.scanner.digitsAhead skip).length) :
    (s.step (.parseInt skip)).1 =
      .error (.invalid (.tooManyDigits (s.scanner.digitsAhead skip).length)) := by
  rw [step_parseInt, convert_of_many h]
  rfl

/-- **What scanning ends in.** Under a configuration that is accepted, an operation that fails,
after any others, ends in an error of scanning with a cause; only `parseInt` may have digits that
it does not convert. Up to `Integer.maxDigits` digits, and with a width whose range fits into
memory, it answers their number or an error that has the digits. -/
theorem run_fails_scanning {skip bits : Value} {options : OptionsArgument} {config : Config}
    (hconfig : Config.ofValues skip options bits = .ok config) {source : Text} {index : Int}
    {scanner : Scanner} (h : Scanner.startAt source index config = .ok scanner)
    {steps : List Step} (hsteps : ∀ st ∈ steps, st.isSafe = true) {st : Step}
    (hst : st.isSafe = true) :
    let t := ((ofScanner scanner).run steps).2
    (∀ e, (t.step st).1 = .error e →
        (∃ err, e = .scan err ∧ err.cause ≠ .general) ∨
          ∃ skip, st = .parseInt skip ∧ Inconvertible config (t.scanner.digitsAhead skip) e) ∧
      ∀ skip, let digits := t.scanner.digitsAhead skip
        (Integer.maxDigits < digits.length →
            (t.step (.parseInt skip)).1 = .error (.invalid (.tooManyDigits digits.length))) ∧
          (digits.length ≤ Integer.maxDigits →
            (∀ w, config.intBits = some w → w ≤ Config.maxWidthInMemory) →
            (t.step (.parseInt skip)).1 = .ok (.number (Integer.ofAsciiDigits digits)) ∨
              ∃ err, (t.step (.parseInt skip)).1 = .error (.scan err) ∧
                err.cause = .invalidNumber digits) := by
  intro t
  have hin : scanner.InBounds := (inBounds_startAt h).2
  have htin : t.scanner.InBounds := (within_run (s := ofScanner scanner) hin steps).2
  have hkept : t.scanner.config = scanner.config :=
    config_run (s := ofScanner scanner) hin fun st hst => Step.isOperation_of_isSafe (hsteps st hst)
  have hc : t.scanner.config = config := hkept.trans (config_startAt h)
  refine ⟨fun e he => ?_, fun skip => ⟨step_parseInt_of_many, fun hfew hwidth => ?_⟩⟩
  · exact inconvertible_of_failure hconfig hc hst (failure_of_step htin he)
  · rw [step_parseInt, hc]
    obtain hok | ⟨err, herr, hcause⟩ :=
      convert_of_few hconfig hfew hwidth (t.scanner.skipped skip).cursor
    · rw [hok]
      exact .inl rfl
    · rw [herr]
      exact .inr ⟨err, rfl, hcause⟩

/-- Digits that are a number, but none of four bits. -/
theorem run_fails_scanning_overflow :
    let source : Text := ['a', ' ', '9', '9', 'x']
    let config : Config := ⟨true, .literal, some 4⟩
    let scanner : Scanner := ⟨source, 0, config⟩
    let t := ((ofScanner scanner).run [.expect ['b']]).2
    Config.ofValues (.bool true) (.exact .literal) (.int 4) = .ok config ∧
      Scanner.startAt source 0 config = .ok scanner ∧
        ∃ err, (t.step (.parseInt none)).1 = .error (.scan err) ∧
          err.cause = .invalidNumber ['9', '9'] := by
  intro source config scanner t
  have hconfig : Config.ofValues (.bool true) (.exact .literal) (.int 4) = .ok config := rfl
  have hstart : Scanner.startAt source 0 config = .ok scanner := rfl
  have hwidth (w : Int) (hw : config.intBits = some w) : w ≤ Config.maxWidthInMemory := by
    cases hw
    decide
  refine ⟨hconfig, hstart, ?_⟩
  have hsteps : ∀ st ∈ [Step.expect ['b']], st.isSafe = true := by
    intro st hst
    rw [List.mem_singleton.mp hst]
    rfl
  have hpeek : Step.peek.isSafe = true := rfl
  obtain ⟨-, hparse⟩ := run_fails_scanning hconfig hstart hsteps hpeek
  refine ((hparse none).2 (by decide) hwidth).resolve_left fun hok => ?_
  have hfails : (t.step (.parseInt none)).1.isOk = false := by decide +kernel
  rw [hok] at hfails
  cases hfails

/-- One digit more than is converted, under the settings that a scanner has by default. -/
theorem parseInt_tooManyDigits :
    let source : Text := List.replicate 4301 '1'
    let s := ofScanner ⟨source, 0, .default⟩
    Config.ofValues (.bool true) (.exact .literal) (.int 64) = .ok .default ∧
      Scanner.startAt source 0 .default = .ok s.scanner ∧
        (s.step (.parseInt none)).1 = .error (.invalid (.tooManyDigits 4301)) ∧
          (s.step (.parseInt none)).2.scanner.cursor = 4301 := by
  intro source s
  have hlength : source.length = 4301 := List.length_replicate
  have hskipped : s.scanner.skipped none = s.scanner := by
    show s.scanner.advanceBy (source.takeWhile isWhitespace).length = s.scanner
    rw [List.takeWhile_replicate]
    rfl
  have hdigits : (s.scanner.digitsAhead none).length = 4301 := by
    rw [← hlength]
    unfold digitsAhead
    rw [hskipped]
    show (source.takeWhile isDigit).length = source.length
    rw [List.takeWhile_replicate]
    rfl
  refine ⟨rfl, ?_, ?_, ?_⟩
  · have hindex : (0 : Int) ≤ source.length := Int.natCast_nonneg _
    exact if_pos ⟨Int.le_refl 0, hindex⟩
  · have hmany : Integer.maxDigits < (s.scanner.digitsAhead none).length := by
      rw [hdigits]
      decide
    rw [step_parseInt_of_many hmany, hdigits]
  · have hcursor : s.scanner.cursor = 0 := rfl
    rw [cursor_step_parseInt, hdigits, hskipped, hcursor, Nat.zero_add]

end Session

end TextScan
