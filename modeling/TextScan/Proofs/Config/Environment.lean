import TextScan.Config.Environment
import TextScan.Proofs.Config.Table

/-!
# The environment and tables of texts

A variable of the environment and an entry of a table set the same field, but where the table is
refused the environment warns and goes on with the default. So each field is what the table with
that entry alone would give (`Environment.loaded`), there is one warning for each such table that is
refused (`Environment.warning?`), and the table with all the entries is a configuration exactly if
there is no warning (`ofEnvironment_fieldwise`).
-/

namespace TextScan

/-! ## Variables -/

inductive Variable where
  | skip
  | options
  | bits
  deriving DecidableEq, Repr

namespace Variable

/-- The variables in the order in which they are read. -/
def all : List Variable := [.skip, .options, .bits]

def name : Variable → String
  | .skip => Environment.skipVariable
  | .options => Environment.optionsVariable
  | .bits => Environment.bitsVariable

/-- The key of a table that sets the same field. -/
def key : Variable → Text
  | .skip => Config.skipKey
  | .options => Config.optionsKey
  | .bits => Config.bitsKey

/-- What a warning says about the fault: only for the options is it the message itself. -/
def reason (v : Variable) (e : Fault) : String :=
  match v with
  | .skip => "not a boolean."
  | .options => (e.message.map fun m => String.ofList m.plain).getD ""
  | .bits => "expected a width of at least 2 or 'none'."

theorem key_beq (v w : Variable) : (v.key == w.key) = (v == w) := by
  cases v <;> cases w <;> decide

/-- The table with one text in it. -/
def entry (v : Variable) (raw : Text) : Table := [(v.key, .text raw)]

theorem lookup_entry (v w : Variable) (raw : Text) :
    (v.entry raw).lookup w.key = if w = v then some (.text raw) else none := by
  rw [entry, List.lookup_cons, key_beq]
  cases v <;> cases w <;> rfl

end Variable

namespace Environment

variable (env : Environment)

def value? : Variable → Option Text
  | .skip => env.skipWhitespace
  | .options => env.options
  | .bits => env.intBits

/-- What the table with only this variable's entry is read as, or the default if it is refused or
the variable is not set. -/
def loaded (v : Variable) : Config :=
  match env.value? v with
  | none => .default
  | some raw =>
    match Config.ofTable (v.entry raw) with
    | .ok c => c
    | .error _ => .default

/-- The warning about a variable, if it is set and the table with only its entry is refused. -/
def warning? (v : Variable) : Option LogEntry :=
  match env.value? v with
  | none => none
  | some raw =>
    match Config.ofTable (v.entry raw) with
    | .ok _ => none
    | .error e => some (warning v.name raw (v.reason e))

/-- The table of the variables among these that are set. -/
def tableOf (vs : List Variable) : Table :=
  vs.filterMap fun v => (env.value? v).map fun raw => (v.key, .text raw)

theorem lookup_tableOf (vs : List Variable) (w : Variable) :
    (env.tableOf vs).lookup w.key = if w ∈ vs then (env.value? w).map .text else none := by
  induction vs with
  | nil => rfl
  | cons v rest ih =>
    cases hv : env.value? v with
    | none =>
      rw [tableOf, List.filterMap_cons, hv, Option.map_none, ← tableOf, ih]
      by_cases hw : w = v <;> simp [hw, hv]
    | some raw =>
      rw [tableOf, List.filterMap_cons, hv, Option.map_some, ← tableOf]
      rw [List.lookup_cons, Variable.key_beq, ih]
      by_cases hw : w = v
      · simp [hw, hv]
      · simp [hw, beq_eq_false_iff_ne.mpr hw]

/-- A table has the variables' values as texts under their keys, and nothing else there. -/
def SameEntries (t : Table) : Prop := ∀ v : Variable, t.lookup v.key = (env.value? v).map .text

theorem sameEntries_tableOf : env.SameEntries (env.tableOf Variable.all) := by
  intro v
  rw [lookup_tableOf, if_pos]
  cases v <;> decide

end Environment

/-! ## Fields -/

namespace Config

/-- What a text is read as, if there is one, and otherwise the default. -/
def readOr {α : Type} (read : Value → Except InvalidValue α) (fallback : α) :
    Option Text → Except InvalidValue α
  | none => .ok fallback
  | some raw => read (.text raw)

/-- A table of texts is read field by field. -/
theorem ofTable_of_sameEntries {env : Environment} {t : Table} (h : env.SameEntries t) :
    ofTable t = (do
      let skip ← readOr readBool default.skipWhitespace env.skipWhitespace
      let options ← readOr CompareOptions.readValue default.options env.options
      let bits ← readOr readBits default.intBits env.intBits
      return (⟨skip, options, bits⟩ : Config)).mapError .ofInvalid := by
  have hskip : t.lookup skipKey = env.skipWhitespace.map .text := h .skip
  have hoptions : t.lookup optionsKey = env.options.map .text := h .options
  have hbits : t.lookup bitsKey = env.intBits.map .text := h .bits
  unfold ofTable ofValues
  rw [hskip, hoptions, hbits]
  cases env.skipWhitespace <;> cases env.options <;> cases env.intBits <;> rfl

/-- The three fields of what a table of texts is read as. -/
theorem ofTable_eq_ok_iff_of_sameEntries {env : Environment} {t : Table} (h : env.SameEntries t)
    {c : Config} :
    ofTable t = .ok c ↔
      readOr readBool default.skipWhitespace env.skipWhitespace = .ok c.skipWhitespace ∧
        readOr CompareOptions.readValue default.options env.options = .ok c.options ∧
          readOr readBits default.intBits env.intBits = .ok c.intBits := by
  rw [ofTable_of_sameEntries h, mapError_eq_ok_iff]
  constructor
  · intro hread
    obtain ⟨b, hb, hread⟩ := ok_of_bind hread
    obtain ⟨o, ho, hread⟩ := ok_of_bind hread
    obtain ⟨w, hw, hread⟩ := ok_of_bind hread
    cases hread
    exact ⟨hb, ho, hw⟩
  · rintro ⟨hb, ho, hw⟩
    rw [hb, ho, hw]
    rfl

end Config

/-- How the entry of a variable sets one field and leaves the others at their defaults. -/
structure Setting (v : Variable) (α : Type) where
  read : Value → Except InvalidValue α
  get : Config → α
  set : α → Config
  reason : InvalidValue → String
  get_set (a : α) : get (set a) = a
  ofTable_entry (raw : Text) :
    Config.ofTable (v.entry raw) = ((read (.text raw)).map set).mapError .ofInvalid
  /-- What the environment says about an error is what it says about the fault. -/
  reason_eq {raw : Text} {e : InvalidValue} (h : read (.text raw) = .error e) :
    v.reason (.ofInvalid e) = reason e

namespace Setting

variable {v : Variable} {α : Type} (s : Setting v α) (env : Environment)

theorem ofTable_of_ok {raw : Text} {a : α} (h : s.read (.text raw) = .ok a) :
    Config.ofTable (v.entry raw) = .ok (s.set a) := by
  rw [s.ofTable_entry, h]
  rfl

theorem ofTable_of_error {raw : Text} {e : InvalidValue} (h : s.read (.text raw) = .error e) :
    Config.ofTable (v.entry raw) = .error (.ofInvalid e) := by
  rw [s.ofTable_entry, h]
  rfl

/-- A variable is read as its table is, with a warning where that is refused. -/
theorem readField_eq :
    Environment.readField s.read (s.get .default) v.name s.reason (env.value? v) =
      (s.get (env.loaded v), (env.warning? v).toList) := by
  unfold Environment.loaded Environment.warning?
  cases env.value? v with
  | none => rfl
  | some raw =>
    dsimp only [Environment.readField]
    cases hread : s.read (.text raw) with
    | ok a =>
      rw [s.ofTable_of_ok hread]
      exact congrArg (·, []) (s.get_set a).symm
    | error e =>
      rw [s.ofTable_of_error hread]
      simp only [s.reason_eq hread, Option.toList_some]

/-- The variable can be read exactly if there is no warning about it. -/
theorem readOr_eq_ok_iff {a : α} :
    Config.readOr s.read (s.get .default) (env.value? v) = .ok a ↔
      env.warning? v = none ∧ s.get (env.loaded v) = a := by
  unfold Environment.loaded Environment.warning?
  cases env.value? v with
  | none => simp [Config.readOr]
  | some raw =>
    dsimp only [Config.readOr]
    cases hread : s.read (.text raw) with
    | ok b => simp [s.ofTable_of_ok hread, s.get_set]
    | error e => simp [s.ofTable_of_error hread]

end Setting

/-! ## The three settings -/

theorem CompareOptions.error_of_foldlM_addName {names : List Text} {o : CompareOptions}
    {e : InvalidValue} (h : names.foldlM addName o = .error e) :
    ∃ name, e = .unknownOption name := by
  induction names generalizing o with
  | nil => cases h
  | cons raw rest ih =>
    rw [List.foldlM_cons] at h
    unfold addName at h
    dsimp only at h
    split at h
    · exact ih h
    · split at h
      · exact ih h
      · cases h
        exact ⟨_, rfl⟩

namespace Setting

theorem sameEntries_entry (v : Variable) (raw : Text) (env : Environment)
    (h : ∀ w, env.value? w = if w = v then some raw else none) :
    env.SameEntries (v.entry raw) := by
  intro w
  rw [Variable.lookup_entry, h]
  split <;> rfl

def skip : Setting .skip Bool where
  read := Config.readBool
  get := Config.skipWhitespace
  set b := { Config.default with skipWhitespace := b }
  reason _ := "not a boolean."
  get_set _ := rfl
  ofTable_entry raw := by
    have h : (⟨some raw, none, none⟩ : Environment).SameEntries (Variable.skip.entry raw) :=
      sameEntries_entry _ _ _ fun w => by cases w <;> rfl
    rw [Config.ofTable_of_sameEntries h]
    change ((Config.readBool (.text raw) >>= _).mapError _) = _
    cases Config.readBool (.text raw) <;> rfl
  reason_eq _ := rfl

def options : Setting .options CompareOptions where
  read := CompareOptions.readValue
  get := Config.options
  set o := { Config.default with options := o }
  reason e := String.ofList e.message.plain
  get_set _ := rfl
  ofTable_entry raw := by
    have h : (⟨none, some raw, none⟩ : Environment).SameEntries (Variable.options.entry raw) :=
      sameEntries_entry _ _ _ fun w => by cases w <;> rfl
    rw [Config.ofTable_of_sameEntries h]
    change ((CompareOptions.readValue (.text raw) >>= _).mapError _) = _
    cases CompareOptions.readValue (.text raw) <;> rfl
  reason_eq h := by
    obtain ⟨name, rfl⟩ := CompareOptions.error_of_foldlM_addName h
    rfl

def bits : Setting .bits (Option Int) where
  read := Config.readBits
  get := Config.intBits
  set w := { Config.default with intBits := w }
  reason _ := "expected a width of at least 2 or 'none'."
  get_set _ := rfl
  ofTable_entry raw := by
    have h : (⟨none, none, some raw⟩ : Environment).SameEntries (Variable.bits.entry raw) :=
      sameEntries_entry _ _ _ fun w => by cases w <;> rfl
    rw [Config.ofTable_of_sameEntries h]
    change ((Config.readBits (.text raw) >>= _).mapError _) = _
    cases Config.readBits (.text raw) <;> rfl
  reason_eq _ := rfl

end Setting

namespace Environment

variable (env : Environment)

/-- The configuration of the fields that the variables give. -/
def config : Config :=
  ⟨(env.loaded .skip).skipWhitespace, (env.loaded .options).options, (env.loaded .bits).intBits⟩

def warnings : Log := Variable.all.filterMap env.warning?

/-- The line of the log about what was read. -/
def loadedEntry (c : Config) : LogEntry :=
  ⟨.debug, s!"ScannerConfig loaded from environment: {c.summary}"⟩

theorem warnings_eq :
    env.warnings = (env.warning? .skip).toList ++ (env.warning? .options).toList ++
      (env.warning? .bits).toList := by
  unfold warnings Variable.all
  simp only [List.filterMap_cons, List.filterMap_nil]
  cases env.warning? .skip <;> cases env.warning? .options <;> cases env.warning? .bits <;> rfl

/-- The environment is read field by field. -/
theorem ofEnvironment_eq :
    Config.ofEnvironment env = (env.config, env.warnings ++ [loadedEntry env.config]) := by
  have hskip : env.readSkip = _ := Setting.skip.readField_eq env
  have hoptions : env.readOptions = _ := Setting.options.readField_eq env
  have hbits : env.readBits = _ := Setting.bits.readField_eq env
  unfold Config.ofEnvironment
  rw [hskip, hoptions, hbits, warnings_eq]
  rfl

theorem level_of_warning? {v : Variable} {entry : LogEntry} (h : env.warning? v = some entry) :
    entry.level = .warning := by
  unfold warning? at h
  split at h
  · cases h
  · split at h <;> cases h
    rfl

/-- A table of the same texts is a configuration exactly if there is no warning, and then it is the
one that the environment gives. -/
theorem ofTable_eq_ok_iff {t : Table} (h : env.SameEntries t) {c : Config} :
    Config.ofTable t = .ok c ↔
      (∀ v, env.warning? v = none) ∧ c = (Config.ofEnvironment env).1 := by
  have hskip := Setting.skip.readOr_eq_ok_iff env (a := c.skipWhitespace)
  have hoptions := Setting.options.readOr_eq_ok_iff env (a := c.options)
  have hbits := Setting.bits.readOr_eq_ok_iff env (a := c.intBits)
  rw [Config.ofTable_eq_ok_iff_of_sameEntries h, ofEnvironment_eq]
  refine (and_congr hskip (and_congr hoptions hbits)).trans ?_
  constructor
  · rintro ⟨⟨hskip, hb⟩, ⟨hoptions, ho⟩, hbits, hw⟩
    refine ⟨fun v => ?_, ?_⟩
    · cases v <;> assumption
    · cases c
      exact Config.mk.injEq .. ▸ ⟨hb.symm, ho.symm, hw.symm⟩
  · rintro ⟨hnone, rfl⟩
    exact ⟨⟨hnone _, rfl⟩, ⟨hnone _, rfl⟩, hnone _, rfl⟩

theorem warnings_none_iff :
    (∀ v, env.warning? v = none) ↔
      ∀ entry ∈ (Config.ofEnvironment env).2, entry.level ≠ .warning := by
  rw [ofEnvironment_eq]
  constructor
  · intro hnone entry hentry
    rcases List.mem_append.mp hentry with hwarning | hdebug
    · obtain ⟨v, -, hv⟩ := List.mem_filterMap.mp hwarning
      rw [hnone v] at hv
      cases hv
    · rw [List.mem_singleton.mp hdebug]
      nofun
  · intro hlevel v
    cases hv : env.warning? v with
    | none => rfl
    | some entry =>
      have hmem : entry ∈ env.warnings :=
        List.mem_filterMap.mpr ⟨v, by cases v <;> decide, hv⟩
      exact absurd (env.level_of_warning? hv) (hlevel entry (List.mem_append_left _ hmem))

end Environment

namespace Config

/-- What is read of the environment can be written. -/
theorem isWritable_of_loaded (env : Environment) {w : Int}
    (h : (env.loaded .bits).intBits = some w) : Integer.isWritable w = true := by
  have hdefault (h : default.intBits = some w) : Integer.isWritable w = true := by
    cases h
    decide +kernel
  unfold Environment.loaded at h
  split at h
  · exact hdefault h
  · rename_i raw _
    cases hread : readBits (.text raw) with
    | error e =>
      rw [Setting.bits.ofTable_of_error hread] at h
      exact hdefault h
    | ok bits =>
      rw [Setting.bits.ofTable_of_ok hread] at h
      have hbits : bits = some w := h
      exact isWritable_of_readBits (hbits ▸ hread)

theorem checkWrite_toTable {c : Config}
    (h : ∀ w, c.intBits = some w → Integer.isWritable w = true) :
    (Value.table c.toTable).checkWrite = .ok () := by
  have hbits (depth : Nat) : (bitsValue c.intBits).checkWriteAt (depth + 1) = .ok () := by
    cases hw : c.intBits with
    | none => rfl
    | some w => rw [bitsValue, Value.checkWriteAt_int, h w hw, if_pos rfl]
  have htable (depth : Nat) : (Value.table c.toTable).checkWriteAt (depth + 2) = .ok () := by
    show ((bitsValue c.intBits).checkWriteAt (depth + 1) >>= fun _ => .ok ()) = .ok ()
    rw [hbits]
    rfl
  exact htable (Value.maxDepth - 2)

/-- **The environment against tables of texts.** Each field is the one that the table with only
that variable's entry would give, or the default where there is no such table; the table of what is
read can be written; the log has the warnings about the tables that are refused, in the order of the
variables, and one more line; and a table with the same texts is a configuration exactly if there is
no warning, and then it is the same one. -/
theorem ofEnvironment_fieldwise (env : Environment) :
    let c := (ofEnvironment env).1
    let log := (ofEnvironment env).2
    (c.skipWhitespace = (env.loaded .skip).skipWhitespace ∧
        c.options = (env.loaded .options).options ∧ c.intBits = (env.loaded .bits).intBits) ∧
      (Value.table c.toTable).checkWrite = .ok () ∧
        log = Variable.all.filterMap env.warning? ++
          [⟨.debug, s!"ScannerConfig loaded from environment: {c.summary}"⟩] ∧
          ∀ t : Table, (∀ v : Variable, t.lookup v.key = (env.value? v).map .text) →
            ((∃ d, ofTable t = .ok d) ↔ ∀ entry ∈ log, entry.level ≠ .warning) ∧
              ∀ d, ofTable t = .ok d → d = c := by
  intro c log
  have hc : c = env.config := congrArg Prod.fst env.ofEnvironment_eq
  have hlog : log = env.warnings ++ [Environment.loadedEntry env.config] :=
    congrArg Prod.snd env.ofEnvironment_eq
  have hnone := env.warnings_none_iff
  refine ⟨hc ▸ ⟨rfl, rfl, rfl⟩, ?_, hc ▸ hlog, fun t ht => ?_⟩
  · rw [hc]
    exact checkWrite_toTable fun w hw => isWritable_of_loaded env hw
  · have hread {d : Config} := env.ofTable_eq_ok_iff (t := t) ht (c := d)
    refine ⟨⟨?_, fun h => ⟨c, hread.mpr ⟨hnone.mpr h, rfl⟩⟩⟩, fun d hd => (hread.mp hd).2⟩
    rintro ⟨d, hd⟩
    exact hnone.mp (hread.mp hd).1

/-- A name that is no option and a width with too few bits: two warnings, and white space is read
all the same. -/
theorem ofEnvironment_fieldwise_warnings :
    let env : Environment := ⟨some " No ".toList, some "case_insensitive,,bold".toList,
      some "\u0661".toList⟩
    let t := env.tableOf Variable.all
    (ofEnvironment env).1 = ⟨false, .literal, some 64⟩ ∧
      (ofEnvironment env).2.map (·.level) = [.warning, .warning, .debug] ∧
        (∀ v : Variable, t.lookup v.key = (env.value? v).map .text) ∧
          ¬ ∃ d, ofTable t = .ok d := by
  intro env t
  have ht : env.SameEntries t := env.sameEntries_tableOf
  have hlevels : (ofEnvironment env).2.map (·.level) = [.warning, .warning, .debug] := by
    decide +kernel
  obtain ⟨-, -, -, htable⟩ := ofEnvironment_fieldwise env
  refine ⟨by decide +kernel, hlevels, ht, fun hd => ?_⟩
  have hmem : LogLevel.warning ∈ (ofEnvironment env).2.map (·.level) := by
    rw [hlevels]
    decide
  obtain ⟨entry, hentry, hlevel⟩ := List.mem_map.mp hmem
  exact (htable t ht).1.mp hd entry hentry hlevel

end Config

end TextScan
