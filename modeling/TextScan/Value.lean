import TextScan.Moment
import TextScan.Numeral.Shortest
import TextScan.Text.CodePoints

/-!
# Settings values

The values that a setting can be given from outside: a record in memory, an environment
variable, a configuration file. A setting checks the value it gets and quotes it in the error
when it has no use for it.
-/

namespace TextScan

inductive Value where
  | null
  | bool (b : Bool)
  | int (n : Int)
  | float (x : Binary64)
  | moment (m : Moment)
  | text (t : Text)
  /-- A text with a surrogate in it, which is no sequence of characters. -/
  | brokenText (t : CodePoints)
  | list (items : List Value)
  | table (entries : List (Text × Value))

abbrev Table := List (Text × Value)

namespace Value

instance : Inhabited Value := ⟨.null⟩

def ofCodePoints (t : CodePoints) : Value :=
  match t.toText? with
  | some t => .text t
  | none => .brokenText t

@[simp]
theorem ofCodePoints_ofText (t : Text) : ofCodePoints (.ofText t) = .text t := by
  simp [ofCodePoints]

/-! ### Equality -/

mutual

def same : Value → Value → Bool
  | .null, .null => true
  | .bool a, .bool b => a == b
  | .int a, .int b => a == b
  | .float a, .float b => a == b
  | .moment a, .moment b => a == b
  | .text a, .text b => a == b
  | .brokenText a, .brokenText b => a == b
  | .list a, .list b => sameItems a b
  | .table a, .table b => sameEntries a b
  | _, _ => false

def sameItems : List Value → List Value → Bool
  | [], [] => true
  | v :: vs, w :: ws => v.same w && sameItems vs ws
  | _, _ => false

def sameEntries : List (Text × Value) → List (Text × Value) → Bool
  | [], [] => true
  | (k, v) :: vs, (l, w) :: ws => k == l && v.same w && sameEntries vs ws
  | _, _ => false

end

mutual

theorem same_iff : (v w : Value) → (v.same w = true ↔ v = w)
  | .null, w => by cases w <;> simp [same]
  | .bool _, w => by cases w <;> simp [same]
  | .int _, w => by cases w <;> simp [same]
  | .float _, w => by cases w <;> simp [same]
  | .moment _, w => by cases w <;> simp [same]
  | .text _, w => by cases w <;> simp [same]
  | .brokenText _, w => by cases w <;> simp [same]
  | .list a, w => by
    cases w with
    | list b => simp [same, sameItems_iff a b]
    | _ => simp [same]
  | .table a, w => by
    cases w with
    | table b => simp [same, sameEntries_iff a b]
    | _ => simp [same]

theorem sameItems_iff : (a b : List Value) → (sameItems a b = true ↔ a = b)
  | [], b => by cases b <;> simp [sameItems]
  | v :: vs, b => by
    cases b with
    | nil => simp [sameItems]
    | cons w ws => simp [sameItems, same_iff v w, sameItems_iff vs ws]

theorem sameEntries_iff :
    (a b : List (Text × Value)) → (sameEntries a b = true ↔ a = b)
  | [], b => by cases b <;> simp [sameEntries]
  | (k, v) :: vs, b => by
    cases b with
    | nil => simp [sameEntries]
    | cons e ws => simp [sameEntries, same_iff v e.2, sameEntries_iff vs ws, Prod.ext_iff]

end

instance : DecidableEq Value := fun v w => decidable_of_iff _ (same_iff v w)

/-! ### Display -/

/-- The name of the type of a value. -/
def typeName : Value → String
  | .null => "NoneType"
  | .bool _ => "bool"
  | .int _ => "int"
  | .float _ => "float"
  | .moment (.date _) => "date"
  | .moment (.time _) => "time"
  | .moment (.dateTime _ _ _) => "datetime"
  | .text _ | .brokenText _ => "str"
  | .list _ => "list"
  | .table _ => "dict"

def writeBool (b : Bool) : Text := if b then "True".toList else "False".toList

mutual

/-- A value on one line, with every text in quotes. -/
def quoted : Value → Text
  | .null => "None".toList
  | .bool b => writeBool b
  | .int n => Integer.write n
  | .float x => x.write
  | .moment m => m.quoted
  | .text t => t.quoted
  | .brokenText t => t.quoted
  | .list items => '[' :: quotedItems items ++ [']']
  | .table entries => '\x7b' :: quotedEntries entries ++ ['\x7d']

def quotedItems : List Value → Text
  | [] => []
  | [v] => v.quoted
  | v :: w :: rest => v.quoted ++ ", ".toList ++ quotedItems (w :: rest)

def quotedEntries : List (Text × Value) → Text
  | [] => []
  | [(k, v)] => k.quoted ++ ": ".toList ++ v.quoted
  | (k, v) :: e :: rest =>
    k.quoted ++ ": ".toList ++ v.quoted ++ ", ".toList ++ quotedEntries (e :: rest)

end

/-- A text as it is and a moment in its own form, any other value as it is quoted. -/
def display : Value → CodePoints
  | .text t => .ofText t
  | .brokenText t => t
  | .moment m => .ofText m.display
  | v => .ofText v.quoted

/-! ### What can be written -/

/-- Why a value cannot be written. -/
inductive WriteError where
  /-- An integer in it has more digits than are written. -/
  | tooManyDigits
  | tooDeep
  deriving DecidableEq, Repr

/-- Values that are nested deeper than this are neither read nor written. -/
def maxDepth : Nat := 990

mutual

/-- Whether a value can be written, where it may still be nested so deep. The first part that
cannot be is the error. -/
def checkWriteAt : Nat → Value → Except WriteError Unit
  | 0, _ => .error .tooDeep
  | _ + 1, .int n => if Integer.isWritable n then .ok () else .error .tooManyDigits
  | depth + 1, .list items => checkItems depth items
  | depth + 1, .table entries => checkEntries depth entries
  | _ + 1, _ => .ok ()

def checkItems : Nat → List Value → Except WriteError Unit
  | _, [] => .ok ()
  | depth, v :: rest => do
    v.checkWriteAt depth
    checkItems depth rest

def checkEntries : Nat → List (Text × Value) → Except WriteError Unit
  | _, [] => .ok ()
  | depth, (_, v) :: rest => do
    v.checkWriteAt depth
    checkEntries depth rest

end

/-- Whether a value can be written. -/
def checkWrite (v : Value) : Except WriteError Unit := v.checkWriteAt maxDepth

theorem checkWriteAt_int (depth : Nat) (n : Int) :
    (Value.int n).checkWriteAt (depth + 1) =
      if Integer.isWritable n then .ok () else .error .tooManyDigits := rfl

theorem checkWrite_int (n : Int) :
    (Value.int n).checkWrite = if Integer.isWritable n then .ok () else .error .tooManyDigits :=
  checkWriteAt_int (maxDepth - 1) n

/-- The first integer that is too long is the error. -/
theorem forM_checkWrite_int (ns : List Int) :
    forM (ns.map Value.int) checkWrite =
      if ns.all Integer.isWritable then .ok () else .error .tooManyDigits := by
  induction ns with
  | nil => rfl
  | cons n rest ih =>
    rw [List.map_cons, List.forM_cons, ih, checkWrite_int, List.all_cons]
    cases Integer.isWritable n <;> rfl

end Value

end TextScan
