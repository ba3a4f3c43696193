import TextScan.CharClass
import TextScan.Error

/-!
# Predicates

Conditions on one character, built from the character classes and from functions. `onText`
applies a condition to a text of any length: the classes that look a character up are defined for
exactly one.
-/

namespace TextScan

inductive Predicate where
  | constant (b : Bool)
  | ofClass (k : CharClass)
  /-- A condition of the caller's own, which is for single characters. -/
  | ofFunction (f : Char → Bool)
  | oneOf (chars : Text)
  | not (p : Predicate)
  | any (ps : List Predicate)
  | all (ps : List Predicate)

namespace Predicate

instance : Inhabited Predicate := ⟨.constant false⟩

mutual

def test : Predicate → Char → Bool
  | .constant b, _ => b
  | .ofClass k, c => k.holds c
  | .ofFunction f, c => f c
  | .oneOf chars, c => chars.contains c
  | .not p, c => !p.test c
  | .any ps, c => testAny ps c
  | .all ps, c => testAll ps c

def testAny : List Predicate → Char → Bool
  | [], _ => false
  | p :: ps, c => p.test c || testAny ps c

def testAll : List Predicate → Char → Bool
  | [], _ => true
  | p :: ps, c => p.test c && testAll ps c

end

/-- A class on a text that is not one character: digits and delimiters are looked for in a list
and not found, the others have no answer. -/
def classOffCharacter : CharClass → Except Fault Bool
  | .digit | .stringDelimiter => .ok false
  | .whitespace | .letter | .alphanumeric => .error .unsupportedType

mutual

/-- A condition on a text that is not one character. Alternatives are tried from the left, and
only as far as needed. -/
def offCharacter : Predicate → Except Fault Bool
  | .constant b => .ok b
  | .ofClass k => classOffCharacter k
  | .ofFunction _ => .error .unsupportedType
  | .oneOf _ => .ok false
  | .not p => p.offCharacter.map Bool.not
  | .any ps => anyOffCharacter ps
  | .all ps => allOffCharacter ps

def anyOffCharacter : List Predicate → Except Fault Bool
  | [] => .ok false
  | p :: ps =>
    match p.offCharacter with
    | .ok false => anyOffCharacter ps
    | r => r

def allOffCharacter : List Predicate → Except Fault Bool
  | [] => .ok true
  | p :: ps =>
    match p.offCharacter with
    | .ok true => allOffCharacter ps
    | r => r

end

def onText (p : Predicate) : Text → Except Fault Bool
  | [c] => .ok (p.test c)
  | _ => p.offCharacter

end Predicate

end TextScan
