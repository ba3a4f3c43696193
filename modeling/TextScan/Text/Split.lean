import TextScan.Text.Basic

/-!
# Parts of a text

Cutting a text at every occurrence of a separator. The separator is searched from the left and
its occurrences do not overlap, so joining the parts with it gives the text back.
-/

namespace TextScan.Text

/-- The parts of the text behind and ahead. `part` is the part so far, the last character first,
and `skip` says how much of a separator just found is still to pass. -/
def partsFrom (separator : Text) : Nat → Text → Text → List Text
  | _, part, [] => [part.reverse]
  | skip + 1, part, _ :: rest => partsFrom separator skip part rest
  | 0, part, c :: rest =>
    if separator.isPrefixOf (c :: rest) then
      part.reverse :: partsFrom separator (separator.length - 1) [] rest
    else partsFrom separator 0 (c :: part) rest

/-- The parts between the occurrences of a separator, which is not empty. -/
def parts (separator t : Text) : List Text := partsFrom separator 0 [] t

def occurrences (separator t : Text) : Nat := (parts separator t).length - 1

/-- Joins the first `n` parts and the others; at least one part goes to either side. -/
def cutParts (separator : Text) (n : Nat) (ps : List Text) : Text × Text :=
  let n := min n (ps.length - 1)
  (separator.intercalate (ps.take n), separator.intercalate (ps.drop n))

end TextScan.Text
