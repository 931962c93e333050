/-! Text is a list of code points, and raw positions count code points. -/
namespace Highlight

abbrev Text := List Char

namespace Text

/-- Code points `start` to `stop - 1`. What lies outside the text is cut off. -/
def slice (text : Text) (start stop : Int) : Text :=
  (text.drop start.toNat).take (stop - start).toNat

/-- Replaces left to right in one pass. `rule` sees the rest of the text and says how many code
points to consume and what to write for them; the replacement is not looked at again. `skip`
counts the code points already consumed. -/
def substitute (rule : Text → Option (Nat × Text)) : (skip : Nat) → Text → Text
  | _, [] => []
  | skip + 1, _ :: rest => substitute rule skip rest
  | 0, c :: rest =>
    match rule (c :: rest) with
    | some (consumed, written) => written ++ substitute rule (consumed - 1) rest
    | none => c :: substitute rule 0 rest

/-- Replaces the non-overlapping occurrences of `target`, which is not empty. -/
def replaceAll (text target written : Text) : Text :=
  substitute (fun rest => if target.isPrefixOf rest then some (target.length, written) else none)
    0 text

end Text

end Highlight
