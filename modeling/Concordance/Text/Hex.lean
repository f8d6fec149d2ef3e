/-!
Numbers in base sixteen with capital digits.
-/
namespace Concordance.Text

def hex (width n : Nat) : String :=
  let ds := (Nat.toDigits 16 n).map Char.toUpper
  String.ofList (List.replicate (width - ds.length) '0' ++ ds)

end Concordance.Text
