set_option autoImplicit false

namespace GuidedDecoding.Text

/-- Digits, least significant first, with a comma after every third that another follows. -/
def groupDigits : List Char → List Char
  | a :: b :: c :: d :: rest => a :: b :: c :: ',' :: groupDigits (d :: rest)
  | few => few

def grouped (n : Nat) : String :=
  String.ofList (groupDigits (toString n).toList.reverse).reverse

def groupedInt (n : Int) : String :=
  if n < 0 then "-" ++ grouped n.natAbs else grouped n.toNat

end GuidedDecoding.Text
