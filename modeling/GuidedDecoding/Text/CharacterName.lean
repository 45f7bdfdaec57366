import GuidedDecoding.Text.CharacterName.AToB
import GuidedDecoding.Text.CharacterName.CToF
import GuidedDecoding.Text.CharacterName.GToL
import GuidedDecoding.Text.CharacterName.MToR
import GuidedDecoding.Text.CharacterName.SToZ
import GuidedDecoding.Text.Ranges

/-!
Characters by name. A name is listed, in capitals or small letters, or made by a rule, in capitals
only: ideographs are named by their code points, and syllables by their sounds. In a listing,
brackets behind a beginning hold what may follow it, parted by commas.
-/

set_option autoImplicit false

namespace GuidedDecoding.Text.CharacterName

abbrev Rest := Option (List Char)

def Rest.after (rest : Rest) (c : Char) : Rest :=
  match rest with
  | some (d :: ds) => if c = d then some ds else none
  | _ => none

/-- Looks a name up in a listing. `outer` holds what is left of the name behind each beginning whose
bracket is open, innermost first, and `rest` what is left behind all that has been read. -/
def isListed : (listing : List Char) → (outer : List Rest) → (rest : Rest) → Bool
  | [], _, rest => rest == some []
  | '\n' :: cs, outer, rest => isListed cs outer rest
  | '(' :: cs, outer, rest => isListed cs (rest :: outer) rest
  | ',' :: cs, outer, rest => rest == some [] || isListed cs outer (outer.headD none)
  | ')' :: cs, outer, rest => rest == some [] || isListed cs outer.tail none
  | c :: cs, outer, rest => isListed cs outer (rest.after c)

def listings : List String := [fromAToB,fromCToF,fromGToL,fromMToR,fromSToZ]

def ideographs : Ranges := [
    (0x3400,0x4DBF),(0x4E00,0x9FFF),(0x20000,0x2A6DF),(0x2A700,0x2B738),
    (0x2B740,0x2B81D),(0x2B820,0x2CEA1),(0x2CEB0,0x2EBE0),(0x30000,0x3134A)]

def hexDigit? (c : Char) : Option Nat :=
  if c.isDigit then some (c.toNat - 48)
  else if 'A' ≤ c ∧ c ≤ 'F' then some (c.toNat - 55)
  else none

def isIdeograph (digits : List Char) : Bool :=
  match digits.mapM hexDigit? with
  | none => false
  | some ds =>
    (ds.length == 4 || ds.length == 5) &&
      ideographs.contains (Char.ofNat (ds.foldl (fun n d => n * 16 + d) 0))

def initials : List String :=
  ["","G","GG","N","D","DD","R","M","B","BB","S","SS","J","JJ","C","K","T","P","H"]

def vowels : List String :=
  ["A","AE","YA","YAE","EO","E","YEO","YE","O","WA","WAE","OE","YO","U","WEO","WE",
    "WI","YU","EU","YI","I"]

def finals : List String :=
  ["","G","GG","GS","N","NJ","NH","D","L","LG","LM","LB","LS","LT","LP","LH","M",
    "B","BS","S","SS","NG","J","C","K","T","P","H"]

def behindLongest? (sounds : List String) (cs : List Char) : Option (List Char) :=
  let fitting := (sounds.map String.toList).filter (·.isPrefixOf cs)
  match fitting with
  | [] => none
  | _ => some (cs.drop (fitting.foldl (fun n sound => max n sound.length) 0))

def isSyllable (sounds : List Char) : Bool :=
  ((behindLongest? initials sounds).bind (behindLongest? vowels)).bind (behindLongest? finals)
    == some []

def behind? (beginning : String) (name : List Char) : Rest :=
  if beginning.toList.isPrefixOf name then some (name.drop beginning.length) else none

def isKnown (name : List Char) : Bool :=
  (behind? "CJK UNIFIED IDEOGRAPH-" name).any isIdeograph ||
    (behind? "HANGUL SYLLABLE " name).any isSyllable ||
    let capitals := some (name.map Char.toUpper)
    listings.any fun listing => isListed listing.toList [capitals] capitals

end GuidedDecoding.Text.CharacterName
