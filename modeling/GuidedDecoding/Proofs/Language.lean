import GuidedDecoding.Advance

set_option autoImplicit false

namespace GuidedDecoding

/-- `g.Derives w o`: the grammar `g` reads the whole of `w` and yields `o`. -/
inductive Grammar.Derives : Grammar → Bytes → Value → Prop where
  | literal (bytes : Bytes) : Derives (.literal bytes) bytes .none
  /-- Numerals have no leading zeros, and a minus sign only before a value below zero. -/
  | integer {range n} :
      range.contains n = true → Derives (.integer range) (utf8 (toString n)) (.int n)
  | sequence {keep first second u v a b} :
      Derives first u a → Derives second v b →
      Derives (.sequence keep first second) (u ++ v) (keep.combine a b)
  | choice {first others i g w x} :
      (first :: others)[i]? = some g → Derives g w x →
      Derives (.choice first others) w (.branch i x)
  /-- Any legal number of items, each with its word and its output. -/
  | repetition {item bounds} {words : List (Bytes × Value)} :
      (∀ word ∈ words, Derives item word.1 word.2) → bounds.contains words.length = true →
      Derives (.repetition item bounds) (words.flatMap Prod.fst) (.list (words.map Prod.snd))
  | mapped {body t w x o} :
      Derives body w x → t.apply x = .ok o → Derives (.mapped body t) w o

end GuidedDecoding
