import GuidedDecoding.Failure
import GuidedDecoding.Value

set_option autoImplicit false

namespace GuidedDecoding

/-- A function of an output, with the name that is shown for it. It may reject the output by a
parse error or fail in a way of its own. -/
structure Transform where
  name : String
  apply : Value → Except Failure Value

def Transform.render (t : Transform) : String := s!"<fn {t.name}>"

end GuidedDecoding
