/-!
# Order of texts

Texts sorted by code points.
-/

namespace CommitPolicy.Text

/-- The texts in increasing order of their code points. -/
def sortTexts (texts : List String) : List String :=
  texts.mergeSort fun a b => !(decide (b < a))

end CommitPolicy.Text
