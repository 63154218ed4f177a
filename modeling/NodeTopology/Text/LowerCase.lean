/-!
Text without regard to case, for comparison with English words.  Letters beyond ASCII are left
alone: the lower case of none of them is a letter of the words that are compared here.
-/

namespace NodeTopology.Text

def lowered (text : String) : String := String.ofList (text.toList.map Char.toLower)

/-- Whether a text begins with a word of lower case, its own letters being of any case. -/
def beginsWithWord (word text : String) : Bool := word.toList.isPrefixOf (lowered text).toList

end NodeTopology.Text
