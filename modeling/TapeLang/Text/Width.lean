/-!
# The width of text in bytes
-/

namespace TapeLang.Text

/-- The number of bytes that characters take in UTF-8. -/
def byteCount (cs : List Char) : Nat := cs.foldr (fun c n => c.utf8Size + n) 0

end TapeLang.Text
