/-!
# Blank text

Characters that leave no mark, and text with the blank ends cut off. A reply that is blank is
never sent and a credential that is blank counts as absent.
-/

namespace Colloquy.Text

/-- The characters with the Unicode property `White_Space`. -/
def isBlank (character : Char) : Bool :=
  let code := character.toNat
  (9 ≤ code && code ≤ 13) || code == 0x20 || code == 0x85 || code == 0xA0 || code == 0x1680 ||
    (0x2000 ≤ code && code ≤ 0x200A) || code == 0x2028 || code == 0x2029 || code == 0x202F ||
    code == 0x205F || code == 0x3000

/-- The characters without the blank ones at the end. -/
def dropBlankEnd (characters : List Char) : List Char :=
  (characters.reverse.dropWhile isBlank).reverse

/-- The characters without the blank ones at both ends. -/
def trimBlank (characters : List Char) : List Char :=
  dropBlankEnd (characters.dropWhile isBlank)

/-- Text without the blank characters at both ends. -/
def trim (text : String) : String :=
  String.ofList (trimBlank text.toList)

/-- Text that holds nothing but blank characters. -/
def allBlank (text : String) : Bool :=
  text.toList.all isBlank

theorem isBlank_of_isWhitespace (character : Char) (white : character.isWhitespace = true) :
    isBlank character = true := by
  simp only [Char.isWhitespace, Bool.or_eq_true, decide_eq_true_eq] at white
  rcases white with ((white | white) | white) | white <;> subst white <;> rfl

end Colloquy.Text
