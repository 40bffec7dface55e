/-!
# Blank text

White space in the sense of the Unicode property, and text without its trailing characters of a
kind.
-/

namespace ContextualQuery
namespace Blank

/-- The characters with the property White_Space. -/
def isBlank (c : Char) : Bool :=
  (9 ≤ c.toNat && c.toNat ≤ 13) || c.toNat == 0x20 || c.toNat == 0x85 || c.toNat == 0xA0 ||
    c.toNat == 0x1680 || (0x2000 ≤ c.toNat && c.toNat ≤ 0x200A) || c.toNat == 0x2028 ||
    c.toNat == 0x2029 || c.toNat == 0x202F || c.toNat == 0x205F || c.toNat == 0x3000

/-- Whether the text holds nothing but white space. -/
def isBlankText (text : String) : Bool := text.toList.all isBlank

/-- The text without the characters of a kind that it ends in. -/
def trimEnd (drops : Char → Bool) (text : String) : String :=
  String.ofList (text.toList.reverse.dropWhile drops).reverse

end Blank
end ContextualQuery
