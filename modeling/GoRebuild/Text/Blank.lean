/-!
# White space

* `isBlank` : the Unicode property `White_Space`;
* `dropBlankEnd` : a text without the white space at its end;
* `isBlankText` : whether a text is nothing but white space.
-/

namespace GoRebuild.Text

/-- The Unicode property `White_Space`. -/
def isBlank (c : Char) : Bool :=
  let n := c.toNat
  (9 ≤ n && n ≤ 13) || n = 0x20 || n = 0x85 || n = 0xA0 || n = 0x1680 ||
  (0x2000 ≤ n && n ≤ 0x200A) || n = 0x2028 || n = 0x2029 || n = 0x202F || n = 0x205F || n = 0x3000

/-- Without the white space at the end. -/
def dropBlankEnd (cs : List Char) : List Char :=
  (cs.reverse.dropWhile isBlank).reverse

/-- Whether a text has nothing but white space. -/
def isBlankText (s : String) : Bool :=
  s.toList.all isBlank

end GoRebuild.Text
