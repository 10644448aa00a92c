/-!
# Blank characters

The Unicode property White_Space names twenty-five characters: the ASCII tab, line feed, vertical
tab, form feed, carriage return and space, the next line control U+0085, and the spaces and
separators of the general punctuation block, among them the no-break space U+00A0 and the
ideographic space U+3000. Header values and numbers read from the environment are trimmed of these
characters at both ends.
-/

namespace HttpReactor

namespace Text

/-- The character has the Unicode White_Space property. -/
def isBlank (c : Char) : Bool :=
  let n := c.toNat
  (9 ≤ n && n ≤ 13) || n == 32 || n == 0x85 || n == 0xA0 || n == 0x1680 ||
    (0x2000 ≤ n && n ≤ 0x200A) || n == 0x2028 || n == 0x2029 || n == 0x202F || n == 0x205F ||
    n == 0x3000

/-- The string without the blank characters at its start and at its end. -/
def trimBlank (s : String) : String :=
  String.ofList ((s.toList.dropWhile isBlank).reverse.dropWhile isBlank).reverse

example : trimBlank "　 a b\t " = "a b" := by decide +kernel

end Text

end HttpReactor
