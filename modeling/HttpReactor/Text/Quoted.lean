import HttpReactor.Text.Visible
/-!
# Quoted text

Messages name the text they are about between double quotes. Inside the quotes a double quote and a
backslash are written after a backslash; NUL, tab, carriage return and line feed as `\0`, `\t`,
`\r` and `\n`; any other character without a visible form as `\u{…}`, its code point in small
hexadecimal digits; every other character as itself.
-/

namespace HttpReactor

namespace Text

/-- The small hexadecimal digits of a number, without leading zeros. -/
def hexDigits (n : Nat) : List Char := Nat.toDigits 16 n

/-- How one character is written inside quotes. -/
def escapeChar (c : Char) : List Char :=
  match c with
  | '\x00' => ['\\', '0']
  | '\t' => ['\\', 't']
  | '\r' => ['\\', 'r']
  | '\n' => ['\\', 'n']
  | '"' => ['\\', '"']
  | '\\' => ['\\', '\\']
  | _ => if isVisible c then [c] else ['\\', 'u', '\x7b'] ++ hexDigits c.toNat ++ ['\x7d']

/-- The text between double quotes, its characters escaped. -/
def quote (s : String) : String :=
  String.ofList ('"' :: s.toList.flatMap escapeChar ++ ['"'])

example : quote "Bad\x7f" = "\"Bad\\u\x7b7f\x7d\"" := by decide +kernel

end Text

end HttpReactor
