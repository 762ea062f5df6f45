import ForeignArena.Text.GraphemeExtend
import ForeignArena.Text.Unprintable

namespace ForeignArena.Text

/-!
# Quoted text

A text as it stands inside a diagnostic: between double quotes, with everything a
reader could miss or misread written out.

* `isHidden` — whether a character could be missed;
* `escape` — the written form of one character;
* `quoted` — the written form of a whole text.

Four control characters, the double quote and the backslash have short forms.
Hidden characters are written by their number in lowercase hexadecimal.  All others,
the single quote among them, stand for themselves.
-/

/-- The fillers of Hangul: letters that show as nothing. -/
def isFiller (c : Char) : Bool :=
  c == '\u115f' || c == '\u1160' || c == '\u3164' || c == '\uffa0'

/-- The halfwidth sound marks of Katakana: grapheme extenders that take a place of their
    own. -/
def isSoundMark (c : Char) : Bool :=
  c == '\uff9e' || c == '\uff9f'

/-- Whether a reader could miss a character: it has no visible form, or it disappears
    into the one before it. -/
def isHidden (c : Char) : Bool :=
  isUnprintable c || isFiller c || (isGraphemeExtender c && !isSoundMark c)

/-- The digits of a number in lowercase hexadecimal, without leading zeros. -/
def hexDigits (n : Nat) : List Char :=
  Nat.toDigits 16 n

/-- A character written by its number. -/
def byNumber (c : Char) : List Char :=
  ['\\', 'u', '\x7b'] ++ hexDigits c.toNat ++ ['\x7d']

/-- The written form of one character. -/
def escape (c : Char) : List Char :=
  match c with
  | '\x00' => ['\\', '0']
  | '\t' => ['\\', 't']
  | '\r' => ['\\', 'r']
  | '\n' => ['\\', 'n']
  | '\\' => ['\\', '\\']
  | '\"' => ['\\', '\"']
  | c => if isHidden c then byNumber c else [c]

/-- The written form of a text, quotes included. -/
def quoted (s : String) : String :=
  String.ofList ('\"' :: s.toList.flatMap escape ++ ['\"'])

example : quoted "a\"b\n" = "\"a\\\"b\\n\"" := by decide +kernel

example : quoted "e\u0301" = "\"e\\u\x7b301\x7d\"" := by decide +kernel

example : quoted "\uff76\uff9e\u3164" = "\"\uff76\uff9e\\u\x7b3164\x7d\"" := by decide +kernel

end ForeignArena.Text
