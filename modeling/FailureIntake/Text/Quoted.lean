import FailureIntake.Text.Invisible

/-! Quoted texts: a text between double quotes in which no quote, backslash or invisible
character stands for itself. -/
namespace FailureIntake.Text

/-- Lowercase hexadecimal digits without leading zeros. -/
def hex (n : Nat) : List Char :=
  Nat.toDigits 16 n

/-- Five characters have a short escape, other invisible ones are written by their number. -/
def quotedChar (c : Char) : List Char :=
  match c with
  | '\x00' => ['\\', '0']
  | '\t' => ['\\', 't']
  | '\n' => ['\\', 'n']
  | '\r' => ['\\', 'r']
  | '"' => ['\\', '"']
  | '\\' => ['\\', '\\']
  | c => if isInvisible c then ['\\', 'u', '\x7b'] ++ hex c.toNat ++ ['\x7d'] else [c]

def quoted (s : String) : String :=
  String.ofList ('"' :: s.toList.flatMap quotedChar ++ ['"'])

end FailureIntake.Text
