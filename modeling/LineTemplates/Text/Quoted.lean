import LineTemplates.Text.Unshown

/-! Quoted text: the form in which names and arguments are shown, between two quotes and with every quote,
backslash and invisible character escaped. -/

namespace LineTemplates.Text

def spelledByNumber (char : Char) : Text := ['\\', 'u', '\x7b'] ++ Nat.toDigits 16 char.toNat ++ ['\x7d']

def spell (char : Char) : Text :=
  match char with
  | '\x00' => ['\\', '0']
  | '\t' => ['\\', 't']
  | '\n' => ['\\', 'n']
  | '\r' => ['\\', 'r']
  | '"' => ['\\', '"']
  | '\\' => ['\\', '\\']
  | _ => if isShown char then [char] else spelledByNumber char

def quoted (text : Text) : Text := '"' :: text.flatMap spell ++ ['"']

def commaSeparated (texts : List Text) : Text := join [',', ' '] texts

def quotedList (texts : List Text) : Text := '[' :: commaSeparated (texts.map quoted) ++ [']']

end LineTemplates.Text
