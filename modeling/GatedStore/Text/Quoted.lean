import GatedStore.Text.Printable

namespace GatedStore.Text.Quoted

def quoteChar (c : Char) : List Char :=
  match c with
  | '"' => ['\\', '"']
  | '\\' => ['\\', '\\']
  | '\t' => ['\\', 't']
  | '\n' => ['\\', 'n']
  | '\r' => ['\\', 'r']
  | '\x00' => ['\\', '0']
  | c => if isPrintable c then [c] else ['\\', 'u', '\x7b'] ++ Nat.toDigits 16 c.toNat ++ ['\x7d']

def quote (cs : List Char) : List Char :=
  '"' :: cs.flatMap quoteChar ++ ['"']

end GatedStore.Text.Quoted

namespace GatedStore.Text

def quoted (s : String) : String :=
  String.ofList (Quoted.quote s.toList)

end GatedStore.Text
