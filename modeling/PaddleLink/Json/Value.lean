import PaddleLink.Decimal.Notation
import PaddleLink.Json.Tree
import PaddleLink.Text.Hex

namespace PaddleLink.Json

inductive Value where
  | null
  | bool (b : Bool)
  | integer (i : Int)
  | float (x : Float)
  | string (s : String)
  | array (items : List Value)
  | object (members : List (String × Value))

def Value.ofFloat (x : Float) : Value :=
  if x.isFinite then .float x else .null

def escape (c : Char) : List Char :=
  match c with
  | '"' => ['\\', '"']
  | '\\' => ['\\', '\\']
  | '\x08' => ['\\', 'b']
  | '\x0c' => ['\\', 'f']
  | '\n' => ['\\', 'n']
  | '\r' => ['\\', 'r']
  | '\t' => ['\\', 't']
  | c =>
    if c.toNat < 0x20 then
      ['\\', 'u', '0', '0', Text.hexDigit (c.toNat / 16), Text.hexDigit (c.toNat % 16)]
    else [c]

def renderString (s : String) : List Char :=
  '"' :: s.toList.flatMap escape ++ ['"']

mutual

def Value.render : Value → List Char
  | .null => ['n', 'u', 'l', 'l']
  | .bool true => ['t', 'r', 'u', 'e']
  | .bool false => ['f', 'a', 'l', 's', 'e']
  | .integer i => Decimal.ofInt i
  | .float x => Decimal.ofFloat x
  | .string s => renderString s
  | .array items => '[' :: renderItems items
  | .object members => '{' :: renderMembers members

def renderItems : List Value → List Char
  | [] => [']']
  | v :: vs => v.render ++ renderMoreItems vs

def renderMoreItems : List Value → List Char
  | [] => [']']
  | v :: vs => ',' :: v.render ++ renderMoreItems vs

def renderMembers : List (String × Value) → List Char
  | [] => ['}']
  | (k, v) :: ms => renderString k ++ ':' :: v.render ++ renderMoreMembers ms

def renderMoreMembers : List (String × Value) → List Char
  | [] => ['}']
  | (k, v) :: ms => ',' :: renderString k ++ ':' :: v.render ++ renderMoreMembers ms

end

def Value.toText (v : Value) : String :=
  String.ofList v.render

mutual

def Value.toTree : Value → Tree
  | .null => .null
  | .bool b => .bool b
  | .integer i => .number (.ok (.integer i))
  | .float x => .number (.ok (.float x))
  | .string s => .string (.ok s)
  | .array items => .array (itemTrees items) .closed
  | .object members => .object (memberTrees members) .closed

def itemTrees : List Value → List Tree
  | [] => []
  | v :: vs => v.toTree :: itemTrees vs

def memberTrees : List (String × Value) → List (Name × Tree)
  | [] => []
  | (k, v) :: ms => (.ok k, v.toTree) :: memberTrees ms

end

end PaddleLink.Json
