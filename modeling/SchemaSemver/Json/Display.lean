/-
SchemaSemver.Json.Display — the text of a value where a word was expected.

A text stands for itself; every other value is spelled out: `None` for null, `True` and `False`,
numbers by their shortest text, lists in brackets, objects in braces, and texts inside them quoted.
-/
import SchemaSemver.Json.Value
import SchemaSemver.Text.Joined
import SchemaSemver.Text.Quoted

namespace SchemaSemver.Json.Value

mutual

/-- The value spelled out, texts in quotes. -/
def spelling : Value → String
  | null => "None"
  | bool true => "True"
  | bool false => "False"
  | integer n => toString n
  | real x => x.text
  | string s => Text.quoted s
  | array items => "[" ++ Text.joinWith ", " (itemSpellings items) ++ "]"
  | object members => "\x7b" ++ Text.joinWith ", " (memberSpellings members) ++ "\x7d"

/-- The items spelled out one by one. -/
def itemSpellings : List Value → List String
  | [] => []
  | item :: rest => item.spelling :: itemSpellings rest

/-- The members spelled out one by one. -/
def memberSpellings : List (String × Value) → List String
  | [] => []
  | (name, value) :: rest => (Text.quoted name ++ ": " ++ value.spelling) :: memberSpellings rest

end

/-- The text that the value stands for. -/
def display : Value → String
  | string s => s
  | value => value.spelling

end SchemaSemver.Json.Value
