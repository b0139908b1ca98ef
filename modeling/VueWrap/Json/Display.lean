import VueWrap.Decimal.Shortest
import VueWrap.Json.Value
import VueWrap.Text.Quoted

/-! # Values shown in running text

The form a value takes inside a message or a name: a text stands as it is, and
inside lists and objects it is quoted.
-/

namespace VueWrap.Value

def displayNames : Double.Names := ⟨"nan", "inf"⟩

def bracketed (left right : String) (pieces : List String) : String :=
  left ++ ", ".intercalate pieces ++ right

mutual

def literal : Value → String
  | null => "None"
  | bool true => "True"
  | bool false => "False"
  | int n => toString n
  | float x => String.ofList (x.text displayNames)
  | str s => Text.quoted s
  | arr items => bracketed "[" "]" (literals items)
  | obj fields => bracketed "\x7b" "\x7d" (literalFields fields)

def literals : List Value → List String
  | [] => []
  | v :: vs => literal v :: literals vs

def literalFields : List (String × Value) → List String
  | [] => []
  | (k, v) :: fs => (Text.quoted k ++ ": " ++ literal v) :: literalFields fs

end

def display : Value → String
  | str s => s
  | v => literal v

@[simp] theorem display_str (s : String) : display (str s) = s := rfl

end VueWrap.Value
