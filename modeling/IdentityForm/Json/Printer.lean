import IdentityForm.Json.Basic

/-! # Compact JSON text

A value on one line without blanks, in the spellings it holds.
-/

namespace IdentityForm.Json

mutual

def print : Json → List Char
  | .null => ['n', 'u', 'l', 'l']
  | .bool true => ['t', 'r', 'u', 'e']
  | .bool false => ['f', 'a', 'l', 's', 'e']
  | .number n => n
  | .string s => '"' :: (s ++ ['"'])
  | .array [] => ['[', ']']
  | .array (j :: items) => '[' :: (print j ++ printItems items)
  | .object [] => ['\x7b', '\x7d']
  | .object ((key, j) :: members) =>
    '\x7b' :: '"' :: (key ++ '"' :: ':' :: (print j ++ printMembers members))

/-- The items after the first one, up to the closing bracket. -/
def printItems : List Json → List Char
  | [] => [']']
  | j :: items => ',' :: (print j ++ printItems items)

/-- The members after the first one, up to the closing brace. -/
def printMembers : List (List Char × Json) → List Char
  | [] => ['\x7d']
  | (key, j) :: members => ',' :: '"' :: (key ++ '"' :: ':' :: (print j ++ printMembers members))

end

/-- The value as one compact line. -/
def compact (j : Json) : String := String.ofList (print j)

end IdentityForm.Json
