import Relaycast.Script.Json

/-!
# The casing of keys

The client writes keys in camel case and the wire in snake case.  `camelizeKeys` and
`decamelizeKeys` rename the keys of every object of a value, except below the fields that hold
documents of the user: of these the field itself is renamed and its value passed through.

The fields of an object stand in the order of their enumeration.  Neither transform changes or makes
a key that is an array index, so writing new keys at the end keeps that order.
-/

namespace Sdk.Casing

open Script

/-- The letters `[a-z]` and `[A-Z]`, in their order. -/
def lowerLetters : List Char := "abcdefghijklmnopqrstuvwxyz".toList
def upperLetters : List Char := "ABCDEFGHIJKLMNOPQRSTUVWXYZ".toList

lemma lowerLetters_eq : lowerLetters =
    ['a', 'b', 'c', 'd', 'e', 'f', 'g', 'h', 'i', 'j', 'k', 'l', 'm', 'n', 'o', 'p', 'q',
      'r', 's', 't', 'u', 'v', 'w', 'x', 'y', 'z'] := String.toList_ofList

lemma upperLetters_eq : upperLetters =
    ['A', 'B', 'C', 'D', 'E', 'F', 'G', 'H', 'I', 'J', 'K', 'L', 'M', 'N', 'O', 'P', 'Q',
      'R', 'S', 'T', 'U', 'V', 'W', 'X', 'Y', 'Z'] := String.toList_ofList

/-- `key.replace(/_([a-z])/g, (_, c) => c.toUpperCase())`. -/
def camelChars : List Char → List Char
  | '_' :: c :: rest =>
    if c ∈ lowerLetters then c.toUpper :: camelChars rest else '_' :: camelChars (c :: rest)
  | c :: rest => c :: camelChars rest
  | [] => []

/-- `key.replace(/[A-Z]/g, (c) => '_' + c.toLowerCase())`. -/
def snakeChars : List Char → List Char
  | [] => []
  | c :: rest => if c ∈ upperLetters then '_' :: c.toLower :: snakeChars rest else c :: snakeChars rest

def toCamelKey (key : String) : String := String.ofList (camelChars key.toList)

def toSnakeKey (key : String) : String := String.ofList (snakeChars key.toList)

/-- Fields whose values are documents of the user. -/
def VERBATIM_VALUE_KEYS : List String :=
  ["headers", "input", "output", "input_schema", "inputSchema", "output_schema", "outputSchema",
    "data", "metadata"]

def isVerbatim (key : String) : Bool := VERBATIM_VALUE_KEYS.contains key

/-- `out[key] = value`; the key `__proto__` sets the prototype and no field. -/
def assign (out : List (String × Json)) (key : String) (value : Json) : List (String × Json) :=
  if key = "__proto__" then out
  else if out.any (·.1 == key) then
    out.map fun field => if field.1 = key then (key, value) else field
  else out ++ [(key, value)]

mutual

/-- The value with its keys renamed, but for what the verbatim fields hold. -/
def renameKeys (rename : String → String) : Json → Json
  | .arr items => .arr (renameItems rename items)
  | .obj fields => .obj (renameFields rename fields [])
  | value => value

def renameItems (rename : String → String) : List Json → List Json
  | [] => []
  | item :: items => renameKeys rename item :: renameItems rename items

/-- The fields are written to `out` one after the other. -/
def renameFields (rename : String → String) :
    List (String × Json) → List (String × Json) → List (String × Json)
  | [], out => out
  | (key, val) :: fields, out =>
    renameFields rename fields
      (assign out (rename key) (if isVerbatim key then val else renameKeys rename val))

end

def camelizeKeys : Json → Json := renameKeys toCamelKey

def decamelizeKeys : Json → Json := renameKeys toSnakeKey

end Sdk.Casing
