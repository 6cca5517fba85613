import ResourceClient.Text.Uppercase

/-! # Camel case names

    The wire form of a name drops the underscores between its words and
    writes the first letter of each later word in upper case.  An underscore
    in front of the name stays. -/

namespace ResourceClient.Text

/-- The characters after the first: an underscore is dropped and raises the next character. -/
def camelTail (raised : Bool) : List Char → List Char
  | [] => []
  | c :: rest =>
    if c = '_' then camelTail true rest
    else (if raised then upper c else [c]) ++ camelTail false rest

/-- The camel case of the characters of a name. -/
def camelChars : List Char → List Char
  | [] => []
  | c :: rest => c :: camelTail false rest

/-- The camel case of a name. -/
def camelCase (name : String) : String := String.ofList (camelChars name.toList)

example : camelCase "asset_subtree_ids" = "assetSubtreeIds" := by decide
example : camelCase "__a" = "_A" := by decide

end ResourceClient.Text
