/-
SchemaSemver.Text.Joined — texts written one after the other with a separator between them.

Every list that the library prints (argument lists, interface lists, section names) is written by
`joinWith`, so its equations are the only facts about separators that a proof needs.
-/

namespace SchemaSemver.Text

/-- The texts in order, with the separator between each two neighbours. -/
def joinWith (separator : String) : List String → String
  | [] => ""
  | [text] => text
  | text :: next :: rest => text ++ separator ++ joinWith separator (next :: rest)

theorem joinWith_nil (separator : String) : joinWith separator [] = "" := rfl

theorem joinWith_singleton (separator text : String) : joinWith separator [text] = text := rfl

theorem joinWith_cons_cons (separator text next : String) (rest : List String) :
    joinWith separator (text :: next :: rest)
      = text ++ separator ++ joinWith separator (next :: rest) := rfl

end SchemaSemver.Text
