/-
SchemaSemver.Yaml.Character — the classes of characters that YAML tells apart.

Functions with a list as argument look at the front of a text; the end of the text counts as a
separator there, as a line break does.
-/

namespace SchemaSemver.Yaml

/-- Is the character a line break? Carriage returns are line feeds before any text is looked at. -/
def isBreak (c : Char) : Bool := c == '\n' || c == '\x85' || c == '\u2028' || c == '\u2029'

/-- Is the character a space or a tab? -/
def isSpaceOrTab (c : Char) : Bool := c == ' ' || c == '\t'

/-- Does the text end here, or a line of it? -/
def atLineEnd : List Char → Bool
  | [] => true
  | c :: _ => isBreak c

/-- Is here the end of the text, a line break or a space? -/
def atSpace : List Char → Bool
  | [] => true
  | c :: _ => isBreak c || c == ' '

/-- Is here the end of the text, a line break, a space or a tab? -/
def atBlank : List Char → Bool
  | [] => true
  | c :: _ => isBreak c || isSpaceOrTab c

/-- Does the front of the text, which begins a line, separate two documents? -/
def atDocumentMark : List Char → Bool
  | '-' :: '-' :: '-' :: rest => atBlank rest
  | '.' :: '.' :: '.' :: rest => atBlank rest
  | _ => false

/-- Can the character stand in the name of an anchor, a directive or a tag handle? -/
def isWordChar (c : Char) : Bool := c.isAlphanum || c == '-' || c == '_'

/-- Can the character stand in a tag as it is, or begin an escape in it? -/
def isTagChar (c : Char) : Bool :=
  c.isAlphanum || "-;/?:@&=+$,_.!~*'()[]%".toList.contains c

/-- May the character stand in a YAML text at all? -/
def isAllowed (c : Char) : Bool :=
  c == '\t' || c == '\n' || c == '\r' || (' ' ≤ c && c ≤ '~') || c == '\x85'
    || ('\xA0' ≤ c && c ≤ '\uFFFD') || 0x10000 ≤ c.toNat

/-- The text with every carriage return, alone or before a line feed, made a line feed. -/
def withLineFeeds : List Char → List Char
  | [] => []
  | '\r' :: '\n' :: rest => '\n' :: withLineFeeds rest
  | '\r' :: rest => '\n' :: withLineFeeds rest
  | c :: rest => c :: withLineFeeds rest

/-- No carriage return is left. -/
theorem not_mem_withLineFeeds (text : List Char) : '\r' ∉ withLineFeeds text := by
  fun_induction withLineFeeds text with
  | case1 => simp
  | case2 rest ih => simp [ih]
  | case3 rest _ ih => simp [ih]
  | case4 c rest _ hne ih =>
    have : c ≠ '\r' := fun h => hne h
    simp [ih, Ne.symm this]

end SchemaSemver.Yaml
