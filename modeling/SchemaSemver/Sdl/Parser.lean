/-
SchemaSemver.Sdl.Parser — from the tokens of a schema text to its document.

The parser looks at one token, and at the next one only where a description stands in front of a
definition. It stops at the first token that does not fit; a fault of the lexer is met when the
token in front of it has been taken. Parts that may nest take a bound on their depth, and lists a
bound on their length; the number of tokens is always enough for both.
-/
import SchemaSemver.Sdl.Document
import SchemaSemver.Sdl.Lexer

namespace SchemaSemver.Sdl

/-! ## Taking tokens -/

/-- A reader of tokens: it takes some from the front, or stops with a fault. -/
abbrev Parse (α : Type) := StateT (List Lexeme) (Except SyntaxFault) α

namespace Parse

/-- Stops with a problem at a token. -/
def stop {α : Type} (problem : SyntaxProblem) (token : Token) : Parse α :=
  throw ⟨problem, token.offset⟩

/-- The token at the front of lexemes. -/
def firstToken : List Lexeme → Except SyntaxFault Token
  | .token token :: _ => .ok token
  | .fault fault :: _ => .error fault
  | [] => .ok ⟨.endOfText, "", 0⟩

/-- The token that comes next. -/
def current : Parse Token := do
  firstToken (← get)

/-- The token after the next one. -/
def lookahead : Parse Token := do
  match ← get with
  | [last] => firstToken [last]
  | lexemes => firstToken (lexemes.drop 1)

/-- Takes the next token; the end of the text stays where it is. -/
def advance : Parse Unit := do
  match ← get with
  | [_] => pure ()
  | lexemes =>
    let rest := lexemes.drop 1
    let _ ← firstToken rest
    set rest

/-- Stops at the next token because it does not fit. -/
def unexpected {α : Type} : Parse α := do
  let token ← current
  stop (.unexpected token.text) token

/-- Takes the next token, which must be of a kind. -/
def expect (kind : TokenKind) : Parse Token := do
  let token ← current
  if token.kind = kind then
    advance
    return token
  else stop (.expected kind.text token.text) token

/-- Takes the next token if it is of a kind, and says whether it was. -/
def skip (kind : TokenKind) : Parse Bool := do
  let token ← current
  if token.kind = kind then
    advance
    return true
  else return false

/-- Takes a punctuator, which must come next. -/
def expectMark (mark : Punctuator) : Parse Unit := do
  let _ ← expect (.punctuator mark)

/-- Takes a punctuator if it comes next, and says whether it did. -/
def skipMark (mark : Punctuator) : Parse Bool := skip (.punctuator mark)

/-- Does the punctuator come next? -/
def atMark (mark : Punctuator) : Parse Bool := do
  return (← current).kind == .punctuator mark

/-- Takes a name, which must come next. -/
def name : Parse String := do
  return (← expect .name).value

/-- Is the token the given word? -/
def isWord (token : Token) (word : String) : Bool := token.kind == .name && token.value == word

/-- Takes a word, which must come next. -/
def expectWord (word : String) : Parse Unit := do
  let token ← current
  if isWord token word then advance
  else stop (.expected ("'" ++ word ++ "'") token.text) token

/-- Takes a word if it comes next, and says whether it did. -/
def skipWord (word : String) : Parse Bool := do
  if isWord (← current) word then
    advance
    return true
  else return false

/-! ## Lists -/

/-- Items up to a closing punctuator. The first argument bounds their number. -/
def itemsUntil {α : Type} (close : Punctuator) (item : Parse α) : Nat → Parse (List α)
  | 0 => return []
  | bound + 1 => do
    if ← skipMark close then return []
    else
      let first ← item
      let rest ← itemsUntil close item bound
      return first :: rest

/-- Any number of items between two punctuators. -/
def anyBetween {α : Type} (bound : Nat) (openMark close : Punctuator) (item : Parse α) :
    Parse (List α) := do
  expectMark openMark
  itemsUntil close item bound

/-- At least one item between two punctuators. -/
def someBetween {α : Type} (bound : Nat) (openMark close : Punctuator) (item : Parse α) :
    Parse (List α) := do
  expectMark openMark
  let first ← item
  let rest ← itemsUntil close item bound
  return first :: rest

/-- At least one item between two punctuators, or nothing at all. -/
def groupBetween {α : Type} (bound : Nat) (openMark close : Punctuator) (item : Parse α) :
    Parse (List α) := do
  if ← atMark openMark then someBetween bound openMark close item else return []

/-- Items with a punctuator between each two. -/
def separatedBy {α : Type} (delimiter : Punctuator) (item : Parse α) : Nat → Parse (List α)
  | 0 => return []
  | bound + 1 => do
    let first ← item
    if ← skipMark delimiter then
      let rest ← separatedBy delimiter item bound
      return first :: rest
    else return [first]

/-- Items with a punctuator between each two, and perhaps one in front. -/
def delimited {α : Type} (bound : Nat) (delimiter : Punctuator) (item : Parse α) :
    Parse (List α) := do
  let _ ← skipMark delimiter
  separatedBy delimiter item bound

/-! ## Types, values, directives -/

/-- A type. The first argument bounds its depth. -/
def typeExpr : Nat → Parse TypeExpr
  | 0 => unexpected
  | bound + 1 => do
    let core ← (do
      if ← skipMark .leftBracket then
        let item ← typeExpr bound
        expectMark .rightBracket
        return .list item
      else return .named (← name))
    if ← skipMark .bang then return .nonNull core else return core

/-- A value that begins with a dollar mark: a variable, or a fault where only constants may
stand. -/
def variableValue (isConstant : Bool) : Parse Literal := do
  let mark ← expect (.punctuator .dollar)
  if isConstant then
    let next ← current
    if next.kind = .name then stop (.variableInConstant next.value) mark
    else stop (.unexpected mark.text) mark
  else return .variable (← name)

/-- The value that a name spells. -/
def wordLiteral : String → Literal
  | "true" => .boolean true
  | "false" => .boolean false
  | "null" => .null
  | word => .enumValue word

/-- A value. The last argument bounds its depth; `length` bounds the lists inside. -/
def literal (length : Nat) (isConstant : Bool) : Nat → Parse Literal
  | 0 => unexpected
  | bound + 1 => do
    let token ← current
    match token.kind with
    | .punctuator .leftBracket =>
      let items ← anyBetween length .leftBracket .rightBracket (literal length isConstant bound)
      return .list items
    | .punctuator .leftBrace =>
      let fields ← anyBetween length .leftBrace .rightBrace (do
        let fieldName ← name
        expectMark .colon
        let value ← literal length isConstant bound
        return (fieldName, value))
      return .object fields
    | .punctuator .dollar => variableValue isConstant
    | .integer =>
      advance
      return .integer token.value
    | .float =>
      advance
      return .float token.value
    | .string =>
      advance
      return .string token.value
    | .blockString =>
      advance
      return .string token.value
    | .name =>
      advance
      return wordLiteral token.value
    | _ => unexpected

variable (bound : Nat)

/-- Arguments in parentheses, or none. -/
def arguments (isConstant : Bool) : Parse (List NamedLiteral) :=
  groupBetween bound .leftParen .rightParen do
    let argument ← name
    expectMark .colon
    let value ← literal bound isConstant bound
    return (argument, value)

/-- One directive. -/
def directive (isConstant : Bool) : Parse Directive := do
  expectMark .atSign
  let directiveName ← name
  let given ← arguments bound isConstant
  return ⟨directiveName, given⟩

/-- Directives as long as at marks follow; the last argument bounds their number. -/
def directivesFrom (isConstant : Bool) : Nat → Parse (List Directive)
  | 0 => return []
  | count + 1 => do
    if ← atMark .atSign then
      let first ← directive bound isConstant
      let rest ← directivesFrom isConstant count
      return first :: rest
    else return []

/-- Directives, whose values are constants or not. -/
def directives (isConstant : Bool) : Parse (List Directive) :=
  directivesFrom bound isConstant bound

/-! ## Parts of type definitions -/

/-- Is the token a description? -/
def isDescription (token : Token) : Bool := token.kind == .string || token.kind == .blockString

/-- Takes a description if one comes next. -/
def description : Parse Unit := do
  if isDescription (← current) then advance

/-- An argument or input field. -/
def inputValue : Parse InputValueDef := do
  description
  let valueName ← name
  expectMark .colon
  let type ← typeExpr bound
  let default ← (do
    if ← skipMark .equals then return some (← literal bound true bound) else return none)
  let given ← directives bound true
  return ⟨valueName, type, default, given⟩

/-- The arguments of a field or directive, or none. -/
def argumentDefs : Parse (List InputValueDef) :=
  groupBetween bound .leftParen .rightParen (inputValue bound)

/-- An output field. -/
def fieldDef : Parse FieldDef := do
  description
  let fieldName ← name
  let parameters ← argumentDefs bound
  expectMark .colon
  let type ← typeExpr bound
  let given ← directives bound true
  return ⟨fieldName, parameters, type, given⟩

/-- The fields of an object or interface, or none. -/
def fieldDefs : Parse (List FieldDef) :=
  groupBetween bound .leftBrace .rightBrace (fieldDef bound)

/-- The implemented interfaces, or none. -/
def interfaces : Parse (List String) := do
  if ← skipWord "implements" then delimited bound .ampersand name else return []

/-- The members of a union, or none. -/
def unionMembers : Parse (List String) := do
  if ← skipMark .equals then delimited bound .pipe name else return []

/-- An enum value; three words cannot be one. -/
def enumValueDef : Parse EnumValueDef := do
  description
  let token ← current
  if token.value = "true" ∨ token.value = "false" ∨ token.value = "null" then
    stop (.reservedEnumValue token.text) token
  else
    let valueName ← name
    let given ← directives bound true
    return ⟨valueName, given⟩

/-- The values of an enum, or none. -/
def enumValueDefs : Parse (List EnumValueDef) :=
  groupBetween bound .leftBrace .rightBrace (enumValueDef bound)

/-- The fields of an input object, or none. -/
def inputFieldDefs : Parse (List InputValueDef) :=
  groupBetween bound .leftBrace .rightBrace (inputValue bound)

/-! ## Type definitions

The word that says what is defined has been taken already. -/

/-- The rest of the definition of a type that begins with the given word, if it is such a word. -/
def typeDefAfter? : String → Option (Parse TypeDef)
  | "scalar" => some do
    let typeName ← name
    let given ← directives bound true
    return ⟨typeName, given, .scalar⟩
  | "type" => some do
    let typeName ← name
    let implemented ← interfaces bound
    let given ← directives bound true
    let fields ← fieldDefs bound
    return ⟨typeName, given, .object implemented fields⟩
  | "interface" => some do
    let typeName ← name
    let implemented ← interfaces bound
    let given ← directives bound true
    let fields ← fieldDefs bound
    return ⟨typeName, given, .interface implemented fields⟩
  | "union" => some do
    let typeName ← name
    let given ← directives bound true
    let members ← unionMembers bound
    return ⟨typeName, given, .union members⟩
  | "enum" => some do
    let typeName ← name
    let given ← directives bound true
    let values ← enumValueDefs bound
    return ⟨typeName, given, .enum values⟩
  | "input" => some do
    let typeName ← name
    let given ← directives bound true
    let fields ← inputFieldDefs bound
    return ⟨typeName, given, .inputObject fields⟩
  | _ => none

/-- Does a type say anything beside its name? -/
def hasContent (type : TypeDef) : Bool :=
  !type.directives.isEmpty ||
    match type.body with
    | .scalar => false
    | .object implemented fields => !implemented.isEmpty || !fields.isEmpty
    | .interface implemented fields => !implemented.isEmpty || !fields.isEmpty
    | .union members => !members.isEmpty
    | .enum values => !values.isEmpty
    | .inputObject fields => !fields.isEmpty

/-- An operation type word. -/
def operationType : Parse OperationType := do
  let token ← expect .name
  match OperationType.ofName? token.value with
  | some type => return type
  | none => stop (.unexpected token.text) token

/-- A root type: the operation and the type's name. -/
def rootType : Parse (OperationType × String) := do
  let type ← operationType
  expectMark .colon
  let typeName ← name
  return (type, typeName)

/-- A place where a directive may be used. -/
def location : Parse DirectiveLocation := do
  let token ← current
  let word ← name
  match DirectiveLocation.ofName? word with
  | some place => return place
  | none => stop (.unexpected token.text) token

/-- The rest of a directive definition. -/
def directiveDef : Parse DirectiveDef := do
  expectMark .atSign
  let directiveName ← name
  let parameters ← argumentDefs bound
  let given ← directives bound true
  let isRepeatable ← skipWord "repeatable"
  expectWord "on"
  let places ← delimited bound .pipe location
  return ⟨directiveName, parameters, given, isRepeatable, places⟩

/-- The rest of a schema definition. -/
def schemaDef : Parse SchemaDef := do
  let given ← directives bound true
  let roots ← someBetween bound .leftBrace .rightBrace rootType
  return ⟨given, roots⟩

/-- The rest of an extension, from the word that says what is extended on. An extension has to add
something. -/
def extension (word : Token) : Parse Definition := do
  if word.value = "schema" then
    advance
    let given ← directives bound true
    let roots ← groupBetween bound .leftBrace .rightBrace rootType
    if given.isEmpty && roots.isEmpty then unexpected
    else return .schemaExtension ⟨given, roots⟩
  else if word.value = "directive" then
    advance
    expectMark .atSign
    let directiveName ← name
    let given ← directives bound true
    if given.isEmpty then unexpected else return .directiveExtension directiveName given
  else
    match typeDefAfter? bound word.value with
    | some rest =>
      advance
      let type ← rest
      if hasContent type then return .typeExtension type else unexpected
    | none => stop (.unexpected word.text) word

/-! ## Operations and fragments -/

/-- A variable definition. -/
def variableDef : Parse VariableDef := do
  description
  expectMark .dollar
  let _ ← name
  expectMark .colon
  let type ← typeExpr bound
  let default ← (do
    if ← skipMark .equals then return some (← literal bound true bound) else return none)
  let given ← directives bound true
  return ⟨type, default, given⟩

/-- A part of a selection set; the last argument bounds its depth. -/
def selection : Nat → Parse Selection
  | 0 => unexpected
  | depth + 1 => do
    let selections := anyBetween bound .leftBrace .rightBrace (selection depth)
    if ← skipMark .spread then
      let onType ← skipWord "on"
      let token ← current
      if !onType && token.kind == .name then
        advance
        return .spread (← directives bound false)
      else
        let condition ← (do if onType then return some (← name) else return none)
        let given ← directives bound false
        return .inline condition given (← selections)
    else
      let _ ← name
      if ← skipMark .colon then
        let _ ← name
      let given ← arguments bound false
      let used ← directives bound false
      if ← atMark .leftBrace then return .field given used (← selections)
      else return .field given used []

/-- A selection set, which may be empty. -/
def selectionSet : Parse (List Selection) :=
  anyBetween bound .leftBrace .rightBrace (selection bound bound)

/-- An operation that begins with its word. -/
def operationDef : Parse OperationDef := do
  let type ← operationType
  if (← current).kind = .name then
    advance
  let variableDefs ← groupBetween bound .leftParen .rightParen (variableDef bound)
  let given ← directives bound false
  return ⟨type, variableDefs, given, ← selectionSet bound⟩

/-- A fragment from after its word on. -/
def fragmentDef : Parse FragmentDef := do
  if (← current).value = "on" then unexpected
  else
    let _ ← name
    expectWord "on"
    let condition ← name
    let given ← directives bound false
    return ⟨condition, given, ← selectionSet bound⟩

/-! ## Documents -/

/-- The rest of a definition that begins with the given word, if such a definition exists. -/
def definitionAt? (word : Token) : Option (Parse Definition) :=
  if word.kind ≠ .name then none
  else
    match typeDefAfter? bound word.value with
    | some rest => some do
      description
      advance
      return .type (← rest)
    | none =>
      match word.value with
      | "schema" => some do
        description
        advance
        return .schema (← schemaDef bound)
      | "directive" => some do
        description
        advance
        return .directive (← directiveDef bound)
      | "fragment" => some do
        description
        advance
        return .fragment (← fragmentDef bound)
      | "query" => some do
        description
        return .operation (← operationDef bound)
      | "mutation" => some do
        description
        return .operation (← operationDef bound)
      | "subscription" => some do
        description
        return .operation (← operationDef bound)
      | _ => none

/-- One definition. -/
def definition : Parse Definition := do
  let first ← current
  let isDescribed := isDescription first
  let word ← (do if isDescribed then lookahead else return first)
  if word.kind = .punctuator .leftBrace then
    if isDescribed then stop .describedShorthand first
    else return .operation ⟨.query, [], [], ← selectionSet bound⟩
  else
    match definitionAt? bound word with
    | some rest => rest
    | none =>
      if word.kind ≠ .name then stop (.unexpected word.text) word
      else if isDescribed then stop .misplacedDescription first
      else if word.value = "extend" then
        let extended ← lookahead
        if extended.kind = .name then
          match definitionAt? bound extended with
          | some _ =>
            advance
            extension bound extended
          | none => stop (.unexpected extended.text) extended
        else stop (.unexpected extended.text) extended
      else stop (.unexpected word.text) word

/-- Definitions to the end of the text; the last argument bounds their number. -/
def definitionsFrom : Nat → Parse (List Definition)
  | 0 => return []
  | count + 1 => do
    if ← skip .endOfText then return []
    else
      let first ← definition bound
      let rest ← definitionsFrom count
      return first :: rest

/-- A whole document: at least one definition. -/
def document : Parse Document := do
  let first ← definition bound
  let rest ← definitionsFrom bound bound
  return first :: rest

end Parse

/-- The document of a schema text, or its first syntax fault. -/
def parseDocument (text : String) : Except SyntaxFault Document :=
  let found := lexemes text.toList
  ((Parse.document (found.length + 1)).run found).map Prod.fst

end SchemaSemver.Sdl
