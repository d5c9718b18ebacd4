import ModuleRunner.Script.Lexer
import ModuleRunner.Script.Tree

/-!
# From tokens to syntax trees

A recursive descent over the tokens of a text.  The parser looks at the current token and at
whether a line feed stands before it, takes tokens one by one, and never goes back; so its state is
the number of tokens taken and the nesting it has entered.

Nesting is bounded by `maxNesting`.  Every way from a rule back to itself passes `nested` or
`descend`, and both count.  The rules are therefore built in levels: a rule of one level calls for
smaller phrases the rules of the level below, and at the lowest level there is nothing but the
error that nesting has grown too deep.

* `Cause`, `Fault` — why and where a text is no program.
* `Cursor`, `Refusal`, `Parser` — the state, how a rule fails, and the monad.
* `Level`, `level` — the rules that other rules call, and how each level is built.
* `parse` — the program that a text spells.
-/

namespace ModuleRunner.Script

/-! ## Errors -/

/-- The three places where an assignment target is written. -/
inductive TargetPlace where
  | assignment | beforeOperand | afterOperand
deriving DecidableEq, Repr

/-- Why a text is no program. -/
inductive Cause where
  /-- Phrases nest too deeply. -/
  | tooDeep
  /-- Another token stands where this mark belongs. -/
  | expectedMark (wanted : Mark) (found : Kind)
  /-- Another token stands where a name belongs. -/
  | expectedName (found : Kind)
  /-- Another token stands where the name of a property belongs. -/
  | expectedProperty (found : Kind)
  /-- No phrase starts or goes on with this token. -/
  | unexpected (found : Kind)
  /-- A text literal does not end on its line. -/
  | unterminated
  /-- A constant is declared without a value. -/
  | constantWithoutValue
  /-- The value to throw stands on another line. -/
  | throwOnNextLine
  /-- A `try` has neither of the parts that may follow it. -/
  | attemptWithoutHandler
  /-- What is assigned to is no name and no property. -/
  | badTarget (place : TargetPlace)
  /-- A list went on without taking a token.  No rule does so. -/
  | stalled
deriving DecidableEq

/-- The text of a cause. -/
def Cause.message : Cause → String
  | tooDeep => "Too much nesting"
  | expectedMark wanted found => "Expected " ++ wanted.label ++ " but found " ++ found.describe
  | expectedName found => "Expected identifier but found " ++ found.describe
  | expectedProperty found => "Expected property name but found " ++ found.describe
  | unexpected found => "Unexpected " ++ found.describe
  | unterminated => "Invalid or unexpected token"
  | constantWithoutValue => "Missing initializer in const declaration"
  | throwOnNextLine => "Illegal newline after throw"
  | attemptWithoutHandler => "Missing catch or finally after try"
  | badTarget .assignment => "Invalid left-hand side in assignment"
  | badTarget .beforeOperand => "Invalid left-hand side in prefix operation"
  | badTarget .afterOperand => "Invalid left-hand side in postfix operation"
  | stalled => "Stalled"

/-- A cause and the place of the token that shows it. -/
structure Fault where
  /-- Why the text is no program. -/
  cause : Cause
  /-- The line of the token. -/
  line : Nat
  /-- The column of the token. -/
  column : Nat
deriving DecidableEq

/-! ## The monad -/

/-- How deeply statements and expressions may nest. -/
def maxNesting : Nat := 128

/-- Where the parser stands. -/
structure Cursor where
  /-- The number of tokens taken. -/
  taken : Nat
  /-- The nesting entered. -/
  depth : Nat
deriving DecidableEq, Repr

/-- How a rule fails: the fault, and where the parser stands when it shows. -/
structure Refusal where
  /-- What is wrong. -/
  fault : Fault
  /-- Where the parser stands. -/
  cursor : Cursor
deriving DecidableEq

/-- A rule: it reads the tokens, moves the cursor and answers a tree or refuses them. -/
abbrev Parser := ReaderT (Array Token) (StateT Cursor (Except Refusal))

/-- The token that stands for a place outside the text. -/
def nowhere : Token := ⟨.endOfInput, ⟨0, 0, 0, 0⟩, false⟩

/-- The token ahead. -/
def current : Parser Token := fun tokens c => .ok (tokens.getD c.taken nowhere, c)

/-- The token taken last. -/
def previous : Parser Token := fun tokens c =>
  .ok (if c.taken = 0 then nowhere else tokens.getD (c.taken - 1) nowhere, c)

/-- The kind of the token ahead. -/
def currentKind : Parser Kind := do return (← current).kind

/-- Takes the token ahead. -/
def take : Parser Unit := fun _ c => .ok ((), { c with taken := c.taken + 1 })

/-- Fails at a token. -/
def failAt {α : Type} (token : Token) (cause : Cause) : Parser α := fun _ c =>
  .error ⟨⟨cause, token.span.line, token.span.column⟩, c⟩

/-- Fails at the token ahead. -/
def fail {α : Type} (cause : Cause) : Parser α := do failAt (← current) cause

/-- Fails at the token taken last. -/
def failBehind {α : Type} (cause : Cause) : Parser α := do failAt (← previous) cause

/-- The nesting entered so far. -/
def depth : Parser Nat := fun _ c => .ok (c.depth, c)

/-- Returns to a nesting noted before. -/
def restoreDepth (mark : Nat) : Parser Unit := fun _ c => .ok ((), { c with depth := mark })

/-- Enters one more level of nesting. -/
def descend : Parser Unit := do
  restoreDepth ((← depth) + 1)
  if (← depth) > maxNesting then fail .tooDeep

/-- Applies a rule one level of nesting deeper. -/
def nested {α : Type} (rule : Parser α) : Parser α := do
  let mark ← depth
  descend
  let answer ← rule
  restoreDepth mark
  return answer

/-- The number of tokens from the one ahead to the last; a list cannot have more items. -/
def remaining : Parser Nat := fun tokens c => .ok (tokens.size - c.taken, c)

/-! ## Single tokens -/

/-- Whether a mark is ahead. -/
def sees (m : Mark) : Parser Bool := do return (← currentKind) = .mark m

/-- Takes a mark if it is ahead. -/
def accept (m : Mark) : Parser Bool := do
  if ← sees m then
    take
    return true
  else return false

/-- Takes a keyword if it is ahead. -/
def acceptWord (k : Keyword) : Parser Bool := do
  if (← currentKind) = .keyword k then
    take
    return true
  else return false

/-- Takes a mark that has to be ahead. -/
def expect (m : Mark) : Parser Unit := do
  if ← sees m then take else fail (.expectedMark m (← currentKind))

/-- Takes a name that has to be ahead. -/
def expectName : Parser String := do
  match ← currentKind with
  | .name s =>
    take
    return s
  | found => fail (.expectedName found)

/-- Takes a token that names a property, which has to be ahead. -/
def expectProperty : Parser String := do
  let found ← currentKind
  match found.propertyName? with
  | some s =>
    take
    return s
  | none => fail (.expectedProperty found)

/-- Whether a statement may end before the token ahead: at a semicolon, a closing brace, the end of
the text or a line feed. -/
def atStatementEnd : Parser Bool := do
  let t ← current
  return t.kind = .mark .semicolon || t.kind = .mark .rightBrace || t.kind = .endOfInput
    || t.newlineBefore

/-- Ends a statement, with its semicolon or without. -/
def endStatement : Parser Unit := do
  if ← accept .semicolon then return ()
  if ← atStatementEnd then return ()
  fail (.unexpected (← currentKind))

/-! ## Lists -/

/-- Items up to a closing mark, with a comma between two of them; a comma may also follow the last
one.  The closing mark is left ahead. -/
def commaList {α : Type} (close : Mark) (item : Parser α) : Nat → Parser (List α)
  | 0 => fail .stalled
  | bound + 1 => do
    if ← sees close then return []
    let first ← item
    if ← accept .comma then return first :: (← commaList close item bound)
    return [first]

/-- Items with a comma between two of them; there is at least one, and an item follows every
comma. -/
def commaChain {α : Type} (item : Parser α) : Nat → Parser (List α)
  | 0 => fail .stalled
  | bound + 1 => do
    let first ← item
    if ← accept .comma then return first :: (← commaChain item bound)
    return [first]

/-- Items one after another until the end of the text, or until a closing brace if there is to be
one. -/
def sequence {α : Type} (braced : Bool) (item : Parser α) : Nat → Parser (List α)
  | 0 => fail .stalled
  | bound + 1 => do
    let kind ← currentKind
    if kind = .endOfInput || (braced && kind = .mark .rightBrace) then return []
    let first ← item
    return first :: (← sequence braced item bound)

/-! ## Levels -/

/-- The rules that smaller phrases are read with, each one level of nesting deeper. -/
structure Level where
  /-- A statement. -/
  statement : Parser Statement
  /-- An expression; assignments bind weakest. -/
  expression : Parser Expression
  /-- An operand with the operators before it. -/
  operand : Parser Expression
  /-- The construction that a construction takes its constructor from. -/
  construction : Parser Expression

section Rules

variable (deeper : Level)

/-- Arguments in parentheses. -/
def arguments : Parser (List Expression) := do
  expect .leftParen
  let items ← commaList .rightParen deeper.expression ((← remaining) + 1)
  expect .rightParen
  return items

/-- Statements in braces. -/
def block : Parser (List Statement) := do
  expect .leftBrace
  let body ← sequence true deeper.statement ((← remaining) + 1)
  expect .rightBrace
  return body

/-- Parameters and body of a function. -/
def functionRest (name : Option String) : Parser FunctionLiteral := do
  expect .leftParen
  let parameters ←
    if ← sees .rightParen then pure [] else commaChain expectName ((← remaining) + 1)
  expect .rightParen
  return ⟨name, parameters, ← block deeper⟩

/-- An array literal. -/
def arrayLiteral : Parser Expression := do
  take
  let elements ← commaList .rightBracket deeper.expression ((← remaining) + 1)
  expect .rightBracket
  return .array elements

/-- One property of an object literal: with its value, as a method, or named like the variable that
holds its value. -/
def property : Parser (String × Expression) := do
  let key ← expectProperty
  if ← accept .colon then return (key, ← deeper.expression)
  if ← sees .leftParen then return (key, .function (← functionRest deeper (some key)))
  return (key, .name key)

/-- An object literal. -/
def objectLiteral : Parser Expression := do
  take
  let properties ← commaList .rightBrace (property deeper) ((← remaining) + 1)
  expect .rightBrace
  return .object properties

/-- An expression that is no operator's: a literal, a name, a function or parentheses. -/
def primary : Parser Expression := do
  match ← currentKind with
  | .number x => take; return .number x
  | .text s => take; return .text s
  | .keyword .trueWord => take; return .boolean true
  | .keyword .falseWord => take; return .boolean false
  | .keyword .nullWord => take; return .null
  | .keyword .thisWord => take; return .receiver
  | .name s => take; return if s = "undefined" then .undefined else .name s
  | .mark .leftParen =>
    take
    let inner ← deeper.expression
    expect .rightParen
    return inner
  | .mark .leftBracket => arrayLiteral deeper
  | .mark .leftBrace => objectLiteral deeper
  | .keyword .functionWord =>
    take
    match ← currentKind with
    | .name s =>
      take
      return .function (← functionRest deeper (some s))
    | _ => return .function (← functionRest deeper none)
  | .unterminated => fail .unterminated
  | found => fail (.unexpected found)

/-- A property access behind an object: `.name` or `[key]`. -/
def access (object : Expression) : Parser Expression := do
  if ← accept .dot then return .member object (← expectProperty)
  expect .leftBracket
  let key ← deeper.expression
  expect .rightBracket
  return .index object key

/-- Property accesses one after another. -/
def accesses (object : Expression) : Nat → Parser Expression
  | 0 => fail .stalled
  | bound + 1 => do
    match ← currentKind with
    | .mark .dot | .mark .leftBracket =>
      descend
      accesses (← access deeper object) bound
    | _ => return object

/-- A construction: the constructor is a chain of property accesses without calls, and the
arguments may be missing. -/
def construction : Parser Expression := do
  take
  let mark ← depth
  let first ←
    if (← currentKind) = .keyword .newWord then deeper.construction else primary deeper
  let callee ← accesses deeper first ((← remaining) + 1)
  restoreDepth mark
  if ← sees .leftParen then return .construct callee (← arguments deeper)
  return .construct callee []

/-- Property accesses and calls one after another. -/
def links (object : Expression) : Nat → Parser Expression
  | 0 => fail .stalled
  | bound + 1 => do
    match ← currentKind with
    | .mark .dot | .mark .leftBracket =>
      descend
      links (← access deeper object) bound
    | .mark .leftParen =>
      descend
      let span := (← current).span
      links (.call object (← arguments deeper) span) bound
    | _ => return object

/-- A primary expression or a construction, with the accesses and calls behind it. -/
def linked : Parser Expression := do
  let mark ← depth
  let first ←
    if (← currentKind) = .keyword .newWord then construction deeper else primary deeper
  let answer ← links deeper first ((← remaining) + 1)
  restoreDepth mark
  return answer

/-- The update that a mark writes. -/
def updateOp? : Kind → Option UpdateOp
  | .mark .plusPlus => some .increment
  | .mark .minusMinus => some .decrement
  | _ => none

/-- A linked expression with an update behind it, on the same line. -/
def updated : Parser Expression := do
  let target ← linked deeper
  let t ← current
  match updateOp? t.kind with
  | some op =>
    if t.newlineBefore then return target
    if !target.isAssignable then fail (.badTarget .afterOperand)
    take
    return .update op false target
  | none => return target

/-- The unary operator that a token writes. -/
def unaryOp? : Kind → Option UnaryOp
  | .mark .bang => some .not
  | .mark .minus => some .minus
  | .mark .plus => some .plus
  | .keyword .typeofWord => some .typeof
  | _ => none

/-- An operand with the operators before it. -/
def operand : Parser Expression := do
  let kind ← currentKind
  match updateOp? kind with
  | some op =>
    take
    let target ← deeper.operand
    if !target.isAssignable then failBehind (.badTarget .beforeOperand)
    return .update op true target
  | none =>
    match unaryOp? kind with
    | some op =>
      take
      return .unary op (← deeper.operand)
    | none => updated deeper

end Rules

/-! ## Operators between two operands -/

/-- Operators of one binding strength. -/
structure Tier where
  /-- The operator that a mark writes, if it is of this strength. -/
  operator? : Mark → Option (Expression → Expression → Expression)
  /-- The operator is taken before the nesting is checked, so that an error about nesting points at
  what follows it. -/
  takesFirst : Bool

/-- The operator of a tier that a token writes. -/
def Tier.ofKind? (t : Tier) : Kind → Option (Expression → Expression → Expression)
  | .mark m => t.operator? m
  | _ => none

/-- The tiers, from the weakest to the strongest. -/
def tiers : List Tier :=
  [⟨fun | .pipePipe => some (.logical .or) | _ => none, true⟩,
   ⟨fun | .ampersandAmpersand => some (.logical .and) | _ => none, true⟩,
   ⟨fun
    | .equalEqual => some (.binary .equal)
    | .notEqual => some (.binary .notEqual)
    | .strictEqual => some (.binary .strictEqual)
    | .strictNotEqual => some (.binary .strictNotEqual)
    | _ => none, false⟩,
   ⟨fun
    | .lessThan => some (.binary .less)
    | .lessThanEqual => some (.binary .lessEqual)
    | .greaterThan => some (.binary .greater)
    | .greaterThanEqual => some (.binary .greaterEqual)
    | _ => none, false⟩,
   ⟨fun
    | .plus => some (.binary .add)
    | .minus => some (.binary .sub)
    | _ => none, false⟩,
   ⟨fun
    | .star => some (.binary .mul)
    | .slash => some (.binary .div)
    | .percent => some (.binary .mod)
    | _ => none, false⟩]

/-- Operators of one tier one after another, grouped to the left. -/
def tierChain (tier : Tier) (stronger : Parser Expression) (left : Expression) :
    Nat → Parser Expression
  | 0 => fail .stalled
  | bound + 1 => do
    match tier.ofKind? (← currentKind) with
    | none => return left
    | some join =>
      if tier.takesFirst then
        take
        descend
      else
        descend
        take
      tierChain tier stronger (join left (← stronger)) bound

/-- An expression of operators from the given tiers, the operands of the strongest read by a
rule. -/
def tiered (operand : Parser Expression) : List Tier → Parser Expression
  | [] => operand
  | tier :: stronger => do
    let mark ← depth
    let first ← tiered operand stronger
    let answer ← tierChain tier (tiered operand stronger) first ((← remaining) + 1)
    restoreDepth mark
    return answer

section Rules

variable (deeper : Level)

/-- A choice between two expressions, or just what would be its test. -/
def conditional : Parser Expression := do
  let test ← tiered (operand deeper) tiers
  if ← accept .question then
    let yes ← deeper.expression
    expect .colon
    return .conditional test yes (← deeper.expression)
  return test

/-- The assignment that a mark writes. -/
def assignOp? : Kind → Option AssignOp
  | .mark .equal => some .assign
  | .mark .plusEqual => some .add
  | .mark .minusEqual => some .sub
  | .mark .starEqual => some .mul
  | .mark .slashEqual => some .div
  | _ => none

/-- An assignment, or just what would be its target. -/
def assignment : Parser Expression := do
  let target ← conditional deeper
  match assignOp? (← currentKind) with
  | none => return target
  | some op =>
    if !target.isAssignable then fail (.badTarget .assignment)
    take
    return .assign op target (← deeper.expression)

/-! ## Statements -/

/-- The kind of declaration that a token starts. -/
def variableKind? : Kind → Option VariableKind
  | .keyword .varWord => some .var
  | .keyword .letWord => some .letMutable
  | .keyword .constWord => some .constant
  | _ => none

/-- One name of a declaration; a constant needs its value. -/
def declarator (kind : VariableKind) : Parser Declarator := do
  let name ← expectName
  if ← accept .equal then return ⟨name, some (← deeper.expression)⟩
  if kind = .constant then fail .constantWithoutValue
  return ⟨name, none⟩

/-- A declaration, its semicolon left ahead. -/
def declaration (kind : VariableKind) : Parser Statement := do
  take
  return .declaration kind (← commaChain (declarator deeper kind) ((← remaining) + 1))

/-- An expression in parentheses. -/
def condition : Parser Expression := do
  expect .leftParen
  let test ← deeper.expression
  expect .rightParen
  return test

/-- An expression up to a mark that may stand in its place. -/
def optionalUpTo (close : Mark) : Parser (Option Expression) := do
  let answer ← if ← sees close then pure none else some <$> deeper.expression
  expect close
  return answer

/-- What stands before the first semicolon of a loop head. -/
def loopStart : Parser (Option Statement) := do
  let kind ← currentKind
  if kind = .mark .semicolon then return none
  match variableKind? kind with
  | some k => some <$> declaration deeper k
  | none => return some (.expression (← deeper.expression))

/-- A loop with a head of three parts. -/
def forLoop : Parser Statement := do
  take
  expect .leftParen
  let start ← loopStart deeper
  expect .semicolon
  let test ← optionalUpTo deeper .semicolon
  let update ← optionalUpTo deeper .rightParen
  return .forLoop start test update (← deeper.statement)

/-- A choice between two statements. -/
def choice : Parser Statement := do
  take
  let test ← condition deeper
  let yes ← deeper.statement
  if ← acceptWord .elseWord then return .conditional test yes (some (← deeper.statement))
  return .conditional test yes none

/-- A handler, if one is ahead. -/
def handler : Parser (Option CatchClause) := do
  if ← acceptWord .catchWord then
    let parameter ←
      if ← accept .leftParen then
        let name ← expectName
        expect .rightParen
        pure (some name)
      else pure none
    return some ⟨parameter, ← block deeper⟩
  return none

/-- A block with what runs after its failure or in any case. -/
def attempt : Parser Statement := do
  take
  let body ← block deeper
  let caught ← handler deeper
  let finalizer ← if ← acceptWord .finallyWord then some <$> block deeper else pure none
  if caught.isNone && finalizer.isNone then fail .attemptWithoutHandler
  return .attempt body caught finalizer

/-- A statement that is one keyword. -/
def single (s : Statement) : Parser Statement := do
  take
  endStatement
  return s

/-- A statement. -/
def statement : Parser Statement := do
  let kind ← currentKind
  match variableKind? kind with
  | some k =>
    let s ← declaration deeper k
    endStatement
    return s
  | none =>
    match kind with
    | .keyword .functionWord =>
      take
      let name ← expectName
      return .function (← functionRest deeper (some name))
    | .keyword .ifWord => choice deeper
    | .keyword .whileWord =>
      take
      let test ← condition deeper
      return .whileLoop test (← deeper.statement)
    | .keyword .forWord => forLoop deeper
    | .keyword .returnWord =>
      take
      let value ← if ← atStatementEnd then pure none else some <$> deeper.expression
      endStatement
      return .returnValue value
    | .keyword .breakWord => single .breakLoop
    | .keyword .continueWord => single .continueLoop
    | .keyword .throwWord =>
      take
      if (← current).newlineBefore then fail .throwOnNextLine
      let value ← deeper.expression
      endStatement
      return .throwValue value
    | .keyword .tryWord => attempt deeper
    | .mark .leftBrace => return .block (← block deeper)
    | .mark .semicolon =>
      take
      return .empty
    | _ =>
      let e ← deeper.expression
      endStatement
      return .expression e

end Rules

/-! ## Programs -/

/-- The rules of each level.  A text that needs more levels than this nests too deeply. -/
def level : Nat → Level
  | 0 => ⟨fail .tooDeep, fail .tooDeep, fail .tooDeep, fail .tooDeep⟩
  | n + 1 =>
    { statement := fun tokens c => nested (statement (level n)) tokens c
      expression := fun tokens c => nested (assignment (level n)) tokens c
      operand := fun tokens c => nested (operand (level n)) tokens c
      construction := fun tokens c => nested (construction (level n)) tokens c }

/-- The statements of a whole text. -/
def program : Parser (List Statement) := do
  sequence false (level (maxNesting + 1)).statement ((← remaining) + 1)

/-- The statements that a list of tokens spells. -/
def parseTokens (tokens : List Token) : Except Fault (List Statement) :=
  match program tokens.toArray ⟨0, 0⟩ with
  | .ok (body, _) => .ok body
  | .error refusal => .error refusal.fault

/-- The program that a text spells. -/
def parse (source : String) : Except Fault (List Statement) :=
  parseTokens (tokens source.toList)

end ModuleRunner.Script
