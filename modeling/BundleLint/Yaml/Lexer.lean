import BundleLint.Yaml.Scan.Block
import BundleLint.Yaml.Scan.Directive
import BundleLint.Yaml.Scan.Plain
import BundleLint.Yaml.Scan.Quoted

/-!
# Splitting a document into tokens

The tokens of a document in order. A key may be recognised only by the colon after it, so a token
that may begin such a key is held back until the colon comes or the key is ruled out; the tokens
that mark the key are then put in before it. The fault that ends the tokens, if there is one,
comes up when the first token that is not there is asked for.
-/

namespace BundleLint.Yaml

/-- A token that may turn out to begin a key. -/
structure PossibleKey where
  /-- Number of tokens before it. -/
  number : Nat
  /-- Whether it must turn out to begin a key. -/
  required : Bool
  /-- Number of characters before it. -/
  start : Nat
  /-- Its line. -/
  line : Nat
  /-- Its column. -/
  column : Nat
  deriving DecidableEq, Repr

/-- What is known between two tokens. -/
structure Lexer where
  /-- Tokens held back. -/
  queue : List PlacedToken
  /-- Number of tokens given out. -/
  taken : Nat
  /-- Column of the innermost block collection; less than zero if there is none. -/
  indent : Int
  /-- Columns of the block collections around it. -/
  outer : List Int
  /-- Number of open flow collections. -/
  flow : Int
  /-- Whether a key without its own indicator may start here. -/
  allowKey : Bool
  /-- The possible key of each flow level. -/
  keys : List (Int × PossibleKey)
  /-- Whether the end of the document has been reached. -/
  done : Bool

/-- What is known before the first token. -/
def Lexer.initial : Lexer :=
  { queue := [], taken := 0, indent := -1, outer := [], flow := 0, allowKey := true, keys := []
    done := false }

/-- Greatest distance in characters between the start of a key and its colon. -/
def keyReach : Nat := 1024

/-- Leaves the block collections to the right of a column. Gives their number, the column of the
innermost collection that is left, and those around it. -/
def closedBlocks (column indent : Int) : List Int → Nat × Int × List Int
  | [] => (0, indent, [])
  | parent :: outer =>
    if column < indent then
      let (count, indent, outer) := closedBlocks column parent outer
      (count + 1, indent, outer)
    else (0, indent, parent :: outer)

/-- A computation that splits a document into tokens. -/
abbrev Lex := StateT Lexer Read

namespace Lex

open Read

/-- The place that is reached. -/
def cursor : Lex Cursor :=
  liftM (get : Read Cursor)

/-- Whether the place is inside a flow collection. -/
def inFlow : Lex Bool :=
  return (← get).flow != 0

/-- Adds a token that ends here. -/
def place (token : Token) (start : Nat) : Lex Unit := do
  let stop ← offset
  modify fun lexer => { lexer with queue := lexer.queue ++ [{ token, start, stop }] }

/-- Adds a token without characters. -/
def placeHere (token : Token) : Lex Unit := do
  place token (← offset)

/-- Adds a token of some characters. -/
def placeNext (token : Token) (size : Nat) : Lex Unit := do
  let start ← offset
  advance size
  place token start

/-- Sets whether a key may start without its own indicator. -/
def setAllowKey (allowKey : Bool) : Lex Unit :=
  modify fun lexer => { lexer with allowKey }

/-- Refuses a document because a key is not followed by its colon. -/
def refuseKey (key : PossibleKey) : Lex Unit := do
  throw (Fault.during .scanning .simpleKey key.start .missingColon (← offset))

/-- Drops the possible keys that are no longer on this line or within reach. -/
def dropStaleKeys : Lex Unit := do
  let place ← cursor
  let isStale := fun key : PossibleKey =>
    key.line != place.line || keyReach < place.offset - key.start
  let lexer ← get
  match lexer.keys.find? fun (_, key) => isStale key && key.required with
  | some (_, key) => refuseKey key
  | none => set { lexer with keys := lexer.keys.filter fun (_, key) => !isStale key }

/-- The possible key of the current flow level. -/
def currentKey? : Lex (Option PossibleKey) := do
  let lexer ← get
  return (lexer.keys.find? fun (level, _) => level == lexer.flow).map (·.2)

/-- Drops the possible key of the current flow level, whatever it is. -/
def forgetKey : Lex Unit :=
  modify fun lexer =>
    { lexer with keys := lexer.keys.filter fun (level, _) => level != lexer.flow }

/-- Rules out the possible key of the current flow level. -/
def dropKey : Lex Unit := do
  match ← currentKey? with
  | some key => if key.required then refuseKey key else forgetKey
  | none => return

/-- Notes that the next token may begin a key. -/
def saveKey : Lex Unit := do
  if (← get).allowKey then
    dropKey
    let place ← cursor
    let lexer ← get
    let key : PossibleKey :=
      { number := lexer.taken + lexer.queue.length
        required := !(← inFlow) && lexer.indent == place.column
        start := place.offset
        line := place.line
        column := place.column }
    set { lexer with keys := (lexer.flow, key) :: lexer.keys }

/-- Ends the block collections to the right of a column. -/
def unwind (column : Int) : Lex Unit := do
  if !(← inFlow) then
    let start ← offset
    modify fun lexer =>
      let (count, indent, outer) := closedBlocks column lexer.indent lexer.outer
      { lexer with
        indent
        outer
        queue := lexer.queue ++ List.replicate count { token := .blockEnd, start, stop := start } }

/-- Begins a block collection at a column, unless the innermost one is there already. -/
def indentTo (column : Int) : Lex Bool := do
  let lexer ← get
  if lexer.indent < column then
    set { lexer with indent := column, outer := lexer.indent :: lexer.outer }
    return true
  else return false

/-- Moves on over blanks, comments and line breaks, within a bound on the number of lines. -/
def skipBlanks : (steps : Nat) → Lex Unit
  | 0 => return
  | steps + 1 => do
    skipSpaces
    if (← peek 0) == '#' then skipLine
    match ← lineBreak with
    | none => return
    | some _ =>
      if !(← inFlow) then setAllowKey true
      skipBlanks steps

/-- Moves on to the next token. -/
def toNextToken : Lex Unit := do
  if (← offset) == 0 && (← peek 0) == byteOrderMark then advance 1
  skipBlanks ((← size) + 1)

/-- Ends all block collections before something that stands outside them. -/
def leaveBlocks : Lex Unit := do
  unwind (-1)
  dropKey
  setAllowKey false

/-- The end of the document. -/
def streamEnd : Lex Unit := do
  leaveBlocks
  placeHere .streamEnd
  modify fun lexer => { lexer with keys := [], done := true }

/-- A directive. -/
def directive : Lex Unit := do
  leaveBlocks
  let start ← offset
  let (directive, stop) ← Scan.directive
  modify fun lexer =>
    { lexer with queue := lexer.queue ++ [{ token := .directive directive, start, stop }] }

/-- A mark between documents. -/
def documentMark (token : Token) : Lex Unit := do
  leaveBlocks
  placeNext token 3

/-- The opening of a flow collection. -/
def flowStart (token : Token) : Lex Unit := do
  saveKey
  modify fun lexer => { lexer with flow := lexer.flow + 1, allowKey := true }
  placeNext token 1

/-- The closing of a flow collection. -/
def flowEnd (token : Token) : Lex Unit := do
  dropKey
  modify fun lexer => { lexer with flow := lexer.flow - 1, allowKey := false }
  placeNext token 1

/-- A comma between items of a flow collection. -/
def flowEntry : Lex Unit := do
  setAllowKey true
  dropKey
  placeNext .flowEntry 1

/-- Begins a block collection here if need be; refuses one that cannot begin here. -/
def beginBlock (token : Token) (parts : String) : Lex Unit := do
  if !(← get).allowKey then throw (Fault.plain (.misplaced parts) (← offset))
  if ← indentTo (← cursor).column then placeHere token

/-- The indicator of an item of a block sequence. -/
def blockEntry : Lex Unit := do
  if !(← inFlow) then beginBlock .blockSequenceStart "sequence entries"
  setAllowKey true
  dropKey
  placeNext .blockEntry 1

/-- The indicator of a key. -/
def key : Lex Unit := do
  let inFlow ← inFlow
  if !inFlow then beginBlock .blockMappingStart "mapping keys"
  setAllowKey (!inFlow)
  dropKey
  placeNext .key 1

/-- Puts the tokens that mark a key before the token that begins it. -/
def confirmKey (key : PossibleKey) : Lex Unit := do
  forgetKey
  let begins ← if ← inFlow then pure false else indentTo key.column
  let tokens := (if begins then [Token.blockMappingStart] else []) ++ [.key]
  let placed := tokens.map fun token => { token, start := key.start, stop := key.start }
  modify fun lexer =>
    let position := key.number - lexer.taken
    { lexer with queue := lexer.queue.take position ++ placed ++ lexer.queue.drop position }

/-- The indicator of the value of a key. -/
def value : Lex Unit := do
  match ← currentKey? with
  | some key =>
    confirmKey key
    setAllowKey false
  | none =>
    let inFlow ← inFlow
    if !inFlow then beginBlock .blockMappingStart "mapping values"
    setAllowKey (!inFlow)
    dropKey
  placeNext .value 1

/-- A token that may begin a key. -/
def node (scan : Read Token) : Lex Unit := do
  saveKey
  setAllowKey false
  let start ← offset
  place (← scan) start

/-- A literal or folded scalar. -/
def blockScalar (folded : Bool) : Lex Unit := do
  setAllowKey true
  dropKey
  let start ← offset
  let (text, stop) ← Scan.blockScalar (← get).indent folded
  modify fun lexer =>
    let token := Token.scalar (Text.points text) false
    { lexer with queue := lexer.queue ++ [{ token, start, stop }] }

/-- A scalar without quotes. -/
def plainScalar : Lex Unit := do
  saveKey
  let start ← offset
  let scalar ← Scan.plainScalar (← inFlow) (← get).indent
  let token := Token.scalar (Text.points scalar.text) true
  modify fun lexer =>
    { lexer with
      allowKey := scalar.beforeBreak
      queue := lexer.queue ++ [{ token, start, stop := scalar.stop }] }

/-- Whether an indicator stands here: in block context only before a gap. -/
def isIndicator : Lex Bool := do
  if ← inFlow then return true
  return isGap (← peek 1)

/-- Characters that cannot start a plain scalar on their own. -/
def isReserved (c : Char) : Bool :=
  isGap c || "-?:,[]\x7b\x7d#&*!|>'\x22%@\x60".toList.contains c

/-- Whether a plain scalar starts here. -/
def startsPlain : Lex Bool := do
  let c ← peek 0
  if !isReserved c then return true
  if isGap (← peek 1) then return false
  return c == '-' || (!(← inFlow) && (c == '?' || c == ':'))

/-- The token that begins with a character which is not bound to a column. -/
def contentToken (c : Char) : Lex Unit := do
  if c == '[' then flowStart .flowSequenceStart
  else if c == '\x7b' then flowStart .flowMappingStart
  else if c == ']' then flowEnd .flowSequenceEnd
  else if c == '\x7d' then flowEnd .flowMappingEnd
  else if c == ',' then flowEntry
  else if c == '-' && isGap (← peek 1) then blockEntry
  else if c == '?' && (← isIndicator) then key
  else if c == ':' && (← isIndicator) then value
  else if c == '*' then node (Token.reference <$> Scan.name .reference)
  else if c == '&' then node (Token.anchor <$> Scan.name .anchor)
  else if c == '!' then node Scan.tag
  else if c == '|' && !(← inFlow) then blockScalar false
  else if c == '>' && !(← inFlow) then blockScalar true
  else if c == Text.singleQuote || c == Text.doubleQuote then
    node ((Token.scalar · false) <$> Scan.quotedScalar c)
  else if ← startsPlain then plainScalar
  else
    throw <| .complaint
      { context := some (.during .scanning .nextToken), contextStart := none
        problem := .cannotStart c, start := ← offset }

/-- Reads the next token, with the tokens without characters that belong before it. -/
def fetch : Lex Unit := do
  toNextToken
  dropStaleKeys
  let column := (← cursor).column
  unwind column
  let c ← peek 0
  if c == endMark then streamEnd
  else if c == '%' && column == 0 then directive
  else if c == '-' && column == 0 && (← atMarks '-') then documentMark .documentStart
  else if c == '.' && column == 0 && (← atMarks '.') then documentMark .documentEnd
  else contentToken c

/-- Whether the first token that is held back, if any, must wait for later ones. -/
def mustFetch : Lex Bool := do
  let lexer ← get
  if lexer.done then return false
  if lexer.queue.isEmpty then return true
  dropStaleKeys
  let lexer ← get
  return lexer.keys.any fun (_, key) => key.number == lexer.taken

end Lex

/-- The tokens of a document with the fault, if any, that ends them. -/
structure TokenRun where
  /-- The tokens in order. -/
  tokens : List PlacedToken
  /-- The fault that comes up after them. -/
  fault : Option Fault

/-- Gives out the tokens from a state on, within a bound on the number of steps. -/
def runLexer : (steps : Nat) → Lexer → Cursor → TokenRun
  | 0, _, _ => ⟨[], none⟩
  | steps + 1, lexer, cursor =>
    match (Lex.mustFetch.run lexer).run cursor with
    | .error fault => ⟨[], some fault⟩
    | .ok ((true, lexer), cursor) =>
      match (Lex.fetch.run lexer).run cursor with
      | .error fault => ⟨[], some fault⟩
      | .ok (((), lexer), cursor) => runLexer steps lexer cursor
    | .ok ((false, lexer), cursor) =>
      match lexer.queue with
      | [] => ⟨[], none⟩
      | token :: queue =>
        let run := runLexer steps { lexer with queue, taken := lexer.taken + 1 } cursor
        { run with tokens := token :: run.tokens }

/-- The tokens of a document. -/
def tokenize (source : Source) : TokenRun :=
  runLexer (8 * (source.text.length + 2)) .initial source.cursor

end BundleLint.Yaml
