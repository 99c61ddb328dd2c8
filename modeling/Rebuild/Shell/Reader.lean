import Rebuild.Shell.Word

/-!
# Reading commands

A script is read one complete command at a time (`Source.next?`): lists of pipelines, joined by `&&` and `||`, of simple
and compound commands. A word has a meaning of its own only where a command may begin.
-/

namespace Rebuild.Shell

/-- The words that begin, divide or end compound commands. -/
def keywords : List String :=
  ["!", "case", "do", "done", "elif", "else", "esac", "fi", "for", "if", "in", "then", "until", "while", "\x7b", "\x7d"]

/-- The keywords that end a list of commands. -/
def closers : List String :=
  ["do", "done", "elif", "else", "esac", "fi", "then", "\x7d"]

/-- The names that no function may have. -/
def reservedNames : List String :=
  [".", ":", "break", "continue", "eval", "exec", "exit", "export", "local", "readonly", "return", "set", "shift",
    "times",
    "trap", "unset"]

/-- Whether a token ends a list of commands. -/
def Token.closesList : Token → Bool
  | .endOfFile => true
  | .operator text => text == ")" || text == ";;"
  | .keyword text => closers.contains text
  | _ => false

/-- What a list of commands is a part of. -/
inductive ListKind where
  /-- A script, of which it is the next line. -/
  | line
  /-- A compound command, in which it may not be empty. -/
  | body
  /-- A substitution or an arm, in which it may be empty. -/
  | arm
deriving DecidableEq, Repr

namespace Reading

section Tokens

variable (list : Reading Command)

/-- Reads the texts of the here-documents that are awaited. -/
def documents : Reading Unit := do
  let awaited := (← get).awaited
  modify fun s => { s with awaited := [] }
  for document in awaited do
    modify fun s => { s with ending := some ⟨document.delimiter.toList, document.dropsTabs⟩, isLineStart := true }
    let word ←
      if document.isLiteral then do pure [Piece.text true (String.ofList (← literalDocument))]
      else withDocuments (wordIn list .document)
    modify fun s => { s with ending := none, found := (document.number, word) :: s.found }

/-! ## Tokens -/

/-- The operator of a redirection, after its first character. -/
def redirectionOperator (first : Char) : Reading String := do
  let further := if first == '>' then ">|&".toList else "<&>".toList
  match ← peekJoined with
  | some c =>
    if further.contains c then
      let _ ← take
      if first == '<' && c == '<' && (← peekJoined) == some '-' then
        let _ ← take
        pure "<<-"
      else pure (String.ofList [first, c])
    else pure first.toString
  | none => pure first.toString

/-- A word, or the redirection of a stream whose number stands right before it. -/
def wordOrRedirection : Reading Token := do
  let word ← wordIn list .plain
  let isQuoted := word.any fun
    | .text isQuoted _ => isQuoted
    | _ => false
  let begins (c : Char) (stream : Nat) : Reading Token := do
    let _ ← take
    pure (.redirection stream (← redirectionOperator c))
  match ← peek with
  | some c =>
    if c == '<' || c == '>' then
      match plainText? word with
      | some "" => if isQuoted then pure (.word word isQuoted) else begins c (if c == '<' then 0 else 1)
      | some text =>
        match text.toList with
        | [digit] => if digit.isDigit then begins c (digit.toNat - '0'.toNat) else pure (.word word isQuoted)
        | _ => pure (.word word isQuoted)
      | none => pure (.word word isQuoted)
    else pure (.word word isQuoted)
  | none => pure (.word word isQuoted)

/-- The next token of the text. -/
def rawToken : Reading Token := do
  let _ ← repeatUntil () fun () => do
    match ← peekJoined with
    | some ' ' | some '\t' => do
      let _ ← take
      pure (.inl ())
    | some '#' => do
      modify fun s => { s with rest := s.rest.dropWhile (· != '\n') }
      pure (.inr ())
    | _ => pure (.inr ())
  let perhapsDouble (c : Char) : Reading Token := do
    let _ ← take
    if (← peekJoined) == some c then
      let _ ← take
      pure (.operator (String.ofList [c, c]))
    else pure (.operator c.toString)
  match ← peekJoined with
  | none => pure .endOfFile
  | some '\n' => do
    let _ ← take
    documents list
    pure .newline
  | some '&' => perhapsDouble '&'
  | some '|' => perhapsDouble '|'
  | some ';' => perhapsDouble ';'
  | some '(' => do
    let _ ← take
    pure (.operator "(")
  | some ')' => do
    let _ ← take
    pure (.operator ")")
  | some _ => wordOrRedirection list

/-- The next token, which may have been put back. Where a command may begin, line ends may be passed over, and keywords
and aliases have their meaning. -/
def token (commandBegins passesNewlines : Bool) : Reading Token :=
  repeatUntil () fun () => do
    let pushed := (← get).pushed
    let next ← match pushed with
      | some next => do
        modify fun s => { s with pushed := none }
        pure next
      | none => rawToken list
    match next with
    | .newline => pure (if passesNewlines then .inl () else .inr .newline)
    | .word pieces false =>
      match (plainText? pieces).filter fun _ => commandBegins with
      | some text =>
        if keywords.contains text then pure (.inr (.keyword text))
        else if ← replaceAlias text then pure (.inl ())
        else pure (.inr next)
      | none => pure (.inr next)
    | _ => pure (.inr next)

/-- The next token if it is this keyword or operator; else it is put back. -/
def tokenIf (commandBegins passesNewlines : Bool) (isWanted : Token → Bool) : Reading Bool := do
  let next ← token list commandBegins passesNewlines
  if isWanted next then pure true
  else
    putBack next
    pure false

/-- Takes a keyword that has to be there. -/
def keyword (text : String) (passesNewlines : Bool) : Reading Unit := do
  match ← token list true passesNewlines with
  | .keyword found => if found == text then pure () else expecting (.keyword found) s!"\"{text}\""
  | found => expecting found s!"\"{text}\""

/-! ## Redirections -/

/-- The text of a word in which nothing is substituted. -/
def literalText (pieces : Word) : String :=
  String.join (pieces.map fun
    | .text _ text => text
    | _ => "")

/-- The redirection that an operator begins, with the word after it. -/
def redirection (stream : Nat) (operator : String) : Reading Redirection := do
  modify fun s => { s with isDelimiter := operator.startsWith "<<" }
  let next ← token list false false
  modify fun s => { s with isDelimiter := false }
  match next with
  | .word pieces isQuoted =>
    match operator with
    | "<" => pure (.file stream .read false pieces)
    | ">" => pure (.file stream .write false pieces)
    | ">|" => pure (.file stream .write true pieces)
    | ">>" => pure (.file stream .append false pieces)
    | "<>" => pure (.file stream .both false pieces)
    | "<<" | "<<-" => do
      let s ← get
      let awaited : Awaited := ⟨s.count, literalText pieces, isQuoted, operator == "<<-"⟩
      set { s with count := s.count + 1, awaited := s.awaited ++ [awaited] }
      pure (.document stream ((s.known.lookup s.count).getD []))
    | _ => pure (.duplicate stream pieces)
  | found => unexpected found

/-- The redirections that follow a compound command. -/
def redirections : Reading (List Redirection) :=
  repeatUntil [] fun rs => do
    match ← token list true false with
    | .redirection stream operator => do pure (.inl (rs ++ [← redirection list stream operator]))
    | next => do
      putBack next
      pure (.inr rs)

end Tokens

/-! ## Commands -/

section Commands

variable (lists : ListKind → Reading (Option Command))

/-- The commands of a substitution, which may be none. -/
def substitutionList : Reading Command := do
  pure ((← lists .arm).getD .skip)

/-- The commands of a part of a compound command. -/
def bodyList : Reading Command := do
  pure ((← lists .body).getD .skip)

/-- The next token. -/
def nextToken (commandBegins passesNewlines : Bool) : Reading Token :=
  token (substitutionList lists) commandBegins passesNewlines

/-- What follows the condition of a command whose first word was read, up to the word that closes it. -/
def conditional : Reading Command := do
  let arm : Reading (Command × Command) := do
    let condition ← bodyList lists
    keyword (substitutionList lists) "then" false
    pure (condition, ← bodyList lists)
  let first ← arm
  let (arms, last) ← repeatUntil [first] fun arms => do
    match ← nextToken lists true false with
    | .keyword "elif" => do pure (.inl ((← arm) :: arms))
    | .keyword "else" => do
      let last ← bodyList lists
      keyword (substitutionList lists) "fi" false
      pure (.inr (arms, last))
    | .keyword "fi" => pure (.inr (arms, .skip))
    | found => expecting found "\"fi\""
  pure (arms.foldl (fun no (condition, yes) => .ifElse condition yes no) last)

/-- A loop with a condition, after its first word. -/
def conditionLoop (untilSuccess : Bool) : Reading Command := do
  let condition ← bodyList lists
  keyword (substitutionList lists) "do" false
  let body ← bodyList lists
  keyword (substitutionList lists) "done" false
  pure (.loop untilSuccess condition body)

/-- A loop over words, after its first word. -/
def wordLoop (line : Nat) : Reading Command := do
  let substitution := substitutionList lists
  let name ← match ← nextToken lists false false with
    | .word pieces false =>
      match plainText? pieces with
      | some text => if isName text then pure text else fail "Bad for loop variable"
      | none => fail "Bad for loop variable"
    | _ => fail "Bad for loop variable"
  let words ← match ← nextToken lists true true with
    | .keyword "in" => do
      let words ← repeatUntil [] fun words => do
        match ← nextToken lists false false with
        | .word pieces _ => pure (.inl (words ++ [pieces]))
        | .newline | .operator ";" => pure (.inr words)
        | found => unexpected found
      pure (some words)
    | .operator ";" => pure none
    | found => do
      putBack found
      pure none
  keyword substitution "do" true
  let body ← bodyList lists
  keyword substitution "done" false
  pure (.forEach line name words body)

/-- The patterns of an arm whose first token was read, up to the parenthesis that closes them. What follows a token that
is no word shows that it is none. -/
def patterns (first : Token) : Reading (List Word) := do
  let word (found : Token) : Word :=
    match found with
    | .word pieces _ => pieces
    | .keyword text => [.text false text]
    | _ => []
  let first ← match first with
    | .operator "(" => nextToken lists false false
    | found => pure found
  repeatUntil [word first] fun ps => do
    match ← nextToken lists false false with
    | .operator "|" => do pure (.inl (ps ++ [word (← nextToken lists false false)]))
    | .operator ")" => pure (.inr ps)
    | found => expecting found "\")\""

/-- A choice, after its first word. -/
def choice (line : Nat) : Reading Command := do
  let subject ← match ← nextToken lists false false with
    | .word pieces _ => pure pieces
    | found => expecting found "word"
  keyword (substitutionList lists) "in" true
  let arms ← repeatUntil [] fun arms => do
    match ← nextToken lists true true with
    | .keyword "esac" => pure (.inr arms)
    | found =>
      let ps ← patterns lists found
      let body ← substitutionList lists
      let arms := arms ++ [(ps, body)]
      match ← nextToken lists true true with
      | .keyword "esac" => pure (.inr arms)
      | .operator ";;" => pure (.inl arms)
      | found => expecting found "\";;\""
  pure (.select line subject arms)

/-- A simple command, or the definition of a function, whose body is read as given. -/
def simpleCommand (body : Reading Command) : Reading Command := do
  let line := (← get).line
  repeatUntil ([], [], []) fun (assignments, words, rs) => do
    let done : Reading ((List (String × Word) × List Word × List Redirection) ⊕ Command) :=
      pure (.inr (.simple line assignments words rs))
    match ← nextToken lists false false with
    | .word pieces _ =>
      match words, assignment? pieces with
      | [], some assignment => pure (.inl (assignments ++ [assignment], [], rs))
      | _, _ => pure (.inl (assignments, words ++ [pieces], rs))
    | .redirection stream operator => do
      pure (.inl (assignments, words, rs ++ [← redirection (substitutionList lists) stream operator]))
    | .operator "(" =>
      match assignments, words, rs with
      | [], [name], [] => do
        match ← nextToken lists false false with
        | .operator ")" => pure ()
        | found => expecting found "\")\""
        match (plainText? name).filter fun text => isName text && !reservedNames.contains text with
        | none => fail "Bad function name"
        | some name => do pure (.inr (.define name (← body)))
      | _, _, _ => do
        putBack (.operator "(")
        done
    | found => do
      putBack found
      done

/-- A simple or compound command with its redirections, in which so many functions may be defined one in another. -/
def command (fuel : Nat) (passesNewlines : Bool) : Reading Command := do
  match fuel with
  | 0 => fail "script too long"
  | fuel + 1 =>
    let line := (← get).line
    let substitution := substitutionList lists
    let redirected (c : Command) : Reading Command := do
      match ← redirections substitution with
      | [] => pure c
      | rs => pure (.redirected line c rs)
    match ← nextToken lists true passesNewlines with
    | .keyword "if" => do redirected (← conditional lists)
    | .keyword "while" => do redirected (← conditionLoop lists false)
    | .keyword "until" => do redirected (← conditionLoop lists true)
    | .keyword "for" => do redirected (← wordLoop lists line)
    | .keyword "case" => do redirected (← choice lists line)
    | .keyword "\x7b" => do
      let body ← bodyList lists
      keyword substitution "\x7d" false
      redirected body
    | .operator "(" => do
      let body ← bodyList lists
      match ← nextToken lists true false with
      | .operator ")" => pure (.subshell line body (← redirections substitution))
      | found => expecting found "\")\""
    | .word pieces isQuoted => do
      putBack (.word pieces isQuoted)
      simpleCommand lists (command fuel true)
    | .redirection stream operator => do
      putBack (.redirection stream operator)
      simpleCommand lists (command fuel true)
    | found => unexpected found

/-- Commands joined by `|`, perhaps negated. -/
def pipeline (passesNewlines : Bool) : Reading Command := do
  let command (passesNewlines : Bool) : Reading Command := do
    command lists ((← get).rest.length + 2) passesNewlines
  let negates ← tokenIf (substitutionList lists) true passesNewlines fun
    | .keyword text => text == "!"
    | _ => false
  let first ← command false
  let commands ← repeatUntil [first] fun commands => do
    match ← nextToken lists false false with
    | .operator "|" => do pure (.inl (commands ++ [← command true]))
    | found => do
      putBack found
      pure (.inr commands)
  let all := match commands with
    | [only] => only
    | commands => .pipeline commands
  pure (if negates then .negation all else all)

/-- Pipelines joined by `&&` and `||`. -/
def andOr : Reading Command := do
  let first ← pipeline lists false
  repeatUntil first fun c => do
    match ← nextToken lists false false with
    | .operator "&&" => do pure (.inl (.both c (← pipeline lists true)))
    | .operator "||" => do pure (.inl (.either c (← pipeline lists true)))
    | found => do
      putBack found
      pure (.inr c)

/-- A list of commands; none at the end of a script. -/
def listOf (kind : ListKind) : Reading (Option Command) :=
  repeatUntil none fun before => do
    match ← nextToken lists true (kind != .line), kind with
    | .newline, _ => pure (.inr (some (before.getD .skip)))
    | .endOfFile, _ => do
      putBack .endOfFile
      pure (.inr before)
    | next, _ =>
      putBack next
      let mayEnd := kind == .arm || (kind == .body && before.isSome)
      if mayEnd && next.closesList then pure (.inr before)
      else
        let line := (← get).line
        let c ← andOr lists
        let next ← nextToken lists false false
        let c := match next with
          | .operator "&" => .background line c
          | _ => c
        let all := match before with
          | none => c
          | some before => .sequence before c
        match next with
        | .newline | .endOfFile => do
          putBack next
          pure (.inl (some all))
        | .operator "&" | .operator ";" => pure (.inl (some all))
        | found =>
          if kind == .line then unexpected found
          else
            putBack found
            pure (.inr (some all))

end Commands

/-- A list of commands in which so many may be nested one in another. -/
def list : Nat → ListKind → Reading (Option Command)
  | 0, _ => fail "script too long"
  | fuel + 1, kind => listOf (list fuel) kind

end Reading

/-- The next complete command of a script, if there is one, and what follows it. -/
def Source.next? (s : Source) : Except SyntaxFault (Option Command × Source) :=
  (Reading.withDocuments (Reading.list (s.rest.length + 2) .line)).run s

end Rebuild.Shell
