import CloudProvider.Json.Numeral

/-!
# JSON tokens

A JSON text is a sequence of tokens with blanks between them, read one character
at a time: what has been read of the token under way is a `Token.Mode`, and
`Token.Mode.step` takes in the next character. A text is strict JSON only: no raw
control characters, the eight short escapes and `\u`, and no words but the three
literals. A `\u` escape that is half of a surrogate pair without its other half
makes the text it stands in unreadable, but not the tokens around it.

* `Token.scan?`: the tokens of a text.
-/

namespace CloudProvider

/-- A token; the value of a number or a text is missing when it is unreadable. -/
inductive Token where
  | openArray
  | closeArray
  | openObject
  | closeObject
  | comma
  | colon
  | null
  | bool (value : Bool)
  | number (value : Option Number)
  | text (value : Option String)

namespace Token

/-- The part of a token that has been read. Characters are kept last first. -/
inductive Mode where
  /-- Between tokens. -/
  | idle
  /-- In a literal or a numeral. -/
  | bare (word : List Char)
  /-- In a text, perhaps after the first half of a surrogate pair. -/
  | quoted (text : Option (List Char)) (high : Option Nat)
  /-- After a backslash. -/
  | escape (text : Option (List Char)) (high : Option Nat)
  /-- In a `\u` escape with so many digits to come. -/
  | hex (text : Option (List Char)) (high : Option Nat) (left : Nat) (value : Nat)

/-- The token of a word without quotes. -/
def ofBare? (word : List Char) : Option Token :=
  match String.ofList word with
  | "null" => some .null
  | "true" => some (.bool true)
  | "false" => some (.bool false)
  | _ => (Numeral.ofChars? word).map fun x => .number x.value?

/-- The token that a single character makes. -/
def ofPunctuation? : Char → Option Token
  | '[' => some .openArray
  | ']' => some .closeArray
  | '\x7b' => some .openObject
  | '\x7d' => some .closeObject
  | ',' => some .comma
  | ':' => some .colon
  | _ => none

/-- The blanks that JSON allows between tokens. -/
def isGap (c : Char) : Bool := c = ' ' || c = '\n' || c = '\t' || c = '\r'

/-- The character that a short escape stands for. -/
def ofEscape? : Char → Option Char
  | '"' => some '"'
  | '\\' => some '\\'
  | '/' => some '/'
  | 'b' => some '\x08'
  | 'f' => some '\x0c'
  | 'n' => some '\n'
  | 'r' => some '\r'
  | 't' => some '\t'
  | _ => none

/-- The value of a hexadecimal digit. -/
def hexDigit? (c : Char) : Option Nat :=
  if '0' ≤ c ∧ c ≤ '9' then some (c.toNat - '0'.toNat)
  else if 'a' ≤ c ∧ c ≤ 'f' then some (c.toNat - 'a'.toNat + 10)
  else if 'A' ≤ c ∧ c ≤ 'F' then some (c.toNat - 'A'.toNat + 10)
  else none

/-- Whether a number is the first half of a surrogate pair. -/
def isHigh (n : Nat) : Bool := 0xd800 ≤ n && n < 0xdc00

/-- Whether a number is the second half of a surrogate pair. -/
def isLow (n : Nat) : Bool := 0xdc00 ≤ n && n < 0xe000

/-- A text to which a character is added; a half surrogate pair before it makes
    the text unreadable. -/
def extend (kept : Option (List Char)) (high : Option Nat) (c : Char) : Option (List Char) :=
  if high.isSome then none else kept.map (c :: ·)

/-- A text to which the number of a `\u` escape is added. -/
def extendUnit (kept : Option (List Char)) (high : Option Nat) (n : Nat) : Mode :=
  match high with
  | some h =>
    if isLow n then
      -- Both halves of a pair: ten bits each, above the first plane.
      .quoted (kept.map (Char.ofNat (0x10000 + (h - 0xd800) * 0x400 + (n - 0xdc00)) :: ·)) none
    else .quoted none none
  | none =>
    if isHigh n then .quoted kept (some n)
    else if isLow n then .quoted none none
    else .quoted (kept.map (Char.ofNat n :: ·)) none

namespace Mode

/-- Take in a character between tokens. -/
def begin (c : Char) : Mode × List Token :=
  if isGap c then (.idle, [])
  else if c = '"' then (.quoted (some []) none, [])
  else
    match ofPunctuation? c with
    | some t => (.idle, [t])
    | none => (.bare [c], [])

/-- Take in the next character: what is read of the token under way, and the
    tokens that are complete. -/
def step : Mode → Char → Option (Mode × List Token)
  | .idle, c => some (begin c)
  | .bare word, c =>
    match begin c with
    -- A character that begins another token ends the word.
    | (.bare _, _) => some (.bare (c :: word), [])
    | (mode, tokens) => (ofBare? word.reverse).map fun t => (mode, t :: tokens)
  | .quoted kept high, c =>
    if c = '"' then
      let read := if high.isSome then none else kept
      some (.idle, [.text (read.map fun s => String.ofList s.reverse)])
    else if c = '\\' then some (.escape kept high, [])
    else if c.toNat < 0x20 then none
    else some (.quoted (extend kept high c) none, [])
  | .escape kept high, c =>
    if c = 'u' then some (.hex kept high 3 0, [])
    else (ofEscape? c).map fun e => (.quoted (extend kept high e) none, [])
  | .hex kept high left value, c =>
    (hexDigit? c).map fun d =>
      let value := 16 * value + d
      match left with
      | 0 => (extendUnit kept high value, [])
      | left + 1 => (.hex kept high left value, [])

/-- The tokens that the end of the text completes. -/
def finish? : Mode → Option (List Token)
  | .idle => some []
  | .bare word => (ofBare? word.reverse).map ([·])
  | _ => none

end Mode

/-- The tokens of a text, read from a given mode on, after those already read. -/
def scanFrom? (mode : Mode) (read : List Token) : List Char → Option (List Token)
  | [] => mode.finish?.map (read.reverse ++ ·)
  | c :: rest =>
    match mode.step c with
    | none => none
    | some (mode, tokens) => scanFrom? mode (tokens.reverse ++ read) rest

/-- The tokens of a text. -/
def scan? (s : String) : Option (List Token) := scanFrom? .idle [] s.toList

end Token

end CloudProvider
