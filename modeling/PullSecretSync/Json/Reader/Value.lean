import PullSecretSync.Json.Reader.Number
import PullSecretSync.Json.Reader.Text

/-!
# Reading values

Arrays and objects are read part by part. Values may nest to a fixed depth; of members with one
name the last counts.
-/

namespace PullSecretSync.Json

namespace Reader

/-- Read a value that is neither an array nor an object. -/
def scalar : Reader Json := do
  match ← peekToken with
  | none => refuseNext .endInValue
  | some 'n' => do
    null
    return .null
  | some 't' => do
    skip
    word ['r', 'u', 'e']
    return .bool true
  | some 'f' => do
    skip
    word ['a', 'l', 's', 'e']
    return .bool false
  | some '-' => do
    skip
    number true
  | some '"' => return .str (← string)
  | some c => if c.isDigit then number false else refuseNext .expectedValue

/-- Whether there is another part before a closing sign. All parts but the first follow a comma,
which is read. -/
def more (close : Char) (separator ending : SyntaxFault) (first : Bool) : Reader Bool := do
  match ← peekToken with
  | none => refuseNext ending
  | some c =>
    if c = close then return false
    else if first then return true
    else if c = ',' then
      skip
      return true
    else refuseNext separator

/-- Whether there is another item in an array. -/
def moreItems (first : Bool) : Reader Bool := do
  if !(← more ']' .expectedListSeparator .endInList first) then return false
  match ← peekToken with
  | none => refuseNext .endInValue
  | some c => if c = ']' then refuseNext .trailingComma else return true

/-- Whether there is another member in an object. -/
def moreMembers (first : Bool) : Reader Bool := do
  if !(← more '\x7d' .expectedObjectSeparator .endInObject first) then return false
  match ← peekToken with
  | none => refuseNext .endInValue
  | some '"' => return true
  | some c => if c = '\x7d' then refuseNext .trailingComma else refuseNext .keyNotString

/-- Read the colon after a name. -/
def colon : Reader Unit := do
  match ← peekToken with
  | none => refuseNext .endInObject
  | some c => if c = ':' then skip else refuseNext .expectedColon

/-- Read parts as long as there are more; `fuel` bounds their number. -/
def foldUpTo {σ : Type} (more : Bool → Reader Bool) (part : σ → Reader σ) :
    (fuel : Nat) → (first : Bool) → σ → Reader σ
  | 0, _, state => return state
  | fuel + 1, first, state => do
    if ← more first then foldUpTo more part fuel false (← part state) else return state

/-- Read parts as long as there are more. -/
def fold {σ : Type} (more : Bool → Reader Bool) (part : σ → Reader σ) (state : σ) :
    Reader σ := do
  foldUpTo more part ((← get).rest.length + 1) true state

/-- The parts that are read as long as there are more. -/
def collect {α : Type} (more : Bool → Reader Bool) (part : Reader α) : Reader (List α) := do
  let parts ← fold more (fun parts => do return (← part) :: parts) []
  return parts.reverse

/-- Read a value that contains others, of which the opening sign comes next. -/
def nested {α : Type} (reader : Reader α) : Reader α := do
  let room := (← get).room
  if room ≤ 1 then refuseNext .tooDeep
  modify fun cursor => { cursor with room := room - 1 }
  skip
  let value ← reader
  modify fun cursor => { cursor with room }
  return value

/-- Read the end of an array. -/
def closeList : Reader Unit := do
  match ← peekToken with
  | none => refuseNext .endInList
  | some ']' => skip
  | some ',' => do
    skip
    if (← peekToken) = some ']' then refuseNext .trailingComma
    else refuseNext .trailingCharacters
  | some _ => refuseNext .trailingCharacters

/-- Read the end of an array, if it comes next, or else a comma. -/
def leaveList : Reader Unit := do
  match ← peekToken with
  | some ']' => skip
  | some ',' => do
    skip
    let _ ← peekToken
  | _ => return ()

/-- Read the end of an object, if it comes next. -/
def leaveObject : Reader Unit := do
  if (← peekToken) = some '\x7d' then skip

/-- Read a document of at most some depth. -/
def valueUpTo : (depth : Nat) → Reader Json
  | 0 => refuseNext .tooDeep
  | depth + 1 => do
    match ← peekToken with
    | some '[' => nested do
      let items ← collect moreItems (valueUpTo depth)
      leaveList
      return .arr items
    | some '\x7b' => nested do
      let members ← collect moreMembers do
        let name ← string
        colon
        return (name, ← valueUpTo depth)
      leaveObject
      return .ofMembers members
    | _ => scalar

/-- Read a document. -/
def value : Reader Json := do
  valueUpTo (← get).room

/-- The depth of nesting at which a text is refused. -/
def depthLimit : Nat := 128

/-- Read a text and nothing after it. -/
def readAll {α : Type} (reader : Reader α) (text : String) : Except TextError α := do
  let whole := do
    let value ← reader
    if (← peekToken).isSome then refuseNext .trailingCharacters
    return value
  let (value, _) ← whole.run ⟨text.toList, 1, 0, depthLimit⟩
  return value

end Reader

/-- The document of a text. -/
def parse (text : String) : Except TextError Json := Reader.value.readAll text

end PullSecretSync.Json
