import DroneFleet.Json.Token

/-!
Reading a document from its tokens, one token after another. The containers that are still open are
kept in a list, so that documents may nest as deep as they like.
-/
namespace DroneFleet.Json

/-- An open container with its finished entries, newest first. -/
inductive Level where
  | array (done : List Json)
  | object (done : List (Content × Json)) (key : Content)

/-- What has been read, and so what may come next. -/
inductive Reader where
  | value (levels : List Level)
  | firstItem (levels : List Level)
  | firstKey (levels : List Level)
  | nextKey (done : List (Content × Json)) (levels : List Level)
  | keyed (done : List (Content × Json)) (key : Content) (levels : List Level)
  | finished (value : Json) (levels : List Level)

namespace Reader

def begin (levels : List Level) : Token → Option Reader
  | .null => some (finished .null levels)
  | .bool truth => some (finished (.bool truth) levels)
  | .number spelled => some (finished (.number spelled) levels)
  | .string written => some (finished (.string written) levels)
  | .openArray => some (firstItem levels)
  | .openObject => some (firstKey levels)
  | _ => none

def step : Reader → Token → Option Reader
  | value levels, token => begin levels token
  | firstItem levels, .closeArray => some (finished (.array []) levels)
  | firstItem levels, token => begin (.array [] :: levels) token
  | firstKey levels, .closeObject => some (finished (.object []) levels)
  | firstKey levels, .string key => some (keyed [] key levels)
  | nextKey done levels, .string key => some (keyed done key levels)
  | keyed done key levels, .colon => some (value (.object done key :: levels))
  | finished last (.array done :: levels), .comma => some (value (.array (last :: done) :: levels))
  | finished last (.array done :: levels), .closeArray =>
    some (finished (.array (last :: done).reverse) levels)
  | finished last (.object done key :: levels), .comma => some (nextKey ((key, last) :: done) levels)
  | finished last (.object done key :: levels), .closeObject =>
    some (finished (.object ((key, last) :: done).reverse) levels)
  | _, _ => none

def run : Reader → List Token → Option Reader
  | reader, [] => some reader
  | reader, token :: rest => (reader.step token).bind fun next => run next rest

end Reader

def ofTokens? (tokens : List Token) : Option Json :=
  match Reader.run (.value []) tokens with
  | some (.finished value []) => some value
  | _ => none

def read? (symbols : List Text.Symbol) : Option Json := (tokens? symbols).bind ofTokens?

def readText? (text : String) : Option Json := read? (Text.ofChars text.toList)

def readBytes? (bytes : List UInt8) : Option Json := read? (Text.symbols bytes)

end DroneFleet.Json
