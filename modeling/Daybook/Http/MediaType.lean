import Daybook.Text.Split

/-!
# Media types

The type of a body, such as `application/json; charset=utf-8`: two names with a slash between them,
where the second may end in a suffix after a plus sign, and then parameters.  Upper and lower case
do not differ.  The parameters only have to be well-formed; nobody asks for their values.
-/

namespace Daybook.Http

structure MediaType where
  type : String
  -- What stands between the slash and the last plus sign.
  subtype : String
  -- What stands after the last plus sign, unless the subtype starts with it.
  suffix : Option String
deriving DecidableEq, Repr

namespace MediaType

def isToken (c : Char) : Bool :=
  c.isAlphanum || "!#$%&'*+-.^_`|~".contains c

/-- A character that may stand in quotes: any of ASCII that prints, and the blank. -/
def isQuotable (c : Char) : Bool :=
  ' ' ≤ c && c ≤ '~'

/-! ## Parameters -/

inductive Stage
  -- Before the name of a parameter, where blanks do not count.
  | start
  | name
  | value
  | plain
  -- After the quote that opens a value; the next character belongs to the value, be it a quote.
  | opened
  | quoted
  | closed
deriving DecidableEq, Repr

namespace Stage

def step? : Stage → Char → Option Stage
  | start, c => if c = ' ' then some start else if isToken c then some name else none
  | name, c => if c = '=' then some value else if isToken c then some name else none
  | value, c => if c = '"' then some opened else if isToken c then some plain else none
  | plain, c => if c = ';' then some start else if isToken c then some plain else none
  | opened, c => if isQuotable c then some quoted else none
  | quoted, c => if c = '"' then some closed else if isQuotable c then some quoted else none
  | closed, c => if c = ';' then some start else if c = ' ' then some closed else none

def isFinal : Stage → Bool
  | start | value | plain | closed => true
  | name | opened | quoted => false

end Stage

def wellFormedParameters (s : List Char) : Bool :=
  (s.foldlM Stage.step? .start).any Stage.isFinal

/-! ## Types -/

def foldCase (s : List Char) : String :=
  .ofList (s.map Char.toLower)

/-- The last plus sign parts a subtype from its suffix, if something stands before it. -/
def splitSuffix (s : List Char) : String × Option String :=
  match Text.cut? '+' s.reverse with
  | some (suffix, c :: subtype) => (foldCase (c :: subtype).reverse, some (foldCase suffix.reverse))
  | _ => (foldCase s, none)

/-- What may follow the names: nothing, or parameters after a semicolon. -/
def wellFormedRest : List Char → Bool
  | [] => true
  | c :: s => c = ';' && wellFormedParameters s

def read? (s : List Char) : Option MediaType := do
  let (type, s) ← Text.cut? '/' s
  let name := s.takeWhile isToken
  let rest := s.dropWhile isToken
  if type.isEmpty || !type.all isToken then none
  else if name.isEmpty && !rest.isEmpty then none
  else if wellFormedRest rest then
    let (subtype, suffix) := splitSuffix name
    some { type := foldCase type, subtype, suffix }
  else none

-- The type of JSON and of formats that are written in it.
def isJson (mediaType : MediaType) : Bool :=
  mediaType.type = "application" &&
    (mediaType.subtype = "json" || mediaType.suffix = some "json")

end MediaType

end Daybook.Http
