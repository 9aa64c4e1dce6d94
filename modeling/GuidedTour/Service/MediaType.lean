/-! Which bodies are declared to be JSON: `application/json`, and any application type
with the suffix `json`. Parameters may follow, and letter case does not count. All of it is
spelled in ASCII. -/
namespace GuidedTour.Service.MediaType

def isTokenChar (c : Char) : Bool :=
  c.isAlphanum || "!#$%&'*+-.^_\x60|~".toList.contains c

/-- Characters within quotes. -/
def isQuotedChar (c : Char) : Bool := ' ' ≤ c && c ≤ '~'

/-- A place within the parameters, which are names with values, each after a semicolon. -/
inductive Place where
  | before
  | name
  | valueStart
  | value
  /-- Right after an opening quote; a quote here is part of the value. -/
  | quoteStart
  | quoted
  | afterQuote
  | broken
  deriving DecidableEq, Repr

namespace Place

def step (p : Place) (c : Char) : Place :=
  match p with
  | before => if c = ' ' then before else if isTokenChar c then name else broken
  | name => if isTokenChar c then name else if c = '=' then valueStart else broken
  | valueStart => if c = '"' then quoteStart else if isTokenChar c then value else broken
  | value => if isTokenChar c then value else if c = ';' then before else broken
  | quoteStart => if isQuotedChar c then quoted else broken
  | quoted => if c = '"' then afterQuote else if isQuotedChar c then quoted else broken
  | afterQuote => if c = ' ' then afterQuote else if c = ';' then before else broken
  | broken => broken

/-- The parameters may end here. -/
def isEnd : Place → Bool
  | before | valueStart | value | afterQuote => true
  | name | quoteStart | quoted | broken => false

end Place

/-- What may stand after the first semicolon; it may be nothing. -/
def areParams (cs : List Char) : Bool := (cs.foldl Place.step .before).isEnd

def isWord (word : String) (cs : List Char) : Bool := cs.map Char.toLower == word.toList

/-- The part after the last plus sign of a subtype that does not stand in front. -/
def suffix? (subtype : List Char) : Option (List Char) :=
  if (subtype.drop 1).contains '+' then some (subtype.reverse.takeWhile (· ≠ '+')).reverse
  else none

def isJsonSubtype (subtype : List Char) : Bool :=
  match suffix? subtype with
  | none => isWord "json" subtype
  | some suffix =>
    isWord "json" suffix || isWord "json" (subtype.take (subtype.length - suffix.length - 1))

def isJson (text : String) : Bool :=
  let kind := text.toList.takeWhile (· ≠ '/')
  let rest := (text.toList.dropWhile (· ≠ '/')).drop 1
  let subtype := rest.takeWhile (· ≠ ';')
  isWord "application" kind && subtype.all isTokenChar && isJsonSubtype subtype &&
    match rest.dropWhile (· ≠ ';') with
    | [] => true
    | _ :: params => areParams params

end GuidedTour.Service.MediaType
