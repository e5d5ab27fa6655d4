import CoinRobotu.Parsing.Chain
import CoinRobotu.Query.Tokens

/-!
# The parser of the screener's query language

A parser of recursive descent over the values of the tokens.
-/

namespace Query

open Encoding (writeGeneral)
open Numeric (Double toDouble)
open Parsing (Parser chain)
open Runtime (lower upper strip)

/-- A query is refused, or parentheses stand deeper than the parser was started for. -/
inductive Failure where
  | refused (error : QueryParseError)
  | exhausted
  deriving DecidableEq

def refuse {Result : Type} (message : String) : Except Failure Result := .error (.refused ⟨message⟩)

section Fields

/-- `ALLOWED_QUERY_FIELDS`. -/
def allowedQueryFields : List String :=
  ["rsi14", "rsi7", "close", "open", "high", "low", "volume", "ema20", "ema50", "sma20", "sma50",
    "fibo_161_8", "fibo_127_2", "fibo_100", "fibo_78_6", "last_price"]

/-- The words of `_DYNAMIC_FIELD_PATTERN`. -/
def periodWords : List (List Char) :=
  ["rsi".toList, "ema".toList, "sma".toList, "boll_upper".toList, "boll_mid".toList,
    "boll_lower".toList]

/-- A character of a lower case text that a letter of a pattern matches without case. -/
def matchesLetter (letter character : Char) : Bool :=
  character = letter || letter = 's' && character.toNat = 0x17F ||
    letter = 'i' && character.toNat = 0x131

def matchesWord (word text : List Char) : Bool :=
  word.length = text.length && (word.zip text).all fun pair => matchesLetter pair.1 pair.2

variable (unicode : Unicode)

def matchesDynamicField (text : List Char) : Bool :=
  periodWords.any fun word =>
    let period := text.drop word.length
    matchesWord word (text.take word.length) && 1 ≤ period.length && period.length ≤ 3 &&
      period.all unicode.isDigit

/-- `_is_supported_field`. -/
def isSupportedField (fieldName : String) : Bool :=
  let lowered := lower (strip fieldName)
  lowered ∈ allowedQueryFields || matchesDynamicField unicode lowered.toList

end Fields

def allowedComparisonOperators : List String := ["<", "<=", ">", ">=", "=", "!="]

inductive ValueType where
  | number
  | field
  deriving DecidableEq

structure Comparison where
  field : String
  operator : String
  value : Double
  valueType : ValueType
  rhsField : Option String
  text : String
  deriving DecidableEq

inductive Logical where
  | and
  | or
  deriving DecidableEq

inductive Node where
  | comparison (comparison : Comparison)
  | logical (operator : Logical) (left right : Node)
  deriving DecidableEq

section Parser

variable (unicode : Unicode)

/-- `float(text)`, of the texts that a token can have. -/
def readFloat (text : String) : Option Double :=
  if text = "inf" ∨ text = "infinity" then some .infinity
  else if text = "nan" then some .nan
  else (unicode.literalValue text.toList).map toDouble

/-- The comparison of a field with the value of a token: a number, or else another field. -/
def comparisonOf (field operator valueToken : String) : Option Comparison :=
  let raw := lower (strip valueToken)
  match readFloat unicode raw with
  | some value => some
    { field := field, operator := operator, value := value, valueType := .number, rhsField := none
      text := field ++ " " ++ operator ++ " " ++ String.ofList (writeGeneral value) }
  | none =>
    if isSupportedField unicode raw then some
      { field := field, operator := operator, value := .finite 0, valueType := .field
        rhsField := some raw
        text := field ++ " " ++ operator ++ " " ++ raw }
    else none

def unexpectedEnd {Result : Type} : Except Failure Result := refuse "Beklenmeyen ifade sonu."

def parseComparison : Parser String Failure Node
  | [] => unexpectedEnd
  | fieldToken :: rest =>
    let fieldName := lower fieldToken
    if upper fieldName ∈ ["AND", "OR"] then
      refuse ("Alan adı beklenirken '" ++ fieldToken ++ "' bulundu.")
    else if ¬isSupportedField unicode fieldName then
      refuse ("Desteklenmeyen alan adı: '" ++ fieldToken ++ "'")
    else
      match rest with
      | [] => unexpectedEnd
      | operator :: rest =>
        if operator ∉ allowedComparisonOperators then
          refuse ("Desteklenmeyen operatör: '" ++ operator ++ "'")
        else
          match rest with
          | [] => unexpectedEnd
          | valueToken :: rest =>
            match comparisonOf unicode fieldName operator valueToken with
            | some comparison => .ok (.comparison comparison, rest)
            | none => refuse ("Sayısal değer veya alan adı bekleniyordu, '" ++ valueToken ++
                "' alındı.")

/-- `_parse_factor`, with the parser of what stands in parentheses. -/
def parseFactor (inner : Parser String Failure Node) : Parser String Failure Node
  | [] => refuse "Eksik ifade: karşılaştırma bekleniyordu."
  | token :: rest =>
    if token = "(" then
      match inner rest with
      | .error failure => .error failure
      | .ok (_, []) => refuse "Kapanmamış parantez: ')' bekleniyor."
      | .ok (node, closing :: rest) =>
        if closing = ")" then .ok (node, rest)
        else refuse ("')' bekleniyordu, '" ++ closing ++ "' alındı.")
    else parseComparison unicode (token :: rest)

def isKeyword (keyword token : String) : Bool := upper token = keyword

def parseAnd (inner : Parser String Failure Node) : Parser String Failure Node :=
  chain (isKeyword "AND") (.logical .and) .exhausted (parseFactor unicode inner)

/-- `_parse_or`, where parentheses stand at most so deep. -/
def parseOr : ℕ → Parser String Failure Node
  | 0 => fun _ => .error .exhausted
  | depth + 1 => chain (isKeyword "OR") (.logical .or) .exhausted (parseAnd unicode (parseOr depth))

/-- `_Parser.parse`. -/
def parse (tokens : List String) : Except Failure Node :=
  match parseOr unicode (tokens.length + 1) tokens with
  | .error failure => .error failure
  | .ok (node, []) => .ok node
  | .ok (_, token :: _) => refuse ("Beklenmeyen token: '" ++ token ++ "'")

def parseQueryExpression (query : Option String) : Except Failure Node :=
  match tokenizeQueryExpression unicode query with
  | .error failure => .error (.refused failure)
  | .ok tokens => parse unicode (values tokens)

end Parser

end Query
