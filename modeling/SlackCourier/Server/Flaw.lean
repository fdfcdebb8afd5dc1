import SlackCourier.Server.Address
import SlackCourier.Server.Method
import SlackCourier.Json.Reserved
import SlackCourier.Text.Blank

/-!
# Flaws of requests

A request is made of a method, an address, headers and perhaps a body, and not every choice of them
makes one.  A flaw says why there is no request; of several flaws the first one in the order in
which the parts are looked at counts.
-/

namespace SlackCourier.Server

inductive Flaw where
  /-- A method or a header has a unit at a place that is too great for a byte. -/
  | wideUnit (place : Nat) (unit : UInt16)
  | unreadableAddress (target : Text)
  | credentials (target : Text)
  | invalidMethod (word : Text)
  | unsupportedMethod (word : Text)
  | invalidName (name : Text)
  /-- The value of a header spans lines, or holds the character zero. -/
  | invalidValue (value : Text)
  | superfluousBody
  deriving DecidableEq, Repr

namespace Flaw

def message : Flaw → Text
  | wideUnit place unit =>
    "Cannot convert argument to a ByteString because the character at index " ++ toString place ++
      " has a value of " ++ toString unit.toNat ++ " which is greater than 255."
  | unreadableAddress target => "Failed to parse URL from " ++ target
  | credentials target =>
    "Request cannot be constructed from a URL that includes credentials: " ++ target
  | invalidMethod word => "'" ++ word ++ "' is not a valid HTTP method."
  | unsupportedMethod word => "'" ++ word ++ "' HTTP method is unsupported."
  | invalidName name => "Headers.append: \"" ++ name ++ "\" is an invalid header name."
  | invalidValue value => "Headers.append: \"" ++ value ++ "\" is an invalid header value."
  | superfluousBody => "Request with GET/HEAD method cannot have body."

/-- The flaw of a text with a unit that is too great for a byte. -/
def inUnits? (text : Text) : Option Flaw :=
  let place := text.units.findIdx fun u => 255 < u.toNat
  text.units[place]?.map (wideUnit place)

def isWordChar (c : Char) : Bool := c.isAlphanum || "!#$%&'*+-.^_`|~".toList.contains c

def isWord (text : Text) : Bool := text != "" && text.chars.all isWordChar

def inAddress? (target : Text) : Option Flaw :=
  match Address.authority? target with
  | none => none
  | some authority =>
    if !authority.isWellFormed then some (unreadableAddress target)
    else if authority.hasCredentials then some (credentials target)
    else none

def inMethod? (word : Text) : Option Flaw :=
  if !isWord word then some (invalidMethod word)
  else if (methodAmong? unsupportedMethods word).isSome then some (unsupportedMethod word)
  else none

/-- Whether a character may stand inside the value of a header. -/
def isValueChar (c : Char) : Bool := c != '\n' && c != '\r' && c.toNat != 0

def inHeader? (header : Text × Text) : Option Flaw :=
  let value := Text.trimBy Text.isHeaderBlank header.2
  if !isWord header.1 then some (invalidName header.1)
  else if !value.chars.all isValueChar then some (invalidValue value)
  else none

def inBody? (word : Text) (body : Option Text) : Option Flaw :=
  if body.isSome ∧ bodilessMethods.contains (methodOf word) then some superfluousBody else none

/-- The headers that count: one of the reserved name does not, once its units have been looked
at. -/
def counted (headers : List (Text × Text)) : List (Text × Text) :=
  headers.filter fun (name, _) => name != Json.reservedName

def first? (method target : Text) (headers : List (Text × Text)) (body : Option Text) :
    Option Flaw :=
  inUnits? method <|>
    (headers.flatMap fun (name, value) => [name, value]).findSome? inUnits? <|>
    inAddress? target <|> inMethod? method <|> (counted headers).findSome? inHeader? <|>
    inBody? method body

end Flaw

end SlackCourier.Server
