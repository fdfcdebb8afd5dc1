import SlackCourier.Text.Units

/-!
# Methods of requests to the server

A method is a word.  A few words are understood in any case, a few others are never sent, and every
other one stands for itself.
-/

namespace SlackCourier.Server

def standardMethods : List Text := ["GET", "POST", "PUT", "DELETE", "HEAD", "OPTIONS"]

/-- The methods that are never sent, whatever the case of their names. -/
def unsupportedMethods : List Text := ["CONNECT", "TRACE", "TRACK"]

def bodilessMethods : List Text := ["GET", "HEAD"]

def lowerCase (text : Text) : Text := Text.ofChars (text.chars.map Char.toLower)

def methodAmong? (methods : List Text) (word : Text) : Option Text :=
  methods.find? fun method => lowerCase method == lowerCase word

def methodOf (word : Text) : Text := (methodAmong? standardMethods word).getD word

end SlackCourier.Server
