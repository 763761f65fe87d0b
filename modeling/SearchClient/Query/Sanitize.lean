import SearchClient.Text.Split

/-! What a text or a term keeps when it goes to the daemon: texts lose their control characters, terms lose
    the characters that the daemon's syntax reserves as well. -/

namespace SearchClient.Query
open Text

/-- Whether a character is a control character that no text may keep: all of them except the tab, the line
    feed and the carriage return. -/
def isUnsafeControl (c : Char) : Bool := isControl c && c != '\t' && c != '\n' && c != '\r'

/-- A text with spaces in place of unsafe control characters, so that word boundaries stay. -/
def sanitizeText (cs : List Char) : List Char := cs.map fun c => if isUnsafeControl c then ' ' else c

/-- The characters that have a meaning in the daemon's syntax. -/
def reservedCharacters : List Char :=
  ['|', '!', '@', '~', '&', '/', '^', '$', '=', '<', '>', '\\', '(', ')', '"']

/-- Whether the daemon's syntax reserves a character. -/
def isReserved (c : Char) : Bool := reservedCharacters.contains c

/-- A term without control characters, reserved characters and hyphens in front. -/
def sanitizeTerm (cs : List Char) : List Char :=
  (cs.filter fun c => !isControl c && !isReserved c).dropWhile (· == '-')

/-- A text made safe to send: unsafe control characters become spaces. -/
def sanitize (text : String) : String := String.ofList (sanitizeText text.toList)

end SearchClient.Query
